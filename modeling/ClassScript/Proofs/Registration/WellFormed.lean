import ClassScript.Proofs.Class.Lookup
import ClassScript.Proofs.NameTable
import Mathlib.Data.List.Perm.Basic

/-!
# Well-formed declarations

`ClassDecl.WellFormed decl`: no member of `decl` duplicates another, and the same holds of every
class inside it. `ClassDecl.Describes outer decl c`: the class `c` has what `decl` declares, every
member once, in the table that its modifiers ask for.

Members are added one after the other and each is compared with those before it, so a run of
additions succeeds exactly if no two members clash (`Registration.foldlM_spec`). The runs over
fields, methods and constructors are instances of this (`Registration.ownMembers_spec`), and so is,
by recursion on the declaration, the run over the inner classes (`Registration.registerInner_spec`).

Main statement: `registers_exactly_wellFormed`.
-/

namespace ClassScript

/-! ## What a declaration has to satisfy -/

namespace MethodDecl

/-- The types of the parameters, in order. -/
def paramTypes (m : MethodDecl) : List DataType := m.params.map fun p => p.type.dataType

/-- Both methods take the same parameter types in the same order. -/
def SameTypes (m n : MethodDecl) : Prop :=
  List.Forall₂ (fun a b => (a == b) = true) m.paramTypes n.paramTypes

/-- Both methods have the same name and take the same parameter types. -/
def Clashes (m n : MethodDecl) : Prop := sameName m.name.name n.name.name = true ∧ m.SameTypes n

end MethodDecl

namespace FieldDecl

/-- Both fields have the same name. -/
def Clashes (f g : FieldDecl) : Prop := sameName f.name.name g.name.name = true

end FieldDecl

namespace ClassDecl

/-- Both classes have the same name. -/
def Clashes (d e : ClassDecl) : Prop := sameName d.name.name e.name.name = true

/-- No field, overload, constructor or parameter of the class itself duplicates another. -/
structure Orderly (decl : ClassDecl) : Prop where
  fields : decl.fields.Pairwise fun f g => ¬ f.Clashes g
  methods : decl.methods.Pairwise fun m n => ¬ m.Clashes n
  constructors : decl.constructors.Pairwise fun m n => ¬ m.SameTypes n
  /-- Names of parameters are compared as written. -/
  params : ∀ m ∈ decl.methods ++ decl.constructors, (m.params.map fun p => p.name.name).Nodup

/-- Nothing is declared twice, in the class and in all classes inside it. -/
inductive WellFormed : ClassDecl → Prop
  | intro {decl : ClassDecl} : decl.Orderly →
      decl.innerClasses.Pairwise (fun d e => ¬ d.Clashes e) →
      (∀ d ∈ decl.innerClasses, WellFormed d) → WellFormed decl

end ClassDecl

/-! ## What a declaration is made into -/

/-- The fields under their names, in order. -/
def FieldDecl.entries (fs : List FieldDecl) : List (String × FieldInfo) :=
  fs.map fun f => (f.name.name, f.info)

/-- The table holds the methods: every name has one group, which has its methods in order. -/
structure MethodTable.Groups (t : MethodTable) (ms : List MethodInfo) : Prop where
  distinct : t.Distinct
  group : ∀ name, (t.get? name).getD [] = ms.filter fun m => sameName m.name name
  /-- A name without methods has no group. -/
  contains : ∀ name, t.contains name = ms.any fun m => sameName m.name name
  /-- Every method stands in the table, and stands there once. -/
  all : t.all.Perm ms

namespace ClassDecl

/-- The class has the declared fields, methods and constructors. -/
structure DescribesOwn (outer : List String) (decl : ClassDecl) (c : ClassInfo) : Prop where
  path : c.path = outer ++ [decl.name.name]
  header : c.modifiers = decl.modifiers ∧ c.annotations = decl.annotations ∧
    c.superclass = decl.superclass.map TypeRef.dataType ∧
    c.interfaces = decl.interfaces.map TypeRef.dataType ∧ c.typeParams = [] ∧ c.span = decl.span
  instanceFields : c.instanceFields.entries =
    FieldDecl.entries (decl.fields.filter fun f => !f.modifiers.isStatic)
  staticFields : c.staticFields.entries =
    FieldDecl.entries (decl.fields.filter fun f => f.modifiers.isStatic)
  instanceMethods : c.instanceMethods.Groups
    ((decl.methods.filter fun m => !m.modifiers.isStatic).map MethodDecl.info)
  staticMethods : c.staticMethods.Groups
    ((decl.methods.filter fun m => m.modifiers.isStatic).map MethodDecl.info)
  constructors : c.constructors = decl.constructors.map MethodDecl.info

mutual

/-- The class has what the declaration declares inside the classes `outer` (module doc). -/
inductive Describes : List String → ClassDecl → ClassInfo → Prop
  | intro {outer : List String} {decl : ClassDecl} {c : ClassInfo} : decl.DescribesOwn outer c →
      DescribesAll (outer ++ [decl.name.name]) decl.innerClasses c.inner → Describes outer decl c

/-- Each class has what the declaration at its place declares. -/
inductive DescribesAll : List String → List ClassDecl → List ClassInfo → Prop
  | nil {outer : List String} : DescribesAll outer [] []
  | cons {outer : List String} {decl : ClassDecl} {c : ClassInfo} {decls : List ClassDecl}
      {cs : List ClassInfo} : Describes outer decl c → DescribesAll outer decls cs →
      DescribesAll outer (decl :: decls) (c :: cs)

end

end ClassDecl

/-! ## Tables of members -/

theorem NameTable.entries_insert_of_new {α : Type} {t : NameTable α} {name : String} (v : α)
    (h : t.contains name = false) : (t.insert name v).entries = t.entries ++ [(name, v)] := by
  have hs : t.slot? name = none := by simpa [contains] using h
  rw [entries_insert, insertEntry_eq, ← t.indexed.slot?_eq, hs]

theorem FieldDecl.find?_entries (fs : List FieldDecl) (name : String) :
    ((entries fs).find? fun e => sameName e.1 name).isSome =
      fs.any fun f => sameName f.name.name name := by
  unfold entries
  rw [List.isSome_find?, List.any_map]
  rfl

namespace MethodTable

theorem Groups.empty : Groups .empty [] where
  distinct := NameTable.distinct _
  group _ := rfl
  contains _ := rfl
  all := .nil

/-- A method goes to the end of the group of its name. -/
theorem group_add (t : MethodTable) (m : MethodInfo) (name : String) :
    ((t.add m).get? name).getD [] =
      (t.get? name).getD [] ++ if sameName m.name name then [m] else [] := by
  by_cases hs : sameName m.name name
  · have heq : t.get? m.name = t.get? name := t.get?_congr hs
    unfold add
    by_cases hc : t.contains m.name
    · rw [if_pos hc, NameTable.get?_modify, if_pos hs, if_pos hs]
      rw [NameTable.contains_eq, heq] at hc
      obtain ⟨g, hg⟩ := Option.isSome_iff_exists.1 hc
      simp [hg]
    · rw [if_neg hc, NameTable.get?_insert, if_pos hs, if_pos hs]
      rw [NameTable.contains_eq, heq, Option.not_isSome_iff_eq_none] at hc
      simp [hc]
  · unfold add
    split <;> simp [NameTable.get?_modify, NameTable.get?_insert, hs]

theorem contains_add (t : MethodTable) (m : MethodInfo) (name : String) :
    (t.add m).contains name = (t.contains name || sameName m.name name) := by
  unfold add
  split
  · rename_i hc
    rw [NameTable.contains_eq, NameTable.get?_modify, NameTable.contains_eq]
    by_cases hs : sameName m.name name
    · rw [NameTable.contains_eq, t.get?_congr hs] at hc
      simp [hs, hc]
    · simp [hs]
  · rw [NameTable.contains_insert, Bool.or_comm]

theorem all_modify : ∀ (es : List (String × List MethodInfo)) (m : MethodInfo),
    (es.find? fun e => sameName e.1 m.name).isSome →
    (((NameTable.modifyEntry m.name (· ++ [m]) es).map Prod.snd).flatten).Perm
      ((es.map Prod.snd).flatten ++ [m])
  | [], m, h => by cases h
  | (n, g) :: es, m, h => by
    by_cases hs : sameName n m.name
    · -- the new method stands between the first group and the rest
      simp only [NameTable.modifyEntry, hs, ↓reduceIte, List.map_cons, List.flatten_cons,
        List.append_assoc]
      exact (List.perm_append_comm).append_left g
    · have hf : (es.find? fun e => sameName e.1 m.name).isSome := by
        rwa [List.find?_cons_of_neg (by exact hs)] at h
      simp only [NameTable.modifyEntry, hs, Bool.false_eq_true, ↓reduceIte, List.map_cons,
        List.flatten_cons, List.append_assoc]
      exact (all_modify es m hf).append_left g

theorem all_add (t : MethodTable) (m : MethodInfo) : (t.add m).all.Perm (t.all ++ [m]) := by
  unfold add
  split
  · rename_i hc
    rw [NameTable.contains_eq_find?] at hc
    unfold all NameTable.values
    rw [NameTable.entries_modify]
    exact all_modify t.entries m hc
  · rename_i hc
    unfold all NameTable.values
    rw [NameTable.entries_insert_of_new _ (by simpa using hc)]
    simp

theorem Groups.add {t : MethodTable} {ms : List MethodInfo} (h : t.Groups ms) (m : MethodInfo) :
    (t.add m).Groups (ms ++ [m]) where
  distinct := NameTable.distinct _
  group name := by
    rw [group_add, h.group, List.filter_append, List.filter_cons, List.filter_nil]
  contains name := by
    rw [MethodTable.contains_add, h.contains]
    simp
  all := (all_add t m).trans (h.all.append_right [m])

end MethodTable

theorem DataType.sameAll_iff : ∀ {as bs : List DataType},
    sameAll as bs = true ↔ List.Forall₂ (fun a b => (a == b) = true) as bs
  | [], [] => by simp [sameAll]
  | [], _ :: _ => by simp [sameAll]
  | _ :: _, [] => by simp [sameAll]
  | a :: as, b :: bs => by
    rw [sameAll, Bool.and_eq_true, sameAll_iff, List.forall₂_cons]
    rfl

theorem MethodDecl.sameSignature_info (m n : MethodDecl) :
    m.info.sameSignature n.info = true ↔ m.SameTypes n := by
  have types : ∀ k : MethodDecl, k.info.paramTypes = k.paramTypes := fun k => by
    unfold MethodInfo.paramTypes MethodDecl.paramTypes info
    rw [List.map_map]
    rfl
  rw [MethodInfo.sameSignature, DataType.sameAll_iff, types, types]
  rfl

namespace Registration

/-! ## One addition after the other -/

/-- A value satisfies `Good`; an error comes only if `bad` holds. -/
def Answers {β ε : Type} (Good : β → Prop) (bad : Prop) : Except ε β → Prop
  | .ok b => Good b
  | .error _ => bad

theorem Answers.bind {α β ε : Type} {Good : α → Prop} {Fine : β → Prop} {bad worse : Prop}
    {x : Except ε α} {f : α → Except ε β} (h : Answers Good bad x) (hbad : bad → worse)
    (next : ∀ a, Good a → Answers Fine worse (f a)) : Answers Fine worse (x >>= f) := by
  cases x with
  | error e => exact hbad h
  | ok a => exact next a h

theorem Answers.mono {β ε : Type} {Good Fine : β → Prop} {bad worse : Prop} {x : Except ε β}
    (h : Answers Good bad x) (hbad : bad → worse) (hgood : ∀ b, Good b → Fine b) :
    Answers Fine worse x := by
  cases x with
  | error e => exact hbad h
  | ok b => exact hgood b h

/-- No two of the things clash. -/
def Apart {α : Type} (clash : α → α → Prop) (as : List α) : Prop :=
  as.Pairwise fun x y => ¬ clash x y

/-- If an addition fails exactly if the new thing clashes with an earlier one, a run of additions
fails exactly if two things clash. -/
theorem foldlM_spec {α β ε : Type} {f : β → α → Except ε β} {clash : α → α → Prop}
    {P : List α → β → Prop}
    (step : ∀ done a b, P done b → Answers
      (fun b' => (∀ x ∈ done, ¬ clash x a) ∧ P (done ++ [a]) b') (∃ x ∈ done, clash x a) (f b a)) :
    ∀ (as done : List α) {b : β}, P done b → Apart clash done →
      Answers (fun b' => Apart clash (done ++ as) ∧ P (done ++ as) b')
        (¬ Apart clash (done ++ as)) (as.foldlM f b)
  | [], done, b, hb, hd => by
    rw [List.append_nil]
    exact ⟨hd, hb⟩
  | a :: as, done, b, hb, hd => by
    rw [List.foldlM_cons]
    refine (step done a b hb).bind ?_ fun b' ⟨hnew, hb'⟩ => ?_
    · rintro ⟨x, hx, hclash⟩ hp
      exact (List.pairwise_append.1 hp).2.2 x hx a List.mem_cons_self hclash
    · rw [List.append_cons]
      refine foldlM_spec step as (done ++ [a]) hb' (List.pairwise_append.2
        ⟨hd, List.pairwise_singleton .., fun x hx y hy => ?_⟩)
      exact List.mem_singleton.1 hy ▸ hnew x hx

/-! ## The members of one class -/

/-- The class has the fields, and else what `c₀` has. -/
structure HasFields (c₀ : ClassInfo) (fs : List FieldDecl) (c : ClassInfo) : Prop where
  rest : c = { c₀ with instanceFields := c.instanceFields, staticFields := c.staticFields }
  instanceFields : c.instanceFields.entries =
    FieldDecl.entries (fs.filter fun f => !f.modifiers.isStatic)
  staticFields : c.staticFields.entries =
    FieldDecl.entries (fs.filter fun f => f.modifiers.isStatic)

theorem HasFields.contains {c₀ c : ClassInfo} {fs : List FieldDecl} (h : HasFields c₀ fs c)
    (name : String) : (c.instanceFields.contains name || c.staticFields.contains name) = true ↔
      ∃ f ∈ fs, sameName f.name.name name = true := by
  rw [NameTable.contains_eq_find?, NameTable.contains_eq_find?, h.instanceFields, h.staticFields]
  simp only [FieldDecl.find?_entries, Bool.or_eq_true, List.any_eq_true, List.mem_filter]
  constructor
  · rintro (⟨f, hf, hs⟩ | ⟨f, hf, hs⟩) <;> exact ⟨f, hf.1, hs⟩
  · rintro ⟨f, hf, hs⟩
    by_cases hst : f.modifiers.isStatic
    · exact .inr ⟨f, ⟨hf, hst⟩, hs⟩
    · exact .inl ⟨f, ⟨hf, by simpa using hst⟩, hs⟩

theorem HasFields.add {c₀ c : ClassInfo} {fs : List FieldDecl} (h : HasFields c₀ fs c)
    {f : FieldDecl}
    (hnew : (c.instanceFields.contains f.name.name || c.staticFields.contains f.name.name) = false) :
    HasFields c₀ (fs ++ [f]) (c.addField f.info) := by
  obtain ⟨hi, hs⟩ := Bool.or_eq_false_iff.1 hnew
  unfold ClassInfo.addField
  by_cases hst : f.modifiers.isStatic
  · rw [if_pos (by exact hst)]
    refine ⟨by rw [h.rest], ?_, ?_⟩
    · simpa [List.filter_append, hst] using h.instanceFields
    · rw [NameTable.entries_insert_of_new _ (by exact hs), h.staticFields]
      simp [List.filter_append, hst, FieldDecl.entries, FieldDecl.info]
  · rw [if_neg (by exact hst)]
    refine ⟨by rw [h.rest], ?_, ?_⟩
    · rw [NameTable.entries_insert_of_new _ (by exact hi), h.instanceFields]
      simp [List.filter_append, hst, FieldDecl.entries, FieldDecl.info]
    · simpa [List.filter_append, hst] using h.staticFields

theorem addField_spec {c₀ : ClassInfo} (done : List FieldDecl) (f : FieldDecl) (c : ClassInfo)
    (h : HasFields c₀ done c) : Answers
      (fun c' => (∀ g ∈ done, ¬ g.Clashes f) ∧ HasFields c₀ (done ++ [f]) c')
      (∃ g ∈ done, g.Clashes f) (addField c f) := by
  unfold addField
  split
  · rename_i hc
    exact (h.contains _).1 hc
  · rename_i hc
    exact ⟨fun g hg hclash => hc ((h.contains _).2 ⟨g, hg, hclash⟩), h.add (by simpa using hc)⟩

/-- The class has the methods, and else what `c₀` has. -/
structure HasMethods (c₀ : ClassInfo) (ms : List MethodDecl) (c : ClassInfo) : Prop where
  rest : c = { c₀ with instanceMethods := c.instanceMethods, staticMethods := c.staticMethods }
  instanceMethods : c.instanceMethods.Groups
    ((ms.filter fun m => !m.modifiers.isStatic).map MethodDecl.info)
  staticMethods : c.staticMethods.Groups
    ((ms.filter fun m => m.modifiers.isStatic).map MethodDecl.info)

theorem HasMethods.mem_overloads {c₀ c : ClassInfo} {ms : List MethodDecl}
    (h : HasMethods c₀ ms c) (name : String) (m : MethodInfo) :
    m ∈ overloads c name ↔ ∃ d ∈ ms, sameName d.name.name name = true ∧ d.info = m := by
  unfold overloads
  rw [h.instanceMethods.group, h.staticMethods.group]
  simp only [List.mem_append, List.mem_filter, List.mem_map]
  constructor
  · rintro (⟨⟨d, hd, rfl⟩, hs⟩ | ⟨⟨d, hd, rfl⟩, hs⟩) <;> exact ⟨d, hd.1, hs, rfl⟩
  · rintro ⟨d, hd, hs, rfl⟩
    by_cases hst : d.modifiers.isStatic
    · exact .inr ⟨⟨d, ⟨hd, hst⟩, rfl⟩, hs⟩
    · exact .inl ⟨⟨d, ⟨hd, by simpa using hst⟩, rfl⟩, hs⟩

theorem HasMethods.add {c₀ c : ClassInfo} {ms : List MethodDecl} (h : HasMethods c₀ ms c)
    (m : MethodDecl) : HasMethods c₀ (ms ++ [m]) (c.addMethod m.info) := by
  obtain ⟨hrest, hi, hs⟩ := h
  unfold ClassInfo.addMethod
  by_cases hst : m.modifiers.isStatic
  · rw [if_pos (by exact hst)]
    refine ⟨by rw [hrest], ?_, ?_⟩
    · simpa [List.filter_append, hst] using hi
    · simpa [List.filter_append, hst] using hs.add m.info
  · rw [if_neg (by exact hst)]
    refine ⟨by rw [hrest], ?_, ?_⟩
    · simpa [List.filter_append, hst] using hi.add m.info
    · simpa [List.filter_append, hst] using hs

theorem addMethod_spec {c₀ : ClassInfo} (done : List MethodDecl) (m : MethodDecl) (c : ClassInfo)
    (h : HasMethods c₀ done c) : Answers
      (fun c' => (∀ d ∈ done, ¬ d.Clashes m) ∧ HasMethods c₀ (done ++ [m]) c')
      (∃ d ∈ done, d.Clashes m) (addMethod c m) := by
  have clash : (overloads c m.info.name).any (·.sameSignature m.info) = true ↔
      ∃ d ∈ done, d.Clashes m := by
    simp only [List.any_eq_true, h.mem_overloads]
    constructor
    · rintro ⟨_, ⟨d, hd, hs, rfl⟩, ht⟩
      exact ⟨d, hd, hs, (d.sameSignature_info m).1 ht⟩
    · rintro ⟨d, hd, hs, ht⟩
      exact ⟨d.info, ⟨d, hd, hs, rfl⟩, (d.sameSignature_info m).2 ht⟩
  unfold addMethod
  dsimp only
  split
  · rename_i hc
    exact clash.1 hc
  · rename_i hc
    exact ⟨fun d hd hclash => hc (clash.2 ⟨d, hd, hclash⟩), h.add m⟩

/-- The class has the constructors, and else what `c₀` has. -/
def HasConstructors (c₀ : ClassInfo) (ms : List MethodDecl) (c : ClassInfo) : Prop :=
  c = { c₀ with constructors := ms.map MethodDecl.info }

theorem addConstructor_spec {c₀ : ClassInfo} (done : List MethodDecl) (m : MethodDecl)
    (c : ClassInfo) (h : HasConstructors c₀ done c) : Answers
      (fun c' => (∀ d ∈ done, ¬ d.SameTypes m) ∧ HasConstructors c₀ (done ++ [m]) c')
      (∃ d ∈ done, d.SameTypes m) (addConstructor c m) := by
  subst h
  have clash : (done.map MethodDecl.info).any (·.sameSignature m.info) = true ↔
      ∃ d ∈ done, d.SameTypes m := by
    simp [List.any_eq_true, MethodDecl.sameSignature_info]
  unfold addConstructor
  dsimp only
  split
  · rename_i hc
    exact clash.1 hc
  · rename_i hc
    refine ⟨fun d hd hclash => hc (clash.2 ⟨d, hd, hclash⟩), ?_⟩
    simp [HasConstructors, ClassInfo.addConstructor]

theorem checkParams_spec : ∀ (seen : List String) (ps : List Param),
    Answers (fun _ : Unit => (ps.map fun p => p.name.name).Nodup ∧ ∀ p ∈ ps, p.name.name ∉ seen)
      (¬ ((ps.map fun p => p.name.name).Nodup ∧ ∀ p ∈ ps, p.name.name ∉ seen))
      (checkParams seen ps)
  | seen, [] => ⟨List.nodup_nil, fun _ h => nomatch h⟩
  | seen, p :: ps => by
    unfold checkParams
    split
    · rename_i hc
      exact fun h => h.2 p List.mem_cons_self (by simpa using hc)
    · rename_i hc
      have hp : p.name.name ∉ seen := by simpa using hc
      rw [List.map_cons, List.nodup_cons, List.forall_mem_cons]
      refine (checkParams_spec (p.name.name :: seen) ps).mono ?_ ?_
      · rintro h ⟨⟨hne, hn⟩, -, ha⟩
        refine h ⟨hn, fun q hq hm => (List.mem_cons.1 hm).elim (fun hs => hne ?_) (ha q hq)⟩
        exact List.mem_map.2 ⟨q, hq, hs⟩
      · rintro - ⟨hn, ha⟩
        refine ⟨⟨fun hm => ?_, hn⟩, hp, fun q hq hm => ha q hq (List.mem_cons_of_mem _ hm)⟩
        obtain ⟨q, hq, hs⟩ := List.mem_map.1 hm
        exact ha q hq (hs ▸ List.mem_cons_self)

/-- The names of the parameters differ in each of the methods. -/
def ParamsDiffer (ms : List MethodDecl) : Prop :=
  ∀ m ∈ ms, (m.params.map fun p => p.name.name).Nodup

theorem forM_checkParams_spec : ∀ ms : List MethodDecl,
    Answers (fun _ : PUnit => ParamsDiffer ms) (¬ ParamsDiffer ms)
      (ms.forM fun m => checkParams [] m.params)
  | [] => fun _ h => nomatch h
  | m :: ms => by
    refine (checkParams_spec [] m.params).bind ?_ fun _ hm => ?_
    · exact fun h k => h ⟨k m List.mem_cons_self, fun _ _ => List.not_mem_nil⟩
    · exact (forM_checkParams_spec ms).mono (fun h k => h (List.forall_mem_cons.1 k).2)
        fun _ h => List.forall_mem_cons.2 ⟨hm.1, h⟩

/-- The class of a declaration before its members are added. -/
def withoutMembers (outer : List String) (decl : ClassDecl) : ClassInfo :=
  { ClassInfo.blank decl.name.name decl.modifiers with
    outer
    annotations := decl.annotations
    superclass := decl.superclass.map TypeRef.dataType
    interfaces := decl.interfaces.map TypeRef.dataType
    span := decl.span }

/-- The class of a declaration without its inner classes is made exactly if no member duplicates
another. -/
theorem ownMembers_spec (outer : List String) (decl : ClassDecl) : Answers
    (fun c => decl.Orderly ∧ c.inner = [] ∧ decl.DescribesOwn outer c) (¬ decl.Orderly)
    (ownMembers outer decl) := by
  change Answers _ _ (decl.fields.foldlM addField (withoutMembers outer decl) >>= _)
  have noFields : HasFields (withoutMembers outer decl) [] (withoutMembers outer decl) :=
    ⟨rfl, rfl, rfl⟩
  refine (foldlM_spec addField_spec decl.fields [] noFields .nil).bind
    (fun h (k : decl.Orderly) => h k.fields) ?_
  rintro c₁ ⟨hfields, h₁⟩
  have noMethods : HasMethods c₁ [] c₁ := ⟨by cases c₁; rfl, h₁.rest ▸ .empty, h₁.rest ▸ .empty⟩
  refine (foldlM_spec addMethod_spec decl.methods [] noMethods .nil).bind
    (fun h (k : decl.Orderly) => h k.methods) ?_
  rintro c₂ ⟨hmethods, h₂⟩
  have noConstructors : HasConstructors c₂ [] c₂ := by
    rw [HasConstructors, h₂.rest, h₁.rest]
    rfl
  refine (foldlM_spec addConstructor_spec decl.constructors [] noConstructors .nil).bind
    (fun h (k : decl.Orderly) => h k.constructors) ?_
  rintro c₃ ⟨hconstructors, h₃⟩
  refine (forM_checkParams_spec _).bind (fun h (k : decl.Orderly) => h k.params) ?_
  intro _ hparams
  -- each round of members fills tables of its own
  have hc₃ : c₃ = { withoutMembers outer decl with
      instanceFields := c₁.instanceFields
      staticFields := c₁.staticFields
      instanceMethods := c₂.instanceMethods
      staticMethods := c₂.staticMethods
      constructors := decl.constructors.map MethodDecl.info } := by
    rw [h₃, h₂.rest, h₁.rest]
    rfl
  subst hc₃
  exact ⟨⟨hfields, hmethods, hconstructors, hparams⟩, rfl, rfl, ⟨rfl, rfl, rfl, rfl, rfl, rfl⟩,
    h₁.instanceFields, h₁.staticFields, h₂.instanceMethods, h₂.staticMethods, rfl⟩

/-! ## Classes with their inner classes -/

/-- The classes have different names, and each of them is well formed. -/
def InnerWellFormed (decls : List ClassDecl) : Prop :=
  Apart ClassDecl.Clashes decls ∧ ∀ d ∈ decls, d.WellFormed

/-- The classes among members. -/
def innerOf (members : List (Member ClassDecl)) : List ClassDecl :=
  members.filterMap fun | .inner d => some d | _ => none

theorem describes_inner {outer : List String} {decl : ClassDecl} {c : ClassInfo}
    {inner : List ClassInfo} (h : decl.DescribesOwn outer c)
    (hi : ClassDecl.DescribesAll (outer ++ [decl.name.name]) decl.innerClasses inner) :
    decl.Describes outer { c with inner } :=
  .intro { h with } hi

theorem describesAll_snoc {outer : List String} {decl : ClassDecl} {c : ClassInfo}
    (hc : decl.Describes outer c) : ∀ {decls : List ClassDecl} {cs : List ClassInfo},
    ClassDecl.DescribesAll outer decls cs →
      ClassDecl.DescribesAll outer (decls ++ [decl]) (cs ++ [c])
  | _, _, .nil => .cons hc .nil
  | _, _, .cons h hs => .cons h (describesAll_snoc hc hs)

theorem describes_name {outer : List String} {decl : ClassDecl} {c : ClassInfo}
    (h : decl.Describes outer c) : c.name = decl.name.name := by
  cases h with
  | intro hown _ => simpa [ClassInfo.path] using (List.append_inj' hown.path rfl).2

theorem any_describesAll {outer : List String} (name : String) :
    ∀ {decls : List ClassDecl} {cs : List ClassInfo}, ClassDecl.DescribesAll outer decls cs →
      cs.any (fun c => sameName c.name name) = decls.any fun d => sameName d.name.name name
  | _, _, .nil => rfl
  | _, _, .cons h hs => by
    rw [List.any_cons, List.any_cons, describes_name h, any_describesAll name hs]

mutual

/-- A declaration is made into a class exactly if it is well formed. -/
theorem register_spec : ∀ (outer : List String) (decl : ClassDecl) (log : Log),
    match register outer decl log with
    | .ok c _ => decl.WellFormed ∧ decl.Describes outer c
    | .error _ _ => ¬ decl.WellFormed
  | outer, ⟨modifiers, annotations, name, superclass, interfaces, members, span⟩, log => by
    have own := ownMembers_spec outer
      ⟨modifiers, annotations, name, superclass, interfaces, members, span⟩
    unfold register
    dsimp only
    cases ho : ownMembers outer
        ⟨modifiers, annotations, name, superclass, interfaces, members, span⟩ with
    | error e =>
      rw [ho] at own
      exact fun h => by cases h with | intro hown _ _ => exact own hown
    | ok c =>
      rw [ho] at own
      obtain ⟨hown, -, hdesc⟩ := own
      have inner := registerInner_spec (outer ++ [name.name]) [] [] members log
        ⟨.nil, fun _ h => nomatch h⟩ .nil
      simp only [bind, EStateM.bind, MonadExcept.ofExcept, pure, EStateM.pure]
      cases hi : registerInner (outer ++ [name.name]) [] members log with
      | error e log' =>
        rw [hi] at inner
        exact fun h => by cases h with | intro _ ha hw => exact inner ⟨ha, hw⟩
      | ok cs log' =>
        rw [hi] at inner
        exact ⟨.intro hown inner.1.1 inner.1.2, describes_inner hdesc inner.2⟩

/-- The run over the inner classes, after those already made. -/
theorem registerInner_spec : ∀ (outer : List String) (before : List ClassDecl)
    (done : List ClassInfo) (members : List (Member ClassDecl)) (log : Log),
    InnerWellFormed before → ClassDecl.DescribesAll outer before done →
    match registerInner outer done members log with
    | .ok cs _ => InnerWellFormed (before ++ innerOf members) ∧
        ClassDecl.DescribesAll outer (before ++ innerOf members) cs
    | .error _ _ => ¬ InnerWellFormed (before ++ innerOf members)
  | outer, before, done, [], log, hw, hd => by
    unfold registerInner
    rw [innerOf, List.filterMap_nil, List.append_nil]
    exact ⟨hw, hd⟩
  | outer, before, done, .inner decl :: members, log, hw, hd => by
    have first := register_spec outer decl log
    have hmem : decl ∈ before ++ innerOf (.inner decl :: members) := by simp [innerOf]
    unfold registerInner
    simp only [bind, EStateM.bind]
    cases hc : register outer decl log with
    | error e log' =>
      rw [hc] at first
      exact fun h => first (h.2 decl hmem)
    | ok c log' =>
      rw [hc] at first
      obtain ⟨hdecl, hdesc⟩ := first
      dsimp only
      rw [describes_name hdesc, any_describesAll _ hd]
      -- one more declaration is read, and one more class made, that it describes
      have split : before ++ innerOf (.inner decl :: members) =
          before ++ [decl] ++ innerOf members := by simp [innerOf]
      by_cases hclash : before.any fun d => sameName d.name.name decl.name.name
      · rw [if_pos hclash]
        obtain ⟨d, hmem', hs⟩ := List.any_eq_true.1 hclash
        exact fun h => (List.pairwise_append.1 h.1).2.2 d hmem' decl (by simp [innerOf]) hs
      · rw [if_neg hclash, split]
        refine registerInner_spec outer (before ++ [decl]) (done ++ [c]) members log'
          ⟨List.pairwise_append.2 ⟨hw.1, List.pairwise_singleton .., ?_⟩, ?_⟩
          (describesAll_snoc hdesc hd)
        · intro d hmem' e he hs
          exact hclash (List.any_eq_true.2 ⟨d, hmem', List.mem_singleton.1 he ▸ hs⟩)
        · exact fun d hmem' => (List.mem_append.1 hmem').elim (hw.2 d)
            fun h => List.mem_singleton.1 h ▸ hdecl
  | outer, before, done, .field _ :: members, log, hw, hd => by
    unfold registerInner
    exact registerInner_spec outer before done members log hw hd
  | outer, before, done, .method _ :: members, log, hw, hd => by
    unfold registerInner
    exact registerInner_spec outer before done members log hw hd
  | outer, before, done, .constructor _ :: members, log, hw, hd => by
    unfold registerInner
    exact registerInner_spec outer before done members log hw hd

end

end Registration

/-- **Registration accepts exactly the well-formed declarations, and loses nothing.** A declaration
is made into a class exactly if neither it nor a class inside it declares a member twice, and the
class then has every declared member. -/
theorem registers_exactly_wellFormed (outer : List String) (decl : ClassDecl) (log : Log) :
    ((∃ c log', Registration.register outer decl log = .ok c log') ↔ decl.WellFormed) ∧
      (decl.WellFormed ↔ ∃ c log', Registration.register outer decl log = .ok c log' ∧
        decl.Describes outer c) := by
  have spec := Registration.register_spec outer decl log
  cases h : Registration.register outer decl log with
  | ok c log' =>
    rw [h] at spec
    exact ⟨⟨fun _ => spec.1, fun _ => ⟨c, log', rfl⟩⟩,
      fun _ => ⟨c, log', rfl, spec.2⟩, fun _ => spec.1⟩
  | error e log' =>
    rw [h] at spec
    exact ⟨⟨nofun, fun hw => absurd hw spec⟩, fun hw => absurd hw spec, nofun⟩

end ClassScript
