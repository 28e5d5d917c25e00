import ClassScript.Proofs.Class.Inheritance
import ClassScript.Proofs.Class.Lookup

/-!
# The classes that registration makes

A property of the own members of a class is one of every class of a table once it holds of the
built-in classes and of what `Registration.ownMembers` gives (`Registration.registerAll_deep`). It
is used for `ClassInfo.Regular`: fields stand under their own names, and only the two built-in
containers have generic parameters (`ClassTable.Has.regular`); for `ClassInfo.Grouped`: a method
name has at least one overload (`ClassTable.Has.grouped`); and for `ClassInfo.Sorted`: what stands
among the static members is static (`ClassTable.Has.sorted`).
-/

namespace ClassScript

namespace ClassInfo

/-- `P` holds of the class and of all classes inside it. -/
inductive Deep (P : ClassInfo → Prop) : ClassInfo → Prop
  | intro {c : ClassInfo} : P c → (∀ d ∈ c.inner, Deep P d) → Deep P c

theorem Deep.self {P : ClassInfo → Prop} {c : ClassInfo} (h : Deep P c) : P c := by
  cases h with
  | intro hc _ => exact hc

theorem Deep.inner {P : ClassInfo → Prop} {c d : ClassInfo} (h : Deep P c) (hd : d ∈ c.inner) :
    Deep P d := by
  cases h with
  | intro _ hi => exact hi d hd

end ClassInfo

open ClassInfo (Deep)

theorem ClassTable.Has.deep {P : ClassInfo → Prop} {t : ClassTable}
    (ht : ∀ c ∈ t.classes, Deep P c) {c : ClassInfo} (h : t.Has c) : Deep P c := by
  induction h with
  | top hc => exact ht _ hc
  | inner _ hd ih => exact ih.inner hd

namespace Registration

/-! ## Own members -/

/-- What every step of a fold keeps, the fold keeps. -/
theorem foldlM_keeps {α β ε : Type} {P : β → Prop} {f : β → α → Except ε β}
    (step : ∀ b a b', P b → f b a = .ok b' → P b') :
    ∀ (as : List α) {b b' : β}, P b → as.foldlM f b = .ok b' → P b'
  | [], b, b', hb, h => by
    obtain rfl := Except.ok.inj h
    exact hb
  | a :: as, b, b', hb, h => by
    rw [List.foldlM_cons] at h
    cases ha : f b a with
    | error e => rw [ha] at h; cases h
    | ok c =>
      rw [ha] at h
      exact foldlM_keeps step as (step b a c hb ha) h

/-- A property of fields and parameters is one of the own members of a declaration, if a new field
keeps it. -/
theorem ownMembers_keeps {P : ClassInfo → Prop} {outer : List String} {decl : ClassDecl}
    {c : ClassInfo} (blank : ∀ d, d.name = decl.name.name → d.typeParams = [] →
      d.instanceFields = .empty → d.staticFields = .empty → d.instanceMethods = .empty →
      d.staticMethods = .empty → P d)
    (fields : ∀ d f, P d → P (ClassInfo.addField d f))
    (methods : ∀ d m, P d → P (ClassInfo.addMethod d m))
    (constructors : ∀ d m, P d → P (ClassInfo.addConstructor d m))
    (h : ownMembers outer decl = .ok c) : P c := by
  unfold ownMembers at h
  simp only [bind, Except.bind] at h
  split at h
  · cases h
  rename_i c₁ h₁
  split at h
  · cases h
  rename_i c₂ h₂
  split at h
  · cases h
  rename_i c₃ h₃
  split at h
  · cases h
  obtain rfl := Except.ok.inj h
  -- fields, methods and constructors are added to a class that has none, in this order
  have p₁ : P c₁ := by
    refine foldlM_keeps (fun d f d' hd hf => ?_) _ (blank _ rfl rfl rfl rfl rfl rfl) h₁
    unfold addField at hf
    split at hf
    · cases hf
    · obtain rfl := Except.ok.inj hf
      exact fields _ _ hd
  have p₂ : P c₂ := by
    refine foldlM_keeps (fun d m d' hd hm => ?_) _ p₁ h₂
    unfold addMethod at hm
    dsimp only at hm
    split at hm
    · cases hm
    · obtain rfl := Except.ok.inj hm
      exact methods _ _ hd
  refine foldlM_keeps (fun d m d' hd hm => ?_) _ p₂ h₃
  unfold addConstructor at hm
  dsimp only at hm
  split at hm
  · cases hm
  · obtain rfl := Except.ok.inj hm
    exact constructors _ _ hd

/-! ## Classes with their inner classes -/

/-- `P` holds of the own members of every declaration, whatever the inner classes. -/
def HoldsOfOwn (P : ClassInfo → Prop) : Prop :=
  ∀ ⦃outer decl c⦄ inner, ownMembers outer decl = .ok c → P { c with inner }

variable {P : ClassInfo → Prop}

mutual

theorem register_deep (own : HoldsOfOwn P) :
    ∀ (outer : List String) (decl : ClassDecl) {log log' : Log} {c : ClassInfo},
      register outer decl log = .ok c log' → Deep P c
  | outer, ⟨modifiers, annotations, name, superclass, interfaces, members, span⟩, log, log', c,
      h => by
    unfold register at h
    dsimp only at h
    cases ho : ownMembers outer
        ⟨modifiers, annotations, name, superclass, interfaces, members, span⟩ with
    | error e => rw [ho] at h; cases h
    | ok d =>
      rw [ho] at h
      simp only [bind, EStateM.bind, MonadExcept.ofExcept, pure, EStateM.pure] at h
      split at h
      · rename_i inner log₁ hi
        cases h
        exact .intro (own inner ho) (registerInner_deep own _ [] members (by simp) hi)
      · cases h

theorem registerInner_deep (own : HoldsOfOwn P) : ∀ (outer : List String) (done : List ClassInfo)
    (members : List (Member ClassDecl)) {log log' : Log} {cs : List ClassInfo},
    (∀ d ∈ done, Deep P d) → registerInner outer done members log = .ok cs log' →
    ∀ d ∈ cs, Deep P d
  | outer, done, [], log, log', cs, hd, h => by
    unfold registerInner at h
    cases h
    exact hd
  | outer, done, .inner decl :: members, log, log', cs, hd, h => by
    unfold registerInner at h
    simp only [bind, EStateM.bind] at h
    split at h
    · rename_i c log₁ hc
      split at h
      · cases h
      · refine registerInner_deep own outer (done ++ [c]) members (fun d hm => ?_) h
        rcases List.mem_append.1 hm with hm | hm
        · exact hd d hm
        · rw [List.mem_singleton.1 hm]
          exact register_deep own outer decl hc
    · cases h
  | outer, done, .field _ :: members, log, log', cs, hd, h => by
    unfold registerInner at h
    exact registerInner_deep own outer done members hd h
  | outer, done, .method _ :: members, log, log', cs, hd, h => by
    unfold registerInner at h
    exact registerInner_deep own outer done members hd h
  | outer, done, .constructor _ :: members, log, log', cs, hd, h => by
    unfold registerInner at h
    exact registerInner_deep own outer done members hd h

end

theorem registerInto_deep (own : HoldsOfOwn P) {t t' : ClassTable} {decl : ClassDecl}
    {log log' : Log} (ht : ∀ c ∈ t.classes, Deep P c)
    (h : (registerInto t decl).run log = .ok t' log') : ∀ c ∈ t'.classes, Deep P c := by
  unfold registerInto at h
  split at h
  · cases h
  · simp only [EStateM.run, bind, EStateM.bind] at h
    split at h
    · rename_i c log₁ hc
      cases h
      intro d hd
      rcases List.mem_append.1 hd with hd | hd
      · exact ht d hd
      · rw [List.mem_singleton.1 hd]
        exact register_deep own _ _ hc
    · cases h

theorem step_deep (own : HoldsOfOwn P) {out : Outcome} (h : ∀ c ∈ out.table.classes, Deep P c)
    (decl : ClassDecl) : ∀ c ∈ (step out decl).table.classes, Deep P c := by
  unfold step
  split
  · rename_i hr
    exact registerInto_deep own h hr
  · exact h

/-- What holds of the classes of a table and of the own members of every declaration holds of every
class after registration. -/
theorem registerAll_deep (own : HoldsOfOwn P) {t : ClassTable} (ht : ∀ c ∈ t.classes, Deep P c)
    (decls : List ClassDecl) : ∀ c ∈ (registerAll t decls).table.classes, Deep P c := by
  rw [registerAll_eq]
  exact List.foldlRecOn decls step
    (motive := fun out : Outcome => ∀ c ∈ out.table.classes, Deep P c) ht fun _ h decl _ => step_deep own h decl

end Registration

/-! ## Regular classes -/

/-- Instance fields stand under their own names, and generic parameters belong to the containers. -/
structure ClassInfo.Regular (c : ClassInfo) : Prop where
  fields : ∀ f ∈ c.instanceFields.values, c.instanceFields.contains f.name = true
  generic : c.typeParams = [] ∨ c = Builtin.listClass ∨ c = Builtin.mapClass

namespace NameTable

theorem mem_values_insert {α : Type} {t : NameTable α} {name : String} {v w : α}
    (h : w ∈ (t.insert name v).values) : w = v ∨ w ∈ t.values := by
  unfold values at h ⊢
  rw [entries_insert] at h
  generalize t.entries = es at h ⊢
  induction es with
  | nil => exact .inl (by simpa [insertEntry] using h)
  | cons e es ih =>
    obtain ⟨n, u⟩ := e
    unfold insertEntry at h
    split at h
    · rcases List.mem_cons.1 h with h | h
      · exact .inl h
      · exact .inr (List.mem_cons_of_mem _ h)
    · rcases List.mem_cons.1 h with h | h
      · exact .inr (h ▸ List.mem_cons_self)
      · exact (ih h).imp_right (List.mem_cons_of_mem _)

end NameTable

namespace ClassInfo

theorem addField_fields {c : ClassInfo} (f : FieldInfo)
    (h : ∀ g ∈ c.instanceFields.values, c.instanceFields.contains g.name = true) :
    ∀ g ∈ (c.addField f).instanceFields.values,
      (c.addField f).instanceFields.contains g.name = true := by
  unfold addField
  split
  · exact h
  · intro g hg
    rw [NameTable.contains_insert, Bool.or_eq_true]
    rcases NameTable.mem_values_insert hg with rfl | hg
    · exact .inl (by simp [sameName])
    · exact .inr (h g hg)

theorem regular_of_ownMembers : Registration.HoldsOfOwn Regular := by
  intro outer decl c inner h
  have hf : c.typeParams = [] ∧
      ∀ f ∈ c.instanceFields.values, c.instanceFields.contains f.name = true := by
    refine Registration.ownMembers_keeps (P := fun d => d.typeParams = [] ∧
      ∀ f ∈ d.instanceFields.values, d.instanceFields.contains f.name = true) ?_ ?_ ?_ ?_ h
    · intro d _ ht hd _ _ _
      rw [hd]
      exact ⟨ht, by simp [NameTable.values, NameTable.empty]⟩
    · intro d f hd
      refine ⟨?_, addField_fields f hd.2⟩
      unfold addField
      split <;> exact hd.1
    · intro d m hd
      unfold addMethod
      split <;> exact hd
    · intro d m hd
      exact hd
  exact ⟨hf.2, .inl hf.1⟩

end ClassInfo

/-- Every class of a table that registration made of the built-in one is regular. -/
theorem ClassTable.Has.regular {decls : List ClassDecl} {c : ClassInfo}
    (h : (Registration.registerAll .initial decls).table.Has c) : c.Regular := by
  refine (h.deep (Registration.registerAll_deep ClassInfo.regular_of_ownMembers ?_ decls)).self
  have fields : ClassTable.initial.classes.all (fun c => c.inner.isEmpty &&
      c.instanceFields.values.all fun f => c.instanceFields.contains f.name) = true := by
    decide +kernel
  have generic : ∀ c ∈ ClassTable.initial.classes,
      c.typeParams = [] ∨ c = Builtin.listClass ∨ c = Builtin.mapClass := by
    intro c hc
    simp only [initial, List.mem_cons, List.not_mem_nil, or_false] at hc
    rcases hc with rfl | rfl | rfl | rfl | rfl | rfl | rfl | rfl | rfl | rfl | rfl | rfl
    case inr.inr.inr.inr.inr.inl => exact .inr (.inl rfl)
    case inr.inr.inr.inr.inr.inr.inl => exact .inr (.inr rfl)
    all_goals exact .inl rfl
  intro c hc
  have hf := List.all_eq_true.1 fields c hc
  rw [Bool.and_eq_true, List.isEmpty_iff, List.all_eq_true] at hf
  exact .intro ⟨hf.2, generic c hc⟩ (by simp [hf.1])

/-! ## Groups of overloads -/

/-- Every name of the table has a method. -/
def MethodTable.Grouped (t : MethodTable) : Prop := ∀ name, t.get? name ≠ some []

/-- Every method name of the class has an overload. -/
structure ClassInfo.Grouped (c : ClassInfo) : Prop where
  instances : c.instanceMethods.Grouped
  statics : c.staticMethods.Grouped

theorem MethodTable.grouped_empty : Grouped .empty := by
  intro name h
  rw [NameTable.get?_empty] at h
  cases h

theorem MethodTable.Grouped.add {t : MethodTable} (h : t.Grouped) (m : MethodInfo) :
    (t.add m).Grouped := by
  intro name hn
  unfold MethodTable.add at hn
  by_cases hc : t.contains m.name
  · rw [if_pos hc, NameTable.get?_modify] at hn
    split at hn
    · obtain ⟨g, -, hg⟩ := Option.map_eq_some_iff.1 hn
      simp at hg
    · exact h name hn
  · rw [if_neg hc, NameTable.get?_insert] at hn
    split at hn
    · simp at hn
    · exact h name hn

namespace ClassInfo

theorem grouped_of_ownMembers : Registration.HoldsOfOwn Grouped := by
  intro outer decl c inner h
  have hc : c.Grouped := by
    refine Registration.ownMembers_keeps (P := Grouped) ?_ ?_ ?_ ?_ h
    · intro d _ _ _ _ hi hs
      exact ⟨hi ▸ MethodTable.grouped_empty, hs ▸ MethodTable.grouped_empty⟩
    · intro d f hd
      unfold addField
      split <;> exact ⟨hd.instances, hd.statics⟩
    · intro d m hd
      unfold addMethod
      split
      · exact ⟨hd.instances, hd.statics.add m⟩
      · exact ⟨hd.instances.add m, hd.statics⟩
    · intro d m hd
      exact ⟨hd.instances, hd.statics⟩
  exact ⟨hc.instances, hc.statics⟩

end ClassInfo

/-- Every class of a table that registration made of the built-in one has its methods in groups. -/
theorem ClassTable.Has.grouped {decls : List ClassDecl} {c : ClassInfo}
    (h : (Registration.registerAll .initial decls).table.Has c) : c.Grouped := by
  refine (h.deep (Registration.registerAll_deep ClassInfo.grouped_of_ownMembers ?_ decls)).self
  have groups : ClassTable.initial.classes.all (fun c => c.inner.isEmpty &&
      c.instanceMethods.values.all (fun g => !g.isEmpty) &&
      c.staticMethods.values.all fun g => !g.isEmpty) = true := by
    decide +kernel
  have grouped : ∀ {t : MethodTable}, (t.values.all fun g => !g.isEmpty) = true → t.Grouped := by
    intro t ht name hn
    obtain ⟨key, -, hmem⟩ := NameTable.sameName_of_get? hn
    have := List.all_eq_true.1 ht [] (List.mem_map.2 ⟨_, hmem, rfl⟩)
    simp at this
  intro c hc
  have hg := List.all_eq_true.1 groups c hc
  rw [Bool.and_eq_true, Bool.and_eq_true, List.isEmpty_iff] at hg
  exact .intro ⟨grouped hg.1.2, grouped hg.2⟩ (by simp [hg.1.1])

/-! ## Static members -/

/-- Every method of the table is static. -/
def MethodTable.AllStatic (t : MethodTable) : Prop :=
  ∀ name g, t.get? name = some g → ∀ k ∈ g, k.isStatic = true

/-- The static fields and methods of the class are declared static. -/
structure ClassInfo.Sorted (c : ClassInfo) : Prop where
  fields : ∀ f ∈ c.staticFields.values, f.isStatic = true
  methods : c.staticMethods.AllStatic

theorem MethodTable.allStatic_empty : AllStatic .empty := by
  intro name g h
  rw [NameTable.get?_empty] at h
  cases h

theorem MethodTable.AllStatic.add {t : MethodTable} (h : t.AllStatic) {m : MethodInfo}
    (hm : m.isStatic = true) : (t.add m).AllStatic := by
  intro name g hg k hk
  unfold MethodTable.add at hg
  by_cases hc : t.contains m.name
  · rw [if_pos hc, NameTable.get?_modify] at hg
    split at hg
    · obtain ⟨g', hg', rfl⟩ := Option.map_eq_some_iff.1 hg
      rcases List.mem_append.1 hk with hk | hk
      · exact h name g' hg' k hk
      · exact List.mem_singleton.1 hk ▸ hm
    · exact h name g hg k hk
  · rw [if_neg hc, NameTable.get?_insert] at hg
    split at hg
    · cases hg
      exact List.mem_singleton.1 hk ▸ hm
    · exact h name g hg k hk

namespace ClassInfo

theorem sorted_of_ownMembers : Registration.HoldsOfOwn Sorted := by
  intro outer decl c inner h
  have hc : c.Sorted := by
    refine Registration.ownMembers_keeps (P := Sorted) ?_ ?_ ?_ ?_ h
    · intro d _ _ _ hf _ hs
      refine ⟨?_, hs ▸ MethodTable.allStatic_empty⟩
      rw [hf]
      simp [NameTable.values, NameTable.empty]
    · intro d f hd
      unfold addField
      split
      · rename_i hf
        refine ⟨fun g hg => ?_, hd.methods⟩
        rcases NameTable.mem_values_insert hg with rfl | hg
        · exact hf
        · exact hd.fields g hg
      · exact ⟨hd.fields, hd.methods⟩
    · intro d m hd
      unfold addMethod
      split
      · rename_i hm
        exact ⟨hd.fields, hd.methods.add hm⟩
      · exact ⟨hd.fields, hd.methods⟩
    · intro d m hd
      exact ⟨hd.fields, hd.methods⟩
  exact ⟨hc.fields, hc.methods⟩

end ClassInfo

/-- Every class of a table that registration made of the built-in one has its static members
apart. -/
theorem ClassTable.Has.sorted {decls : List ClassDecl} {c : ClassInfo}
    (h : (Registration.registerAll .initial decls).table.Has c) : c.Sorted := by
  refine (h.deep (Registration.registerAll_deep ClassInfo.sorted_of_ownMembers ?_ decls)).self
  have statics : ClassTable.initial.classes.all (fun c => c.inner.isEmpty &&
      c.staticFields.values.all FieldInfo.isStatic &&
      c.staticMethods.values.all fun g => g.all MethodInfo.isStatic) = true := by
    decide +kernel
  intro c hc
  have hs := List.all_eq_true.1 statics c hc
  rw [Bool.and_eq_true, Bool.and_eq_true, List.isEmpty_iff, List.all_eq_true,
    List.all_eq_true] at hs
  refine .intro ⟨hs.1.2, fun name g hg => ?_⟩ (by simp [hs.1.1])
  obtain ⟨key, -, hmem⟩ := NameTable.sameName_of_get? hg
  exact List.all_eq_true.1 (hs.2 g (List.mem_map.2 ⟨_, hmem, rfl⟩))

end ClassScript
