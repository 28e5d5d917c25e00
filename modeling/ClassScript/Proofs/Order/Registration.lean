import ClassScript.Proofs.Class.Alike
import ClassScript.Proofs.Class.Registered
import Mathlib.Data.List.Nodup
import Mathlib.Data.List.Perm.Basic

/-!
# Registration in another order

A declaration is made into a class on its own; the table matters only for the name
(`Registration.Registers`). So a batch registers without errors if each declaration does, no two
have the same name, and no name is taken (`Registration.Accepts`), whatever the order. The classes
of another order are the same, and because their names differ, every look-up finds the same one
(`Registration.Accepts.alike`).
-/

namespace ClassScript

namespace Registration

/-! ## One declaration -/

/-- The declaration is made into the class. -/
def Registers (decl : ClassDecl) (c : ClassInfo) : Prop :=
  ∀ log, ∃ log', register [] decl log = .ok c log'

/-- What a registration comes to: the class, or the error that it ends with. -/
def answer {α : Type} (x : Registration α) (log : Log) : Except RegistrationError α :=
  match x log with
  | .ok a _ => .ok a
  | .error e _ => .error e

/-- What was logged before does not matter. -/
def IgnoresLog {α : Type} (x : Registration α) : Prop :=
  ∀ log log', answer x log = answer x log'

theorem IgnoresLog.bind {α β : Type} {x : Registration α} {f : α → Registration β}
    (hx : IgnoresLog x) (hf : ∀ a, IgnoresLog (f a)) : IgnoresLog (x >>= f) := by
  intro log log'
  have first := hx log log'
  unfold answer at first ⊢
  show (match EStateM.bind x f log with | .ok a _ => _ | .error e _ => _) =
    match EStateM.bind x f log' with | .ok a _ => _ | .error e _ => _
  unfold EStateM.bind
  cases h : x log <;> cases h' : x log' <;> rw [h, h'] at first <;> cases first
  · exact hf _ _ _
  · rfl

mutual

theorem register_ignoresLog : ∀ (outer : List String) (decl : ClassDecl),
    IgnoresLog (register outer decl)
  | outer, ⟨modifiers, annotations, name, superclass, interfaces, members, span⟩ => by
    unfold register
    dsimp only
    refine IgnoresLog.bind (fun log log' => ?_) fun c =>
      (registerInner_ignoresLog _ [] members).bind fun inner => fun _ _ => rfl
    cases ownMembers outer ⟨modifiers, annotations, name, superclass, interfaces, members, span⟩ <;>
      rfl

theorem registerInner_ignoresLog : ∀ (outer : List String) (done : List ClassInfo)
    (members : List (Member ClassDecl)), IgnoresLog (registerInner outer done members)
  | outer, done, [] => by
    unfold registerInner
    exact fun _ _ => rfl
  | outer, done, .inner decl :: members => by
    unfold registerInner
    refine (register_ignoresLog outer decl).bind fun c => ?_
    split
    · exact fun _ _ => rfl
    · exact registerInner_ignoresLog outer (done ++ [c]) members
  | outer, done, .field _ :: members | outer, done, .method _ :: members
  | outer, done, .constructor _ :: members => by
    unfold registerInner
    exact registerInner_ignoresLog outer done members

end

theorem register_any_log (outer : List String) (decl : ClassDecl) {log log' : Log} {c : ClassInfo}
    (h : register outer decl log = .ok c log') (log₁ : Log) :
    ∃ log₂, register outer decl log₁ = .ok c log₂ := by
  have same := register_ignoresLog outer decl log log₁
  unfold answer at same
  rw [h] at same
  cases h₁ : register outer decl log₁ <;> rw [h₁] at same <;> cases same
  exact ⟨_, rfl⟩

theorem ownMembers_name {outer : List String} {decl : ClassDecl} {c : ClassInfo}
    (h : ownMembers outer decl = .ok c) : c.name = decl.name.name := by
  refine ownMembers_keeps (P := fun c => c.name = decl.name.name) (fun d hd _ _ _ _ _ => hd)
    (fun d f hd => ?_) (fun d m hd => ?_) (fun d m hd => hd) h
  · unfold ClassInfo.addField
    split <;> exact hd
  · unfold ClassInfo.addMethod
    split <;> exact hd

theorem register_name {outer : List String} {decl : ClassDecl} {log log' : Log} {c : ClassInfo}
    (h : register outer decl log = .ok c log') : c.name = decl.name.name := by
  obtain ⟨modifiers, annotations, name, superclass, interfaces, members, span⟩ := decl
  unfold register at h
  dsimp only at h
  cases ho : ownMembers outer
      ⟨modifiers, annotations, name, superclass, interfaces, members, span⟩ with
  | error e =>
    rw [ho] at h
    cases h
  | ok d =>
    rw [ho] at h
    simp only [bind, EStateM.bind, MonadExcept.ofExcept, pure, EStateM.pure] at h
    split at h
    · cases h
      exact (ownMembers_name ho : d.name = name.name)
    · cases h

theorem Registers.name {decl : ClassDecl} {c : ClassInfo} (h : Registers decl c) :
    c.name = decl.name.name := by
  obtain ⟨log', hr⟩ := h #[]
  exact register_name hr

/-! ## Batches -/

/-- The batch is made into the classes, and all of them are added to the table. -/
structure Accepts (t : ClassTable) (decls : List ClassDecl) (cs : List ClassInfo) : Prop where
  classes : List.Forall₂ Registers decls cs
  distinct : (decls.map fun d => foldName d.name.name).Nodup
  fresh : ∀ d ∈ decls, t.contains d.name.name = false

variable {t : ClassTable} {decls : List ClassDecl} {cs : List ClassInfo} {out : Outcome}

theorem step_accepts {decl : ClassDecl} {c : ClassInfo} (hc : Registers decl c)
    (hfresh : out.table.contains decl.name.name = false) : ∃ log, step out decl =
      { out with table := out.table.add c, accepted := out.accepted + 1, log } := by
  obtain ⟨log, hr⟩ := hc out.log
  refine ⟨log, ?_⟩
  unfold step registerInto
  simp only [hfresh, Bool.false_eq_true, ↓reduceIte, EStateM.run, bind, EStateM.bind, hr]
  rfl

/-- A declaration is rejected, or made into a class that is added. -/
theorem step_cases (out : Outcome) (decl : ClassDecl) :
    (step out decl).errors ≠ [] ∨
      out.table.contains decl.name.name = false ∧ ∃ c, Registers decl c := by
  unfold step
  split
  · rename_i table log hr
    refine .inr ?_
    unfold registerInto at hr
    split at hr
    · cases hr
    · rename_i hfresh
      simp only [EStateM.run, bind, EStateM.bind] at hr
      split at hr
      · rename_i c log₁ hc
        exact ⟨by simpa using hfresh, c, register_any_log [] decl hc⟩
      · cases hr
  · exact .inl (by simp)

theorem step_errors (out : Outcome) (decl : ClassDecl) : out.errors <+: (step out decl).errors := by
  unfold step
  split
  · exact List.prefix_rfl
  · exact List.prefix_append ..

theorem foldl_step_errors (decls : List ClassDecl) (out : Outcome) :
    out.errors <+: (decls.foldl step out).errors :=
  List.foldlRecOn decls step (motive := fun o : Outcome => out.errors <+: o.errors)
    List.prefix_rfl fun o h decl _ => h.trans (step_errors o decl)

theorem contains_add (t : ClassTable) (c : ClassInfo) (name : String) :
    (t.add c).contains name = (t.contains name || sameName c.name name) := by
  unfold ClassTable.contains ClassTable.get? ClassTable.add
  rw [List.find?_append]
  cases List.find? (fun c => sameName c.name name) t.classes with
  | some d => rfl
  | none => cases hs : sameName c.name name <;> simp [hs]

/-- An accepted batch after an accepted declaration, whose class it is told apart from. -/
theorem Accepts.cons {decl : ClassDecl} {c : ClassInfo} (hc : Registers decl c)
    (hfresh : t.contains decl.name.name = false) (h : Accepts (t.add c) decls cs) :
    Accepts t (decl :: decls) (c :: cs) := by
  have apart : ∀ d ∈ decls, t.contains d.name.name = false ∧
      sameName decl.name.name d.name.name = false := by
    intro d hd
    have hd := h.fresh d hd
    rwa [contains_add, hc.name, Bool.or_eq_false_iff] at hd
  refine ⟨.cons hc h.classes, List.nodup_cons.2 ⟨?_, h.distinct⟩, ?_⟩
  · intro hmem
    obtain ⟨d, hd, heq⟩ := List.mem_map.1 hmem
    have := (apart d hd).2
    rw [sameName_iff.2 heq.symm] at this
    cases this
  · intro d hd
    rcases List.mem_cons.1 hd with rfl | hd
    · exact hfresh
    · exact (apart d hd).1

/-- A batch without errors is accepted. The induction is on the batch: what the first declaration
adds to the table, the rest has to be told apart from. -/
theorem accepts_of_foldl : ∀ {decls : List ClassDecl} {out : Outcome},
    (decls.foldl step out).errors = [] → ∃ cs, Accepts out.table decls cs
  | [], out, _ => ⟨[], .nil, List.nodup_nil, fun _ h => by cases h⟩
  | decl :: decls, out, h => by
    have hstep : (step out decl).errors = [] :=
      List.prefix_nil.1 (h ▸ foldl_step_errors decls (step out decl))
    rcases step_cases out decl with he | ⟨hfresh, c, hc⟩
    · exact absurd hstep he
    obtain ⟨log, heq⟩ := step_accepts hc hfresh
    rw [List.foldl_cons, heq] at h
    obtain ⟨cs, hcs⟩ := accepts_of_foldl h
    exact ⟨c :: cs, .cons hc hfresh hcs⟩

/-- An accepted batch registers without errors, and its classes are added in order. -/
theorem Accepts.foldl : ∀ {decls : List ClassDecl} {cs : List ClassInfo} {out : Outcome},
    Accepts out.table decls cs → (decls.foldl step out).errors = out.errors ∧
      (decls.foldl step out).table = ⟨out.table.classes ++ cs⟩
  | [], cs, out, h => by
    cases h.classes
    exact ⟨rfl, by rw [List.append_nil]; rfl⟩
  | decl :: decls, _, out, h => by
    obtain ⟨hclasses, hdistinct, hfresh⟩ := h
    cases hclasses with
    | @cons _ c _ cs hc hcs =>
      obtain ⟨log, heq⟩ := step_accepts hc (hfresh decl List.mem_cons_self)
      rw [List.map_cons, List.nodup_cons] at hdistinct
      have rest : Accepts (step out decl).table decls cs := by
        refine ⟨hcs, hdistinct.2, fun d hd => ?_⟩
        rw [heq, contains_add, hfresh d (List.mem_cons_of_mem _ hd), Bool.false_or, hc.name]
        refine Bool.eq_false_iff.2 fun hsame => hdistinct.1 ?_
        exact List.mem_map.2 ⟨d, hd, (sameName_iff.1 hsame).symm⟩
      obtain ⟨herrors, htable⟩ := Accepts.foldl rest
      rw [List.foldl_cons, herrors, htable, heq]
      exact ⟨rfl, by simp [ClassTable.add]⟩

theorem accepts_of_registerAll (h : (registerAll t decls).errors = []) :
    ∃ cs, Accepts t decls cs := by
  rw [registerAll_eq] at h
  exact accepts_of_foldl h

theorem Accepts.registerAll (h : Accepts t decls cs) :
    (registerAll t decls).errors = [] ∧ (registerAll t decls).table = ⟨t.classes ++ cs⟩ := by
  rw [registerAll_eq]
  exact Accepts.foldl h

/-! ## Another order -/

namespace Accepts

/-- A batch is accepted in every order, and made into the same classes. -/
theorem perm {decls' : List ClassDecl} (h : Accepts t decls cs) (hp : decls.Perm decls') :
    ∃ cs', Accepts t decls' cs' ∧ cs'.Perm cs := by
  obtain ⟨cs', hcs', hperm⟩ := List.perm_comp_forall₂ hp.symm h.classes
  refine ⟨cs', ⟨hcs', ?_, fun d hd => h.fresh d (hp.mem_iff.2 hd)⟩, hperm⟩
  exact (hp.map _).nodup_iff.1 h.distinct

theorem names (h : Accepts t decls cs) : (cs.map fun c => foldName c.name).Nodup := by
  have hnames : (cs.map fun c => foldName c.name) = decls.map fun d => foldName d.name.name := by
    have hall := h.classes
    clear h
    induction hall with
    | nil => rfl
    | cons hc _ ih => rw [List.map_cons, List.map_cons, hc.name, ih]
  rw [hnames]
  exact h.distinct

end Accepts

end Registration

/-- Among classes whose names differ, a name leads to one class. -/
theorem find?_sameName {cs : List ClassInfo} (hn : (cs.map fun c => foldName c.name).Nodup)
    {name : String} {c : ClassInfo} :
    cs.find? (fun c => sameName c.name name) = some c ↔ c ∈ cs ∧ sameName c.name name = true := by
  have found : ∀ {d}, cs.find? (fun c => sameName c.name name) = some d →
      d ∈ cs ∧ sameName d.name name = true := fun h =>
    ⟨List.mem_of_find?_eq_some h, by simpa using List.find?_some h⟩
  refine ⟨found, ?_⟩
  rintro ⟨hc, hs⟩
  obtain ⟨d, hd⟩ : ∃ d, cs.find? (fun c => sameName c.name name) = some d :=
    Option.isSome_iff_exists.1 (List.find?_isSome.2 ⟨c, hc, hs⟩)
  obtain ⟨hmem, hsame⟩ := found hd
  have heq : foldName d.name = foldName c.name :=
    (sameName_iff.1 hsame).trans (sameName_iff.1 hs).symm
  rw [hd, List.inj_on_of_nodup_map hn hmem hc heq]

theorem find?_sameName_perm {cs cs' : List ClassInfo}
    (hn : (cs.map fun c => foldName c.name).Nodup) (hp : cs'.Perm cs) (name : String) :
    cs'.find? (fun c => sameName c.name name) = cs.find? fun c => sameName c.name name := by
  have hn' : (cs'.map fun c => foldName c.name).Nodup := (hp.map _).nodup_iff.2 hn
  refine Option.ext fun c => ?_
  rw [find?_sameName hn, find?_sameName hn', hp.mem_iff]

namespace Registration

/-- **The order of a batch does not show in look-ups.** -/
theorem Accepts.alike {t : ClassTable} {decls : List ClassDecl} {cs cs' : List ClassInfo}
    (h : Accepts t decls cs) (hp : cs'.Perm cs) :
    ClassTable.Alike ⟨t.classes ++ cs⟩ ⟨t.classes ++ cs'⟩ := by
  refine ⟨fun name => ?_, ?_⟩
  · unfold ClassTable.get?
    rw [List.find?_append, List.find?_append, find?_sameName_perm h.names hp]
  · exact (hp.append_left t.classes).length_eq

end Registration

end ClassScript
