import ClassScript.Proofs.Class.Ancestors
import ClassScript.Proofs.Class.Lookup
import ClassScript.Proofs.Typing.SameType
import ClassScript.Registration
import Mathlib.Logic.Relation

/-!
# Declared subtypes

`t.Declares a b`: the class that the type name `a` leads to writes the type name `b` in its `extends`
clause (`ClassTable.ExtendsTo`) or in its `implements` clause (`ClassTable.ImplementsTo`). A value may
be passed for a type that its class reaches over `extends` clauses, or that its class implements
itself, but not for every declared supertype: the name of a superclass is compared without the
classes around it, and the interfaces of superclasses do not count.

Main statement: `assignable_along_extends`.
-/

namespace ClassScript

open Relation (ReflTransGen)

namespace ClassTable

/-- The class of `a` extends `b`. -/
def ExtendsTo (t : ClassTable) (a b : String) : Prop :=
  ∃ c, t.resolve? a = some c ∧ c.superclass = some (.simple b) ∧ (t.resolve? b).isSome = true

/-- The class of `a` implements `b`. -/
def ImplementsTo (t : ClassTable) (a b : String) : Prop :=
  ∃ c, t.resolve? a = some c ∧ .simple b ∈ c.interfaces ∧ (t.resolve? b).isSome = true

/-- The class of `a` declares `b` as a supertype. -/
def Declares (t : ClassTable) (a b : String) : Prop := t.ExtendsTo a b ∨ t.ImplementsTo a b

/-- The class of `a` extends a class of the table itself. -/
def ExtendsTop (t : ClassTable) (a b : String) : Prop := t.ExtendsTo a b ∧ '.' ∉ b.toList

end ClassTable

open ClassInfo (ancestor? ancestor?_add mem_chain)

namespace DataType

variable {t : ClassTable} {a b : String} {c : ClassInfo}

/-- Where a value of a class may be passed: over at most as many `extends` clauses as the table has
classes, or over an `implements` clause of the class itself. -/
theorem isAssignable_simple (hc : t.resolve? a = some c) :
    (simple a).isAssignable t (simple b) = true ↔
      (sameName a "null" = true ∨ sameName a b = true ∨ sameName b "Object" = true) ∨
      (∃ i d, i ≤ t.size ∧ ancestor? t i c = some d ∧ sameName d.name b = true) ∨
      ∃ s ∈ c.interfaces, sameName s.name b = true := by
  have fits : ((simple a).fitsExactly (simple b) || (simple b).isObject) = true ↔
      sameName a "null" = true ∨ sameName a b = true ∨ sameName b "Object" = true := by
    have equal : (simple a == simple b) = sameName a b := by
      rw [beq_eq_same, simple, simple, same, sameAll, Bool.and_true]
    rw [fitsExactly, equal, Bool.or_eq_true, Bool.or_eq_true, or_assoc]
    exact Iff.rfl
  have below : c.isSubclassOf t b = true ↔
      (∃ i d, i ≤ t.size ∧ ancestor? t i c = some d ∧ sameName d.name b = true) ∨
      ∃ s ∈ c.interfaces, sameName s.name b = true := by
    rw [ClassInfo.isSubclassOf, Bool.or_eq_true, List.any_eq_true, List.any_eq_true]
    refine or_congr ⟨?_, ?_⟩ Iff.rfl
    · rintro ⟨d, hd, hname⟩
      obtain ⟨i, hi, hd⟩ := mem_chain.1 hd
      exact ⟨i, d, hi, hd, hname⟩
    · rintro ⟨i, d, hi, hd, hname⟩
      exact ⟨d, mem_chain.2 ⟨i, hi, hd⟩, hname⟩
  have nongeneric : (!(simple b).args.isEmpty || !(simple a).args.isEmpty) = false := rfl
  rw [isAssignable, ← fits, ← below]
  by_cases h : ((simple a).fitsExactly (simple b) || (simple b).isObject) = true
  · rw [if_pos h]
    exact iff_of_true rfl (.inl h)
  · rw [if_neg h, nongeneric, if_neg Bool.false_ne_true, or_iff_right h,
      show (simple a).name = a from rfl, hc]
    exact Iff.rfl

end DataType

namespace ClassTable

variable {t : ClassTable} {a b : String} {c : ClassInfo}

theorem ExtendsTo.parent? (h : t.ExtendsTo a b) (hc : t.resolve? a = some c) :
    ∃ d, t.resolve? b = some d ∧ c.parent? t = some d := by
  obtain ⟨c', hc', hs, hb⟩ := h
  obtain ⟨d, hd⟩ := Option.isSome_iff_exists.1 hb
  cases hc.symm.trans hc'
  refine ⟨d, hd, ?_⟩
  rw [ClassInfo.parent?, hs]
  exact hd

/-- What is extended over classes of the table itself is an ancestor of that name, and so near that a
chain reaches it. -/
theorem ancestor?_of_extendsTop (hc : t.resolve? a = some c) (h : ReflTransGen t.ExtendsTop a b) :
    a = b ∨ ∃ i d, i ≤ t.size ∧ ancestor? t i c = some d ∧ sameName d.name b = true := by
  suffices way : ∃ i d, ancestor? t i c = some d ∧ t.resolve? b = some d ∧
      ∀ j < i, ∀ e, ancestor? t (j + 1) c = some e → e ∈ t.classes by
    obtain ⟨i, d, hd, hb, hmem⟩ := way
    obtain ⟨k, hk, hd⟩ := ancestor?_near_of_mem hmem hd
    obtain heq | ⟨x, -, step⟩ := h.cases_tail
    · exact .inl heq.symm
    · rw [resolve?_undotted step.2] at hb
      exact .inr ⟨k, d, hk, hd, by simpa using List.find?_some hb⟩
  induction h with
  | refl => exact ⟨0, c, rfl, hc, nofun⟩
  | @tail x y _ step ih =>
    obtain ⟨i, d, hd, hx, hmem⟩ := ih
    obtain ⟨e, hy, hparent⟩ := step.1.parent? hx
    have last : ancestor? t (i + 1) c = some e := by
      rw [ancestor?_add, hd, Option.bind_some, ancestor?, hparent]
      rfl
    refine ⟨i + 1, e, last, hy, fun j hj f hf => ?_⟩
    rcases Nat.lt_succ_iff_lt_or_eq.1 hj with hj | rfl
    · exact hmem j hj f hf
    · cases last.symm.trans hf
      rw [resolve?_undotted step.2] at hy
      exact List.mem_of_find?_eq_some hy

end ClassTable

/-- **Values may be passed along `extends` clauses.** A value of a class may be passed for every type
that is reached from it over `extends` clauses that name classes of the table itself, however many,
and for every type that its class implements. The last part says for which types else: beside equal
types, `null` and `Object`, exactly for the simple names of the classes that so many `extends`
clauses lead to as the table has classes, and for the names of interfaces that the class itself
implements. -/
theorem assignable_along_extends (t : ClassTable) (a b : String) :
    (ReflTransGen t.ExtendsTop a b → (DataType.simple a).isAssignable t (.simple b) = true) ∧
    (t.ImplementsTo a b → (DataType.simple a).isAssignable t (.simple b) = true) ∧
    ∀ c, t.resolve? a = some c → ((DataType.simple a).isAssignable t (.simple b) = true ↔
      (sameName a "null" = true ∨ sameName a b = true ∨ sameName b "Object" = true) ∨
      (∃ i d, i ≤ t.size ∧ ancestor? t i c = some d ∧ sameName d.name b = true) ∨
      ∃ s ∈ c.interfaces, sameName s.name b = true) := by
  refine ⟨fun h => ?_, fun h => ?_, fun c hc => DataType.isAssignable_simple hc⟩
  · obtain rfl | ⟨x, step, -⟩ := h.cases_head
    · rw [DataType.isAssignable, DataType.fitsExactly, DataType.beq_refl, Bool.or_true,
        Bool.true_or, if_pos rfl]
    · obtain ⟨c, hc, -⟩ := step.1
      rw [DataType.isAssignable_simple hc]
      obtain rfl | near := ClassTable.ancestor?_of_extendsTop hc h
      · exact .inl (.inr (.inl (sameName_self a)))
      · exact .inr (.inl near)
  · obtain ⟨c, hc, hi, -⟩ := h
    exact (DataType.isAssignable_simple hc).2 (.inr (.inr ⟨_, hi, sameName_self b⟩))

/-- A class without type parameters, with these supertypes and members. -/
def bareClass (name : String) (superclass : Option String) (interfaces : List String)
    (members : List (Member ClassDecl)) : ClassDecl :=
  let ref (name : String) : TypeRef := ⟨⟨name, .unknown⟩, [], .unknown⟩
  ⟨.pub, [], ⟨name, .unknown⟩, superclass.map ref, interfaces.map ref, members, .unknown⟩

/-- A dog is an animal and a pet, and a puppy is a dog. -/
def kennel : ClassTable :=
  (Registration.registerAll .initial [bareClass "Animal" none [] [], bareClass "Pet" none [] [],
    bareClass "Dog" (some "Animal") ["Pet"] [], bareClass "Puppy" (some "Dog") [] []]).table

/-- A puppy may be passed for an animal, and a dog for a pet. -/
theorem assignable_along_extends_kennel :
    ReflTransGen kennel.ExtendsTop "Puppy" "Animal" ∧
    (DataType.simple "Puppy").isAssignable kennel (.simple "Animal") = true ∧
    kennel.ImplementsTo "Dog" "Pet" ∧
    (DataType.simple "Dog").isAssignable kennel (.simple "Pet") = true ∧
    ∃ c, kennel.resolve? "Puppy" = some c ∧
      ¬ ∃ i d, i ≤ kennel.size ∧ ancestor? kennel i c = some d ∧ sameName d.name "Pet" = true := by
  have puppy : kennel.ExtendsTop "Puppy" "Dog" := ⟨⟨_, rfl, rfl, rfl⟩, by decide⟩
  have dog : kennel.ExtendsTop "Dog" "Animal" := ⟨⟨_, rfl, rfl, rfl⟩, by decide⟩
  have way := ReflTransGen.tail (.single puppy) dog
  have pet : kennel.ImplementsTo "Dog" "Pet" := ⟨_, rfl, List.mem_singleton.2 rfl, rfl⟩
  refine ⟨way, (assignable_along_extends kennel _ _).1 way, pet,
    (assignable_along_extends kennel _ _).2.1 pet, _, rfl, fun near => ?_⟩
  have may := ((assignable_along_extends kennel "Puppy" "Pet").2.2 _ rfl).2 (.inr (.inl near))
  exact absurd may (by decide +kernel)

/-- **A declared supertype may be refused.** A class that extends an inner class may not be passed
for it, and a class may not be passed for an interface that its superclass implements. -/
theorem declared_supertype_refused :
    (∃ decls, let t := (Registration.registerAll .initial decls).table
      ReflTransGen t.Declares "Child" "Outer.Base" ∧
      (DataType.simple "Child").isAssignable t (.simple "Outer.Base") = false) ∧
    ReflTransGen kennel.Declares "Puppy" "Pet" ∧
    (DataType.simple "Puppy").isAssignable kennel (.simple "Pet") = false := by
  refine ⟨⟨[bareClass "Outer" none [] [.inner (bareClass "Base" none [] [])],
    bareClass "Child" (some "Outer.Base") [] []], ?_, by decide +kernel⟩, ?_, by decide +kernel⟩
  · exact .single (.inl ⟨_, rfl, rfl, rfl⟩)
  · exact .tail (.single (.inl ⟨_, rfl, rfl, rfl⟩)) (.inr ⟨_, rfl, List.mem_singleton.2 rfl, rfl⟩)

end ClassScript
