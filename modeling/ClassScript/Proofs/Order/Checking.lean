import ClassScript.Proofs.Class.Alike
import ClassScript.Proofs.Spelling.CheckedClasses
import ClassScript.Proofs.Typing.Sites

/-!
# Checking tables that look alike

Checking reads a table through look-ups only, so in a table that looks alike a class is checked in
the same way (`Typing.checkClass_alike`). What it reports does not depend on the classes checked
before (`Typing.checkTable_errors`): the errors of a table are those of its classes, one class after
the other.
-/

namespace ClassScript

open Typing

/-! ## Classes -/

theorem ClassTable.Alike.like {t t' : ClassTable} (ha : t.Alike t') : t.Like .outlined t' where
  get? hn := by
    rw [ha.get?, ← t.get?_congr hn]
    exact rel_refl ClassInfo.Like.outlined_refl _
  size := ha.size.symm

/-- A class is checked in the same way. -/
theorem Typing.checkClass_alike {t t' : ClassTable} (ha : t.Alike t') (c : ClassInfo) :
    checkClass t' c = checkClass t c :=
  (checkClass_outlined ha.like c).symm

/-! ## The errors of a table -/

namespace Check

/-- From every state, `x` adds the same errors. -/
def Adds (new : List CheckError) (x : Check Unit) : Prop :=
  ∀ s, (x s).2.errors = s.errors ++ new

theorem Adds.pure : Adds [] (Pure.pure ()) := fun _ => (List.append_nil _).symm

theorem Adds.bind {new more : List CheckError} {x : Check Unit} {f : Unit → Check Unit}
    (hx : Adds new x) (hf : Adds more (f ())) : Adds (new ++ more) (x >>= f) := by
  intro s
  show (f (x s).1 (x s).2).2.errors = _
  rw [hf, hx, List.append_assoc]

theorem Adds.forM {α : Type} {f : α → Check Unit} (hf : ∀ a, ∃ new, Adds new (f a)) :
    ∀ as : List α, ∃ new, Adds new (as.forM f)
  | [] => ⟨[], Adds.pure⟩
  | a :: as => by
    obtain ⟨new, hnew⟩ := hf a
    obtain ⟨more, hmore⟩ := Adds.forM hf as
    exact ⟨new ++ more, Adds.bind (f := fun _ => as.forM f) hnew hmore⟩

theorem Adds.eq {new : List CheckError} {x : Check Unit} (h : Adds new x) :
    new = (x {}).2.errors := (h {}).symm

/-- What starts without local variables and loops does not depend on what was checked before. -/
theorem Blind.exists_adds {x : Check Unit} (h : Blind x)
    (hstart : ∀ s, (x s).2.errors = (x (memberStart s)).2.errors) : ∃ new, Adds new x := by
  obtain ⟨new, hnew, -⟩ := h.adds (.refl {})
  refine ⟨new, fun s => ?_⟩
  have like : CheckState.Like {} (memberStart s) := ⟨rfl, rfl⟩
  obtain ⟨more, hempty, hs⟩ := h.adds like
  rw [hnew, List.nil_append, List.nil_append] at hempty
  rw [hstart, hempty]
  exact hs

end Check

namespace Typing

open Check (Adds Blind)

variable (t : ClassTable)

theorem checkField_adds (c : ClassInfo) (f : FieldInfo) : ∃ new, Adds new (checkField t c f) :=
  (checkField_blind t c f).exists_adds fun _ => rfl

theorem checkMethod_adds (c : ClassInfo) (k : MethodInfo) :
    ∃ new, Adds new (checkMethod t c k) := by
  refine (checkMethod_blind t c k).exists_adds fun s => ?_
  unfold checkMethod
  cases k.body <;> rfl

mutual

theorem checkClass_adds : ∀ c : ClassInfo, ∃ new, Adds new (checkClass t c)
  | ⟨name, outer, modifiers, annotations, superclass, interfaces, typeParams, instanceFields,
      staticFields, instanceMethods, staticMethods, constructors, inner, span⟩ => by
    obtain ⟨new₁, h₁⟩ := Adds.forM (checkField_adds t _) instanceFields.values
    obtain ⟨new₂, h₂⟩ := Adds.forM (checkField_adds t _) staticFields.values
    obtain ⟨new₃, h₃⟩ := Adds.forM (checkMethod_adds t _) constructors
    obtain ⟨new₄, h₄⟩ := Adds.forM (checkMethod_adds t _) instanceMethods.all
    obtain ⟨new₅, h₅⟩ := Adds.forM (checkMethod_adds t _) staticMethods.all
    obtain ⟨new₆, h₆⟩ := checkClasses_adds inner
    rw [checkClass]
    exact ⟨_, h₁.bind (h₂.bind (h₃.bind (h₄.bind (h₅.bind h₆))))⟩

theorem checkClasses_adds : ∀ cs : List ClassInfo, ∃ new, Adds new (checkClasses t cs)
  | [] => by
    rw [checkClasses]
    exact ⟨[], Adds.pure⟩
  | c :: cs => by
    obtain ⟨new, hnew⟩ := checkClass_adds c
    obtain ⟨more, hmore⟩ := checkClasses_adds cs
    rw [checkClasses]
    exact ⟨new ++ more, hnew.bind hmore⟩

end

/-- The errors of a class, whatever is checked before it. -/
def classErrors (c : ClassInfo) : List CheckError := (checkClass t c {}).2.errors

/-- The classes report one after the other. -/
theorem checkClasses_errors : ∀ cs : List ClassInfo,
    Adds (cs.flatMap (classErrors t)) (checkClasses t cs)
  | [] => by
    rw [checkClasses]
    exact Adds.pure
  | c :: cs => by
    obtain ⟨new, hnew⟩ := checkClass_adds t c
    rw [checkClasses, List.flatMap_cons, classErrors, ← hnew.eq]
    exact hnew.bind (checkClasses_errors cs)

/-- **The errors of a table are those of its classes.** -/
theorem checkTable_errors : (checkTable t).1 = t.classes.flatMap (classErrors t) :=
  checkClasses_errors t t.classes {}

theorem classErrors_alike {t t' : ClassTable} (ha : t.Alike t') (c : ClassInfo) :
    classErrors t' c = classErrors t c := by
  unfold classErrors
  rw [checkClass_alike ha]

end Typing

end ClassScript
