import ClassScript.Proofs.Resolution.Site

/-!
# The walk of checking, errors or not

`Typing.Visits cx x s y s'`: checking the code `x` from the state `s` comes to the code `y` in the
state `s'`. Other than `Typing.Checks` it goes through code with errors too, such as a name that is
declared twice or a target that cannot be assigned.
-/

namespace ClassScript

namespace Typing

/-- What checking a piece of code checks in turn; a target that cannot be assigned is reported and
not checked. -/
def Code.checkedParts (cx : CheckContext) : Code → CheckState → List (Code × CheckState)
  | .expr _ (.assign _ target value _), s =>
    if target.isAssignable then valueParts cx [target, value] s
    else [(.expr .value value, (Check.report .notAssignable target.span s).2)]
  | x, s => x.parts cx s

/-- Checking `x` from `s` comes to `y` in the state `s'` (module doc). -/
inductive Visits (cx : CheckContext) (x : Code) (s : CheckState) : Code → CheckState → Prop
  | here : Visits cx x s x s
  | part {y z : Code} {s' s'' : CheckState} :
    Visits cx x s y s' → (z, s'') ∈ y.checkedParts cx s' → Visits cx x s z s''

/-- Code that checking comes to, with the states it does so in. -/
structure Walk (cx : CheckContext) (V : Code → CheckState → Prop) : Prop where
  part : ∀ {x y s s'}, V x s → (y, s') ∈ x.checkedParts cx s → V y s'
  stacked : ∀ {x s}, V x s → Stacked s

variable {cx : CheckContext}

theorem Code.checkedParts_stacked {x y : Code} {s s' : CheckState} (h : Stacked s)
    (hy : (y, s') ∈ x.checkedParts cx s) : Stacked s' := by
  unfold checkedParts at hy
  split at hy
  · split at hy
    · exact h.of_scope (valueParts_scope hy)
    · obtain ⟨rfl, rfl⟩ := Prod.mk.inj (List.mem_singleton.1 hy)
      exact h
  · exact Code.parts_stacked h hy

theorem visits_walk {x : Code} {s : CheckState} (h : Stacked s) : Walk cx (Visits cx x s) where
  part := .part
  stacked hv := by
    induction hv with
    | here => exact h
    | part _ hy ih => exact Code.checkedParts_stacked ih hy

theorem Visits.trans {x y z : Code} {s s' s'' : CheckState} (h : Visits cx x s y s')
    (h' : Visits cx y s' z s'') : Visits cx x s z s'' := by
  induction h' with
  | here => exact h
  | part _ hz ih => exact .part ih hz

/-- Code that is reached through a part. -/
theorem Visits.head {x y z : Code} {s s' s'' : CheckState} (hy : (y, s') ∈ x.checkedParts cx s)
    (h : Visits cx y s' z s'') : Visits cx x s z s'' :=
  Visits.trans (.part .here hy) h

/-! ## Operands -/

/-- The operands of an expression are checked with it, but for a target that cannot be assigned. -/
theorem Walk.operand {V : Code → CheckState → Prop} {role : Role} {e p : Expr} {s : CheckState}
    (hV : Walk cx V) (h : V (.expr role e) s) (hp : p ∈ e.operands)
    (ht : ∀ op target value span, e = .assign op target value span →
      target.isAssignable = true ∨ p = value) :
    ∃ role' s', V (.expr role' p) s' ∧ s'.scope = s.scope := by
  have whole : (Code.expr role e).checkedParts cx s = exprParts cx e s →
      ∃ role' s', V (.expr role' p) s' ∧ s'.scope = s.scope := by
    intro hparts
    obtain ⟨role', s', hy⟩ := mem_exprParts cx s hp
    exact ⟨role', s', hV.part h (hparts ▸ hy), exprParts_scope hy⟩
  cases e with
  | assign op target value span =>
    by_cases ha : target.isAssignable
    · exact whole (if_pos ha)
    · obtain rfl := (ht op target value span rfl).resolve_left (by simp [ha])
      refine ⟨.value, (Check.report .notAssignable target.span s).2, hV.part h ?_, rfl⟩
      simp [Code.checkedParts, ha]
  | _ => exact whole rfl

end Typing

end ClassScript
