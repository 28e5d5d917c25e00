import ClassScript.Machine.Operator
import ClassScript.Machine.Place

/-!
# How operators fail

Every operator and every list index fails with one of the faults of `OperandFault`: an operand that
is `null`, a division by zero, native state of the wrong kind, or an index that is no position.
None of them is about names, frames or classes.
-/

namespace ClassScript

/-- The faults that computing with values can raise. -/
inductive OperandFault : RuntimeError → Prop
  | null (span : Span) : OperandFault (.nullReference span)
  | zero (span : Span) : OperandFault (.divisionByZero span)
  | native (error : NativeError) : OperandFault (.native error)
  | bounds (index : Int64) (len : Nat) (span : Span) : OperandFault (.indexOutOfBounds index len span)
  | index (key : String) (span : Span) : OperandFault (.invalidListIndex key span)

/-- Every error of `x` is the fault of an operand. -/
def FaultsOnOperands {α : Type} (x : Except RuntimeError α) : Prop :=
  ∀ e, x = .error e → OperandFault e

namespace FaultsOnOperands

variable {α β : Type}

theorem ok (a : α) : FaultsOnOperands (.ok a) := by
  intro e h
  cases h

theorem error {e : RuntimeError} (h : OperandFault e) : FaultsOnOperands (.error e : Except _ α) := by
  intro e' h'
  cases h'
  exact h

theorem bind {x : Except RuntimeError α} {f : α → Except RuntimeError β} (hx : FaultsOnOperands x)
    (hf : ∀ a, FaultsOnOperands (f a)) : FaultsOnOperands (x >>= f) := by
  cases x with
  | error e => exact error (hx e rfl)
  | ok a => exact hf a

end FaultsOnOperands

namespace Operator

open FaultsOnOperands

theorem truth_faults (h : Heap) (v : Value) (span : Span) : FaultsOnOperands (truth h v span) := by
  unfold truth
  split
  · exact error (.null span)
  · split
    · exact ok _
    · exact error (.native _)

theorem requireObject_faults (v : Value) (span : Span) :
    FaultsOnOperands (requireObject v span) := by
  cases v with
  | null => exact error (.null span)
  | object id => exact ok ()

theorem number_faults (h : Heap) (v : Value) : FaultsOnOperands (number h v) := by
  unfold number
  split
  · exact ok _
  · split
    · exact error (.null _)
    · exact error (.native _)

theorem integers_faults (op : BinaryOp) (a b : Int64) (span : Span) :
    FaultsOnOperands (integers op a b span) := by
  unfold integers
  split <;> first | exact ok _ | skip
  all_goals
    split
    · exact error (.zero span)
    · exact ok _

theorem doubles_faults (op : BinaryOp) (a b : Double) (span : Span) :
    FaultsOnOperands (doubles op a b span) := by
  unfold doubles
  split <;> first | exact ok _ | skip
  all_goals
    split
    · exact error (.zero span)
    · exact ok _

theorem arithmetic_faults (h : Heap) (op : BinaryOp) (l r : Value) (span : Span) :
    FaultsOnOperands (arithmetic h op l r span) := by
  unfold arithmetic
  refine bind (requireObject_faults l span) fun _ => bind (requireObject_faults r span) fun _ => ?_
  split
  · exact bind (integers_faults _ _ _ _) fun _ => ok _
  · exact bind (number_faults h l) fun _ => bind (number_faults h r) fun _ =>
      bind (doubles_faults _ _ _ _) fun _ => ok _

theorem order_faults (h : Heap) (l r : Value) (span : Span) :
    FaultsOnOperands (order h l r span) := by
  unfold order
  refine bind (requireObject_faults l span) fun _ => bind (requireObject_faults r span) fun _ => ?_
  split
  · exact ok _
  · split
    · exact ok _
    · exact bind (number_faults h l) fun _ => bind (number_faults h r) fun _ => ok _

theorem binary_faults (h : Heap) (op : BinaryOp) (l r : Value) (span : Span) :
    FaultsOnOperands (binary h op l r span) := by
  cases op with
  | equal | notEqual => exact ok _
  | less | lessEqual | greater | greaterEqual => exact bind (order_faults h l r span) fun _ => ok _
  | and | or =>
    refine bind (truth_faults h l span) fun b => ?_
    cases b
    all_goals first | exact ok _ | exact bind (truth_faults h r span) fun _ => ok _
  | add =>
    unfold binary
    dsimp only
    split
    · exact ok _
    · exact arithmetic_faults h _ l r span
  | sub | mul | div | rem => exact arithmetic_faults h _ l r span

theorem negate_faults (h : Heap) (v : Value) (span : Span) : FaultsOnOperands (negate h v span) := by
  unfold negate
  refine bind (requireObject_faults v span) fun _ => ?_
  split
  · exact ok _
  · exact bind (number_faults h v) fun _ => ok _

theorem step_faults (h : Heap) (v : Value) (up : Bool) (span : Span) :
    FaultsOnOperands (step h v up span) := by
  unfold step
  refine bind (requireObject_faults v span) fun _ => ?_
  split
  · exact ok _
  · exact bind (number_faults h v) fun _ => ok _

end Operator

open FaultsOnOperands in
theorem Calls.listSlot_faults (h : Heap) (key : Value) (len : Nat) (keySpan span : Span) :
    FaultsOnOperands (listSlot h key len keySpan span) := by
  have position : ∀ v, FaultsOnOperands (listPosition h v keySpan) := by
    intro v
    unfold listPosition
    split
    · exact ok _
    · split
      · exact error (.native _)
      · split
        · exact ok _
        · exact error (.index _ _)
  cases key with
  | null => exact error (.null keySpan)
  | object id =>
    refine bind (position _) fun n => ?_
    split
    · exact ok _
    · exact error (.bounds _ _ _)

end ClassScript
