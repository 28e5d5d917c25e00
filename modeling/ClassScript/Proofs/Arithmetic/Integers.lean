import ClassScript.Proofs.Memory.Places
import Mathlib.Data.Int.ModEq

/-!
# Integer arithmetic

Integers are taken modulo 2^64, and each class has one Integer (`Operator.integer_eq_iff_modEq`). So
`+ - *` and negation are given by the exact results on the integers (`BinaryOp.onInts?`). Quotient
and remainder are those of division that truncates; only the quotient of the least Integer and -1 is
out of range.

An expression on operands that evaluate to Integers (`Calls.Integers`) ends as the operator does on
the numbers (`Calls.stepEval_integers`). The lemmas `Calls.stepEval_onInts`, `stepEval_neg`,
`stepEval_by_zero`, `stepEval_div` and `stepEval_rem` say how that is for each operator.
-/

namespace ClassScript

/-! ## Operators on Integers -/

/-- The operations on the integers that `+ - *` wrap. -/
def BinaryOp.onInts? : BinaryOp → Option (Int → Int → Int)
  | .add => some (· + ·)
  | .sub => some (· - ·)
  | .mul => some (· * ·)
  | _ => none

namespace Operator

/-- Integers are the same if they are congruent. -/
theorem integer_eq_iff_modEq {c d : Int64} : d = c ↔ d.toInt ≡ c.toInt [ZMOD 2 ^ 64] := by
  refine ⟨fun h => h ▸ Int.ModEq.refl _, fun h => ?_⟩
  have hc := c.le_toInt
  have hc' := c.toInt_lt
  have hd := d.le_toInt
  have hd' := d.toInt_lt
  unfold Int.ModEq at h
  rw [← Int64.toInt_inj]
  omega

/-- A wrapped operation is congruent to the exact one. -/
theorem integers_onInts {op : BinaryOp} {f : Int → Int → Int} (hop : op.onInts? = some f)
    (a b : Int64) (span : Span) :
    ∃ c, integers op a b span = .ok c ∧ c.toInt ≡ f a.toInt b.toInt [ZMOD 2 ^ 64] := by
  cases op <;> cases hop
  · exact ⟨a + b, rfl, Int64.toInt_add a b ▸ Int.bmod_emod⟩
  · exact ⟨a - b, rfl, Int64.toInt_sub a b ▸ Int.bmod_emod⟩
  · exact ⟨a * b, rfl, Int64.toInt_mul a b ▸ Int.bmod_emod⟩

theorem toInt_neg_modEq (a : Int64) : (-a).toInt ≡ -a.toInt [ZMOD 2 ^ 64] :=
  Int64.toInt_neg a ▸ Int.bmod_emod

/-- Quotient and remainder make up the dividend, in wrapping arithmetic. -/
theorem div_mul_add_mod (a b : Int64) : a / b * b + a % b = a := by
  have exact : a.toInt.tdiv b.toInt * b.toInt + a.toInt.tmod b.toInt = a.toInt := by
    rw [Int.mul_comm]
    exact Int.mul_tdiv_add_tmod ..
  rw [← Int64.toInt_inj, Int64.toInt_add, Int64.toInt_mul, Int64.toInt_div, Int64.toInt_mod,
    Int.bmod_mul_bmod, Int.bmod_add_bmod, exact]
  exact a.toInt_bmod

theorem natAbs_toInt_mod_lt (a : Int64) {b : Int64} (hb : b ≠ 0) :
    (a % b).toInt.natAbs < b.toInt.natAbs := by
  have hb' : b.toInt ≠ 0 := fun h => hb (Int64.toInt_inj.1 h)
  rw [Int64.toInt_mod, Int.natAbs_tmod]
  exact Nat.mod_lt _ (Int.natAbs_pos.2 hb')

/-- A remainder that is not zero has the sign of the dividend. -/
theorem mod_eq_zero_or_sign (a b : Int64) : a % b = 0 ∨ (a % b).toInt.sign = a.toInt.sign := by
  have hs := Int.sign_tmod a.toInt b.toInt
  rw [← Int64.toInt_mod] at hs
  split at hs
  · exact .inl (Int64.toInt_inj.1 (Int.sign_eq_zero_iff_zero.1 hs))
  · exact .inr hs

/-- Division truncates, and wraps for the one quotient that is out of range. -/
theorem div_truncates (a b : Int64) :
    if a = .minValue ∧ b = -1 then a / b = .minValue
    else (a / b).toInt = a.toInt.tdiv b.toInt := by
  split
  · rename_i h
    rw [h.1, h.2]
    rfl
  · rename_i h
    rcases not_and_or.1 h with ha | hb
    · exact Int64.toInt_div_of_ne_left a b ha
    · exact Int64.toInt_div_of_ne_right a b hb

section

variable {h : Heap} {u v : Value} {a b : Int64}

theorem requireObject_of_integer (ha : h.integer? u = some a) (span : Span) :
    requireObject u span = .ok () := by
  cases u with
  | null => cases ha
  | object id => rfl

theorem string?_of_integer (ha : h.integer? u = some a) : h.string? u = none := by
  unfold Heap.integer? at ha
  unfold Heap.string?
  split at ha
  · rename_i hp
    rw [hp]
  · cases ha

/-- Arithmetic on two Integers is integer arithmetic. -/
theorem binary_integers {op : BinaryOp} (hop : op = .add ∨ op.isNumeric = true)
    (ha : h.integer? u = some a) (hb : h.integer? v = some b) (span : Span) :
    binary h op u v span = (integers op a b span).map .integer := by
  have arith : arithmetic h op u v span = (integers op a b span).map .integer := by
    unfold arithmetic
    rw [requireObject_of_integer ha, requireObject_of_integer hb, ha, hb]
    rfl
  rcases hop with rfl | hop
  · show (if _ then _ else _) = _
    rw [string?_of_integer ha, string?_of_integer hb]
    exact arith
  · cases op <;> first | exact arith | cases hop

theorem negate_integer (ha : h.integer? u = some a) (span : Span) :
    negate h u span = .ok (.integer (-a)) := by
  unfold negate
  rw [requireObject_of_integer ha, ha]
  rfl

theorem step_integer (ha : h.integer? u = some a) (up : Bool) (span : Span) :
    step h u up span = .ok (.integer (a + if up then 1 else -1)) := by
  unfold step
  rw [requireObject_of_integer ha, ha]
  rfl

end

end Operator

/-! ## Evaluation -/

namespace Heap

/-- A new object has the native state that it is made with. -/
theorem payload?_alloc (h : Heap) (o : Object) :
    (h.alloc o).2.payload? (.object h.objects.size) = some o.payload :=
  congrArg (fun made : Object => some made.payload) (h.get_alloc_self o)

theorem integer?_alloc {h : Heap} {o : Object} {n : Int64} (ho : o.payload = .integer n) :
    (h.alloc o).2.integer? (.object h.objects.size) = some n := by
  simp only [integer?, payload?_alloc, ho]

end Heap

/-- The computation ends with an Integer. -/
def Run.GivesInteger (x : Run Value) (c : Int64) (m : Machine) : Prop :=
  ∃ v m', x m = .ok v m' ∧ m'.world.heap.integer? v = some c

namespace Calls

variable {env : Env} {calls : Calls} {m m' : Machine} {a b : Int64}

/-- The operands evaluate to Integers, the left one first. -/
def Integers (calls : Calls) (left right : Expr) (a b : Int64) (m m' : Machine) : Prop :=
  ∃ u v m₁, calls.eval left m = .ok u m₁ ∧ calls.eval right m₁ = .ok v m' ∧
    m'.world.heap.integer? u = some a ∧ m'.world.heap.integer? v = some b

/-- The machine in which there is one more object. -/
theorem constant_integer (n : Int64) (m : Machine) :
    ∃ o, o.payload = .integer n ∧ constant env (.integer n) m =
      .ok (.object m.world.heap.objects.size) (m.withHeap (m.world.heap.alloc o).2) :=
  ⟨.make env.prims.integer [] (.integer n), rfl, rfl⟩

theorem constant_givesInteger (n : Int64) (m : Machine) :
    (constant env (.integer n)).GivesInteger n m := by
  obtain ⟨o, ho, hrun⟩ := constant_integer n m
  exact ⟨_, _, hrun, Heap.integer?_alloc ho⟩

/-- A binary expression on Integers ends as integer arithmetic does. -/
theorem stepEval_integers {op : BinaryOp} (hop : op = .add ∨ op.isNumeric = true)
    {left right : Expr} (h : calls.Integers left right a b m m') (span : Span) :
    calls.stepEval env (.binary op left right span) m =
      (Run.ofExcept (Operator.integers op a b span) >>= fun c => constant env (.integer c)) m' := by
  obtain ⟨u, v, m₁, hl, hr, ha, hb⟩ := h
  have hlogical : ¬ op.isLogical = true := by
    rcases hop with rfl | hop
    · decide
    · cases op <;> first | decide | cases hop
  show (if op.isLogical then _ else _ : Run Value) m = _
  rw [if_neg hlogical, Run.bind_ok hl, Run.bind_ok hr]
  show (Run.ofExcept (Operator.binary m'.world.heap op u v span) >>= constant env) m' = _
  rw [Operator.binary_integers hop ha hb]
  cases Operator.integers op a b span <;> rfl

/-- `+ - *` give the Integer that is congruent to the exact result. -/
theorem stepEval_onInts {op : BinaryOp} {f : Int → Int → Int} (hop : op.onInts? = some f)
    {left right : Expr} (h : calls.Integers left right a b m m') (span : Span) :
    ∃ c, (calls.stepEval env (.binary op left right span)).GivesInteger c m ∧
      ∀ d : Int64, d = c ↔ d.toInt ≡ f a.toInt b.toInt [ZMOD 2 ^ 64] := by
  have hop' : op = .add ∨ op.isNumeric = true := by
    cases op <;> first | exact .inl rfl | exact .inr rfl | cases hop
  obtain ⟨c, hc, hmod⟩ := Operator.integers_onInts hop a b span
  refine ⟨c, ?_, fun d => ?_⟩
  · unfold Run.GivesInteger
    rw [stepEval_integers hop' h, hc]
    exact constant_givesInteger c m'
  · rw [Operator.integer_eq_iff_modEq]
    exact ⟨fun h => h.trans hmod, fun h => h.trans hmod.symm⟩

theorem stepEval_neg {e : Expr} {u : Value} (he : calls.eval e m = .ok u m')
    (ha : m'.world.heap.integer? u = some a) (span : Span) :
    ∃ c, (calls.stepEval env (.unary .neg e span)).GivesInteger c m ∧
      ∀ d : Int64, d = c ↔ d.toInt ≡ -a.toInt [ZMOD 2 ^ 64] := by
  have hmod := Operator.toInt_neg_modEq a
  refine ⟨-a, ?_, fun d => ?_⟩
  · show Run.GivesInteger (calls.eval e >>= fun v => Run.heap >>= fun h =>
      Run.ofExcept (Operator.negate h v span) >>= constant env) (-a) m
    unfold Run.GivesInteger
    rw [Run.bind_ok he, Run.heap_bind, Operator.negate_integer ha]
    exact constant_givesInteger (-a) m'
  · rw [Operator.integer_eq_iff_modEq]
    exact ⟨fun h => h.trans hmod, fun h => h.trans hmod.symm⟩

/-- Division and remainder by zero are faults. -/
theorem stepEval_by_zero {op : BinaryOp} (hop : op = .div ∨ op = .rem) {left right : Expr}
    (h : calls.Integers left right a 0 m m') (span : Span) :
    calls.stepEval env (.binary op left right span) m =
      .error (.fault (.divisionByZero span)) m' := by
  rcases hop with rfl | rfl <;> rw [stepEval_integers (.inr rfl) h] <;> rfl

theorem stepEval_div (hb : b ≠ 0) {left right : Expr} (h : calls.Integers left right a b m m')
    (span : Span) : (calls.stepEval env (.binary .div left right span)).GivesInteger (a / b) m := by
  have hdiv : Operator.integers .div a b span = .ok (a / b) := if_neg hb
  unfold Run.GivesInteger
  rw [stepEval_integers (.inr rfl) h, hdiv]
  exact constant_givesInteger _ m'

theorem stepEval_rem (hb : b ≠ 0) {left right : Expr} (h : calls.Integers left right a b m m')
    (span : Span) : (calls.stepEval env (.binary .rem left right span)).GivesInteger (a % b) m := by
  have hrem : Operator.integers .rem a b span = .ok (a % b) := if_neg hb
  unfold Run.GivesInteger
  rw [stepEval_integers (.inr rfl) h, hrem]
  exact constant_givesInteger _ m'

end Calls

end ClassScript
