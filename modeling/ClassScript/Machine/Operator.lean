import ClassScript.Heap.Display
import ClassScript.Program.Expr

/-! # Operators on values

What operators compute from values, as constants that are yet to become objects. Integer arithmetic
wraps; an Integer and a Double are computed as Doubles; division and remainder by zero are faults
for both. -/

namespace ClassScript.Operator

/-- The Boolean behind a condition. -/
def truth (h : Heap) (v : Value) (span : Span) : Except RuntimeError Bool :=
  match v with
  | .null => .error (.nullReference span)
  | .object id =>
    match h.boolean? v with
    | some b => .ok b
    | none => .error (.native ((h.get id).mismatch "Boolean"))

/-- Refuses `null`. -/
def requireObject (v : Value) (span : Span) : Except RuntimeError Unit :=
  match v with
  | .null => .error (.nullReference span)
  | .object _ => .ok ()

/-- The number behind a value. -/
def number (h : Heap) (v : Value) : Except RuntimeError Double :=
  match h.double? v with
  | some x => .ok x
  | none =>
    match v with
    | .null => .error (.nullReference .unknown)
    | .object id => .error (.native ((h.get id).mismatch "Integer or Double"))

/-- Integer arithmetic. -/
def integers (op : BinaryOp) (a b : Int64) (span : Span) : Except RuntimeError Int64 :=
  match op with
  | .add => .ok (a + b)
  | .sub => .ok (a - b)
  | .mul => .ok (a * b)
  | .div => if b = 0 then .error (.divisionByZero span) else .ok (a / b)
  | _ => if b = 0 then .error (.divisionByZero span) else .ok (a % b)

/-- Double arithmetic. -/
def doubles (op : BinaryOp) (a b : Double) (span : Span) : Except RuntimeError Double :=
  match op with
  | .add => .ok (a.add b)
  | .sub => .ok (a.sub b)
  | .mul => .ok (a.mul b)
  | .div => if b.isZero then .error (.divisionByZero span) else .ok (a.div b)
  | _ => if b.isZero then .error (.divisionByZero span) else .ok (a.rem b)

/-- `+ - * / %` on numbers. -/
def arithmetic (h : Heap) (op : BinaryOp) (left right : Value) (span : Span) :
    Except RuntimeError Literal := do
  requireObject left span
  requireObject right span
  match h.integer? left, h.integer? right with
  | some a, some b => return .integer (← integers op a b span)
  | _, _ =>
    let a ← number h left
    let b ← number h right
    return .double (← doubles op a b span)

/-- The order of two texts or two numbers; absent if one is not a number. -/
def order (h : Heap) (left right : Value) (span : Span) :
    Except RuntimeError (Option Ordering) := do
  requireObject left span
  requireObject right span
  match h.string? left, h.string? right with
  | some a, some b => return some (compareOfLessAndEq a b)
  | _, _ =>
    match h.integer? left, h.integer? right with
    | some a, some b => return some (compare a.toInt b.toInt)
    | _, _ =>
      let a ← number h left
      let b ← number h right
      return a.compare? b

/-- Whether an order is what a relational operator asks for. -/
def holds (op : BinaryOp) : Option Ordering → Bool
  | some .lt => op = .less || op = .lessEqual
  | some .eq => op = .lessEqual || op = .greaterEqual
  | some .gt => op = .greater || op = .greaterEqual
  | none => false

/-- A binary operator on two values that are both there. A sum with a text in it concatenates. -/
def binary (h : Heap) (op : BinaryOp) (left right : Value) (span : Span) :
    Except RuntimeError Literal :=
  match op with
  | .equal => .ok (.boolean (h.equals left right))
  | .notEqual => .ok (.boolean (!h.equals left right))
  | .less | .lessEqual | .greater | .greaterEqual => do
    return .boolean (holds op (← order h left right span))
  | .and => do
    if ← truth h left span then return .boolean (← truth h right span)
    else return .boolean false
  | .or => do
    if ← truth h left span then return .boolean true
    else return .boolean (← truth h right span)
  | .add =>
    if (h.string? left).isSome || (h.string? right).isSome then
      .ok (.string (h.display left ++ h.display right))
    else arithmetic h op left right span
  | .sub | .mul | .div | .rem => arithmetic h op left right span

/-- The number with the opposite sign. -/
def negate (h : Heap) (v : Value) (span : Span) : Except RuntimeError Literal := do
  requireObject v span
  match h.integer? v with
  | some n => return .integer (-n)
  | none => return .double (← number h v).neg

/-- The number after a step of one, up or down. -/
def step (h : Heap) (v : Value) (up : Bool) (span : Span) : Except RuntimeError Literal := do
  let delta : Int64 := if up then 1 else -1
  requireObject v span
  match h.integer? v with
  | some n => return .integer (n + delta)
  | none => return .double ((← number h v).add (.ofInt64 delta))

end ClassScript.Operator
