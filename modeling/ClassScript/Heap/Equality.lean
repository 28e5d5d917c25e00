import ClassScript.Heap.MapEntries

/-! # Equality of values

Two references to one object are equal. Otherwise scalars and dates are equal by content, Integers
and Doubles by their numbers, lists and maps item by item, and nothing else is. Below a depth of
nesting only one and the same object is equal to itself, so that cyclic collections can be compared.
-/

namespace ClassScript

/-- How deep collections are looked into. -/
def maxNesting : Nat := 64

namespace Heap

/-- Whether a relation holds between two lists, position by position. -/
def allPairs (rel : Value → Value → Bool) : List Value → List Value → Bool
  | [], [] => true
  | a :: as, b :: bs => rel a b && allPairs rel as bs
  | _, _ => false

/-- Whether every entry has a partner of the same key whose value is related. -/
def allEntries (rel : Value → Value → Bool) (entries others : List MapEntry) : Bool :=
  entries.length = others.length &&
    entries.all fun e =>
      match MapEntries.get? others e.key with
      | some v => rel e.value v
      | none => false

/-- Equality of native state, given the equality of values inside it. -/
def payloadEquals (rel : Value → Value → Bool) : Payload → Payload → Bool
  | .integer a, .integer b => a = b
  | .integer a, .double b => (Double.ofInt64 a).equals b
  | .double a, .integer b => a.equals (.ofInt64 b)
  | .double a, .double b => a.equals b
  | .boolean a, .boolean b => a = b
  | .string a, .string b => a = b
  | .date a, .date b => a = b
  | .list a, .list b => allPairs rel a.toList b.toList
  | .map a, .map b => allEntries rel a b
  | _, _ => false

/-- Equality of values that looks `n` levels deep. -/
def equalsUpTo (h : Heap) : Nat → Value → Value → Bool
  | 0, a, b => a = b
  | n + 1, a, b =>
    a = b ||
      match a, b with
      | .object i, .object j => payloadEquals (equalsUpTo h n) (h.get i).payload (h.get j).payload
      | _, _ => false

/-- Equality of values. -/
def equals (h : Heap) (a b : Value) : Bool := h.equalsUpTo maxNesting a b

end Heap

end ClassScript
