import ClassScript.Double
import ClassScript.Text.IntegerLiteral

/-! # Map keys

Scalars as keys of maps. Keys are ordered: `null`, then Booleans, Integers, Doubles and Strings,
each kind by its own order. Two Doubles are the same key if their order keys are equal, so the zeros
are one key, and so is everything that is not a number. -/

namespace ClassScript

/-- A scalar as a key. -/
inductive MapKey where
  | null
  | boolean (value : Bool)
  | integer (value : Int64)
  | double (value : Double)
  | string (value : String)
deriving DecidableEq

namespace MapKey

/-- The place of a kind of keys among the kinds. -/
def rank : MapKey → Nat
  | null => 0
  | boolean _ => 1
  | integer _ => 2
  | double _ => 3
  | string _ => 4

/-- The order of keys. Strings are ordered by code points. -/
def cmp : MapKey → MapKey → Ordering
  | boolean a, boolean b => compare a.toNat b.toNat
  | integer a, integer b => compare a.toInt b.toInt
  | double a, double b => compare a.orderKey b.orderKey
  | string a, string b => compareOfLessAndEq a b
  | a, b => compare a.rank b.rank

/-- A key as it is shown. -/
def text : MapKey → String
  | null => "null"
  | boolean b => if b then "true" else "false"
  | integer n => Text.integerText n
  | double x => x.text
  | string s => s

end MapKey

end ClassScript
