import ClassScript.Text.Blank

/-! # Integer literals

The text of a 64-bit integer and its reading: an optional sign and at least one decimal digit, with
white space allowed around them, denoting a value in range. -/

namespace ClassScript.Text

/-- A 64-bit integer in decimal. -/
def integerText (n : Int64) : String := toString n.toInt

/-- The value of a decimal digit. -/
def digitValue? (c : Char) : Option Nat :=
  if '0' ≤ c && c ≤ '9' then some (c.toNat - '0'.toNat) else none

/-- The value of a row of digits read after `acc`. -/
def readDigits? (acc : Nat) : List Char → Option Nat
  | [] => some acc
  | c :: cs =>
    match digitValue? c with
    | some d => readDigits? (10 * acc + d) cs
    | none => none

/-- The value of at least one digit. -/
def readNat? : List Char → Option Nat
  | [] => none
  | cs => readDigits? 0 cs

/-- The value of digits after an optional sign. -/
def readInt? : List Char → Option Int
  | '+' :: cs => (readNat? cs).map Int.ofNat
  | '-' :: cs => (readNat? cs).map fun n => -Int.ofNat n
  | cs => (readNat? cs).map Int.ofNat

/-- The 64-bit integer that a text without surrounding white space denotes. -/
def readInt64? (cs : List Char) : Option Int64 :=
  match readInt? cs with
  | some n =>
    if Int64.minValue.toInt ≤ n ∧ n ≤ Int64.maxValue.toInt then some (Int64.ofInt n) else none
  | none => none

/-- The 64-bit integer that a text denotes. -/
def integer? (s : String) : Option Int64 := readInt64? (trimChars s.toList)

end ClassScript.Text
