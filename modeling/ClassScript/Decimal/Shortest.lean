/-! # Shortest decimals

A positive binary number `m * 2 ^ q` stands for an interval of reals, those that round to it. This
module finds the decimal with the fewest digits inside that interval, and of those the nearest to
the number itself; of two equally near the larger. Everything is exact `Nat` arithmetic: the number
and the ends of its interval are written as multiples of `10 ^ -1074 / 4`, which every double is. -/

namespace ClassScript

/-- A positive decimal: its digits, without trailing zeros, and the power of ten of the first. -/
structure Decimal where
  digits : List Char
  exponent : Int
deriving DecidableEq, Repr

namespace Decimal

/-- The greatest number of binary places of a double. -/
def places : Nat := 1074

/-- A positive number between the two ends of the reals that round to it, all in the same unit. -/
structure Interval where
  low : Nat
  value : Nat
  high : Nat
  /-- Whether the ends themselves round to the number. -/
  closed : Bool

namespace Interval

/-- Whether a multiple of the unit rounds to the number. -/
def contains (i : Interval) (n : Nat) : Bool :=
  if i.closed then i.low ≤ n && n ≤ i.high else i.low < n && n < i.high

/-- The interval of `m * 2 ^ (e - 1074)` in units of `10 ^ -1074 / 4`. The lower neighbour is at
half the distance when `m` is the least of its binade. -/
def ofBinary (m e : Nat) (halfBelow : Bool) : Interval :=
  let unit := Nat.pow 5 places <<< e
  { low := (4 * m - if halfBelow then 1 else 2) * unit
    value := 4 * m * unit
    high := (4 * m + 2) * unit
    closed := m % 2 = 0 }

/-- The multiple of `grid` inside the interval that is nearest to the number; of two the upper. -/
def nearest? (i : Interval) (grid : Nat) : Option Nat :=
  let below := i.value / grid * grid
  let above := below + grid
  match i.contains below, i.contains above with
  | true, true => if i.value - below < above - i.value then some below else some above
  | true, false => some below
  | false, true => some above
  | false, false => none

/-- The first of the grids that has a multiple inside the interval, as that multiple. -/
def firstNearest (i : Interval) : List Nat → Nat
  | [] => i.value
  | grid :: grids =>
    match i.nearest? grid with
    | some n => n
    | none => firstNearest i grids

end Interval

/-- The decimal digits of a number. -/
def digitsOf (n : Nat) : List Char := Nat.toDigits 10 n

/-- The digits without the zeros at their end. -/
def dropTrailingZeros (ds : List Char) : List Char :=
  (ds.reverse.dropWhile (· = '0')).reverse

/-- The most digits a double needs. -/
def maxDigits : Nat := 17

/-- The shortest decimal that rounds to `m * 2 ^ (e - 1074)`, for `m` positive. -/
def shortest (m e : Nat) (halfBelow : Bool) : Decimal :=
  let i := Interval.ofBinary m e halfBelow
  let size := (digitsOf (i.value / 4)).length
  let grids := (List.range maxDigits).map fun n => 4 * Nat.pow 10 (size - 1 - n)
  let ds := digitsOf (i.firstNearest grids / 4)
  { digits := dropTrailingZeros ds, exponent := (ds.length : Int) - 1 - places }

end Decimal

end ClassScript
