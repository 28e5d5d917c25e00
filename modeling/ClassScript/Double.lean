import ClassScript.Decimal.Shortest

/-! # Doubles

Binary floating-point numbers of 64 bits, kept as their bit patterns. Order, equality, remainder and
truncation are computed exactly from the bits; sums, differences, products and quotients are those
of `Float`. -/

namespace ClassScript

/-- A 64-bit floating-point number. -/
structure Double where
  bits : UInt64
deriving DecidableEq, Repr, Inhabited

namespace Double

/-! ## Parts of the bit pattern -/

/-- Whether the sign bit is set. -/
def isNegative (x : Double) : Bool := x.bits >>> 63 == 1

/-- The bit of the sign. -/
def signBit : Nat := 1 <<< 63

/-- The leading bit of a mantissa, which most bit patterns leave out. -/
def leadingBit : Nat := 1 <<< 52

/-- The bits below the sign, as a number. -/
def magnitude (x : Double) : Nat := x.bits.toNat % signBit

/-- The magnitude of the infinities; larger magnitudes are not numbers. -/
def infinity : Nat := 0x7ff <<< 52

def isNaN (x : Double) : Bool := infinity < x.magnitude
def isInfinite (x : Double) : Bool := x.magnitude = infinity
def isZero (x : Double) : Bool := x.magnitude = 0

/-- The number of binary places dropped from the finest grid: a finite number is
`mantissa * 2 ^ (scale - 1074)` up to its sign. -/
def scale (x : Double) : Nat := (x.magnitude >>> 52) - 1

/-- The whole number of units that the scale counts. -/
def mantissa (x : Double) : Nat :=
  x.magnitude % leadingBit + if x.magnitude < leadingBit then 0 else leadingBit

/-- Puts a sign on a bit pattern without one. -/
def signed (negative : Bool) (magnitude : Nat) : Double :=
  ⟨UInt64.ofNat (if negative then magnitude + signBit else magnitude)⟩

/-- Some value that is not a number. -/
def nan : Double := ⟨0x7ff8000000000000⟩

/-! ## Order and equality -/

/-- A whole number that orders doubles: the magnitude with its sign, so that both zeros are one, and
above all of them whatever is not a number. -/
def orderKey (x : Double) : Int :=
  if x.isNaN then signBit else if x.isNegative then -x.magnitude else x.magnitude

/-- The order of two doubles, if both are numbers. -/
def compare? (x y : Double) : Option Ordering :=
  if x.isNaN || y.isNaN then none else some (compare x.orderKey y.orderKey)

/-- Equality of numbers: the zeros are equal, and what is not a number equals nothing. -/
def equals (x y : Double) : Bool := x.compare? y = some .eq

/-! ## Arithmetic -/

/-- The bits of a `Float`. -/
def ofFloat (f : Float) : Double := ⟨f.toBits⟩

/-- The `Float` with these bits. -/
def toFloat (x : Double) : Float := Float.ofBits x.bits

/-- The double nearest to an integer, a tie going to the even one. -/
def ofInt64 (n : Int64) : Double := ofFloat n.toFloat

def add (x y : Double) : Double := ofFloat (x.toFloat + y.toFloat)
def sub (x y : Double) : Double := ofFloat (x.toFloat - y.toFloat)
def mul (x y : Double) : Double := ofFloat (x.toFloat * y.toFloat)
def div (x y : Double) : Double := ofFloat (x.toFloat / y.toFloat)

/-- The number with the opposite sign. -/
def neg (x : Double) : Double := ⟨x.bits ^^^ 0x8000000000000000⟩

/-- The double `m * 2 ^ (e - 1074)`, for `m` below `2 ^ 53`. -/
def ofBinary (negative : Bool) (m e : Nat) : Double :=
  if m = 0 then signed negative 0
  else
    let shift := min (52 - Nat.log2 m) e
    let top := m <<< shift
    if top < leadingBit then signed negative top
    else signed negative (((e - shift + 1) <<< 52) + (top - leadingBit))

/-- The remainder of a division that truncates: it is exact and has the sign of the dividend. -/
def rem (x y : Double) : Double :=
  if x.isNaN || y.isNaN || x.isInfinite || y.isZero then nan
  else if y.isInfinite then x
  else
    let e := min x.scale y.scale
    let r := (x.mantissa <<< (x.scale - e)) % (y.mantissa <<< (y.scale - e))
    ofBinary x.isNegative r e

/-- The whole part as a 64-bit integer: out of range goes to the nearest end, and what is not a
number to zero. -/
def truncate (x : Double) : Int64 :=
  if x.isNaN then 0
  else
    let whole := (x.mantissa <<< x.scale) >>> Decimal.places
    if x.isNegative then if whole < signBit then Int64.ofInt (-whole) else Int64.minValue
    else if whole < signBit then Int64.ofInt whole else Int64.maxValue

/-! ## Text -/

/-- How doubles are written. -/
structure Layout where
  /-- Numbers whose first digit stands for a power of ten in this range are written positionally. -/
  leastPositional : Int
  firstExponential : Int
  /-- What follows a whole number written positionally. -/
  wholeTail : String
  exponentMark : String
  nan : String
  infinity : String

/-- Positional from `0.0001` up to below `10 ^ 16`, always with a fractional part; otherwise a
digit, the other digits after a point, and the power of ten. -/
def layout : Layout := ⟨-4, 16, ".0", "e", "NaN", "inf"⟩

namespace Layout

/-- A decimal in positional notation. -/
def positional (l : Layout) (d : Decimal) : String :=
  let n := d.digits.length
  if d.exponent < 0 then
    "0." ++ String.ofList (List.replicate (-d.exponent - 1).toNat '0' ++ d.digits)
  else
    let whole := d.exponent.toNat + 1
    if n ≤ whole then String.ofList (d.digits ++ List.replicate (whole - n) '0') ++ l.wholeTail
    else String.ofList (d.digits.take whole) ++ "." ++ String.ofList (d.digits.drop whole)

/-- A decimal as its first digit, the others after a point, and a power of ten. -/
def exponential (l : Layout) (d : Decimal) : String :=
  let fraction := if d.digits.length ≤ 1 then "" else "." ++ String.ofList (d.digits.drop 1)
  String.ofList (d.digits.take 1) ++ fraction ++ l.exponentMark ++ toString d.exponent

/-- A decimal in the notation that its size asks for. -/
def decimal (l : Layout) (d : Decimal) : String :=
  if l.leastPositional ≤ d.exponent && d.exponent < l.firstExponential then l.positional d
  else l.exponential d

end Layout

/-- The shortest decimal that rounds to the magnitude of a finite number other than zero. -/
def shortest (x : Double) : Decimal :=
  Decimal.shortest x.mantissa x.scale
    (x.magnitude % leadingBit = 0 && 2 * leadingBit ≤ x.magnitude)

/-- A number without its sign. -/
def magnitudeText (x : Double) : String :=
  if x.isInfinite then layout.infinity
  else if x.isZero then "0" ++ layout.wholeTail
  else layout.decimal x.shortest

/-- A double as written in program output: the shortest decimal that reads back as it. -/
def text (x : Double) : String :=
  if x.isNaN then layout.nan
  else if x.isNegative then "-" ++ x.magnitudeText
  else x.magnitudeText

end Double

end ClassScript
