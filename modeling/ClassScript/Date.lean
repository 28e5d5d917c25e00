/-! # Calendar dates

Days of the proleptic Gregorian calendar, within the years that the calendar arithmetic covers. -/

namespace ClassScript

/-- A day. -/
structure Date where
  year : Int
  month : Nat
  day : Nat
deriving DecidableEq, Repr, Inhabited

namespace Date

/-- Every fourth year is a leap year, of the centuries only every fourth. -/
def isLeap (year : Int) : Bool := year % 4 = 0 && (year % 100 ≠ 0 || year % 400 = 0)

/-- The number of days of a month; zero for a number that is no month. -/
def daysIn (year : Int) (month : Int) : Int :=
  if month = 2 then if isLeap year then 29 else 28
  else if month = 4 || month = 6 || month = 9 || month = 11 then 30
  else if 1 ≤ month && month ≤ 12 then 31
  else 0

/-- The first and the last year. -/
def leastYear : Int := -262143
def greatestYear : Int := 262142

/-- The day with these numbers, if there is one. -/
def ofNumbers? (year month day : Int) : Option Date :=
  if leastYear ≤ year && year ≤ greatestYear && 1 ≤ day && day ≤ daysIn year month then
    some ⟨year, month.toNat, day.toNat⟩
  else none

/-- A number with zeros in front up to a width. -/
def padded (width n : Nat) : String :=
  let ds := Nat.toDigits 10 n
  String.ofList (List.replicate (width - ds.length) '0' ++ ds)

/-- A year: four digits, and a sign if it is negative or needs more. -/
def yearText (year : Int) : String :=
  let digits := padded 4 year.natAbs
  if year < 0 then "-" ++ digits else if 9999 < year then "+" ++ digits else digits

/-- Year, month and day divided by a mark. -/
def textWith (mark : String) (d : Date) : String :=
  yearText d.year ++ mark ++ padded 2 d.month ++ mark ++ padded 2 d.day

/-- The date as a value is shown. -/
def text (d : Date) : String := d.textWith "-"

/-- The date as its own method formats it. -/
def format (d : Date) : String := d.textWith "/"

end Date

end ClassScript
