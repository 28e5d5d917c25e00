import ClassScript.Text.CaseData
import ClassScript.Text.Ranges

/-! # Letter case

Conversion of text to upper and lower case by the Unicode default mappings. A character may become
several. The capital sigma becomes a final small sigma at the end of a word: after a cased letter
and before none, looking through characters such as marks and apostrophes. -/

namespace ClassScript.Text

/-- The image of a code point under the first row that has it. -/
def mapRow? (n : Nat) : List (Nat × Nat × Nat × Int) → Option Nat
  | [] => none
  | (first, last, step, shift) :: rows =>
    if first ≤ n && n ≤ last && (n - first) % step = 0 then some (n + shift).toNat
    else mapRow? n rows

/-- The image of a character under a special or a simple mapping; most stay as they are. -/
def mapChar (special : List (Nat × List Nat)) (rows : List (Nat × Nat × Nat × Int)) (c : Char) :
    List Char :=
  match special.find? (·.1 = c.toNat) with
  | some (_, images) => images.map Char.ofNat
  | none =>
    match mapRow? c.toNat rows with
    | some n => [Char.ofNat n]
    | none => [c]

/-- A character in upper case. -/
def upperChar (c : Char) : List Char := mapChar upperSpecial upperRows c

/-- A character in lower case, whatever stands around it. -/
def lowerChar (c : Char) : List Char := mapChar lowerSpecial lowerRows c

/-- Whether the first character that context does not look through is a cased letter. -/
def casedAhead : List Char → Bool
  | [] => false
  | c :: cs =>
    if inRanges caseIgnorableRanges c.toNat then casedAhead cs
    else inRanges casedRanges c.toNat

/-- The lower case of `cs` standing after `before`, which is given in reverse. -/
def lowerChars (before : List Char) : List Char → List Char
  | [] => []
  | c :: cs =>
    let image :=
      if c = 'Σ' then if casedAhead before && !casedAhead cs then ['ς'] else ['σ']
      else lowerChar c
    image ++ lowerChars (c :: before) cs

/-- A text in upper case. -/
def upper (s : String) : String := String.ofList (s.toList.flatMap upperChar)

/-- A text in lower case. -/
def lower (s : String) : String := String.ofList (lowerChars [] s.toList)

end ClassScript.Text
