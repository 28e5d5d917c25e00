import ClassScript.Text.Blank
import ClassScript.Text.HiddenData

/-! # Quoted text

Text between double quotes as it stands in a description of settings: quotes and backslashes are
escaped, and a character that would not show on its own is written by its code point. -/

namespace ClassScript.Text

/-- A number in lower-case hexadecimal. -/
def hex (n : Nat) : String := String.ofList (Nat.toDigits 16 n)

/-- Whether a character is a control character. -/
def isControl (c : Char) : Bool := c.toNat < 0x20 || (0x7f ≤ c.toNat && c.toNat < 0xa0)

/-- Whether a character would not show on its own: a control character, any white space but the
blank itself, a mark, a layout character, or a code point without a character. -/
def isHidden (c : Char) : Bool :=
  isControl c || (isBlank c && c != ' ') || inRanges markRanges c.toNat ||
    inRanges formatRanges c.toNat || inRanges unassignedRanges c.toNat

/-- One character between quotes. -/
def quoteChar (c : Char) : String :=
  if c = '"' then "\\\""
  else if c = '\\' then "\\\\"
  else if c = '\n' then "\\n"
  else if c = '\r' then "\\r"
  else if c = '\t' then "\\t"
  else if c.toNat = 0 then "\\0"
  else if isHidden c then "\\u\x7b" ++ hex c.toNat ++ "\x7d"
  else String.singleton c

/-- A text between quotes. -/
def quote (s : String) : String :=
  "\"" ++ String.join (s.toList.map quoteChar) ++ "\""

end ClassScript.Text
