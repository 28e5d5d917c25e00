/-! # Searching text -/

namespace ClassScript.Text

/-- Whether the needle stands somewhere in the haystack. -/
def containsChars (needle : List Char) : List Char → Bool
  | [] => needle.isEmpty
  | c :: cs => needle.isPrefixOf (c :: cs) || containsChars needle cs

/-- Whether one text occurs in another. -/
def contains (haystack needle : String) : Bool :=
  containsChars needle.toList haystack.toList

end ClassScript.Text
