import ClassScript.Heap.Equality

/-! # Text of values

What a value looks like in output and in concatenated text. Collections and objects show what they
hold, down to a depth of nesting; below it, three dots stand for an object. -/

namespace ClassScript

/-- What stands for an object that is nested too deep. -/
def ellipsis : String := "..."

namespace Heap

/-- Texts divided by a comma and a blank. -/
def commaSeparated (texts : List String) : String := String.intercalate ", " texts

/-- The text of an object, given the texts of the values in it; keys of maps have texts of their
own. -/
def objectText (keyText valueText : Value → String) (o : Object) : String :=
  match o.payload with
  | .integer n => Text.integerText n
  | .double x => x.text
  | .boolean b => if b then "true" else "false"
  | .string s => s
  | .list items => "(" ++ commaSeparated (items.toList.map valueText) ++ ")"
  | .map entries =>
    "\x7b" ++ commaSeparated (entries.map fun e => keyText e.keyValue ++ "=" ++ valueText e.value)
      ++ "\x7d"
  | .date d => d.text
  | .request r =>
    "System.HttpRequest[Endpoint=" ++ r.endpoint.getD "null" ++ ", Method="
      ++ r.method.getD "null" ++ "]"
  | .none =>
    o.cls.name ++ ":\x7b"
      ++ commaSeparated (o.fields.entries.map fun (name, v) => name ++ "=" ++ valueText v) ++ "\x7d"

/-- The text of a value that looks `n` levels deep. -/
def displayUpTo (h : Heap) (keyText : Value → String) : Nat → Value → String
  | _, .null => "null"
  | 0, .object _ => ellipsis
  | n + 1, .object id => objectText keyText (displayUpTo h keyText n) (h.get id)

/-- The text of a key of a map. It looks as deep as the text of a value on its own, and follows keys
inside keys `n` times. -/
def keyTextUpTo (h : Heap) : Nat → Value → String
  | 0, _ => ellipsis
  | n + 1, v => h.displayUpTo (keyTextUpTo h n) maxNesting v

/-- The text of a value. Keys inside keys end after as many steps as there are objects, unless one
holds itself. -/
def display (h : Heap) (v : Value) : String :=
  h.displayUpTo (h.keyTextUpTo h.objects.size) maxNesting v

end Heap

end ClassScript
