import ClassScript.Heap.Basic

/-! # Entries of a map

Entries stand in strictly increasing order of their keys. -/

namespace ClassScript.MapEntries

/-- The entry of a key. -/
def find? (entries : List MapEntry) (key : MapKey) : Option MapEntry :=
  entries.find? fun e => e.key.cmp key = .eq

/-- The value of a key. -/
def get? (entries : List MapEntry) (key : MapKey) : Option Value :=
  (find? entries key).map MapEntry.value

/-- Sets the value of a key. An entry that is there keeps its key and takes both values. -/
def insert (key : MapKey) (keyValue value : Value) : List MapEntry → List MapEntry
  | [] => [⟨key, keyValue, value⟩]
  | e :: es =>
    match e.key.cmp key with
    | .lt => e :: insert key keyValue value es
    | .eq => ⟨e.key, keyValue, value⟩ :: es
    | .gt => ⟨key, keyValue, value⟩ :: e :: es

/-- Takes the entry of a key away. -/
def erase (key : MapKey) : List MapEntry → List MapEntry
  | [] => []
  | e :: es => if e.key.cmp key = .eq then es else e :: erase key es

end ClassScript.MapEntries
