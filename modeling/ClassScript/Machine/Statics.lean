import ClassScript.Heap.Basic

/-! # Static fields

The values of static fields of a run, class by class. A class has no table until it is first
touched. -/

namespace ClassScript

/-- Tables of static fields by the path of their class. -/
structure Statics where
  tables : List (List String × NameTable Value) := []

/-- A static initializer that has yet to run: the class and the field it is for. -/
structure PendingStatic where
  owner : List String
  name : String
  init : Expr

namespace Statics

/-- The table of a class. -/
def table? (s : Statics) (owner : List String) : Option (NameTable Value) := s.tables.lookup owner

/-- Whether the class has been touched. -/
def contains (s : Statics) (owner : List String) : Bool := (s.table? owner).isSome

/-- The value of a static field. -/
def get? (s : Statics) (owner : List String) (name : String) : Option Value :=
  match s.table? owner with
  | some t => t.get? name
  | none => none

/-- The tables with one of them changed. -/
def setIn (owner : List String) (name : String) (value : Value) :
    List (List String × NameTable Value) → List (List String × NameTable Value)
  | [] => []
  | (p, t) :: rest =>
    if p = owner then (p, t.insert name value) :: rest else (p, t) :: setIn owner name value rest

/-- Sets a static field of a class that has been touched. -/
def set (s : Statics) (owner : List String) (name : String) (value : Value) : Statics :=
  ⟨setIn owner name value s.tables⟩

/-- The table of a class before its initializers run. -/
def nulls (c : ClassInfo) : NameTable Value :=
  c.staticFields.names.foldl (fun t name => t.insert name .null) .empty

/-- The initializers of the static fields of a class. -/
def pending (c : ClassInfo) : List PendingStatic :=
  c.staticFields.entries.filterMap fun (name, f) => f.init.map (⟨c.path, name, ·⟩)

/-- Touches the classes of a chain, nearest first: each that is new gets a table of nulls, and its
initializers are pending. -/
def touch (s : Statics) : List ClassInfo → Statics × List PendingStatic
  | [] => (s, [])
  | c :: cs =>
    if s.contains c.path then touch s cs
    else
      let (s', later) := touch ⟨s.tables ++ [(c.path, nulls c)]⟩ cs
      (s', pending c ++ later)

end Statics

end ClassScript
