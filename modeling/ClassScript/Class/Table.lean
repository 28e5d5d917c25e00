import ClassScript.Class.Info

/-! # The class table

The classes of a program in the order they were registered, their look-up by name, and what a class
inherits. A dotted name leads through inner classes. -/

namespace ClassScript

/-- Registered classes. -/
structure ClassTable where
  classes : List ClassInfo
deriving Inhabited

namespace ClassTable

/-! ## Look-up -/

/-- The class of this name; dots are ordinary characters. -/
def get? (t : ClassTable) (name : String) : Option ClassInfo :=
  t.classes.find? fun c => sameName c.name name

def contains (t : ClassTable) (name : String) : Bool := (t.get? name).isSome

def size (t : ClassTable) : Nat := t.classes.length

def isEmpty (t : ClassTable) : Bool := t.classes.isEmpty

def names (t : ClassTable) : List String := t.classes.map ClassInfo.name

/-- Adds a class at the end. -/
def add (t : ClassTable) (c : ClassInfo) : ClassTable := ⟨t.classes ++ [c]⟩

/-- The parts of a text between dots; `part` is the part so far, in reverse. -/
def splitDots (part : List Char) : List Char → List String
  | [] => [String.ofList part.reverse]
  | c :: cs =>
    if c = '.' then String.ofList part.reverse :: splitDots [] cs else splitDots (c :: part) cs

/-- The class reached from another through inner classes. -/
def descend (c : ClassInfo) : List String → Option ClassInfo
  | [] => some c
  | name :: names =>
    match c.inner? name with
    | some d => descend d names
    | none => none

/-- The class of a name in which dots lead to inner classes. -/
def resolve? (t : ClassTable) (name : String) : Option ClassInfo :=
  match splitDots [] name.toList with
  | [] => none
  | first :: rest =>
    match t.get? first with
    | some c => descend c rest
    | none => none

end ClassTable

/-! ## Inheritance -/

namespace ClassInfo

/-- The class that an `extends` clause leads to. -/
def parent? (c : ClassInfo) (t : ClassTable) : Option ClassInfo :=
  match c.superclass with
  | some s => t.resolve? s.name
  | none => none

/-- At most `n` classes from `c` upwards. -/
def chainUpTo (t : ClassTable) : Nat → ClassInfo → List ClassInfo
  | 0, _ => []
  | n + 1, c =>
    c :: match c.parent? t with
      | some p => chainUpTo t n p
      | none => []

/-- The class and its superclasses, nearest first. The walk ends at a superclass that is not in the
table, and after as many steps as the table has classes, so a cycle does not keep it going. -/
def chain (c : ClassInfo) (t : ClassTable) : List ClassInfo := chainUpTo t (t.size + 1) c

/-- The instance methods of a name, from the nearest class of the chain that has any. -/
def instanceMethods? (c : ClassInfo) (t : ClassTable) (name : String) : Option (List MethodInfo) :=
  (c.chain t).findSome? fun d => d.instanceMethods.get? name

/-- The static methods of a name, from the nearest class of the chain that has any. -/
def staticMethods? (c : ClassInfo) (t : ClassTable) (name : String) : Option (List MethodInfo) :=
  (c.chain t).findSome? fun d => d.staticMethods.get? name

/-- The instance field of a name, from the nearest class of the chain that has one. -/
def instanceField? (c : ClassInfo) (t : ClassTable) (name : String) : Option FieldInfo :=
  (c.chain t).findSome? fun d => d.instanceFields.get? name

/-- The static field of a name and the class that declares it. -/
def staticField? (c : ClassInfo) (t : ClassTable) (name : String) :
    Option (ClassInfo × FieldInfo) :=
  (c.chain t).findSome? fun d => (d.staticFields.get? name).map (d, ·)

/-- The instance fields of the whole chain, those of the topmost class first. -/
def allInstanceFields (c : ClassInfo) (t : ClassTable) : List FieldInfo :=
  (c.chain t).reverse.flatMap fun d => d.instanceFields.values

/-- Whether a class of the chain has this name, or the class itself implements it. -/
def isSubclassOf (c : ClassInfo) (t : ClassTable) (ancestor : String) : Bool :=
  (c.chain t).any (fun d => sameName d.name ancestor) || c.interfaces.any (·.isNamed ancestor)

end ClassInfo

end ClassScript
