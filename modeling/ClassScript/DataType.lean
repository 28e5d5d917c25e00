import ClassScript.Name

/-! # Data types

A type is a class name with generic arguments (`Map<String, List<Integer>>`). Types are compared
name by name ignoring ASCII case, so `==` on `DataType` is coarser than equality. -/

namespace ClassScript

/-- A class name with generic arguments. -/
structure DataType where
  name : String
  args : List DataType
deriving Inhabited

namespace DataType

/-! ## Comparison and text -/

mutual

/-- Whether two types have the same name and the same arguments. -/
def same : DataType → DataType → Bool
  | ⟨n, as⟩, ⟨m, bs⟩ => sameName n m && sameAll as bs

/-- Whether two lists of types agree position by position. -/
def sameAll : List DataType → List DataType → Bool
  | [], [] => true
  | a :: as, b :: bs => same a b && sameAll as bs
  | _, _ => false

end

instance : BEq DataType := ⟨same⟩

mutual

/-- A type as written: its arguments stand in angle brackets, divided by a comma and a blank. -/
def text : DataType → String
  | ⟨n, []⟩ => n
  | ⟨n, a :: as⟩ => n ++ "<" ++ text a ++ textRest as ++ ">"

/-- The arguments after the first, each with its divider. -/
def textRest : List DataType → String
  | [] => ""
  | a :: as => ", " ++ text a ++ textRest as

end

instance : ToString DataType := ⟨text⟩

/-! ## Types the language itself knows -/

/-- A type without arguments. -/
def simple (name : String) : DataType := ⟨name, []⟩

def integer : DataType := simple "Integer"
def double : DataType := simple "Double"
def string : DataType := simple "String"
def boolean : DataType := simple "Boolean"
def object : DataType := simple "Object"
/-- The pseudo type of a method without a result. -/
def void : DataType := simple "void"
/-- The pseudo type of the `null` literal. -/
def null : DataType := simple "null"
def list (element : DataType) : DataType := ⟨"List", [element]⟩
def map (key value : DataType) : DataType := ⟨"Map", [key, value]⟩

/-- Whether the class name is `name`, whatever the arguments. -/
def isNamed (t : DataType) (name : String) : Bool := sameName t.name name

def isInteger (t : DataType) : Bool := t.isNamed "Integer"
def isDouble (t : DataType) : Bool := t.isNamed "Double"
def isNumeric (t : DataType) : Bool := t.isInteger || t.isDouble
def isString (t : DataType) : Bool := t.isNamed "String"
def isBoolean (t : DataType) : Bool := t.isNamed "Boolean"
def isVoid (t : DataType) : Bool := t.isNamed "void"
def isNull (t : DataType) : Bool := t.isNamed "null"
def isList (t : DataType) : Bool := t.isNamed "List"
def isMap (t : DataType) : Bool := t.isNamed "Map"
/-- `Object` takes any argument of a call. -/
def isObject (t : DataType) : Bool := t.isNamed "Object"

end DataType

end ClassScript
