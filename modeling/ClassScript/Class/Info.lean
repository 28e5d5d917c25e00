import ClassScript.NameTable
import ClassScript.Program.ClassDecl

/-! # Classes

What is known of a class once it is registered: its fields, its methods grouped by name, its
constructors and its inner classes. The values of static fields belong to a run and are not here. -/

namespace ClassScript

/-- The methods that are built in. -/
inductive NativeMethod where
  | formatScalar
  | integerValueOf
  | doubleIntValue
  | stringLength | stringToUpperCase | stringToLowerCase | stringContains | stringValueOf
  | listCreate | listAdd | listGet | listSet | listSize | listIsEmpty | listClear | listContains
  | mapCreate | mapPut | mapGet | mapContainsKey | mapRemove | mapSize | mapIsEmpty | mapKeySet
  | mapValues
  | systemDebug
  | dateToday | dateNewInstance | dateFormat | dateYear | dateMonth | dateDay
  | requestCreate | requestSetHeader | requestGetHeader | requestSetMethod | requestGetMethod
  | requestSetEndpoint | requestGetEndpoint
  | databaseQuery
deriving DecidableEq

/-- What runs when a method is invoked. -/
inductive MethodBody where
  | script (stmts : List Stmt)
  | native (method : NativeMethod)
  /-- Nothing: the method is only declared. -/
  | abstract

namespace MethodBody

/-- What runs, in one word; of a script, also its number of statements. -/
def text : MethodBody → String
  | script stmts => s!"Script({stmts.length})"
  | native _ => "Native"
  | abstract => "Abstract"

end MethodBody

/-- A parameter with its type. -/
structure ParamInfo where
  name : String
  type : DataType

/-- A method or a constructor. -/
structure MethodInfo where
  name : String
  modifiers : Modifiers
  /-- Absent if there is no result. -/
  returnType : Option DataType
  params : List ParamInfo
  body : MethodBody
  span : Span

namespace MethodInfo

def arity (m : MethodInfo) : Nat := m.params.length

def paramTypes (m : MethodInfo) : List DataType := m.params.map ParamInfo.type

def isStatic (m : MethodInfo) : Bool := m.modifiers.isStatic

def visibility (m : MethodInfo) : Visibility := m.modifiers.visibility

/-- The type of the result, `void` if there is none. -/
def resultType (m : MethodInfo) : DataType := m.returnType.getD .void

/-- Whether both methods take the same parameter types in the same order. -/
def sameSignature (m n : MethodInfo) : Bool := DataType.sameAll m.paramTypes n.paramTypes

end MethodInfo

/-- A field. -/
structure FieldInfo where
  name : String
  type : DataType
  modifiers : Modifiers
  init : Option Expr
  span : Span

namespace FieldInfo

def isStatic (f : FieldInfo) : Bool := f.modifiers.isStatic

end FieldInfo

/-- Overloads by name, each group in the order of declaration. -/
abbrev MethodTable := NameTable (List MethodInfo)

namespace MethodTable

/-- Adds a method to the group of its name. -/
def add (t : MethodTable) (m : MethodInfo) : MethodTable :=
  if t.contains m.name then t.modify m.name (· ++ [m]) else t.insert m.name [m]

/-- All methods, group by group. -/
def all (t : MethodTable) : List MethodInfo := t.values.flatten

end MethodTable

/-- A registered class, declared by a program or built in. -/
structure ClassInfo where
  name : String
  /-- The names of the classes around it, outermost first. -/
  outer : List String
  modifiers : Modifiers
  annotations : List String
  superclass : Option DataType
  interfaces : List DataType
  /-- The names of generic parameters; only built-in classes have any. -/
  typeParams : List String
  instanceFields : NameTable FieldInfo
  staticFields : NameTable FieldInfo
  instanceMethods : MethodTable
  staticMethods : MethodTable
  constructors : List MethodInfo
  inner : List ClassInfo
  span : Span
deriving Inhabited

namespace ClassInfo

/-- A class without members. -/
def blank (name : String) (modifiers : Modifiers) : ClassInfo where
  name
  outer := []
  modifiers
  annotations := []
  superclass := none
  interfaces := []
  typeParams := []
  instanceFields := .empty
  staticFields := .empty
  instanceMethods := .empty
  staticMethods := .empty
  constructors := []
  inner := []
  span := .unknown

/-- The names from the outermost class to this one. No two classes of a table have the same path, so
it tells them apart. -/
def path (c : ClassInfo) : List String := c.outer ++ [c.name]

/-- The type of the instances of a class without generic parameters. -/
def dataType (c : ClassInfo) : DataType := .simple c.name

def isGeneric (c : ClassInfo) : Bool := !c.typeParams.isEmpty

def isAbstract (c : ClassInfo) : Bool := c.modifiers.isAbstract

/-- The inner class of this name. -/
def inner? (c : ClassInfo) (name : String) : Option ClassInfo :=
  c.inner.find? fun d => sameName d.name name

/-- Adds a field to the static or the instance fields, as its modifiers say. -/
def addField (c : ClassInfo) (f : FieldInfo) : ClassInfo :=
  if f.isStatic then { c with staticFields := c.staticFields.insert f.name f }
  else { c with instanceFields := c.instanceFields.insert f.name f }

/-- Adds a method to the static or the instance methods, as its modifiers say. -/
def addMethod (c : ClassInfo) (m : MethodInfo) : ClassInfo :=
  if m.isStatic then { c with staticMethods := c.staticMethods.add m }
  else { c with instanceMethods := c.instanceMethods.add m }

def addConstructor (c : ClassInfo) (m : MethodInfo) : ClassInfo :=
  { c with constructors := c.constructors ++ [m] }

end ClassInfo

end ClassScript
