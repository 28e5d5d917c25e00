import ClassScript.DataType
import ClassScript.Modifiers
import ClassScript.Span

/-! # Diagnostics

What is wrong with a program before it runs. A `RegistrationError` rejects one class declaration; a
`CheckError` is one violation of the typing rules, and checking collects all of them. -/

namespace ClassScript

/-! ## Registration -/

/-- Why a class declaration is rejected. -/
inductive RegistrationError where
  /-- Two overloads take the same parameter types. -/
  | duplicateMethod (name : String) (span : Span)
  | duplicateParameter (name : String) (span : Span)
  | duplicateField (name : String) (span : Span)
  | duplicateClass (name : String) (span : Span)
deriving DecidableEq

namespace RegistrationError

/-- Where the second of the two was written. -/
def span : RegistrationError → Span
  | duplicateMethod _ s | duplicateParameter _ s | duplicateField _ s | duplicateClass _ s => s

/-- The kind of rejection in one word. -/
def kind : RegistrationError → String
  | duplicateMethod .. => "DuplicateMethod"
  | duplicateParameter .. => "DuplicateParameter"
  | duplicateField .. => "DuplicateField"
  | duplicateClass .. => "DuplicateClass"

def message : RegistrationError → String
  | duplicateMethod name _ => s!"method {name} is duplicated"
  | duplicateParameter name _ => s!"parameter name is duplicated: {name}"
  | duplicateField name _ => s!"field {name} is duplicated"
  | duplicateClass name _ => s!"class {name} is duplicated"

end RegistrationError

/-! ## Checking -/

/-- What a name that denotes nothing was looked up as. -/
inductive NameRole where
  | type | value | method | field
deriving DecidableEq

namespace NameRole

def text : NameRole → String
  | type => "type"
  | value => "variable"
  | method => "method"
  | field => "field"

end NameRole

/-- A violation of the typing rules. -/
inductive Violation where
  | conditionNotBoolean (type : DataType)
  | returnMismatch (actual declared : DataType)
  | typeMismatch (actual expected : DataType)
  | mustBeInteger (type : DataType)
  | mustBeNumeric (type : DataType)
  | mustBeAddable (type : DataType)
  | mustBeBoolean (type : DataType)
  | listKey (type : DataType)
  | mapKey (type : DataType)
  | notIndexable (type : DataType)
  | notIterable (type : DataType)
  | breakOutsideLoop
  | continueOutsideLoop
  /-- A private or protected method reached through an explicit receiver. -/
  | methodNotPublic (visibility : Visibility)
  | undefined (role : NameRole) (name : String)
  | wrongArity (name : String) (expected got : Nat)
  /-- An instance member used where there is no instance. -/
  | staticContext (name : String)
  | redeclared (name : String)
  | notAssignable

/-- The kinds of violations. -/
inductive ViolationKind where
  | condition | returnType | typeMismatch | operandType | indexKey | loopControl | visibility
  | undefined | arity | staticContext | redeclaration | notAssignable
deriving DecidableEq

namespace ViolationKind

def text : ViolationKind → String
  | condition => "Condition"
  | returnType => "ReturnType"
  | typeMismatch => "TypeMismatch"
  | operandType => "OperandType"
  | indexKey => "IndexKey"
  | loopControl => "LoopControl"
  | visibility => "Visibility"
  | undefined => "Undefined"
  | arity => "Arity"
  | staticContext => "StaticContext"
  | redeclaration => "Redeclaration"
  | notAssignable => "NotAssignable"

end ViolationKind

namespace Violation

def kind : Violation → ViolationKind
  | conditionNotBoolean _ => .condition
  | returnMismatch .. => .returnType
  | typeMismatch .. => .typeMismatch
  | mustBeInteger _ | mustBeNumeric _ | mustBeAddable _ | mustBeBoolean _ | notIndexable _
  | notIterable _ => .operandType
  | listKey _ | mapKey _ => .indexKey
  | breakOutsideLoop | continueOutsideLoop => .loopControl
  | methodNotPublic _ => .visibility
  | undefined .. => .undefined
  | wrongArity .. => .arity
  | staticContext _ => .staticContext
  | redeclared _ => .redeclaration
  | notAssignable => .notAssignable

def message : Violation → String
  | conditionNotBoolean t => s!"condition <{t}> must be Boolean expression"
  | returnMismatch actual declared => s!"return type <{actual}> does not match {declared}"
  | typeMismatch actual expected => s!"expression <{actual}> does not match <{expected}>"
  | mustBeInteger t => s!"expression <{t}> must be Integer"
  | mustBeNumeric t => s!"expression <{t}> must be Integer or Double"
  | mustBeAddable t => s!"expression <{t}> must be Integer, String or Double"
  | mustBeBoolean t => s!"expression <{t}> must be Boolean"
  | listKey t => s!"list key <{t}> must be Integer"
  | mapKey t => s!"map key <{t}> must be String"
  | notIndexable t => s!"expression <{t}> must be List or Map"
  | notIterable t => s!"loop collection <{t}> must be List"
  | breakOutsideLoop => "break must be in for/while loop"
  | continueOutsideLoop => "continue must be in for/while loop"
  | methodNotPublic v => "Method access modifier must be public but " ++ v.text
  | undefined role name => role.text ++ s!" {name} is not defined"
  | wrongArity name expected got => s!"method {name} expects {expected} arguments but got {got}"
  | staticContext name => s!"{name} cannot be referenced from a static context"
  | redeclared name => s!"variable {name} is already defined"
  | notAssignable => "expression is not assignable"

end Violation

/-- A violation and where it was found. -/
structure CheckError where
  violation : Violation
  span : Span

namespace CheckError

def kind (e : CheckError) : ViolationKind := e.violation.kind

/-- The message without its location. -/
def message (e : CheckError) : String := e.violation.message

/-- The message with its location. -/
def located (e : CheckError) : String := e.message ++ " at " ++ e.span.text

/-- All messages with their locations, one a line. -/
def report (errors : List CheckError) : String :=
  String.intercalate "\n" (errors.map located)

end CheckError

end ClassScript
