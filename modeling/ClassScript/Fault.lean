import ClassScript.Diagnostic

/-! # Faults

What may go wrong while a program runs: a `NativeError` is raised by a built-in method, a
`RuntimeError` ends the run, and an `EngineError` is any failure of registering, checking and
running in one go. -/

namespace ClassScript

/-- Failures of built-in methods. -/
inductive NativeError where
  | missingReceiver
  | argumentIndexOutOfBounds (index count : Nat)
  | argumentType (index : Nat) (expected : String)
  /-- The state that an instance carries is not what the method works on. -/
  | payloadMismatch (expected className : String)
  | unknownClass (name : String)
  | unsupportedKey (typeName : String)
  | indexOutOfBounds (index : Int64) (len : Nat)
  | missingCredentials (name : String)
  | external (message : String)
  | output (message : String)
deriving DecidableEq

namespace NativeError

/-- The kind of failure in one word. -/
def kind : NativeError → String
  | missingReceiver => "MissingReceiver"
  | argumentIndexOutOfBounds .. => "ArgumentIndexOutOfBounds"
  | argumentType .. => "ArgumentType"
  | payloadMismatch .. => "PayloadMismatch"
  | unknownClass _ => "UnknownClass"
  | unsupportedKey _ => "UnsupportedKey"
  | indexOutOfBounds .. => "IndexOutOfBounds"
  | missingCredentials _ => "MissingCredentials"
  | external _ => "External"
  | output _ => "Output"

def message : NativeError → String
  | missingReceiver => "native method called without a receiver"
  | argumentIndexOutOfBounds index count =>
    s!"argument {index} out of bounds (got {count} arguments)"
  | argumentType index expected => s!"argument {index} must be {expected}"
  | payloadMismatch expected className => s!"expected {expected} state on {className} instance"
  | unknownClass name => s!"class {name} is not registered"
  | unsupportedKey typeName => s!"map key of type {typeName} is not supported"
  | indexOutOfBounds index len => s!"index {index} out of bounds for length {len}"
  | missingCredentials name => s!"missing credential: {name}"
  | external text => s!"external service failed: {text}"
  | output text => s!"output failed: {text}"

end NativeError

/-- Failures that end a run. -/
inductive RuntimeError where
  | undefinedMethod (className name : String)
  | undefinedField (className name : String)
  | undefinedVariable (name : String)
  | undefinedClass (name : String)
  | nullReference (span : Span)
  | divisionByZero (span : Span)
  | indexOutOfBounds (index : Int64) (len : Nat) (span : Span)
  | invalidListIndex (key : String) (span : Span)
  | argumentCount (name : String) (expected got : Nat)
  | staticContext (name : String)
  | callDepthExceeded (limit : Nat)
  | invalidEntryPoint (entry : String)
  /-- The classes have not passed a check since they last changed. -/
  | notChecked
  /-- Something was evaluated while no method runs. -/
  | noFrame
  | notAssignable (span : Span)
  | native (error : NativeError)
  | output (message : String)
deriving DecidableEq

namespace RuntimeError

/-- The kind of failure in one word; a failure of a built-in method keeps its own. -/
def kind : RuntimeError → String
  | undefinedMethod .. => "UndefinedMethod"
  | undefinedField .. => "UndefinedField"
  | undefinedVariable _ => "UndefinedVariable"
  | undefinedClass _ => "UndefinedClass"
  | nullReference _ => "NullReference"
  | divisionByZero _ => "DivisionByZero"
  | indexOutOfBounds .. => "IndexOutOfBounds"
  | invalidListIndex .. => "InvalidListIndex"
  | argumentCount .. => "ArgumentCount"
  | staticContext _ => "StaticContext"
  | callDepthExceeded _ => "CallDepthExceeded"
  | invalidEntryPoint _ => "InvalidEntryPoint"
  | notChecked => "NotChecked"
  | noFrame => "NoFrame"
  | notAssignable _ => "NotAssignable"
  | native e => "Native." ++ e.kind
  | output _ => "Output"

def message : RuntimeError → String
  | undefinedMethod className name => s!"method {className}.{name} is not defined"
  | undefinedField className name => s!"field {className}.{name} is not defined"
  | undefinedVariable name => s!"variable {name} is not defined"
  | undefinedClass name => s!"class {name} is not defined"
  | nullReference span => "null reference at " ++ span.text
  | divisionByZero span => "division by zero at " ++ span.text
  | indexOutOfBounds index len span =>
    s!"index {index} out of bounds for length {len} at " ++ span.text
  | invalidListIndex key span => s!"list index '{key}' at " ++ span.text ++ " is not an integer"
  | argumentCount name expected got => s!"method {name} expects {expected} arguments but got {got}"
  | staticContext name => s!"{name} cannot be used from a static context"
  | callDepthExceeded limit => s!"call depth exceeded the limit of {limit}"
  | invalidEntryPoint entry => s!"invalid entry point '{entry}'"
  | notChecked => "classes must pass type checking before they can run"
  | noFrame => "no method is executing"
  | notAssignable span => "expression at " ++ span.text ++ " is not assignable"
  | native error => error.message
  | output text => s!"output failed: {text}"

end RuntimeError

/-- Any failure on the way from declarations to a result. -/
inductive EngineError where
  | registration (error : RegistrationError)
  | compilation (errors : List CheckError)
  | runtime (error : RuntimeError)

namespace EngineError

/-- The stage that failed and its kind of failure. -/
def kind : EngineError → String
  | registration e => "Registration." ++ e.kind
  | compilation _ => "Compilation"
  | runtime e => "Runtime." ++ e.kind

def message : EngineError → String
  | registration error => error.message
  | compilation errors => CheckError.report errors
  | runtime error => error.message

end EngineError

end ClassScript
