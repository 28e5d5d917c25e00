import ClassScript.Class.Table
import ClassScript.Log
import ClassScript.Typing.Scope

/-! # The state of checking

Checking walks one method body or field initializer of a class and collects every error instead of
stopping at the first. -/

namespace ClassScript

/-- What checking knows and does not change. -/
structure CheckContext where
  classes : ClassTable
  /-- The enclosing class. -/
  cls : ClassInfo
  /-- The declared result, `void` for none; absent if the declared type is unknown. -/
  returnType : Option DataType
  /-- Whether there is no instance to refer to. -/
  isStatic : Bool

/-- What checking changes. -/
structure CheckState where
  scope : LocalScope := .empty
  /-- The number of loops around the current statement. -/
  loopDepth : Nat := 0
  /-- The errors found so far, in order. -/
  errors : List CheckError := []
  log : Log := #[]

/-- A computation that checks. -/
abbrev Check := StateM CheckState

namespace Check

/-- Reports an error. -/
def report (violation : Violation) (span : Span) : Check Unit :=
  modify fun s => { s with errors := s.errors ++ [⟨violation, span⟩] }

/-- Logs an event. -/
def log (event : LogEvent) : Check Unit :=
  modify fun s => { s with log := s.log.push event }

/-- Changes the local variables. -/
def modifyScope (f : LocalScope → LocalScope) : Check Unit :=
  modify fun s => { s with scope := f s.scope }

/-- Declares a local variable; a second one in the same block is an error. -/
def declare (name : String) (type : Option DataType) (span : Span) : Check Unit :=
  modify fun s =>
    match s.scope.declare name type span with
    | .ok scope => { s with scope }
    | .error e => { s with errors := s.errors ++ [e] }

/-- Checks in a block of its own. -/
def inBlock (body : Check Unit) : Check Unit := do
  modifyScope LocalScope.push
  body
  modifyScope LocalScope.pop

/-- Checks the body of a loop. -/
def inLoop (body : Check Unit) : Check Unit := do
  modify fun s => { s with loopDepth := s.loopDepth + 1 }
  body
  modify fun s => { s with loopDepth := s.loopDepth - 1 }

/-- Checks a method body or an initializer with no local variables and outside every loop. -/
def inMethod (body : Check Unit) : Check Unit := do
  modify fun s => { s with scope := .empty, loopDepth := 0 }
  body

end Check

namespace CheckContext

/-- The context of a field initializer or a method without a result. -/
def ofClass (classes : ClassTable) (cls : ClassInfo) : CheckContext :=
  ⟨classes, cls, some .void, false⟩

/-- The class of a name: an inner class of the enclosing class, or one of the table. -/
def lookupClass? (cx : CheckContext) (name : String) : Option ClassInfo :=
  match cx.cls.inner? name with
  | some c => some c
  | none => cx.classes.resolve? name

/-- Whether a class has the name of the enclosing class. -/
def isCurrent (cx : CheckContext) (c : ClassInfo) : Bool := sameName c.name cx.cls.name

mutual

/-- The first name in a type that is no class. -/
def firstUnknown? (cx : CheckContext) : DataType → Option String
  | ⟨name, args⟩ =>
    if !sameName name "void" && (cx.lookupClass? name).isNone then some name
    else firstUnknownOf? cx args

/-- The first name in several types that is no class. -/
def firstUnknownOf? (cx : CheckContext) : List DataType → Option String
  | [] => none
  | t :: ts =>
    match firstUnknown? cx t with
    | some name => some name
    | none => firstUnknownOf? cx ts

end

/-- A written type, if all its names are classes; otherwise the first that is not is reported. -/
def resolveType (cx : CheckContext) (type : DataType) (span : Span) : Check (Option DataType) :=
  match cx.firstUnknown? type with
  | some name => do
    Check.report (.undefined .type name) span
    return none
  | none => return some type

end CheckContext

end ClassScript
