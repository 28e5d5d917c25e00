import ClassScript.Machine.Eval

/-! # Entry points

Running a method of a class from outside. A static method is called as it is; for an instance method
an instance is made first. The text of an entry point is `Class#method`, or `Class` alone for a
default method. -/

namespace ClassScript

/-- The class and the method that a run starts with. -/
structure EntryPoint where
  cls : String
  method : String
deriving DecidableEq

namespace EntryPoint

/-- The characters before the first `#`, and those after it if there is one. -/
def splitMark : List Char → List Char × Option (List Char)
  | [] => ([], none)
  | c :: cs =>
    if c = '#' then ([], some cs)
    else
      let (before, after) := splitMark cs
      (c :: before, after)

/-- Reads an entry point. White space around the parts does not count; there has to be a class, and
at most one mark. -/
def parse (entry defaultMethod : String) : Except RuntimeError EntryPoint :=
  let (before, after) := splitMark entry.toList
  let cls := Text.trimChars before
  let method := Text.trimChars (after.getD [])
  if (after.getD []).contains '#' || cls.isEmpty then .error (.invalidEntryPoint entry)
  else .ok ⟨String.ofList cls, if method.isEmpty then defaultMethod else String.ofList method⟩

end EntryPoint

namespace Env

/-- What a run over a class table is given; the table has to have the primitive classes. -/
def make (classes : ClassTable) (query : Option QueryService) (credentials : Credentials)
    (today : Date) (maxDepth : Nat) : Except RuntimeError Env :=
  match Primitives.ofTable classes with
  | .ok prims => .ok { classes, prims, query, credentials, today, maxDepth }
  | .error e => .error (.native e)

end Env

namespace Machine

/-- A machine before its first run. -/
def start (sink : Sink) : Machine := { world := { sink } }

/-- Runs a method of a class without arguments, with fuel for `fuel` nested steps. -/
def runEntry (env : Env) (fuel : Nat) (className method : String) : Run (Option Value) := do
  let calls := Calls.withFuel env fuel
  match env.classes.resolve? className with
  | none => Run.fault (.undefinedClass className)
  | some c =>
    Run.log (.running c.name method)
    if (c.staticMethods? env.classes method).isSome then calls.callStatic env c method []
    else if (c.instanceMethods? env.classes method).isSome then
      let id ← calls.instantiate env c [] []
      calls.callInstance env id method []
    else Run.fault (.undefinedMethod c.name method)

end Machine

end ClassScript
