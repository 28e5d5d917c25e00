import ClassScript.Class.Builtin
import ClassScript.Machine.Entry
import ClassScript.Registration
import ClassScript.Typing.Program

/-! # The engine

Registers, checks and runs the classes of one program. Running needs a check that found no errors
since the classes last changed. -/

namespace ClassScript

/-- Settings of an engine. -/
structure EngineConfig where
  /-- The method that runs if an entry point names only a class. -/
  entryMethod : String := "action"
  /-- The deepest nesting of calls. -/
  maxCallDepth : Nat := 512
  credentials : Credentials := .none

/-- The classes of a program and what has been done with them. -/
structure Engine where
  config : EngineConfig
  classes : ClassTable
  query : Option QueryService
  checked : Bool
  log : Log

/-- How a run ended, and the world it left. -/
structure Outcome where
  result : Except Halt (Option Value)
  world : World

namespace Engine

/-- An engine with the built-in classes only. -/
def make (config : EngineConfig) : Engine where
  config
  classes := .initial
  query := none
  checked := false
  log := #[]

/-- Sets the service that answers queries. -/
def setQueryService (e : Engine) (service : QueryService) : Engine :=
  { e with query := some service }

/-- Registers declarations. Rejected ones are left out, and a new check is needed. -/
def register (e : Engine) (decls : List ClassDecl) : Registration.Outcome × Engine :=
  let out := Registration.registerAll e.classes decls
  let log := e.log ++ out.log.push (.batchRegistered out.accepted out.errors.length)
  (out, { e with classes := out.table, checked := false, log })

/-- Checks every class. -/
def check (e : Engine) : List CheckError × Engine :=
  let (errors, log) := Typing.checkTable e.classes
  let log := e.log ++ log.push (.checkFinished errors.length)
  (errors, { e with checked := errors.isEmpty, log })

/-- What a run of the current classes is given. -/
def env (e : Engine) (today : Date) : Except RuntimeError Env :=
  Env.make e.classes e.query e.config.credentials today e.config.maxCallDepth

/-- A run that fails before it starts. -/
def failed (sink : Sink) (error : RuntimeError) : Outcome :=
  ⟨.error (.fault error), { sink }⟩

/-- Flushes the output at the end of a run. A failing flush replaces the result of the run. -/
def flushed (world : World) (result : Except Halt (Option Value)) : Outcome :=
  match world with
  | ⟨heap, sink, log⟩ =>
    match sink.flush with
    | (none, sink) => ⟨result, ⟨heap, sink, log⟩⟩
    | (some message, sink) => ⟨.error (.fault (.output message)), ⟨heap, sink, log⟩⟩

/-- Runs a method of a class and flushes the output. -/
def runMethod (env : Env) (fuel : Nat) (entry : EntryPoint) (sink : Sink) : Outcome :=
  match Machine.runEntry env fuel entry.cls entry.method (.start sink) with
  | .ok value m => flushed m.world (.ok value)
  | .error halt m => flushed m.world (.error halt)

/-- Runs an entry point of classes that have passed a check. -/
def run (e : Engine) (today : Date) (fuel : Nat) (entry : String) (sink : Sink) :
    Outcome × Engine :=
  let out :=
    if !e.checked then failed sink .notChecked
    else
      match EntryPoint.parse entry e.config.entryMethod with
      | .error error => failed sink error
      | .ok point =>
        match e.env today with
        | .error error => failed sink error
        | .ok env => runMethod env fuel point sink
  (out, { e with log := e.log ++ out.world.log })

/-- How registering, checking and running in one go ended. -/
inductive Execution where
  /-- The declarations or their classes are at fault, and nothing was run. -/
  | rejected (error : EngineError)
  | ran (outcome : Outcome)

/-- Registers, checks and runs; the first registration error, or any error of the check, stops it
before the run. -/
def execute (e : Engine) (decls : List ClassDecl) (today : Date) (fuel : Nat) (entry : String)
    (sink : Sink) : Execution × Engine :=
  let (out, e) := e.register decls
  match out.errors with
  | error :: _ => (.rejected (.registration error), e)
  | [] =>
    let (errors, e) := e.check
    if errors.isEmpty then
      let (outcome, e) := e.run today fuel entry sink
      (.ran outcome, e)
    else (.rejected (.compilation errors), e)

end Engine

end ClassScript
