import ClassScript.Span

/-! # The log

What the engine reports about its own work, apart from the program's output: a sequence of events,
each with a level and a line of text. -/

namespace ClassScript

/-- How important an event is, the most important first. -/
inductive LogLevel where
  | warn | debug | trace
deriving DecidableEq, Repr

namespace LogLevel

/-- The rank of a level; a lower one is more important. -/
def rank : LogLevel → Nat
  | warn => 0
  | debug => 1
  | trace => 2

def text : LogLevel → String
  | warn => "WARN"
  | debug => "DEBUG"
  | trace => "TRACE"

/-- The level of a name. -/
def ofName? : String → Option LogLevel
  | "warn" => some warn
  | "debug" => some debug
  | "trace" => some trace
  | _ => none

end LogLevel

/-- Something worth a line in the log. -/
inductive LogEvent where
  | classRegistered (name : String) (fields methods constructors inner : Nat)
  | batchRegistered (accepted rejected : Nat)
  | methodChecked (className name : String) (errors : Nat)
  | checkFinished (errors : Nat)
  /-- No overload takes the arguments of a call, and the first candidate stands in. -/
  | overloadFallback (name : String) (span : Span)
  | running (className method : String)
  | staticsInitializing (className : String)
  | dispatch (className method : String) (args : Nat)
  | querySent (username endpoint query : String)
  | queryAnswered (rows : Nat) (query : String)
deriving DecidableEq

namespace LogEvent

def level : LogEvent → LogLevel
  | overloadFallback .. => .warn
  | dispatch .. => .trace
  | _ => .debug

def message : LogEvent → String
  | classRegistered name fields methods constructors inner =>
    s!"registered class {name} ({fields} fields, {methods} methods, {constructors} constructors, "
      ++ s!"{inner} inner classes)"
  | batchRegistered accepted rejected => s!"registered {accepted} classes ({rejected} rejected)"
  | methodChecked className name errors => s!"checked {className}.{name} ({errors} errors)"
  | checkFinished errors => s!"type check finished with {errors} errors"
  | overloadFallback name span =>
    s!"no overload of {name} matches the argument types at " ++ span.text
      ++ "; using the first candidate"
  | running className method => s!"running {className}#{method}"
  | staticsInitializing className => s!"initializing statics of {className}"
  | dispatch className method args => s!"dispatch {className}.{method} ({args} args)"
  | querySent username endpoint query => s!"{username}@{endpoint}: {query}"
  | queryAnswered rows query => s!"query returned {rows} rows: {query}"

/-- The line of the log. -/
def line (e : LogEvent) : String := e.level.text ++ " " ++ e.message

end LogEvent

/-- Events in the order they happened. -/
abbrev Log := Array LogEvent

namespace Log

/-- The lines of the events that are at least as important as a level. -/
def linesAt (log : Log) (level : LogLevel) : List String :=
  (log.toList.filter fun e => e.level.rank ≤ level.rank).map LogEvent.line

end Log

end ClassScript
