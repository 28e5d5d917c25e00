/-! # Program output

A program writes its output to a sink line by line, and flushes it at the end of a run. What a sink
does with a text is its own affair: it works on a state that nothing else reads, it may fail at every
write and at every flush, and it says why in its own words. -/

namespace ClassScript

/-- Where output goes. By default, a sink keeps everything that is written. -/
structure Sink where
  /-- What the sink remembers. -/
  state : ByteArray := .empty
  /-- Takes a text. What was done before a failure stays done. -/
  onWrite : String → EStateM String ByteArray Unit := fun text => modify (· ++ text.toUTF8)
  onFlush : EStateM String ByteArray Unit := pure ()

namespace Sink

/-- A sink that takes everything. -/
def unlimited : Sink := {}

/-- The sink after an action of its own, and why the action failed, if it did. -/
def act (s : Sink) (action : EStateM String ByteArray Unit) : Option String × Sink :=
  match s with
  | ⟨state, onWrite, onFlush⟩ =>
    match action state with
    | .ok _ state => (none, ⟨state, onWrite, onFlush⟩)
    | .error message state => (some message, ⟨state, onWrite, onFlush⟩)

/-- Writes a text. -/
def write (s : Sink) (text : String) : Option String × Sink := s.act (s.onWrite text)

/-- Flushes what was written. -/
def flush (s : Sink) : Option String × Sink := s.act s.onFlush

/-- The state of a sink that keeps what it takes, as text. A last character that was cut shows as a
replacement character. -/
def text (s : Sink) : String :=
  let cut (n : Nat) := String.fromUTF8? (s.state.extract 0 (s.state.size - n))
  match cut 0 with
  | some text => text
  | none => (([1, 2, 3].findSome? cut).getD "") ++ "\uFFFD"

end Sink

end ClassScript
