/-! # Source locations

Every node of a program carries the place it was written at: the line and column where it starts,
both counted from one, and its length. Line zero stands for an unknown place. -/

namespace ClassScript

/-- Start and length of a piece of source text. -/
structure Span where
  line : Nat
  col : Nat
  len : Nat
deriving DecidableEq, Repr

namespace Span

/-- The unknown place. -/
def unknown : Span := ⟨0, 0, 0⟩

instance : Inhabited Span := ⟨unknown⟩

/-- An empty span at a position. -/
def point (line col : Nat) : Span := ⟨line, col, 0⟩

/-- Whether the span is a real location. -/
def isKnown (s : Span) : Bool := s.line != 0

/-- The span that also covers `t`. On one line it is the hull of both; otherwise the start of `s`
with the lengths added. -/
def merge (s t : Span) : Span :=
  if s.line = t.line then
    let start := min s.col t.col
    ⟨s.line, start, max (s.col + s.len) (t.col + t.len) - start⟩
  else
    ⟨s.line, s.col, s.len + t.len⟩

/-- A location in messages: line and column. -/
def text (s : Span) : String := s!"{s.line}:{s.col}"

end Span

end ClassScript
