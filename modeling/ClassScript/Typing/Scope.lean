import ClassScript.Diagnostic
import ClassScript.NameTable

/-! # Local variables of a method

The variables visible at one point of a method body. A variable belongs to the block that declares
it; a nested block may declare the name again, and the outer variable comes back when the block
ends. One table holds what is visible; a stack remembers what a declaration hid, and in which block.
-/

namespace ClassScript

/-- A local variable or a parameter. -/
structure LocalVar where
  /-- The name as written. -/
  name : String
  /-- Absent if the declared type is unknown. -/
  type : Option DataType
  /-- The nesting depth of the block that declares it; parameters have depth zero. -/
  depth : Nat
  span : Span

/-- A variable that a declaration in the block of depth `block` hid. -/
structure Hidden where
  block : Nat
  var : LocalVar

/-- The local variables at one point. -/
structure LocalScope where
  visible : NameTable LocalVar := .empty
  depth : Nat := 0
  /-- What is hidden, the latest first. -/
  hidden : List Hidden := []

namespace LocalScope

/-- The scope at the start of a method. -/
def empty : LocalScope := {}

/-- Enters a block. -/
def push (s : LocalScope) : LocalScope := { s with depth := s.depth + 1 }

/-- The variables hidden by the block of this depth come back. -/
def restore (depth : Nat) (visible : NameTable LocalVar) : List Hidden → LocalScope
  | [] => { visible, depth := depth - 1 }
  | h :: hs =>
    if h.block = depth then restore depth (visible.insert h.var.name h.var) hs
    else { visible, depth := depth - 1, hidden := h :: hs }

/-- Leaves a block: its variables go, and what they hid comes back. -/
def pop (s : LocalScope) : LocalScope :=
  restore s.depth (s.visible.filter fun v => v.depth < s.depth) s.hidden

/-- The variable that a name denotes. -/
def lookup? (s : LocalScope) (name : String) : Option LocalVar := s.visible.get? name

def isDeclared (s : LocalScope) (name : String) : Bool := (s.lookup? name).isSome

/-- Declares a variable in the current block, unless the block has one of that name. -/
def declare (s : LocalScope) (name : String) (type : Option DataType) (span : Span) :
    Except CheckError LocalScope :=
  let visible := s.visible.insert name ⟨name, type, s.depth, span⟩
  match s.lookup? name with
  | none => .ok { s with visible }
  | some var =>
    if var.depth = s.depth then .error ⟨.redeclared name, span⟩
    else .ok { s with visible, hidden := ⟨s.depth, var⟩ :: s.hidden }

end LocalScope

end ClassScript
