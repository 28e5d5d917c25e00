import ClassScript.Heap.Basic

/-! # Frames

One activation of a method: the class it runs in, the receiver, and the local variables, block by
block. -/

namespace ClassScript

/-- The variables of one block. -/
abbrev Block := NameTable Value

/-- An activation of a method. -/
structure Frame where
  cls : ClassInfo
  /-- Absent in static methods and static initializers. -/
  this : Option ObjectId
  /-- The innermost block. -/
  block : Block := .empty
  /-- The blocks around it, innermost first. -/
  outer : List Block := []
deriving Inhabited

namespace Frame

/-- An activation without variables. -/
def make (cls : ClassInfo) (this : Option ObjectId) : Frame := { cls, this }

/-- All blocks, innermost first. -/
def blocks (f : Frame) : List Block := f.block :: f.outer

/-- Enters a block. -/
def push (f : Frame) : Frame := { f with block := .empty, outer := f.block :: f.outer }

/-- Leaves the innermost block; the outermost one stays. -/
def pop (f : Frame) : Frame :=
  match f.outer with
  | [] => f
  | block :: outer => { f with block, outer }

/-- Binds a name in the innermost block. -/
def declare (f : Frame) (name : String) (value : Value) : Frame :=
  { f with block := f.block.insert name value }

/-- The value of a variable, from the innermost block that has it. -/
def lookup? (f : Frame) (name : String) : Option Value := f.blocks.findSome? (·.get? name)

def isLocal (f : Frame) (name : String) : Bool := (f.lookup? name).isSome

/-- Sets a variable in the first block that has it. -/
def assignIn (name : String) (value : Value) : List Block → List Block
  | [] => []
  | b :: bs =>
    if b.contains name then b.insert name value :: bs else b :: assignIn name value bs

/-- Sets a variable in the innermost block that has it; nothing happens if none has. -/
def assign (f : Frame) (name : String) (value : Value) : Frame :=
  if f.block.contains name then { f with block := f.block.insert name value }
  else { f with outer := assignIn name value f.outer }

/-- Binds parameters to arguments, as far as both go. -/
def declareParams (f : Frame) (params : List ParamInfo) (args : List Value) : Frame :=
  (params.zip args).foldl (fun f (p, v) => f.declare p.name v) f

end Frame

end ClassScript
