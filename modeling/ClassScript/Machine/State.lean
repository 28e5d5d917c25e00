import ClassScript.Machine.Frame
import ClassScript.Machine.Statics
import ClassScript.Native.Method

/-! # The machine

The state of a run and the computations on it. A computation ends with a result or halts; the state
is kept in both cases. Running out of fuel is not a fault of the program: it says that the bound on
the number of steps was too small. -/

namespace ClassScript

/-- What a run is given: the host and the deepest nesting of calls. -/
structure Env extends Host where
  maxDepth : Nat

/-- The state of a run. -/
structure Machine where
  world : World := {}
  /-- The active frames, the running one first. -/
  frames : List Frame := []
  statics : Statics := {}

/-- Why a run stops early. -/
inductive Halt where
  | fault (error : RuntimeError)
  | outOfFuel
deriving DecidableEq

/-- A computation of the machine. -/
abbrev Run := EStateM Halt Machine

namespace Machine

/-- The number of active frames. -/
def depth (m : Machine) : Nat := m.frames.length

/-- The class of a name: an inner class of the running class, or one of the table. -/
def lookupClass? (t : ClassTable) (m : Machine) (name : String) : Option ClassInfo :=
  match m.frames.head?.bind (·.cls.inner? name) with
  | some c => some c
  | none => t.resolve? name

/-- The value of an instance field. A field that the class declares and the object lacks, such as a
column that a query did not return, reads as `null`. -/
def readField? (t : ClassTable) (h : Heap) (id : ObjectId) (name : String) : Option Value :=
  match (h.get id).fields.get? name with
  | some v => some v
  | none => ((h.get id).cls.instanceField? t name).map fun _ => .null

/-- Whether a name denotes a value in the running method: a local, a field or a static field. -/
def namesValue (t : ClassTable) (m : Machine) (name : String) : Bool :=
  match m.frames with
  | [] => false
  | f :: _ =>
    f.isLocal name
      || (match f.this with
        | some id => (readField? t m.world.heap id name).isSome
        | none => false)
      || (f.cls.staticField? t name).isSome

/-- The class that an expression names in front of a member or a call. Values hide classes. -/
def classRef? (t : ClassTable) (m : Machine) : Expr → Option ClassInfo
  | .name i => if m.namesValue t i.name then none else m.lookupClass? t i.name
  | .member object i _ =>
    match classRef? t m object with
    | some c => c.inner? i.name
    | none => none
  | _ => none

end Machine

namespace Run

/-- Ends the run with a fault. -/
def fault {α : Type} (e : RuntimeError) : Run α := throw (.fault e)

/-- A result that may be a fault. -/
def ofExcept {α : Type} : Except RuntimeError α → Run α
  | .ok a => pure a
  | .error e => fault e

/-- A result that may be a fault of a built-in method. -/
def ofNative {α : Type} : Except NativeError α → Run α
  | .ok a => pure a
  | .error e => fault (.native e)

/-- Runs a computation of a built-in method. -/
def native {α : Type} (x : Native α) : Run α
  | ⟨world, frames, statics⟩ =>
    match x world with
    | .ok a world => .ok a ⟨world, frames, statics⟩
    | .error e world => .error (.fault (.native e)) ⟨world, frames, statics⟩

/-- The current heap. -/
def heap : Run Heap := fun m => .ok m.world.heap m

/-- Logs an event. -/
def log (event : LogEvent) : Run Unit := native (Native.log event)

/-- The running frame. -/
def frame : Run Frame := fun m =>
  match m.frames with
  | f :: _ => .ok f m
  | [] => .error (.fault .noFrame) m

/-- Changes the running frame. -/
def modifyFrame (f : Frame → Frame) : Run Unit
  | ⟨world, top :: frames, statics⟩ => .ok () ⟨world, f top :: frames, statics⟩
  | ⟨world, [], statics⟩ => .error (.fault .noFrame) ⟨world, [], statics⟩

/-- Leaves the innermost block of the running frame. -/
def popBlock : Machine → Machine
  | ⟨world, top :: frames, statics⟩ => ⟨world, top.pop :: frames, statics⟩
  | ⟨world, [], statics⟩ => ⟨world, [], statics⟩

/-- Leaves the running frame. -/
def popFrame : Machine → Machine
  | ⟨world, frames, statics⟩ => ⟨world, frames.tail, statics⟩

/-- Runs `x`, then `f` on the state, however `x` ends. -/
def ending {α : Type} (x : Run α) (f : Machine → Machine) : Run α := fun m =>
  match x m with
  | .ok a m => .ok a (f m)
  | .error e m => .error e (f m)

/-- Runs in a block of its own. -/
def inBlock {α : Type} (x : Run α) : Run α := do
  modifyFrame Frame.push
  ending x popBlock

/-- Runs in a frame of its own. -/
def inFrame {α : Type} (f : Frame) (x : Run α) : Run α
  | ⟨world, frames, statics⟩ => ending x popFrame ⟨world, f :: frames, statics⟩

/-- Changes the static fields. -/
def modifyStatics (f : Statics → Statics) : Run Unit
  | ⟨world, frames, statics⟩ => .ok () ⟨world, frames, f statics⟩

/-- Touches the classes of a chain and gives the initializers that have to run. -/
def touchStatics (chain : List ClassInfo) : Run (List PendingStatic)
  | ⟨world, frames, statics⟩ =>
    let (statics, pending) := statics.touch chain
    .ok pending ⟨world, frames, statics⟩

end Run

end ClassScript
