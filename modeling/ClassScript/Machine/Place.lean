import ClassScript.Machine.Call

/-! # Places

What an assignment writes to. A target is resolved to a place once, and then read and written
through it, so that the expressions in it are evaluated a single time. -/

namespace ClassScript

/-- A resolved target of an assignment. -/
inductive Place where
  /-- A local variable. -/
  | var (name : String)
  | field (id : ObjectId) (name : String)
  /-- A static field as seen from a class. -/
  | static (cls : ClassInfo) (name : String)
  /-- A position of a list, and where it was written. -/
  | slot (list : ObjectId) (index : Nat) (span : Span)
  | entry (map : ObjectId) (key : Value)

namespace Calls

variable (env : Env) (calls : Calls)

/-- Whether an object has a field, or its class declares it. -/
def hasField (h : Heap) (id : ObjectId) (name : String) : Bool :=
  (Machine.readField? env.classes h id name).isSome

/-! ## Resolving a target -/

/-- The place of a bare name: a local, then a field of the receiver, then a static field. -/
def namePlace (name : String) : Run Place := do
  let f ← Run.frame
  let h ← Run.heap
  if f.isLocal name then return .var name
  else
    match f.this.filter fun id => hasField env h id name with
    | some id => return .field id name
    | none =>
      if (f.cls.staticField? env.classes name).isSome then return .static f.cls name
      else Run.fault (.undefinedVariable name)

/-- The place of a static field of a class. -/
def staticPlace (c : ClassInfo) (name : String) : Run Place :=
  if (c.staticField? env.classes name).isSome then return .static c name
  else Run.fault (.undefinedField c.name name)

/-- The place of a member of a class or of an object. -/
def memberPlace (object : Expr) (name : String) (span : Span) : Run Place := do
  match (← get).classRef? env.classes object with
  | some c => staticPlace env c name
  | none =>
    match ← calls.eval object with
    | .null => Run.fault (.nullReference span)
    | .object id =>
      let h ← Run.heap
      if hasField env h id name then return .field id name
      else staticPlace env (h.get id).cls name

/-- The number that a list index means: an Integer, or a String that holds one. -/
def listPosition (h : Heap) (key : Value) (span : Span) : Except RuntimeError Int64 :=
  match h.integer? key with
  | some n => .ok n
  | none =>
    match h.string? key with
    | none => .error (.native (.argumentType 0 "Integer"))
    | some text =>
      match Text.integer? text with
      | some n => .ok n
      | none => .error (.invalidListIndex text span)

/-- The position in a list of some length that an index means. -/
def listSlot (h : Heap) (key : Value) (len : Nat) (keySpan span : Span) :
    Except RuntimeError Nat :=
  match key with
  | .null => .error (.nullReference keySpan)
  | .object _ => do
    let position ← listPosition h key keySpan
    match Native.checkedIndex position len with
    | .ok i => return i
    | .error _ => .error (.indexOutOfBounds position len span)

/-- The place of an element of a collection. -/
def indexPlace (object key : Expr) (span : Span) : Run Place := do
  let collection ← calls.eval object
  let k ← calls.eval key
  match collection with
  | .null => Run.fault (.nullReference span)
  | .object id =>
    let h ← Run.heap
    match (h.get id).payload with
    | .list items => return .slot id (← Run.ofExcept (listSlot h k items.size key.span span)) span
    | .map _ => return .entry id k
    | _ => Run.fault (.native ((h.get id).mismatch "List"))

/-- The place that an expression denotes. -/
def place : Expr → Run Place
  | .name i => namePlace env i.name
  | .member object m span => calls.memberPlace env object m.name span
  | .index object key span => calls.indexPlace object key span
  | e => Run.fault (.notAssignable e.span)

/-! ## Reading and writing -/

/-- The value at a place. -/
def load : Place → Run Value
  | .var name => do
    match (← Run.frame).lookup? name with
    | some v => return v
    | none => Run.fault (.undefinedVariable name)
  | .field id name => do
    return (Machine.readField? env.classes (← Run.heap) id name).getD .null
  | .static c name => do
    return (← calls.readStatic env c name).getD .null
  | .slot id i _ => do
    return (← Run.ofNative ((← Run.heap).list id)).getD i .null
  | .entry id key => do
    let h ← Run.heap
    let k ← Run.ofNative (h.mapKey key)
    let entries ← Run.ofNative (h.map id)
    return (MapEntries.get? entries k).getD .null

/-- Writes a value to a place. -/
def store (value : Value) : Place → Run Unit
  | .var name => do
    if (← Run.frame).isLocal name then Run.modifyFrame (·.assign name value)
    else Run.fault (.undefinedVariable name)
  | .field id name => Run.native (Native.modifyHeap (·.setField id name value))
  | .static c name => calls.writeStatic env c name value
  | .slot id i span => do
    let items ← Run.ofNative ((← Run.heap).list id)
    if i < items.size then
      Run.native (Native.modifyHeap (·.modifyItems id (·.setIfInBounds i value)))
    else Run.fault (.indexOutOfBounds (Int64.ofNat i) items.size span)
  | .entry id key => do
    let h ← Run.heap
    let k ← Run.ofNative (h.mapKey key)
    let entries ← Run.ofNative (h.map id)
    Run.native (Native.setPayload id (.map (MapEntries.insert k key value entries)))

end Calls

end ClassScript
