import ClassScript.Class.Builtin
import ClassScript.Heap.Display
import ClassScript.Query
import ClassScript.Sink

/-! # What built-in methods work on

The `Host` is fixed for a run: the classes, the query service and its credentials, the current day.
The `World` changes: the heap, the output and the log. -/

namespace ClassScript

/-- The classes that values are made of most often. -/
structure Primitives where
  integer : ClassInfo
  double : ClassInfo
  string : ClassInfo
  boolean : ClassInfo
  list : ClassInfo
  map : ClassInfo

namespace Primitives

/-- A class that has to be in the table. -/
def require (t : ClassTable) (name : String) : Except NativeError ClassInfo :=
  match t.get? name with
  | some c => .ok c
  | none => .error (.unknownClass name)

/-- The primitive classes of a table. -/
def ofTable (t : ClassTable) : Except NativeError Primitives := do
  let integer ← require t "Integer"
  let double ← require t "Double"
  let string ← require t "String"
  let boolean ← require t "Boolean"
  let list ← require t "List"
  let map ← require t "Map"
  return { integer, double, string, boolean, list, map }

end Primitives

/-- What a run is given and does not change. -/
structure Host where
  classes : ClassTable
  prims : Primitives
  query : Option QueryService
  credentials : Credentials
  today : Date

/-- What a run changes outside its own control state. -/
structure World where
  heap : Heap := .empty
  sink : Sink := .unlimited
  log : Log := #[]

/-- A computation of a built-in method. -/
abbrev Native := EStateM NativeError World

namespace Native

variable (host : Host)

/-! ## Access to the world -/

/-- The current heap. -/
def heap : Native Heap := fun w => .ok w.heap w

/-- Changes the heap. -/
def modifyHeap (f : Heap → Heap) : Native Unit
  | ⟨heap, sink, log⟩ => .ok () ⟨f heap, sink, log⟩

/-- A value computed from the heap that may fail. -/
def ofHeap {α : Type} (f : Heap → Except NativeError α) : Native α := do
  MonadExcept.ofExcept (f (← heap))

/-- Makes a new object. -/
def alloc (o : Object) : Native Value
  | ⟨heap, sink, log⟩ =>
    let (id, heap) := heap.alloc o
    .ok (.object id) ⟨heap, sink, log⟩

/-- Logs an event. -/
def log (event : LogEvent) : Native Unit
  | ⟨heap, sink, log⟩ => .ok () ⟨heap, sink, log.push event⟩

/-- Writes a line of output. -/
def writeLine (text : String) : Native Unit
  | ⟨heap, sink, log⟩ =>
    match sink.write (text ++ "\n") with
    | (none, sink) => .ok () ⟨heap, sink, log⟩
    | (some message, sink) => .error (.output message) ⟨heap, sink, log⟩

/-! ## Making values -/

def integer (n : Int64) : Native Value := alloc (.make host.prims.integer [] (.integer n))

def double (x : Double) : Native Value := alloc (.make host.prims.double [] (.double x))

def boolean (b : Bool) : Native Value := alloc (.make host.prims.boolean [] (.boolean b))

def string (s : String) : Native Value := alloc (.make host.prims.string [] (.string s))

/-- A list of a type of elements. -/
def list (element : DataType) (items : Array Value) : Native Value :=
  alloc (.make host.prims.list [element] (.list items))

/-- A map without entries. -/
def map (key value : DataType) : Native Value :=
  alloc (.make host.prims.map [key, value] (.map []))

/-- An instance of a class that is known by name. -/
def newObject (className : String) (typeArgs : List DataType) (payload : Payload) : Native Value :=
  match host.classes.resolve? className with
  | some c => alloc (.make c typeArgs payload)
  | none => throw (.unknownClass className)

/-- A text that may be missing. -/
def optionalString : Option String → Native Value
  | some s => string host s
  | none => return .null

/-! ## Queries -/

/-- The record of a row: the id, then the other columns, each as a field. -/
def recordOf (cls : ClassInfo) (row : QueryRow) : Native Value := do
  let id ← string host row.id
  let start := (Object.make cls [] .none).setField Builtin.recordIdField id
  let record ← row.fields.foldlM
    (fun o (name, value) => return o.setField name (← string host value)) start
  alloc record

/-- The list of records that rows stand for. -/
def materialize (rows : List QueryRow) : Native Value :=
  match host.classes.get? Builtin.recordName with
  | none => throw (.unknownClass Builtin.recordName)
  | some cls => do
    let records ← rows.mapM (recordOf host cls)
    list host (.simple Builtin.recordName) records.toArray

/-- Sends a query to a service, which may log. -/
def ask (service : QueryService) (credentials : Credentials) (query : String) :
    Native (List QueryRow)
  | ⟨heap, sink, log⟩ =>
    match service.execute credentials query log with
    | .ok rows log => .ok rows ⟨heap, sink, log⟩
    | .error e log => .error e ⟨heap, sink, log⟩

/-- Runs a query and makes a list of the rows. -/
def runQuery (query : String) : Native Value :=
  match host.query with
  | none => throw (.external "no query executor is configured")
  | some service => do
    let rows ← ask service host.credentials query
    log (.queryAnswered rows.length query)
    materialize host rows

end Native

end ClassScript
