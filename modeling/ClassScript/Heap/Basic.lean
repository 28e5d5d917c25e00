import ClassScript.Class.Table
import ClassScript.Date
import ClassScript.Fault
import ClassScript.Heap.MapKey

/-! # Values and the heap

A value is `null` or a reference to an object. Every scalar is an object of its own, so a call is
dispatched the same way on all values, and two scalars of equal content may be different objects. An
object has a class, generic arguments, fields, and the native state that built-in classes need. -/

namespace ClassScript

/-- The place of an object in the heap. -/
abbrev ObjectId := Nat

/-- A value of a running program. -/
inductive Value where
  | null
  | object (id : ObjectId)
deriving DecidableEq, Inhabited

/-- An entry of a map: its key, the value that the key was made from, and the stored value. -/
structure MapEntry where
  key : MapKey
  keyValue : Value
  value : Value

/-- A request under construction. -/
structure Request where
  headers : List (String × String) := []
  method : Option String := none
  endpoint : Option String := none

/-- The native state of an object. -/
inductive Payload where
  | none
  | integer (value : Int64)
  | double (value : Double)
  | boolean (value : Bool)
  | string (value : String)
  | list (items : Array Value)
  /-- The entries in the order of their keys. -/
  | map (entries : List MapEntry)
  | date (value : Date)
  | request (value : Request)
deriving Inhabited

namespace Payload

/-- The name of a kind of native state. -/
def kind : Payload → String
  | none => "none"
  | integer _ => "Integer"
  | double _ => "Double"
  | boolean _ => "Boolean"
  | string _ => "String"
  | list _ => "List"
  | map _ => "Map"
  | date _ => "Date"
  | request _ => "HttpRequest"

end Payload

/-- An instance of a class. -/
structure Object where
  cls : ClassInfo
  typeArgs : List DataType
  fields : NameTable Value
  payload : Payload
deriving Inhabited

namespace Object

/-- An instance without fields. -/
def make (cls : ClassInfo) (typeArgs : List DataType) (payload : Payload) : Object :=
  ⟨cls, typeArgs, .empty, payload⟩

/-- The type of an instance. -/
def dataType (o : Object) : DataType := ⟨o.cls.name, o.typeArgs⟩

/-- The failure of a method that expects other native state. -/
def mismatch (o : Object) (expected : String) : NativeError :=
  .payloadMismatch expected o.cls.name

/-- The object with the value of a field set. -/
def setField (o : Object) (name : String) (value : Value) : Object :=
  { o with fields := o.fields.insert name value }

end Object

/-- The objects of a run, in the order they were made. -/
structure Heap where
  objects : Array Object := #[]

namespace Heap

/-- The heap without objects. -/
def empty : Heap := {}

/-- The object at a place. -/
def get (h : Heap) (id : ObjectId) : Object := h.objects.getD id default

/-- Makes a new object. -/
def alloc (h : Heap) (o : Object) : ObjectId × Heap :=
  match h with
  | ⟨objects⟩ => (objects.size, ⟨objects.push o⟩)

/-- Changes the object at a place. -/
def modify (h : Heap) (id : ObjectId) (f : Object → Object) : Heap :=
  match h with
  | ⟨objects⟩ => ⟨objects.modify id f⟩

/-- Replaces the native state of an object. -/
def setPayload (h : Heap) (id : ObjectId) (payload : Payload) : Heap :=
  h.modify id fun o => { o with payload }

/-- Changes the items of a list object; any other object stays as it is. -/
def modifyItems (h : Heap) (id : ObjectId) (f : Array Value → Array Value) : Heap :=
  h.modify id fun
    | ⟨cls, typeArgs, fields, .list items⟩ => ⟨cls, typeArgs, fields, .list (f items)⟩
    | o => o

/-- Sets a field of an object. -/
def setField (h : Heap) (id : ObjectId) (name : String) (value : Value) : Heap :=
  h.modify id fun o => o.setField name value

/-! ## Places after an update -/

@[simp] theorem size_modify (h : Heap) (id : ObjectId) (f : Object → Object) :
    (h.modify id f).objects.size = h.objects.size := by
  simp [modify]

/-- A new object stands at its own place. -/
@[simp] theorem get_alloc_self (h : Heap) (o : Object) : (h.alloc o).2.get (h.alloc o).1 = o := by
  simp [alloc, get]

/-- Making an object leaves the others as they are. -/
theorem get_alloc_of_lt (h : Heap) (o : Object) {id : ObjectId} (lt : id < h.objects.size) :
    (h.alloc o).2.get id = h.get id := by
  simp [alloc, get, Array.getElem?_push, Nat.ne_of_lt lt]

/-- A change reaches the object at its place and no other. -/
theorem get_modify (h : Heap) (id j : ObjectId) (f : Object → Object)
    (lt : j < h.objects.size) : (h.modify id f).get j = if id = j then f (h.get j) else h.get j := by
  by_cases e : id = j <;> simp [modify, get, Array.getElem_modify, lt, e]

/-! ## Reading values -/

/-- The native state behind a value; `null` has none. -/
def payload? (h : Heap) : Value → Option Payload
  | .null => none
  | .object id => some (h.get id).payload

/-- The type of a value. -/
def dataType (h : Heap) : Value → DataType
  | .null => .null
  | .object id => (h.get id).dataType

def integer? (h : Heap) (v : Value) : Option Int64 :=
  match h.payload? v with
  | some (.integer n) => some n
  | _ => none

theorem payload_of_integer? {h : Heap} {id : ObjectId} {n : Int64}
    (hn : h.integer? (.object id) = some n) : (h.get id).payload = .integer n := by
  simp only [integer?, payload?] at hn
  split at hn
  · rename_i hp
    rw [Option.some.inj hp, Option.some.inj hn]
  · cases hn

/-- The number behind an Integer or a Double. -/
def double? (h : Heap) (v : Value) : Option Double :=
  match h.payload? v with
  | some (.double x) => some x
  | some (.integer n) => some (.ofInt64 n)
  | _ => none

def boolean? (h : Heap) (v : Value) : Option Bool :=
  match h.payload? v with
  | some (.boolean b) => some b
  | _ => none

def string? (h : Heap) (v : Value) : Option String :=
  match h.payload? v with
  | some (.string s) => some s
  | _ => none

/-- The items of a list object. -/
def list (h : Heap) (id : ObjectId) : Except NativeError (Array Value) :=
  match (h.get id).payload with
  | .list items => .ok items
  | _ => .error ((h.get id).mismatch "List")

/-- The entries of a map object. -/
def map (h : Heap) (id : ObjectId) : Except NativeError (List MapEntry) :=
  match (h.get id).payload with
  | .map entries => .ok entries
  | _ => .error ((h.get id).mismatch "Map")

/-- A value as a key; only scalars and `null` can be keys. -/
def mapKey (h : Heap) : Value → Except NativeError MapKey
  | .null => .ok .null
  | .object id =>
    match (h.get id).payload with
    | .integer n => .ok (.integer n)
    | .double x => .ok (.double x)
    | .boolean b => .ok (.boolean b)
    | .string s => .ok (.string s)
    | _ => .error (.unsupportedKey (h.get id).cls.name)

end Heap

end ClassScript
