import ClassScript.Native.World
import ClassScript.Text.LetterCase
import ClassScript.Text.Search

/-! # Built-in methods

What each built-in method does with its receiver and its arguments. Arguments are read in order, and
the receiver is looked at where the method first needs it: that decides which of two faults is
reported. -/

namespace ClassScript

/-- The receiver and the arguments of a built-in method. -/
structure NativeCall where
  receiver : Option ObjectId
  args : List Value

namespace NativeCall

/-! ## Receiver and arguments -/

/-- The object the method was called on. -/
def receiverId (c : NativeCall) : Native ObjectId :=
  match c.receiver with
  | some id => return id
  | none => throw .missingReceiver

/-- An argument. -/
def arg (c : NativeCall) (i : Nat) : Native Value :=
  match c.args[i]? with
  | some v => return v
  | none => throw (.argumentIndexOutOfBounds i c.args.length)

/-- An argument that has to be an Integer. -/
def integerArg (c : NativeCall) (i : Nat) : Native Int64 := do
  let v ← c.arg i
  match (← Native.heap).integer? v with
  | some n => return n
  | none => throw (.argumentType i "Integer")

/-- An argument that has to be a String. -/
def stringArg (c : NativeCall) (i : Nat) : Native String := do
  let v ← c.arg i
  match (← Native.heap).string? v with
  | some s => return s
  | none => throw (.argumentType i "String")

/-- An argument that has to be a key. -/
def keyArg (c : NativeCall) (i : Nat) : Native MapKey := do
  let v ← c.arg i
  Native.ofHeap (·.mapKey v)

/-- A part of the receiver's native state. -/
def receiverState {α : Type} (c : NativeCall) (expected : String) (part? : Payload → Option α) :
    Native (ObjectId × α) := do
  let id ← c.receiverId
  let o := (← Native.heap).get id
  match part? o.payload with
  | some a => return (id, a)
  | none => throw (o.mismatch expected)

def receiverString (c : NativeCall) : Native String := do
  return (← c.receiverState "String" fun | .string s => some s | _ => none).2

def receiverDate (c : NativeCall) : Native Date := do
  return (← c.receiverState "Date" fun | .date d => some d | _ => none).2

def receiverRequest (c : NativeCall) : Native (ObjectId × Request) :=
  c.receiverState "HttpRequest" fun | .request r => some r | _ => none

def receiverList (c : NativeCall) : Native (ObjectId × Array Value) :=
  c.receiverState "List" fun | .list items => some items | _ => none

def receiverMap (c : NativeCall) : Native (ObjectId × List MapEntry) :=
  c.receiverState "Map" fun | .map entries => some entries | _ => none

/-- A generic argument of the receiver, `Object` if there is none. -/
def receiverTypeArg (c : NativeCall) (i : Nat) : Native DataType := do
  match c.receiver with
  | some id => return ((← Native.heap).get id).typeArgs.getD i .object
  | none => return .object

end NativeCall

namespace Native

/-- The position in a row of `len` items that an Integer index means. -/
def checkedIndex (index : Int64) (len : Nat) : Except NativeError Nat :=
  if 0 ≤ index.toInt ∧ index.toInt < len then .ok index.toInt.toNat
  else .error (.indexOutOfBounds index len)

/-- Replaces the native state of an object. -/
def setPayload (id : ObjectId) (payload : Payload) : Native Unit :=
  modifyHeap (·.setPayload id payload)

/-- The number of a length as an Integer. -/
def count (host : Host) (n : Nat) : Native (Option Value) := do
  return some (← integer host (Int64.ofNat n))

/-- The day with these numbers. -/
def dateOf (year month day : Int64) : Except NativeError Date :=
  match Date.ofNumbers? year.toInt month.toInt day.toInt with
  | some d => .ok d
  | none => .error (.external s!"invalid date {year}-{month}-{day}")

/-- A new date object. -/
def newDate (host : Host) (d : Date) : Native (Option Value) := do
  return some (← newObject host "Date" [] (.date d))

/-- The headers with one of them set. -/
def setHeader (name value : String) : List (String × String) → List (String × String)
  | [] => [(name, value)]
  | (n, v) :: rest => if n = name then (n, value) :: rest else (n, v) :: setHeader name value rest

variable (host : Host) (c : NativeCall)

/-! ## Scalars -/

/-- Methods of Integer, Double and String. -/
def scalarMethod : NativeMethod → Native (Option Value)
  | .formatScalar => do
    let id ← c.receiverId
    return some (← string host ((← heap).display (.object id)))
  | .integerValueOf => do
    match Text.integer? (← c.stringArg 0) with
    | some n => return some (← integer host n)
    | none => throw (.argumentType 0 "an integer literal")
  | .doubleIntValue => do
    let (_, x) ← c.receiverState "Double" fun | .double x => some x | _ => none
    return some (← integer host x.truncate)
  | .stringLength => do count host (← c.receiverString).length
  | .stringToUpperCase => do return some (← string host (Text.upper (← c.receiverString)))
  | .stringToLowerCase => do return some (← string host (Text.lower (← c.receiverString)))
  | .stringContains => do
    let haystack ← c.receiverString
    let needle ← c.stringArg 0
    return some (← boolean host (Text.contains haystack needle))
  | .stringValueOf => do
    let v ← c.arg 0
    return some (← string host ((← heap).display v))
  | _ => return none

/-! ## Lists -/

/-- Methods of List. -/
def listMethod : NativeMethod → Native (Option Value)
  | .listCreate => do
    setPayload (← c.receiverId) (.list #[])
    return none
  | .listAdd => do
    let v ← c.arg 0
    let (id, _) ← c.receiverList
    modifyHeap (·.modifyItems id (·.push v))
    return none
  | .listGet => do
    let index ← c.integerArg 0
    let (_, items) ← c.receiverList
    let i ← MonadExcept.ofExcept (checkedIndex index items.size)
    return some (items.getD i .null)
  | .listSet => do
    let index ← c.integerArg 0
    let v ← c.arg 1
    let (id, items) ← c.receiverList
    let i ← MonadExcept.ofExcept (checkedIndex index items.size)
    modifyHeap (·.modifyItems id (·.setIfInBounds i v))
    return none
  | .listSize => do count host (← c.receiverList).2.size
  | .listIsEmpty => do return some (← boolean host (← c.receiverList).2.isEmpty)
  | .listClear => do
    let (id, _) ← c.receiverList
    setPayload id (.list #[])
    return none
  | .listContains => do
    let needle ← c.arg 0
    let (_, items) ← c.receiverList
    let h ← heap
    return some (← boolean host (items.toList.any fun item => h.equals item needle))
  | _ => return none

/-! ## Maps -/

/-- Methods of Map. -/
def mapMethod : NativeMethod → Native (Option Value)
  | .mapCreate => do
    setPayload (← c.receiverId) (.map [])
    return none
  | .mapPut => do
    let keyValue ← c.arg 0
    let v ← c.arg 1
    let key ← ofHeap (·.mapKey keyValue)
    let (id, entries) ← c.receiverMap
    setPayload id (.map (MapEntries.insert key keyValue v entries))
    return some ((MapEntries.get? entries key).getD .null)
  | .mapGet => do
    let key ← c.keyArg 0
    let (_, entries) ← c.receiverMap
    return some ((MapEntries.get? entries key).getD .null)
  | .mapContainsKey => do
    let key ← c.keyArg 0
    let (_, entries) ← c.receiverMap
    return some (← boolean host (MapEntries.find? entries key).isSome)
  | .mapRemove => do
    let key ← c.keyArg 0
    let (id, entries) ← c.receiverMap
    setPayload id (.map (MapEntries.erase key entries))
    return some ((MapEntries.get? entries key).getD .null)
  | .mapSize => do count host (← c.receiverMap).2.length
  | .mapIsEmpty => do return some (← boolean host (← c.receiverMap).2.isEmpty)
  | .mapKeySet => do
    let (_, entries) ← c.receiverMap
    let element ← c.receiverTypeArg 0
    return some (← list host element (entries.map MapEntry.keyValue).toArray)
  | .mapValues => do
    let (_, entries) ← c.receiverMap
    let element ← c.receiverTypeArg 1
    return some (← list host element (entries.map MapEntry.value).toArray)
  | _ => return none

/-! ## Library -/

/-- Methods of Date. -/
def dateMethod : NativeMethod → Native (Option Value)
  | .dateToday => newDate host host.today
  | .dateNewInstance => do
    let year ← c.integerArg 0
    let month ← c.integerArg 1
    let day ← c.integerArg 2
    newDate host (← MonadExcept.ofExcept (dateOf year month day))
  | .dateFormat => do return some (← string host (← c.receiverDate).format)
  | .dateYear => do return some (← integer host (Int64.ofInt (← c.receiverDate).year))
  | .dateMonth => do count host (← c.receiverDate).month
  | .dateDay => do count host (← c.receiverDate).day
  | _ => return none

/-- Methods of HttpRequest. -/
def requestMethod : NativeMethod → Native (Option Value)
  | .requestCreate => do
    setPayload (← c.receiverId) (.request {})
    return none
  | .requestSetHeader => do
    let name ← c.stringArg 0
    let value ← c.stringArg 1
    let (id, r) ← c.receiverRequest
    setPayload id (.request { r with headers := setHeader name value r.headers })
    return none
  | .requestGetHeader => do
    let name ← c.stringArg 0
    let (_, r) ← c.receiverRequest
    return some (← optionalString host (r.headers.lookup name))
  | .requestSetMethod => do
    let method ← c.stringArg 0
    let (id, r) ← c.receiverRequest
    setPayload id (.request { r with method := some method })
    return none
  | .requestGetMethod => do
    let (_, r) ← c.receiverRequest
    return some (← optionalString host r.method)
  | .requestSetEndpoint => do
    let endpoint ← c.stringArg 0
    let (id, r) ← c.receiverRequest
    setPayload id (.request { r with endpoint := some endpoint })
    return none
  | .requestGetEndpoint => do
    let (_, r) ← c.receiverRequest
    return some (← optionalString host r.endpoint)
  | _ => return none

/-- Runs a built-in method; without a result it gives none. -/
def call (method : NativeMethod) : Native (Option Value) :=
  match method with
  | .formatScalar | .integerValueOf | .doubleIntValue | .stringLength | .stringToUpperCase
  | .stringToLowerCase | .stringContains | .stringValueOf => scalarMethod host c method
  | .listCreate | .listAdd | .listGet | .listSet | .listSize | .listIsEmpty | .listClear
  | .listContains => listMethod host c method
  | .mapCreate | .mapPut | .mapGet | .mapContainsKey | .mapRemove | .mapSize | .mapIsEmpty
  | .mapKeySet | .mapValues => mapMethod host c method
  | .dateToday | .dateNewInstance | .dateFormat | .dateYear | .dateMonth | .dateDay =>
    dateMethod host c method
  | .requestCreate | .requestSetHeader | .requestGetHeader | .requestSetMethod | .requestGetMethod
  | .requestSetEndpoint | .requestGetEndpoint => requestMethod host c method
  | .systemDebug => do
    let v ← c.arg 0
    writeLine ((← heap).display v)
    return none
  | .databaseQuery => do
    let text ← c.stringArg 0
    return some (← runQuery host text)

end Native

end ClassScript
