import ClassScript.Proofs.Memory.Locations

/-!
# What the methods of lists and maps do

Each method in one equation, for a receiver that is a list or a map. Reading an item and setting it
go by the same test of the index (`call_listGet`, `call_listSet`). The methods of maps that take a
key look at it first: it has to be a scalar or `null`. Then they find, insert or erase its entry
(`call_mapGet`, `call_mapContainsKey`, `call_mapPut`, `call_mapRemove`). The views of a map are new
lists of the key values and of the values of its entries, in their order (`call_mapKeySet`,
`call_mapValues`).
-/

namespace ClassScript

namespace World

/-- The world with the native state of an object replaced. -/
def setPayload (w : World) (id : ObjectId) (p : Payload) : World :=
  { w with heap := w.heap.setPayload id p }

/-- The world with a new object. -/
def make (w : World) (o : Object) : World := { w with heap := (w.heap.alloc o).2 }

variable {w : World} {id : ObjectId}

theorem get_make_self (w : World) (o : Object) : (w.make o).heap.get w.heap.objects.size = o :=
  Heap.get_alloc_self w.heap o

theorem get_make (lt : id < w.heap.objects.size) (o : Object) :
    (w.make o).heap.get id = w.heap.get id := Heap.get_alloc_of_lt w.heap o lt

theorem size_make (w : World) (o : Object) :
    (w.make o).heap.objects.size = w.heap.objects.size + 1 := Heap.size_alloc w.heap o

theorem map_make {es : List MapEntry} (hm : w.heap.map id = .ok es) (o : Object) :
    (w.make o).heap.map id = .ok es := by
  have lt : id < w.heap.objects.size := Heap.lt_of_payload (by simp [Heap.map_eq_ok.1 hm])
  rw [Heap.map_eq_ok, get_make lt, Heap.map_eq_ok.1 hm]

end World

/-! ## Receiver and arguments -/

namespace NativeCall

variable {w : World} {c : NativeCall} {i : Nat} {v : Value} {id : ObjectId} {args : List Value}

theorem arg_eq (hv : c.args[i]? = some v) : c.arg i w = .ok v w := by
  unfold arg
  rw [hv]
  rfl

theorem integerArg_eq {n : Int64} (hv : c.args[i]? = some v) (hn : w.heap.integer? v = some n) :
    c.integerArg i w = .ok n w := by
  have heap : Native.heap w = .ok w.heap w := rfl
  unfold integerArg
  rw [Native.bind_ok (arg_eq hv), Native.bind_ok heap, hn]
  rfl

/-- A key that a method is given, as the heap has it. -/
theorem keyArg_bind {α : Type} {f : MapKey → Native α} (hv : c.args[i]? = some v) :
    (c.keyArg i >>= f) w = match w.heap.mapKey v with
      | .ok k => f k w
      | .error e => .error e w := by
  have look : c.keyArg i w = (MonadExcept.ofExcept (w.heap.mapKey v) : Native MapKey) w := by
    unfold keyArg
    rw [Native.bind_ok (arg_eq hv)]
    rfl
  rw [Native.bind_eq, look]
  cases w.heap.mapKey v <;> rfl

theorem receiverList_eq {items : Array Value} (hl : w.heap.list id = .ok items) :
    receiverList ⟨some id, args⟩ w = .ok (id, items) w := by
  unfold receiverList
  rw [receiverState_eq, Heap.list_eq_ok.1 hl]
  rfl

theorem receiverMap_eq {entries : List MapEntry} (hm : w.heap.map id = .ok entries) :
    receiverMap ⟨some id, args⟩ w = .ok (id, entries) w := by
  unfold receiverMap
  rw [receiverState_eq, Heap.map_eq_ok.1 hm]
  rfl

/-- What a method of a map does with a key that it is given and the entries. -/
theorem keyArg_receiverMap_bind {α : Type} {entries : List MapEntry}
    (hm : w.heap.map id = .ok entries) (key : Value) (rest : List Value)
    (f : MapKey → ObjectId × List MapEntry → Native α) :
    (keyArg ⟨some id, key :: rest⟩ 0 >>= fun k =>
      receiverMap ⟨some id, key :: rest⟩ >>= f k) w =
      match w.heap.mapKey key with
      | .ok k => f k (id, entries) w
      | .error e => .error e w := by
  rw [keyArg_bind rfl]
  cases w.heap.mapKey key with
  | ok k => exact Native.bind_ok (receiverMap_eq hm)
  | error e => rfl

end NativeCall

namespace Native

open NativeCall

variable (host : Host) {w : World} {id : ObjectId}

/-! ## Lists -/

section

variable {items : Array Value} {i : Int64} {key : Value} (hl : w.heap.list id = .ok items)
  (hi : w.heap.integer? key = some i)
include hl hi

theorem call_listGet : call host ⟨some id, [key]⟩ .listGet w =
    match checkedIndex i items.size with
    | .ok p => .ok (some (items.getD p .null)) w
    | .error e => .error e w := by
  show (integerArg ⟨some id, [key]⟩ 0 >>= _) w = _
  rw [bind_ok (integerArg_eq rfl hi), bind_ok (receiverList_eq hl)]
  dsimp only
  cases checkedIndex i items.size <;> rfl

theorem call_listSet (v : Value) : call host ⟨some id, [key, v]⟩ .listSet w =
    match checkedIndex i items.size with
    | .ok p => .ok none (w.setPayload id (.list (items.setIfInBounds p v)))
    | .error e => .error e w := by
  show (integerArg ⟨some id, [key, v]⟩ 0 >>= _) w = _
  rw [bind_ok (integerArg_eq rfl hi), bind_ok (arg_eq rfl), bind_ok (receiverList_eq hl)]
  dsimp only
  cases checkedIndex i items.size with
  | error e => rfl
  | ok p =>
    dsimp only [World.setPayload]
    rw [← Heap.modifyItems_of_list hl (·.setIfInBounds p v)]
    rfl

end

/-! ## Maps -/

section

variable {entries : List MapEntry} (hm : w.heap.map id = .ok entries)
include hm

theorem call_mapPut (key v : Value) : call host ⟨some id, [key, v]⟩ .mapPut w =
    match w.heap.mapKey key with
    | .ok k => .ok (some ((MapEntries.get? entries k).getD .null))
        (w.setPayload id (.map (MapEntries.insert k key v entries)))
    | .error e => .error e w :=
  keyArg_receiverMap_bind hm key [v] _

theorem call_mapGet (key : Value) : call host ⟨some id, [key]⟩ .mapGet w =
    match w.heap.mapKey key with
    | .ok k => .ok (some ((MapEntries.get? entries k).getD .null)) w
    | .error e => .error e w :=
  keyArg_receiverMap_bind hm key [] _

theorem call_mapContainsKey (key : Value) : call host ⟨some id, [key]⟩ .mapContainsKey w =
    match w.heap.mapKey key with
    | .ok k => .ok (some (.object w.heap.objects.size))
        (w.make (.make host.prims.boolean [] (.boolean (MapEntries.find? entries k).isSome)))
    | .error e => .error e w :=
  keyArg_receiverMap_bind hm key [] _

theorem call_mapRemove (key : Value) : call host ⟨some id, [key]⟩ .mapRemove w =
    match w.heap.mapKey key with
    | .ok k => .ok (some ((MapEntries.get? entries k).getD .null))
        (w.setPayload id (.map (MapEntries.erase k entries)))
    | .error e => .error e w :=
  keyArg_receiverMap_bind hm key [] _

theorem call_mapSize : call host ⟨some id, []⟩ .mapSize w =
    .ok (some (.object w.heap.objects.size))
      (w.make (.make host.prims.integer [] (.integer (Int64.ofNat entries.length)))) := by
  show (receiverMap ⟨some id, []⟩ >>= _) w = _
  rw [bind_ok (receiverMap_eq hm)]
  rfl

theorem call_mapKeySet : call host ⟨some id, []⟩ .mapKeySet w =
    .ok (some (.object w.heap.objects.size))
      (w.make (.make host.prims.list [(w.heap.get id).typeArgs.getD 0 .object]
        (.list (entries.map MapEntry.keyValue).toArray))) := by
  show (receiverMap ⟨some id, []⟩ >>= _) w = _
  rw [bind_ok (receiverMap_eq hm)]
  rfl

theorem call_mapValues : call host ⟨some id, []⟩ .mapValues w =
    .ok (some (.object w.heap.objects.size))
      (w.make (.make host.prims.list [(w.heap.get id).typeArgs.getD 1 .object]
        (.list (entries.map MapEntry.value).toArray))) := by
  show (receiverMap ⟨some id, []⟩ >>= _) w = _
  rw [bind_ok (receiverMap_eq hm)]
  rfl

end

end Native

end ClassScript
