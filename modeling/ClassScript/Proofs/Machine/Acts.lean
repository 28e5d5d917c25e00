import ClassScript.Native.Method
import Mathlib.Logic.Relation

/-!
# What built-in methods do to the heap

A built-in method works on the heap in single acts (`Native.Act`): it makes an object with the
native state of its class, makes the record of a row, or renews the native state of a container or
a request (`Heap.Renews`). Only their constructors give their receiver native state whatever it had
(`NativeMethod.start?`). This is all that built-in methods do (`Native.call_acts`), so whatever
single acts keep, they keep (`Native.Acts.keeps`).
-/

namespace ClassScript

/-- The native state that a method gives its receiver. -/
def NativeMethod.start? : NativeMethod → Option Payload
  | .listCreate => some (.list #[])
  | .mapCreate => some (.map [])
  | .requestCreate => some (.request {})
  | _ => none

/-- The objects that the host makes: values with their native state, and records without. -/
inductive Host.Makes (host : Host) : Object → Prop
  | integer (n : Int64) : Makes host (.make host.prims.integer [] (.integer n))
  | double (x : Double) : Makes host (.make host.prims.double [] (.double x))
  | boolean (b : Bool) : Makes host (.make host.prims.boolean [] (.boolean b))
  | string (s : String) : Makes host (.make host.prims.string [] (.string s))
  | list (element : DataType) (items : Array Value) :
      Makes host (.make host.prims.list [element] (.list items))
  | date {c : ClassInfo} (d : Date) : host.classes.resolve? "Date" = some c →
      Makes host (.make c [] (.date d))
  | record {o : Object} : host.classes.get? Builtin.recordName = some o.cls → o.payload = .none →
      Makes host o

/-- The host makes no maps. -/
theorem Host.Makes.payload_ne_map {host : Host} {o : Object} (ho : host.Makes o)
    (entries : List MapEntry) : o.payload ≠ .map entries := by
  cases ho with
  | record _ hp => simp [hp]
  | integer _ | double _ | boolean _ | string _ | list _ _ | date _ _ => simp [Object.make]

namespace Heap

/-- Changes that do the same to the object at a place are the same. -/
theorem modify_congr {h : Heap} {id : ObjectId} {f g : Object → Object}
    (hfg : f (h.get id) = g (h.get id)) : h.modify id f = h.modify id g := by
  obtain ⟨objects⟩ := h
  refine congrArg Heap.mk (Array.ext (by simp) fun i hi _ => ?_)
  rw [Array.size_modify] at hi
  rw [Array.getElem_modify, Array.getElem_modify]
  split
  · rename_i he
    subst he
    simpa [get, hi] using hfg
  · rfl

/-- The native state after a change of items: that of any other object stays as it is. -/
def itemsChanged (f : Array Value → Array Value) : Payload → Payload
  | .list items => .list (f items)
  | p => p

/-- A change of items is a change of native state. -/
theorem modifyItems_eq (h : Heap) (id : ObjectId) (f : Array Value → Array Value) :
    h.modifyItems id f = h.setPayload id (itemsChanged f (h.get id).payload) := by
  refine modify_congr ?_
  obtain ⟨cls, typeArgs, fields, payload⟩ := h.get id
  cases payload <;> rfl

/-- Native state that takes the place of other: any items, a map with an entry more or less, which
is put under the key that its key value is, or another request. -/
inductive Renews (h : Heap) : Payload → Payload → Prop
  | same (p : Payload) : Renews h p p
  | items (items items' : Array Value) : Renews h (.list items) (.list items')
  | put {key : Value} {k : MapKey} (v : Value) (entries : List MapEntry) : h.mapKey key = .ok k →
      Renews h (.map entries) (.map (MapEntries.insert k key v entries))
  | erase (k : MapKey) (entries : List MapEntry) :
      Renews h (.map entries) (.map (MapEntries.erase k entries))
  | request (r r' : Request) : Renews h (.request r) (.request r')

theorem Renews.kind {h : Heap} {p p' : Payload} (hp : h.Renews p p') : p'.kind = p.kind := by
  cases hp <;> rfl

theorem renews_itemsChanged (h : Heap) (f : Array Value → Array Value) (p : Payload) :
    h.Renews p (itemsChanged f p) := by
  cases p with
  | list items => exact .items items (f items)
  | _ => exact .same _

end Heap

namespace Native

theorem bind_eq {α β : Type} {x : Native α} {f : α → Native β} {w : World} :
    (x >>= f) w = match x w with
      | .ok a w' => f a w'
      | .error e w' => .error e w' := by
  show EStateM.bind x f w = _
  unfold EStateM.bind
  cases x w <;> rfl

theorem bind_ok {α β : Type} {x : Native α} {f : α → Native β} {a : α} {w w' : World}
    (h : x w = .ok a w') : (x >>= f) w = f a w' := by
  rw [bind_eq, h]

end Native

/-- A look at the receiver's native state finds the part that is asked for, or fails. -/
theorem NativeCall.receiverState_eq {α : Type} {id : ObjectId} {args : List Value}
    {expected : String} {part? : Payload → Option α} {w : World} :
    receiverState ⟨some id, args⟩ expected part? w =
      (part? (w.heap.get id).payload).elim (.error ((w.heap.get id).mismatch expected) w)
        fun a => .ok (id, a) w := by
  have self : receiverId ⟨some id, args⟩ w = .ok id w := rfl
  have heap : Native.heap w = .ok w.heap w := rfl
  unfold receiverState
  rw [Native.bind_ok self, Native.bind_ok heap]
  cases part? (w.heap.get id).payload <;> rfl

namespace Native

open Relation (ReflTransGen)

/-- One act on the heap; `starts` tells which native state is given to which object whatever it
had (module doc). -/
inductive Act (host : Host) (starts : ObjectId → Payload → Prop) : Heap → Heap → Prop
  | make {h : Heap} {o : Object} : host.Makes o → Act host starts h (h.alloc o).2
  | renew {h : Heap} (id : ObjectId) {p : Payload} : h.Renews (h.get id).payload p →
      Act host starts h (h.setPayload id p)
  | start {h : Heap} {id : ObjectId} {p : Payload} : starts id p →
      Act host starts h (h.setPayload id p)

variable {α β : Type} {host : Host} {starts : ObjectId → Payload → Prop} {w : World}

/-- Started in `w`, the computation works on the heap in single acts, with a result or without. -/
def Acts (host : Host) (starts : ObjectId → Payload → Prop) (x : Native α) (w : World) : Prop :=
  match x w with
  | .ok _ w' => ReflTransGen (Act host starts) w.heap w'.heap
  | .error _ w' => ReflTransGen (Act host starts) w.heap w'.heap

theorem Acts.mono {starts' : ObjectId → Payload → Prop} {x : Native α} (h : Acts host starts x w)
    (sub : ∀ id p, starts id p → starts' id p) : Acts host starts' x w := by
  have act : ∀ {h h' : Heap}, Act host starts h h' → Act host starts' h h' := by
    rintro h _ (ho | ⟨id, hp⟩ | hs)
    · exact .make ho
    · exact .renew id hp
    · exact .start (sub _ _ hs)
  unfold Acts at h ⊢
  cases hx : x w with
  | ok a w' =>
    rw [hx] at h
    exact ReflTransGen.mono (fun _ _ => act) _ _ h
  | error e w' =>
    rw [hx] at h
    exact ReflTransGen.mono (fun _ _ => act) _ _ h

/-- What single acts keep, the computation keeps. -/
theorem Acts.keeps {x : Native α} (h : Acts host starts x w) {R : Heap → Heap → Prop}
    (refl : ∀ h, R h h) (trans : ∀ {h h' h''}, R h h' → R h' h'' → R h h'')
    (act : ∀ {h h'}, Act host starts h h' → R h h') : match x w with
      | .ok _ w' => R w.heap w'.heap
      | .error _ w' => R w.heap w'.heap := by
  have closed : ∀ {h h' : Heap}, ReflTransGen (Act host starts) h h' → R h h' := by
    intro h h' hr
    induction hr with
    | refl => exact refl h
    | tail _ ha ih => exact trans ih (act ha)
  unfold Acts at h
  cases hx : x w with
  | ok a w' =>
    rw [hx] at h
    exact closed h
  | error e w' =>
    rw [hx] at h
    exact closed h

namespace Acts

/-! ## Composition -/

theorem pure (a : α) : Acts host starts (Pure.pure a) w := .refl

theorem throw (e : NativeError) : Acts host starts (MonadExcept.throw e : Native α) w := .refl

theorem bind {x : Native α} {f : α → Native β} (hx : Acts host starts x w)
    (hf : ∀ a w', Acts host starts (f a) w') : Acts host starts (x >>= f) w := by
  unfold Acts at hx ⊢
  rw [bind_eq]
  cases hr : x w with
  | error e w' =>
    rw [hr] at hx
    exact hx
  | ok a w' =>
    rw [hr] at hx
    have ha := hf a w'
    unfold Acts at ha
    dsimp only
    cases hf' : f a w' with
    | ok b w'' =>
      rw [hf'] at ha
      exact hx.trans ha
    | error e w'' =>
      rw [hf'] at ha
      exact hx.trans ha

/-! ## Access to the world -/

theorem heap : Acts host starts Native.heap w := .refl

theorem ofExcept (x : Except NativeError α) :
    Acts host starts (MonadExcept.ofExcept x : Native α) w := by
  cases x with
  | ok a => exact Acts.pure a
  | error e => exact Acts.throw e

theorem ofHeap (f : Heap → Except NativeError α) : Acts host starts (Native.ofHeap f) w :=
  Acts.heap.bind fun _ _ => Acts.ofExcept _

/-- What follows a look at the heap starts with what was found there. -/
theorem ofHeap_bind {f : Heap → Except NativeError α} {g : α → Native β}
    (hg : ∀ a, f w.heap = .ok a → Acts host starts (g a) w) :
    Acts host starts (Native.ofHeap f >>= g) w := by
  have look : Native.ofHeap f w = (MonadExcept.ofExcept (f w.heap) : Native α) w := rfl
  unfold Acts
  rw [bind_eq, look]
  cases hf : f w.heap with
  | ok a => exact hg a hf
  | error e => exact .refl

theorem log (event : LogEvent) : Acts host starts (Native.log event) w := .refl

theorem writeLine (text : String) : Acts host starts (Native.writeLine text) w := by
  obtain ⟨heap, sink, log⟩ := w
  unfold Acts Native.writeLine
  dsimp only
  cases sink.write (text ++ "\n") with
  | mk message sink => cases message <;> exact .refl

theorem ask (service : QueryService) (credentials : Credentials) (query : String) :
    Acts host starts (Native.ask service credentials query) w := by
  obtain ⟨heap, sink, log⟩ := w
  unfold Acts Native.ask
  dsimp only
  cases service.execute credentials query log <;> exact .refl

theorem alloc {o : Object} (ho : host.Makes o) : Acts host starts (Native.alloc o) w :=
  .single (.make ho)

theorem setPayload {id : ObjectId} {p : Payload} (hp : w.heap.Renews (w.heap.get id).payload p) :
    Acts host starts (Native.setPayload id p) w :=
  .single (.renew id hp)

theorem modifyItems (id : ObjectId) (f : Array Value → Array Value) :
    Acts host starts (Native.modifyHeap (·.modifyItems id f)) w := by
  show ReflTransGen _ w.heap (w.heap.modifyItems id f)
  rw [Heap.modifyItems_eq]
  exact .single (.renew id (w.heap.renews_itemsChanged f _))

theorem mapM {f : α → Native β} (hf : ∀ a w', Acts host starts (f a) w') :
    ∀ (as : List α) (w : World), Acts host starts (as.mapM f) w
  | [], _ => Acts.pure _
  | a :: as, w => by
    rw [List.mapM_cons]
    exact (hf a w).bind fun _ _ => (mapM hf as _).bind fun _ _ => Acts.pure _

/-! ## Receiver and arguments -/

variable (c : NativeCall)

theorem receiverId : Acts host starts c.receiverId w := by
  unfold NativeCall.receiverId
  split
  · exact Acts.pure _
  · exact Acts.throw _

theorem arg (i : Nat) : Acts host starts (c.arg i) w := by
  unfold NativeCall.arg
  split
  · exact Acts.pure _
  · exact Acts.throw _

theorem integerArg (i : Nat) : Acts host starts (c.integerArg i) w := by
  refine (Acts.arg c i).bind fun v _ => Acts.heap.bind fun h _ => ?_
  split
  · exact Acts.pure _
  · exact Acts.throw _

theorem stringArg (i : Nat) : Acts host starts (c.stringArg i) w := by
  refine (Acts.arg c i).bind fun v _ => Acts.heap.bind fun h _ => ?_
  split
  · exact Acts.pure _
  · exact Acts.throw _

theorem keyArg (i : Nat) : Acts host starts (c.keyArg i) w :=
  (Acts.arg c i).bind fun _ _ => Acts.ofHeap _

theorem receiverTypeArg (i : Nat) : Acts host starts (c.receiverTypeArg i) w := by
  unfold NativeCall.receiverTypeArg
  split
  · exact Acts.heap.bind fun _ _ => Acts.pure _
  · exact Acts.pure _

/-- What follows a look at the receiver's native state starts with that state in place. -/
theorem receiverState_bind {expected : String} {part? : Payload → Option α}
    {f : ObjectId × α → Native β}
    (hf : ∀ id a, part? (w.heap.get id).payload = some a → Acts host starts (f (id, a)) w) :
    Acts host starts (c.receiverState expected part? >>= f) w := by
  obtain ⟨receiver, args⟩ := c
  cases receiver with
  | none => exact Acts.throw _
  | some id =>
    unfold Acts
    rw [bind_eq, NativeCall.receiverState_eq]
    cases hp : part? (w.heap.get id).payload with
    | none => exact .refl
    | some a => exact hf id a hp

theorem receiverState {expected : String} {part? : Payload → Option α} :
    Acts host starts (c.receiverState expected part?) w := by
  have h : Acts host starts (c.receiverState expected part? >>= Pure.pure) w :=
    receiverState_bind c fun id a _ => Acts.pure (id, a)
  rwa [bind_pure] at h

theorem receiverString : Acts host starts c.receiverString w :=
  (Acts.receiverState c).bind fun _ _ => Acts.pure _

theorem receiverDate : Acts host starts c.receiverDate w :=
  (Acts.receiverState c).bind fun _ _ => Acts.pure _

/-! The receiver may be given what renews its native state. -/

theorem receiverList_bind {f : ObjectId × Array Value → Native β}
    (hf : ∀ id items, (∀ items', Acts host starts (Native.setPayload id (.list items')) w) →
      Acts host starts (f (id, items)) w) : Acts host starts (c.receiverList >>= f) w := by
  refine receiverState_bind c fun id items hp => hf id items fun items' => Acts.setPayload ?_
  split at hp
  · rename_i he
    rw [he]
    exact .items _ _
  · cases hp

theorem receiverMap_bind {f : ObjectId × List MapEntry → Native β}
    (hf : ∀ id entries, (∀ entries', w.heap.Renews (.map entries) (.map entries') →
        Acts host starts (Native.setPayload id (.map entries')) w) →
      Acts host starts (f (id, entries)) w) : Acts host starts (c.receiverMap >>= f) w := by
  refine receiverState_bind c fun id entries hp => hf id entries fun entries' hr =>
    Acts.setPayload ?_
  split at hp
  · rename_i he
    cases hp
    rwa [he]
  · cases hp

theorem receiverRequest_bind {f : ObjectId × Request → Native β}
    (hf : ∀ id r, (∀ r', Acts host starts (Native.setPayload id (.request r')) w) →
      Acts host starts (f (id, r)) w) : Acts host starts (c.receiverRequest >>= f) w := by
  refine receiverState_bind c fun id r hp => hf id r fun r' => Acts.setPayload ?_
  split at hp
  · rename_i he
    rw [he]
    exact .request _ _
  · cases hp

end Acts

/-! ## New objects -/

theorem integer_acts (n : Int64) : Acts host starts (integer host n) w := Acts.alloc (.integer n)

theorem double_acts (x : Double) : Acts host starts (double host x) w := Acts.alloc (.double x)

theorem boolean_acts (b : Bool) : Acts host starts (boolean host b) w := Acts.alloc (.boolean b)

theorem string_acts (s : String) : Acts host starts (string host s) w := Acts.alloc (.string s)

theorem list_acts (element : DataType) (items : Array Value) :
    Acts host starts (list host element items) w := Acts.alloc (.list element items)

theorem optionalString_acts (s : Option String) : Acts host starts (optionalString host s) w := by
  cases s with
  | some s => exact string_acts s
  | none => exact Acts.pure _

theorem count_acts (n : Nat) : Acts host starts (count host n) w :=
  (integer_acts _).bind fun _ _ => Acts.pure _

theorem newDate_acts (d : Date) : Acts host starts (newDate host d) w := by
  refine Acts.bind ?_ fun _ _ => Acts.pure _
  unfold newObject
  split
  · rename_i c hc
    exact Acts.alloc (.date d hc)
  · exact Acts.throw _

/-! ## Queries -/

/-- A record keeps its class while its columns are set one after the other. -/
theorem recordFields_acts (fields : List (String × String)) : ∀ (o : Object) (w : World),
    host.classes.get? Builtin.recordName = some o.cls → o.payload = .none →
    Acts host starts (fields.foldlM
      (fun o (name, value) => return o.setField name (← string host value)) o >>= alloc) w := by
  induction fields with
  | nil => exact fun o _ hc hp => Acts.alloc (.record hc hp)
  | cons f fields ih =>
    intro o w hc hp
    rw [List.foldlM_cons, bind_assoc, bind_assoc]
    refine (string_acts f.2).bind fun v w' => ?_
    simpa using ih (o.setField f.1 v) w' hc hp

theorem runQuery_acts (query : String) : Acts host starts (runQuery host query) w := by
  unfold runQuery
  split
  · exact Acts.throw _
  · refine (Acts.ask _ _ _).bind fun rows _ => (Acts.log _).bind fun _ w' => ?_
    unfold materialize
    split
    · exact Acts.throw _
    · rename_i c hc
      have record : ∀ row w', Acts host starts (recordOf host c row) w' := fun row w' =>
        (string_acts _).bind fun _ w'' => recordFields_acts row.fields _ w'' hc rfl
      exact (Acts.mapM record rows w').bind fun _ _ => list_acts _ _

/-! ## Methods -/

variable (c : NativeCall)

/-- What the method gives native state to whatever it had: its receiver. -/
def Starts (c : NativeCall) (method : NativeMethod) (id : ObjectId) (p : Payload) : Prop :=
  c.receiver = some id ∧ method.start? = some p

theorem create_acts {method : NativeMethod} {p : Payload} (hp : method.start? = some p) :
    Acts host (Starts c method) (do setPayload (← c.receiverId) p; return none :
      Native (Option Value)) w := by
  obtain ⟨receiver, args⟩ := c
  cases receiver with
  | none => exact Acts.throw _
  | some id => exact .single (.start ⟨rfl, hp⟩)

theorem scalarMethod_acts (m : NativeMethod) : Acts host starts (scalarMethod host c m) w := by
  unfold scalarMethod
  split
  · exact (Acts.receiverId c).bind fun _ _ => Acts.heap.bind fun _ _ => (string_acts _).bind
      fun _ _ => Acts.pure _
  · refine (Acts.stringArg c 0).bind fun s _ => ?_
    split
    · exact (integer_acts _).bind fun _ _ => Acts.pure _
    · exact Acts.throw _
  · exact (Acts.receiverState c).bind fun _ _ => (integer_acts _).bind fun _ _ => Acts.pure _
  · exact (Acts.receiverString c).bind fun _ _ => count_acts _
  · exact (Acts.receiverString c).bind fun _ _ => (string_acts _).bind fun _ _ => Acts.pure _
  · exact (Acts.receiverString c).bind fun _ _ => (string_acts _).bind fun _ _ => Acts.pure _
  · exact (Acts.receiverString c).bind fun _ _ => (Acts.stringArg c 0).bind fun _ _ =>
      (boolean_acts _).bind fun _ _ => Acts.pure _
  · exact (Acts.arg c 0).bind fun _ _ => Acts.heap.bind fun _ _ => (string_acts _).bind fun _ _ =>
      Acts.pure _
  · exact Acts.pure _

theorem listMethod_acts (m : NativeMethod) :
    Acts host (Starts c m) (listMethod host c m) w := by
  unfold listMethod
  split
  · exact create_acts c rfl
  · exact (Acts.arg c 0).bind fun _ _ => Acts.receiverList_bind c fun _ _ _ =>
      (Acts.modifyItems _ _).bind fun _ _ => Acts.pure _
  · exact (Acts.integerArg c 0).bind fun _ _ => Acts.receiverList_bind c fun _ _ _ =>
      (Acts.ofExcept _).bind fun _ _ => Acts.pure _
  · exact (Acts.integerArg c 0).bind fun _ _ => (Acts.arg c 1).bind fun _ _ =>
      Acts.receiverList_bind c fun _ _ _ => (Acts.ofExcept _).bind fun _ _ =>
        (Acts.modifyItems _ _).bind fun _ _ => Acts.pure _
  · exact Acts.receiverList_bind c fun _ _ _ => count_acts _
  · exact Acts.receiverList_bind c fun _ _ _ => (boolean_acts _).bind fun _ _ => Acts.pure _
  · exact Acts.receiverList_bind c fun _ _ set => (set _).bind fun _ _ =>
      Acts.pure _
  · exact (Acts.arg c 0).bind fun _ _ => Acts.receiverList_bind c fun _ _ _ => Acts.heap.bind
      fun _ _ => (boolean_acts _).bind fun _ _ => Acts.pure _
  · exact Acts.pure _

theorem mapMethod_acts (m : NativeMethod) : Acts host (Starts c m) (mapMethod host c m) w := by
  unfold mapMethod
  split
  · exact create_acts c rfl
  · exact (Acts.arg c 0).bind fun _ _ => (Acts.arg c 1).bind fun v _ => Acts.ofHeap_bind
      fun _ hk => Acts.receiverMap_bind c fun _ entries set =>
        (set _ (.put v entries hk)).bind fun _ _ => Acts.pure _
  · exact (Acts.keyArg c 0).bind fun _ _ => Acts.receiverMap_bind c fun _ _ _ => Acts.pure _
  · exact (Acts.keyArg c 0).bind fun _ _ => Acts.receiverMap_bind c fun _ _ _ =>
      (boolean_acts _).bind fun _ _ => Acts.pure _
  · exact (Acts.keyArg c 0).bind fun k _ => Acts.receiverMap_bind c fun _ entries set =>
      (set _ (.erase k entries)).bind fun _ _ => Acts.pure _
  · exact Acts.receiverMap_bind c fun _ _ _ => count_acts _
  · exact Acts.receiverMap_bind c fun _ _ _ => (boolean_acts _).bind fun _ _ => Acts.pure _
  · exact Acts.receiverMap_bind c fun _ _ _ => (Acts.receiverTypeArg c 0).bind fun _ _ =>
      (list_acts _ _).bind fun _ _ => Acts.pure _
  · exact Acts.receiverMap_bind c fun _ _ _ => (Acts.receiverTypeArg c 1).bind fun _ _ =>
      (list_acts _ _).bind fun _ _ => Acts.pure _
  · exact Acts.pure _

theorem dateMethod_acts (m : NativeMethod) : Acts host starts (dateMethod host c m) w := by
  unfold dateMethod
  split
  · exact newDate_acts _
  · exact (Acts.integerArg c 0).bind fun _ _ => (Acts.integerArg c 1).bind fun _ _ =>
      (Acts.integerArg c 2).bind fun _ _ => (Acts.ofExcept _).bind fun _ _ => newDate_acts _
  · exact (Acts.receiverDate c).bind fun _ _ => (string_acts _).bind fun _ _ => Acts.pure _
  · exact (Acts.receiverDate c).bind fun _ _ => (integer_acts _).bind fun _ _ => Acts.pure _
  · exact (Acts.receiverDate c).bind fun _ _ => count_acts _
  · exact (Acts.receiverDate c).bind fun _ _ => count_acts _
  · exact Acts.pure _

theorem requestMethod_acts (m : NativeMethod) :
    Acts host (Starts c m) (requestMethod host c m) w := by
  unfold requestMethod
  split
  · exact create_acts c rfl
  · exact (Acts.stringArg c 0).bind fun _ _ => (Acts.stringArg c 1).bind fun _ _ =>
      Acts.receiverRequest_bind c fun _ _ set => (set _).bind fun _ _ =>
        Acts.pure _
  · exact (Acts.stringArg c 0).bind fun _ _ => Acts.receiverRequest_bind c fun _ _ _ =>
      (optionalString_acts _).bind fun _ _ => Acts.pure _
  · exact (Acts.stringArg c 0).bind fun _ _ => Acts.receiverRequest_bind c fun _ _ set =>
      (set _).bind fun _ _ => Acts.pure _
  · exact Acts.receiverRequest_bind c fun _ _ _ => (optionalString_acts _).bind fun _ _ =>
      Acts.pure _
  · exact (Acts.stringArg c 0).bind fun _ _ => Acts.receiverRequest_bind c fun _ _ set =>
      (set _).bind fun _ _ => Acts.pure _
  · exact Acts.receiverRequest_bind c fun _ _ _ => (optionalString_acts _).bind fun _ _ =>
      Acts.pure _
  · exact Acts.pure _

/-- Built-in methods work on the heap in single acts. -/
theorem call_acts (m : NativeMethod) (w : World) : Acts host (Starts c m) (call host c m) w := by
  cases m with
  | systemDebug =>
    exact (Acts.arg c 0).bind fun _ _ => Acts.heap.bind fun _ _ => (Acts.writeLine _).bind
      fun _ _ => Acts.pure _
  | databaseQuery =>
    exact (Acts.stringArg c 0).bind fun _ _ => (runQuery_acts _).bind fun _ _ => Acts.pure _
  | formatScalar | integerValueOf | doubleIntValue | stringLength | stringToUpperCase
  | stringToLowerCase | stringContains | stringValueOf =>
    unfold call
    exact scalarMethod_acts c _
  | listCreate | listAdd | listGet | listSet | listSize | listIsEmpty | listClear
  | listContains =>
    unfold call
    exact listMethod_acts c _
  | mapCreate | mapPut | mapGet | mapContainsKey | mapRemove | mapSize | mapIsEmpty | mapKeySet
  | mapValues =>
    unfold call
    exact mapMethod_acts c _
  | dateToday | dateNewInstance | dateFormat | dateYear | dateMonth | dateDay =>
    unfold call
    exact dateMethod_acts c _
  | requestCreate | requestSetHeader | requestGetHeader | requestSetMethod | requestGetMethod
  | requestSetEndpoint | requestGetEndpoint =>
    unfold call
    exact requestMethod_acts c _

/-- A method that starts native state gives it to its receiver and does nothing else. -/
theorem call_starts {m : NativeMethod} {p : Payload} (hp : m.start? = some p) (id : ObjectId)
    (args : List Value) (w : World) : call host ⟨some id, args⟩ m w =
      .ok none { w with heap := w.heap.setPayload id p } := by
  cases m <;> cases hp <;> rfl

end Native

end ClassScript
