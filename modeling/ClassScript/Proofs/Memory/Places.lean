import ClassScript.Proofs.Memory.Locations
import ClassScript.Proofs.Memory.NativeState

/-!
# Places obey get-put

A place that a target is resolved to means one location of the machine (`Place.location?`). Storing
there sets this location and no other, and loading gives the value back and changes nothing; or
storing fails and changes nothing (`Calls.Stores`). This holds of every place that a target can be
resolved to, in the state it is resolved in and in every later one; only the chain of a static field
has to be initialized, for otherwise its initializers run first. In the state it is resolved in the
place is there (`Place.Ready`), and storing fails for a map key that is no scalar only.

Between the resolution of a target and the store the value is evaluated, and may change the list
that the target is in. All along a run the machine is settled (`Machine.Settled`): its objects are
of registered classes and have native state of the kind of their class. So the list is still a list
then, and the store goes by its length at that time.

Main statement: `places_get_put`.
-/

namespace ClassScript

/-! ## Places and their locations -/

namespace Place

/-- The location of a place: a variable is in the innermost block that has it, and a static field in
the nearest class of the chain that declares it. -/
def location? (t : ClassTable) (m : Machine) : Place → Option Location
  | .var name => do
    let f ← m.frames.head?
    let b ← f.blocks.findIdx? (·.contains name)
    return .var 0 b name
  | .field id name => some (.part id (.field name))
  | .static c name => (c.staticField? t name).map fun (owner, _) => .static owner.path name
  | .slot id i _ => some (.part id (.item i))
  | .entry id key =>
    match m.world.heap.mapKey key with
    | .ok k => some (.part id (.entry k))
    | .error _ => none

/-- What is there when a target has been resolved to the place: the variable, the object of a field,
a declaration of the static field, the slot of a list, or the map of an entry. -/
def Ready (t : ClassTable) (m : Machine) : Place → Prop
  | .var name => ∃ f fs, m.frames = f :: fs ∧ f.isLocal name = true
  | .field id _ => id < m.world.heap.objects.size
  | .static c name => (c.staticField? t name).isSome = true
  | .slot id i _ => ∃ items, m.world.heap.list id = .ok items ∧ i < items.size
  | .entry id _ => ∃ entries, m.world.heap.map id = .ok entries

/-- What of it is there for good. -/
def Found (t : ClassTable) (h : Heap) : Place → Prop
  | .field id _ => id < h.objects.size
  | .static c name => (c.staticField? t name).isSome = true
  | .var _ | .slot .. | .entry .. => True

/-- The class of a static field and all classes above it have been touched. -/
def Initialized (t : ClassTable) (m : Machine) : Place → Prop
  | .static c _ => ∀ d ∈ c.chain t, m.statics.contains d.path = true
  | .var _ | .field .. | .slot .. | .entry .. => True

theorem Ready.found {t : ClassTable} {m m' : Machine} {p : Place} (hp : p.Ready t m)
    (later : m.world.heap.objects.size ≤ m'.world.heap.objects.size) :
    p.Found t m'.world.heap := by
  cases p with
  | field id name => exact Nat.lt_of_lt_of_le hp later
  | static c name => exact hp
  | var _ | slot _ _ _ | entry _ _ => trivial

end Place

/-- Storing the value at the place, in the machine `m`, sets its location, and then loading gives
the value and changes nothing; or storing fails and changes nothing. -/
def Calls.Stores (env : Env) (calls : Calls) (p : Place) (v : Value) (m : Machine) : Prop :=
  (calls.store env v p).Ends
    (fun _ m' => calls.load env p m' = .ok v m' ∧
      ∃ l, p.location? env.classes m = some l ∧ m.Sets l v m')
    (fun _ m' => m' = m) m

/-- Nothing is due in a chain that has been touched. -/
theorem Statics.touch_of_contains : ∀ {chain : List ClassInfo} {s : Statics},
    (∀ c ∈ chain, s.contains c.path = true) → s.touch chain = (s, [])
  | [], _, _ => rfl
  | c :: cs, s, h => by
    unfold touch
    rw [if_pos (h c List.mem_cons_self)]
    exact touch_of_contains fun d hd => h d (List.mem_cons_of_mem c hd)

/-! ## Resolving a target -/

theorem Run.Ends.of_forall {α : Type} {x : Run α} {Q : α → Machine → Prop} {m : Machine}
    (h : ∀ a m', Q a m') : x.Ends Q (fun _ _ => True) m := by
  unfold Run.Ends
  split
  · exact h _ _
  · trivial

namespace Calls

variable {env : Env} {calls : Calls}

theorem staticPlace_ready (c : ClassInfo) (name : String) (m : Machine) :
    (Calls.staticPlace env c name).Ends (fun p m' => p.Ready env.classes m')
      (fun _ _ => True) m := by
  unfold staticPlace
  split
  · rename_i hs
    exact hs
  · trivial

theorem namePlace_ready (name : String) (m : Machine) :
    (Calls.namePlace env name).Ends (fun p m' => p.Ready env.classes m') (fun _ _ => True) m := by
  unfold namePlace
  rw [Run.ends_bind, Run.ends_frame]
  split
  · rename_i f fs hf
    rw [Run.ends_bind, Run.ends_heap]
    split
    · rename_i hl
      exact ⟨f, fs, hf, hl⟩
    · split
      · rename_i id hid
        exact Machine.lt_of_readField? (Option.filter_eq_some_iff.1 hid).2
      · split
        · rename_i hs
          exact hs
        · trivial
  · trivial

theorem memberPlace_ready (object : Expr) (name : String) (span : Span) (m : Machine) :
    (calls.memberPlace env object name span).Ends (fun p m' => p.Ready env.classes m')
      (fun _ _ => True) m := by
  unfold memberPlace
  rw [Run.ends_bind, Run.ends_get]
  split
  · exact staticPlace_ready _ name m
  · rw [Run.ends_bind]
    refine .of_forall fun v m₁ => ?_
    cases v with
    | null => trivial
    | object id =>
      refine Run.ends_bind.2 (Run.ends_heap.2 ?_)
      split
      · rename_i hf
        exact Machine.lt_of_readField? hf
      · exact staticPlace_ready _ name m₁

theorem listSlot_lt {h : Heap} {key : Value} {len i : Nat} {keySpan span : Span}
    (hi : listSlot h key len keySpan span = .ok i) : i < len := by
  cases key with
  | null => cases hi
  | object id =>
    unfold listSlot at hi
    cases hp : listPosition h (.object id) keySpan with
    | error e =>
      rw [hp] at hi
      cases hi
    | ok position =>
      rw [hp] at hi
      simp only [bind, Except.bind, pure, Except.pure, Native.checkedIndex] at hi
      split at hi
      · rename_i j hj
        split at hj
        · rename_i within
          cases hj
          cases hi
          omega
        · cases hj
      · cases hi

theorem indexPlace_ready (object key : Expr) (span : Span) (m : Machine) :
    (calls.indexPlace object key span).Ends (fun p m' => p.Ready env.classes m')
      (fun _ _ => True) m := by
  unfold indexPlace
  rw [Run.ends_bind]
  refine .of_forall fun collection m₁ => Run.ends_bind.2 (.of_forall fun k m₂ => ?_)
  cases collection with
  | null => trivial
  | object id =>
    refine Run.ends_bind.2 (Run.ends_heap.2 ?_)
    split
    · rename_i items hp
      rw [Run.ends_bind, Run.ends_ofExcept]
      cases hs : Calls.listSlot m₂.world.heap k items.size key.span span with
      | ok i => exact ⟨items, Heap.list_eq_ok.2 hp, listSlot_lt hs⟩
      | error e => trivial
    · rename_i entries hp
      exact ⟨entries, Heap.map_eq_ok.2 hp⟩
    · trivial

/-- A place is ready when a target has been resolved to it. -/
theorem place_ready (e : Expr) (m : Machine) :
    (calls.place env e).Ends (fun p m' => p.Ready env.classes m') (fun _ _ => True) m := by
  cases e with
  | name i => exact namePlace_ready i.name m
  | member object i span => exact memberPlace_ready object i.name span m
  | index object key span => exact indexPlace_ready object key span m
  | literal _ _ | this _ | call _ _ _ | callOn _ _ _ _ | create _ _ _ | binary _ _ _ _
  | unary _ _ _ | post _ _ _ | assign _ _ _ _ | conditional _ _ _ _ | query _ _ => trivial

/-! ## Loading and storing -/

variable {m : Machine} {id : ObjectId} {name : String} {v : Value}

theorem load_var {f : Frame} {fs : List Frame} (hm : m.frames = f :: fs)
    (hv : f.lookup? name = some v) : calls.load env (.var name) m = .ok v m := by
  show (Run.frame >>= _) m = _
  rw [Run.frame_bind hm, hv]
  rfl

theorem load_field (hv : (m.world.heap.get id).fields.get? name = some v) :
    calls.load env (.field id name) m = .ok v m := by
  have hr : Machine.readField? env.classes m.world.heap id name = some v := by
    unfold Machine.readField?
    rw [hv]
  show EStateM.Result.ok ((Machine.readField? env.classes m.world.heap id name).getD .null) m = _
  rw [hr]
  rfl

theorem load_slot {items : Array Value} {i : Nat} {span : Span}
    (hl : m.world.heap.list id = .ok items) (hv : items[i]? = some v) :
    calls.load env (.slot id i span) m = .ok v m := by
  show (Run.heap >>= _) m = _
  rw [Run.heap_bind, hl]
  show EStateM.Result.ok (items.getD i .null) m = _
  rw [Array.getD_eq_getD_getElem?, hv]
  rfl

theorem load_entry_eq {key : Value} {entries : List MapEntry}
    (hl : m.world.heap.map id = .ok entries) :
    calls.load env (.entry id key) m = match m.world.heap.mapKey key with
      | .ok k => .ok ((MapEntries.get? entries k).getD .null) m
      | .error e => .error (.fault (.native e)) m := by
  show (Run.heap >>= _) m = _
  rw [Run.heap_bind]
  cases m.world.heap.mapKey key with
  | error e => rfl
  | ok k =>
    show (Run.ofNative (m.world.heap.map id) >>= _) m = _
    rw [hl]
    rfl

theorem load_entry {key : Value} {k : MapKey} {entries : List MapEntry}
    (hk : m.world.heap.mapKey key = .ok k) (hl : m.world.heap.map id = .ok entries)
    (hv : MapEntries.get? entries k = some v) :
    calls.load env (.entry id key) m = .ok v m := by
  rw [load_entry_eq hl, hk]
  simp only [hv, Option.getD_some]

/-- Nothing runs when a chain is touched again. -/
theorem ensureStatics_of_contains {c : ClassInfo}
    (hc : ∀ d ∈ c.chain env.classes, m.statics.contains d.path = true) :
    calls.ensureStatics env c m = .ok () m := by
  have touch : Run.touchStatics (c.chain env.classes) m = .ok [] m := by
    have same := Statics.touch_of_contains hc
    obtain ⟨world, frames, statics⟩ := m
    unfold Run.touchStatics
    dsimp only at same ⊢
    rw [same]
  unfold ensureStatics
  rw [Run.bind_ok touch]
  rfl

theorem load_static {c owner : ClassInfo} {f : FieldInfo}
    (hf : c.staticField? env.classes name = some (owner, f))
    (hc : ∀ d ∈ c.chain env.classes, m.statics.contains d.path = true)
    (hv : m.statics.get? owner.path name = some v) :
    calls.load env (.static c name) m = .ok v m := by
  show (calls.readStatic env c name >>= _) m = _
  have read : calls.readStatic env c name m = .ok (some v) m := by
    unfold readStatic
    rw [hf]
    dsimp only
    rw [Run.bind_ok (ensureStatics_of_contains hc), Run.get_bind, hv]
    rfl
  rw [Run.bind_ok read]
  rfl

theorem store_var {f : Frame} {fs : List Frame} (v : Value) (hm : m.frames = f :: fs)
    (hl : f.isLocal name = true) : calls.store env v (.var name) m =
      .ok () { m with frames := f.assign name v :: fs } := by
  show (Run.frame >>= _) m = _
  rw [Run.frame_bind hm, if_pos hl]
  obtain ⟨world, frames, statics⟩ := m
  cases hm
  rfl

theorem store_static {c owner : ClassInfo} {f : FieldInfo} (v : Value)
    (hf : c.staticField? env.classes name = some (owner, f))
    (hc : ∀ d ∈ c.chain env.classes, m.statics.contains d.path = true) :
    calls.store env v (.static c name) m =
      .ok () { m with statics := m.statics.set owner.path name v } := by
  show calls.writeStatic env c name v m = _
  unfold writeStatic
  rw [hf]
  dsimp only
  rw [Run.bind_ok (ensureStatics_of_contains hc)]
  rfl

/-- A value is stored to a slot that the list has. -/
theorem store_slot {items : Array Value} {i : Nat} (span : Span) (v : Value)
    (hl : m.world.heap.list id = .ok items) (hi : i < items.size) :
    calls.store env v (.slot id i span) m = .ok ()
      (m.withHeap (m.world.heap.setPayload id (.list (items.setIfInBounds i v)))) := by
  show (Run.heap >>= _) m = _
  rw [Run.heap_bind, hl]
  show (if i < items.size then _ else Run.fault _ : Run Unit) m = _
  rw [if_pos hi, ← Heap.modifyItems_of_list hl (·.setIfInBounds i v)]
  rfl

/-- A slot that the list no longer has is an error. -/
theorem store_slot_of_le {items : Array Value} {i : Nat} (span : Span) (v : Value)
    (hl : m.world.heap.list id = .ok items) (hi : items.size ≤ i) :
    calls.store env v (.slot id i span) m =
      .error (.fault (.indexOutOfBounds (Int64.ofNat i) items.size span)) m := by
  show (Run.heap >>= _) m = _
  rw [Run.heap_bind, hl]
  show (if i < items.size then _ else Run.fault _ : Run Unit) m = _
  rw [if_neg (Nat.not_lt.2 hi)]
  rfl

theorem store_entry {key : Value} {k : MapKey} {entries : List MapEntry} (v : Value)
    (hk : m.world.heap.mapKey key = .ok k) (hl : m.world.heap.map id = .ok entries) :
    calls.store env v (.entry id key) m = .ok ()
      (m.withHeap (m.world.heap.setPayload id (.map (MapEntries.insert k key v entries)))) := by
  show (Run.heap >>= _) m = _
  rw [Run.heap_bind, hk]
  show (Run.ofNative (m.world.heap.map id) >>= _) m = _
  rw [hl]
  rfl

/-- Nothing is stored under a value that is no key. -/
theorem store_entry_of_error {key : Value} {e : NativeError} (v : Value)
    (hk : m.world.heap.mapKey key = .error e) :
    calls.store env v (.entry id key) m = .error (.fault (.native e)) m := by
  show (Run.heap >>= _) m = _
  rw [Run.heap_bind, hk]
  rfl

/-- A place that is ready can be stored to, unless it is an entry whose key is no scalar. -/
theorem store_ready {p : Place} (v : Value) (hp : p.Ready env.classes m)
    (hi : p.Initialized env.classes m) : (∃ m', calls.store env v p m = .ok () m') ∨
      ∃ id key e, p = .entry id key ∧ m.world.heap.mapKey key = .error e := by
  cases p with
  | var name =>
    obtain ⟨f, fs, hm, hl⟩ := hp
    exact .inl ⟨_, store_var v hm hl⟩
  | field id name => exact .inl ⟨_, rfl⟩
  | static c name =>
    obtain ⟨⟨owner, f⟩, hf⟩ := Option.isSome_iff_exists.1 hp
    exact .inl ⟨_, store_static v hf hi⟩
  | slot id i span =>
    obtain ⟨items, hl, hi⟩ := hp
    exact .inl ⟨_, store_slot span v hl hi⟩
  | entry id key =>
    obtain ⟨entries, hl⟩ := hp
    cases hk : m.world.heap.mapKey key with
    | ok k => exact .inl ⟨_, store_entry v hk hl⟩
    | error e => exact .inr ⟨id, key, e, rfl, hk⟩

/-! ## Get-put of each kind of place -/

theorem var_stores (name : String) (v : Value) (m : Machine) :
    calls.Stores env (.var name) v m := by
  by_cases hl : ∃ f fs, m.frames = f :: fs ∧ f.isLocal name = true
  · obtain ⟨f, fs, hm, hl⟩ := hl
    obtain ⟨b, hb⟩ := Frame.isLocal_iff.1 hl
    unfold Stores Run.Ends
    rw [store_var v hm hl]
    refine ⟨load_var rfl (Frame.lookup?_assign hl), .var 0 b name, ?_, Machine.sets_var v hm hb⟩
    simp [Place.location?, hm, hb]
  · unfold Stores store
    rw [Run.ends_bind, Run.ends_frame]
    split
    · rename_i f fs hm
      rw [if_neg fun h => hl ⟨f, fs, hm, h⟩]
      rfl
    · rfl

theorem field_stores (name : String) (v : Value) (lt : id < m.world.heap.objects.size) :
    calls.Stores env (.field id name) v m := by
  have sets := Machine.sets_part (·.setField name v) lt
    ((m.world.heap.get id).sets_field name v)
  have found := sets.value (.part id (.field name)) ⟨rfl, sameName_self name⟩
  exact ⟨load_field found, _, rfl, sets⟩

theorem static_stores {c : ClassInfo} {name : String} (v : Value)
    (hs : (c.staticField? env.classes name).isSome = true)
    (hc : ∀ d ∈ c.chain env.classes, m.statics.contains d.path = true) :
    calls.Stores env (.static c name) v m := by
  obtain ⟨⟨owner, f⟩, hf⟩ := Option.isSome_iff_exists.1 hs
  have sets := Machine.sets_static name v (hc owner (ClassInfo.staticField?_owner hf).1)
  have found := sets.value (.static owner.path name) ⟨rfl, sameName_self name⟩
  -- no class of the chain loses its table
  have touched : ∀ d ∈ c.chain env.classes,
      (m.statics.set owner.path name v).contains d.path = true := by
    intro d hd
    rw [Statics.contains_set]
    exact hc d hd
  unfold Stores Run.Ends
  rw [store_static v hf hc]
  refine ⟨load_static hf touched found, .static owner.path name, ?_, sets⟩
  simp [Place.location?, hf]

/-- What a store to a slot of a list does to the list and to everything else. -/
theorem sets_slot {items : Array Value} {i : Nat} (v : Value)
    (hl : m.world.heap.list id = .ok items) (hi : i < items.size) :
    m.Sets (.part id (.item i)) v
        (m.withHeap (m.world.heap.setPayload id (.list (items.setIfInBounds i v)))) ∧
      (m.world.heap.setPayload id (.list (items.setIfInBounds i v))).list id =
        .ok (items.setIfInBounds i v) := by
  have hp := Heap.list_eq_ok.1 hl
  have lt : id < m.world.heap.objects.size := Heap.lt_of_payload (by simp [hp])
  exact ⟨Machine.sets_part _ lt (Object.sets_item v hp hi),
    Heap.list_eq_ok.2 (Heap.payload_setPayload (by simp [hp]) _)⟩

theorem slot_stores (id : ObjectId) (i : Nat) (span : Span) (v : Value) (m : Machine) :
    calls.Stores env (.slot id i span) v m := by
  unfold Stores Run.Ends
  cases hl : m.world.heap.list id with
  | error e =>
    have failed : calls.store env v (.slot id i span) m = .error (.fault (.native e)) m := by
      show (Run.heap >>= _) m = _
      rw [Run.heap_bind, hl]
      rfl
    rw [failed]
  | ok items =>
    rcases Nat.lt_or_ge i items.size with hi | hi
    · obtain ⟨sets, list⟩ := sets_slot v hl hi
      rw [store_slot span v hl hi]
      exact ⟨load_slot list (Array.getElem?_setIfInBounds_self_of_lt hi), _, rfl, sets⟩
    · rw [store_slot_of_le span v hl hi]

/-- A key is no map, so it stays what it is when an entry is set. -/
theorem mapKey_setPayload {h : Heap} {entries entries' : List MapEntry} {key : Value} {k : MapKey}
    (hl : h.map id = .ok entries) (hk : h.mapKey key = .ok k) :
    (h.setPayload id (.map entries')).mapKey key = .ok k := by
  have hp := Heap.map_eq_ok.1 hl
  have lt : id < h.objects.size := Heap.lt_of_payload (by simp [hp])
  cases key with
  | null => exact hk
  | object j =>
    have ne : id ≠ j := by
      rintro rfl
      simp only [Heap.mapKey, hp, reduceCtorEq] at hk
    have same : (h.setPayload id (.map entries')).get j = h.get j := by
      unfold Heap.setPayload
      rw [Heap.get_modify_of_lt, if_neg fun hj => ne hj.1]
    simp only [Heap.mapKey] at hk ⊢
    rw [same]
    exact hk

theorem entry_stores (id : ObjectId) (key v : Value) (m : Machine) :
    calls.Stores env (.entry id key) v m := by
  cases hk : m.world.heap.mapKey key with
  | error e =>
    unfold Stores Run.Ends
    rw [store_entry_of_error v hk]
  | ok k =>
    cases hl : m.world.heap.map id with
    | error e =>
      have failed : calls.store env v (.entry id key) m = .error (.fault (.native e)) m := by
        show (Run.heap >>= _) m = _
        rw [Run.heap_bind, hk]
        show (Run.ofNative (m.world.heap.map id) >>= _) m = _
        rw [hl]
        rfl
      unfold Stores Run.Ends
      rw [failed]
    | ok entries =>
      have hp := Heap.map_eq_ok.1 hl
      have lt : id < m.world.heap.objects.size := Heap.lt_of_payload (by simp [hp])
      have sets := Machine.sets_part
        (fun o => { o with payload := .map (MapEntries.insert k key v entries) }) lt
        (Object.sets_entry k key v hp)
      have stored : (m.world.heap.setPayload id (.map (MapEntries.insert k key v entries))).map id =
          .ok (MapEntries.insert k key v entries) :=
        Heap.map_eq_ok.2 (Heap.payload_setPayload (by simp [hp]) _)
      have found := MapEntries.get?_insert key v (MapKey.cmp_self k) entries
      unfold Stores Run.Ends
      rw [store_entry v hk hl]
      refine ⟨load_entry (mapKey_setPayload hl hk) stored found, .part id (.entry k), ?_, sets⟩
      simp [Place.location?, hk]

/-- A place that is found obeys get-put. -/
theorem stores_of_found {p : Place} (v : Value) (found : p.Found env.classes m.world.heap)
    (hi : p.Initialized env.classes m) : calls.Stores env p v m := by
  cases p with
  | var name => exact var_stores name v m
  | field id name => exact field_stores name v found
  | static c name => exact static_stores v found hi
  | slot id i span => exact slot_stores id i span v m
  | entry id key => exact entry_stores id key v m

/-- Every place that a target is resolved to obeys get-put, then and later. -/
theorem place_stores {e : Expr} {p : Place} {m₀ m₁ : Machine} (v : Value)
    (hp : calls.place env e m₀ = .ok p m₁)
    (later : m₁.world.heap.objects.size ≤ m.world.heap.objects.size)
    (hi : p.Initialized env.classes m) : calls.Stores env p v m :=
  stores_of_found v (((place_ready e m₀).ok hp).found later) hi

end Calls

/-! ## Native state along a run -/

theorem Change.keepsOwn {env : Env} {s s' : Stage} {e : Event} (h : Change env s e s')
    (ho : s.memory.heap.Own) : s'.memory.heap.Own := by
  intro id lt
  -- an object that was there keeps the native state of its class; a new one has none or its own
  by_cases old : id < s.memory.heap.objects.size
  · unfold Heap.HasOwn
    rw [h.lasts.cls id old]
    obtain same | ⟨-, own⟩ := h.kind old
    · obtain none | own := ho id old
      · rw [none] at same
        exact .inl (Payload.eq_none_of_kind same)
      · exact .inr (same.trans own)
    · exact .inr own
  · have le := Nat.le_of_not_lt old
    cases h with
    | touch _ | start | finish | assign _ _ | made _ => exact absurd lt old
    | make _ =>
      obtain ⟨lt', -⟩ | ⟨-, hget⟩ := Heap.get_alloc_cases _ _ lt
      · exact absurd lt' old
      · exact .inl (congrArg Object.payload hget)
    | work works =>
      obtain ⟨-, own⟩ | ⟨-, none⟩ := works.new id lt le
      · exact .inr own
      · exact .inl none
    | @write heap _ _ _ i name v _ =>
      have size : (heap.setField i name v).objects.size = heap.objects.size := Heap.size_modify ..
      exact absurd (size ▸ lt) old

namespace Course

variable {env : Env} {s s' : Stage} {moments : List Moment}

theorem keepsOwn (h : Course env s moments s') (ho : s.memory.heap.Own) :
    s'.memory.heap.Own := by
  induction h with
  | done s => exact ho
  | next hchange _ ih => exact ih (hchange.keepsOwn ho)

/-- A list stays a list: its class gives no other native state. -/
theorem keepsList (h : Course env s moments s') (ho : s.memory.heap.Own) {id : ObjectId}
    {items : Array Value} (hl : s.memory.heap.list id = .ok items) :
    ∃ items', s'.memory.heap.list id = .ok items' := by
  have hp := Heap.list_eq_ok.1 hl
  have lt : id < s.memory.heap.objects.size := Heap.lt_of_payload (by simp [hp])
  have hkind : (s.memory.heap.get id).payload.kind = "List" := by rw [hp]; rfl
  have hname : (s.memory.heap.get id).cls.name = "List" := by
    obtain none | own := ho id lt
    · rw [hp] at none
      cases none
    · exact own.symm.trans hkind
  have hkind' : (s'.memory.heap.get id).payload.kind = "List" := by
    obtain same | ⟨-, own⟩ := h.kind lt
    · exact same.trans hkind
    · exact own.trans hname
  cases hp' : (s'.memory.heap.get id).payload with
  | list items' => exact ⟨items', Heap.list_eq_ok.2 hp'⟩
  | none | integer _ | double _ | boolean _ | string _ | map _ | date _ | request _ =>
    rw [hp'] at hkind'
    exact absurd hkind' (by simp [Payload.kind])

end Course

namespace Machine

/-- What holds all along a run: frames and objects are of registered classes, and objects have
native state of their own class if any. -/
structure Settled (t : ClassTable) (m : Machine) : Prop where
  placed : m.Placed t
  own : m.world.heap.Own

end Machine

/-- A charted computation leaves a settled machine settled, with lists that are lists still. -/
theorem History.Charted.settled {α : Type} {x : Run α} {r : History x} {env : Env}
    {Q : α → Machine → Prop} {m m' : Machine} {a : α} (h : r.Charted env Q m)
    (hm : m.Settled env.classes) (hx : x m = .ok a m') :
    m'.Settled env.classes ∧ Q a m' ∧ ∀ id items, m.world.heap.list id = .ok items →
      ∃ items', m'.world.heap.list id = .ok items' := by
  obtain ⟨s', course, ends⟩ := h [] []
  obtain ⟨placed, rfl, hq⟩ := ends.ok hx
  exact ⟨⟨placed, course.keepsOwn hm.own⟩, hq, fun id items hl => course.keepsList hm.own hl⟩

namespace Machine

theorem settled_start (t : ClassTable) (sink : Sink) : (start sink).Settled t :=
  ⟨⟨nofun, nofun⟩, nofun⟩

variable {env : Env} {decls : List ClassDecl} (he : env.Registered decls) {m : Machine}
include he

/-- Expressions and statements leave a settled machine settled. -/
theorem Settled.run (hm : m.Settled env.classes) (fuel : Nat) :
    (∀ e v m', (Calls.withFuel env fuel).eval e m = .ok v m' → m'.Settled env.classes) ∧
    (∀ s flow m', (Calls.withFuel env fuel).exec s m = .ok flow m' → m'.Settled env.classes) := by
  have h := Calls.histories_charted he fuel
  exact ⟨fun e _ _ hx => ((h.eval e m hm.placed).settled hm hx).1,
    fun s _ _ hx => ((h.exec s m hm.placed).settled hm hx).1⟩

/-- A machine is settled after entry methods, however they end. -/
theorem settled_afterEntries (sink : Sink) (entries : List (Nat × EntryPoint)) :
    ((start sink).afterEntries env entries).Settled env.classes := by
  obtain ⟨s', course, memory⟩ := start_course he sink entries
  have heap : s'.memory.heap = ((start sink).afterEntries env entries).world.heap :=
    congrArg Memory.heap memory
  refine ⟨⟨?_, heap ▸ course.placed he nofun⟩, heap ▸ course.keepsOwn nofun⟩
  rw [frames_afterEntries]
  exact nofun

end Machine

/-! ## Assigning to an index of a list -/

/-- The value of an assignment: that of its right-hand side, or what an operator makes of the value
at the place and that one. -/
def Calls.rightHandSide (env : Env) (calls : Calls) (op : AssignOp) (value : Expr) (span : Span)
    (p : Place) : Run Value :=
  match op.binary? with
  | none => calls.eval value
  | some op => do
    let before ← calls.load env p
    let operand ← calls.eval value
    applyBinary env op before operand span

theorem Calls.evalAssign_eq (env : Env) (calls : Calls) (op : AssignOp) (target value : Expr)
    (span : Span) : calls.evalAssign env op target value span = (do
      let p ← calls.place env target
      let v ← calls.rightHandSide env op value span p
      calls.store env v p
      return v) := by
  unfold evalAssign rightHandSide
  cases op.binary? with
  | none => rfl
  | some op => simp

namespace Histories

variable {calls : Calls}

/-- The history of a right-hand side. -/
def rightHandSide (env : Env) (hist : Histories calls) (op : AssignOp) (value : Expr)
    (span : Span) (p : Place) : History (calls.rightHandSide env op value span p) :=
  match h : op.binary? with
  | none => .of_eq (by unfold Calls.rightHandSide; rw [h]) (hist.eval value)
  | some op => .of_eq (by unfold Calls.rightHandSide; rw [h])
      ((hist.load env p).bind fun _ => (hist.eval value).bind fun _ =>
        applyBinary env op _ _ span)

theorem rightHandSide_charts {env : Env} {decls : List ClassDecl} (he : env.Registered decls)
    {hist : Histories calls} (h : hist.Charted env) (op : AssignOp) (value : Expr) (span : Span)
    {heap : Heap} {p : Place} (hp : p.Stands env.classes heap) :
    (hist.rightHandSide env op value span p).Charts env := by
  unfold rightHandSide
  split
  · exact .of_eq (h.eval value)
  · exact .of_eq ((load_charts h hp).bind fun before => (h.eval value).bind fun operand =>
      applyBinary_charts he _ before operand span)

end Histories

namespace Calls

variable {env : Env} {op : AssignOp} {object key value : Expr} {ispan span s : Span}
  {id : ObjectId} {i : Nat} {v : Value} {m₀ m₁ m₂ : Machine}

/-- An assignment to a slot of a list ends by the length that the right-hand side leaves. -/
theorem assign_slot {calls : Calls} {items : Array Value}
    (hp : calls.place env (.index object key ispan) m₀ = .ok (.slot id i s) m₁)
    (hv : calls.rightHandSide env op value span (.slot id i s) m₁ = .ok v m₂)
    (hl : m₂.world.heap.list id = .ok items) :
    (i < items.size → ∃ m₃,
      calls.evalAssign env op (.index object key ispan) value span m₀ = .ok v m₃ ∧
      m₂.Sets (.part id (.item i)) v m₃ ∧
      m₃.world.heap.list id = .ok (items.setIfInBounds i v)) ∧
    (items.size ≤ i →
      calls.evalAssign env op (.index object key ispan) value span m₀ =
        .error (.fault (.indexOutOfBounds (Int64.ofNat i) items.size s)) m₂) := by
  refine ⟨fun hi => ?_, fun hi => ?_⟩
  · obtain ⟨sets, list⟩ := sets_slot v hl hi
    refine ⟨_, ?_, sets, list⟩
    rw [evalAssign_eq, Run.bind_ok hp, Run.bind_ok hv, Run.bind_ok (store_slot s v hl hi)]
    rfl
  · rw [evalAssign_eq, Run.bind_ok hp, Run.bind_ok hv, Run.bind_eq, store_slot_of_le s v hl hi]

/-- The right-hand side leaves the list a list. -/
theorem list_of_slot {decls : List ClassDecl} (he : env.Registered decls) (fuel : Nat)
    (hm : m₀.Settled env.classes)
    (hp : (withFuel env fuel).place env (.index object key ispan) m₀ = .ok (.slot id i s) m₁)
    (hv : (withFuel env fuel).rightHandSide env op value span (.slot id i s) m₁ = .ok v m₂) :
    ∃ items, m₂.world.heap.list id = .ok items := by
  have h := histories_charted he fuel
  obtain ⟨settled, stands, -⟩ :=
    (Histories.place_charted hm.placed h (.index object key ispan)).settled hm hp
  obtain ⟨items, hl, -⟩ : Place.Ready env.classes m₁ (.slot id i s) := (place_ready _ m₀).ok hp
  have charted := Histories.rightHandSide_charts he h op value span stands m₁ settled.placed
  obtain ⟨-, -, lists⟩ := charted.settled settled hv
  exact lists id items hl

end Calls

/-! ## Get-put -/

/-- **Places obey get-put and touch nothing else.** Take any place that a target is resolved to, the
machine that this leaves or a later one, where the chain of a static field has been touched, and any
value. If the value is stored, then loading gives it and leaves the machine as it is; the location
of the place has the value, and all other locations and the rest of the machine are as before, the
lengths of lists in particular. If storing fails, the machine is as before; right after the target
is resolved it fails only if the place is an entry of a map and its key is no scalar.

In an assignment to an index of a list the slot is resolved first, then the right-hand side runs,
whatever it does to the list. In a settled machine the list is a list still. If it has the slot,
this has the value then, and the other items are those that the right-hand side left. If not, the
assignment fails with an index out of bounds, and leaves what the right-hand side left. -/
theorem places_get_put {decls : List ClassDecl} {query : Option QueryService}
    {credentials : Credentials} {today : Date} {maxDepth : Nat} {env : Env}
    (henv : Env.make (Registration.registerAll .initial decls).table query credentials today
      maxDepth = .ok env) (fuel : Nat) :
    (∀ (e : Expr) (p : Place) (v : Value) (m₀ m₁ m : Machine),
      (Calls.withFuel env fuel).place env e m₀ = .ok p m₁ →
      m₁.world.heap.objects.size ≤ m.world.heap.objects.size → p.Initialized env.classes m →
      ((Calls.withFuel env fuel).store env v p).Ends
        (fun _ m' => (Calls.withFuel env fuel).load env p m' = .ok v m' ∧
          (∃ l, p.location? env.classes m = some l ∧ m.Sets l v m') ∧
          ∀ id, (m'.world.heap.get id).payload.items.size =
            (m.world.heap.get id).payload.items.size)
        (fun _ m' => m' = m) m) ∧
    (∀ (e : Expr) (p : Place) (v : Value) (m₀ m : Machine),
      (Calls.withFuel env fuel).place env e m₀ = .ok p m → p.Initialized env.classes m →
      (∃ m', (Calls.withFuel env fuel).store env v p m = .ok () m') ∨
        ∃ id key error, p = .entry id key ∧ m.world.heap.mapKey key = .error error) ∧
    (∀ (op : AssignOp) (object key value : Expr) (ispan span s : Span) (id : ObjectId) (i : Nat)
      (v : Value) (m₀ m₁ m₂ : Machine),
      (Calls.withFuel env fuel).place env (.index object key ispan) m₀ = .ok (.slot id i s) m₁ →
      (Calls.withFuel env fuel).rightHandSide env op value span (.slot id i s) m₁ = .ok v m₂ →
      (m₀.Settled env.classes → ∃ items, m₂.world.heap.list id = .ok items) ∧
      ∀ items, m₂.world.heap.list id = .ok items →
        (i < items.size → ∃ m₃,
          (Calls.withFuel env fuel).evalAssign env op (.index object key ispan) value span m₀ =
            .ok v m₃ ∧
          m₂.Sets (.part id (.item i)) v m₃ ∧
          m₃.world.heap.list id = .ok (items.setIfInBounds i v)) ∧
        (items.size ≤ i →
          (Calls.withFuel env fuel).evalAssign env op (.index object key ispan) value span m₀ =
            .error (.fault (.indexOutOfBounds (Int64.ofNat i) items.size s)) m₂)) := by
  refine ⟨fun e p v m₀ m₁ m hp later hi => ?_, fun e p v m₀ m hp hi => ?_, ?_⟩
  · refine (Calls.place_stores v hp later hi).mono ?_ fun _ _ h => h
    rintro _ m' ⟨load, l, hl, sets⟩
    exact ⟨load, ⟨l, hl, sets⟩, sets.size_items⟩
  · exact Calls.store_ready v ((Calls.place_ready e m₀).ok hp) hi
  · intro op object key value ispan span s id i v m₀ m₁ m₂ hp hv
    exact ⟨fun hm => Calls.list_of_slot (Env.make_registered henv) fuel hm hp hv,
      fun items hl => Calls.assign_slot hp hv hl⟩

/-- A method with a list of one `null` in the variable `items`. -/
def itemsRunning : Machine where
  world := { heap := ⟨#[.make Builtin.listClass [] (.list #[.null])]⟩ }
  frames := [{ cls := Builtin.listClass, this := none,
               block := NameTable.empty.insert "items" (.object 0) }]

theorem itemsRunning_settled {env : Env} {decls : List ClassDecl} (he : env.Registered decls) :
    itemsRunning.Settled env.classes := by
  have has : env.classes.Has Builtin.listClass := he.has_native (by simp [Builtin.nativeClasses])
  have only : ∀ id < itemsRunning.world.heap.objects.size,
      itemsRunning.world.heap.get id = .make Builtin.listClass [] (.list #[.null]) := by
    intro id lt
    obtain rfl : id = 0 := Nat.lt_one_iff.1 lt
    rfl
  refine ⟨⟨fun f hf => ?_, fun id lt => ?_⟩, fun id lt => ?_⟩
  · rw [List.mem_singleton.1 hf]
    exact has
  · rw [only id lt]
    exact has
  · right
    unfold Heap.HasOwn
    rw [only id lt]
    rfl

/-- `items` -/
def itemsName : Expr := .name ⟨"items", .unknown⟩

/-- `items[0]` -/
def firstItem : Expr := .index itemsName (.literal (.integer 0) .unknown) .unknown

/-- `items.clear()` -/
def clearItems : Expr := .callOn itemsName ⟨"clear", .unknown⟩ [] .unknown

/-- The slot is there when the target is resolved, and gone when the value is there. -/
theorem itemsRunning_cleared : ∃ env m₁ m₂,
    Env.make (Registration.registerAll .initial []).table none {} ⟨2024, 1, 1⟩ 16 = .ok env ∧
    (Calls.withFuel env 4).place env firstItem itemsRunning = .ok (.slot 0 0 .unknown) m₁ ∧
    (Calls.withFuel env 4).rightHandSide env .set clearItems .unknown (.slot 0 0 .unknown) m₁ =
      .ok .null m₂ ∧
    m₁.world.heap.list 0 = .ok #[.null] ∧ m₂.world.heap.list 0 = .ok #[] :=
  ⟨_, _, _, rfl, rfl, rfl, rfl, rfl⟩

/-- `items[0] = items.clear()` finds no slot to store to. Before the right-hand side runs, there is
one. -/
theorem places_get_put_cleared : ∃ env m₁ m₂,
    Env.make (Registration.registerAll .initial []).table none {} ⟨2024, 1, 1⟩ 16 = .ok env ∧
    itemsRunning.Settled env.classes ∧
    (Calls.withFuel env 4).place env firstItem itemsRunning = .ok (.slot 0 0 .unknown) m₁ ∧
    (Calls.withFuel env 4).rightHandSide env .set clearItems .unknown (.slot 0 0 .unknown) m₁ =
      .ok .null m₂ ∧
    (∃ m', (Calls.withFuel env 4).store env (.object 0) (.slot 0 0 .unknown) m₁ = .ok () m' ∧
      m₁.Sets (.part 0 (.item 0)) (.object 0) m') ∧
    (Calls.withFuel env 4).evalAssign env .set firstItem clearItems .unknown itemsRunning =
      .error (.fault (.indexOutOfBounds 0 0 .unknown)) m₂ := by
  obtain ⟨env, m₁, m₂, henv, hp, hv, hl₁, hl₂⟩ := itemsRunning_cleared
  have settled := itemsRunning_settled (Env.make_registered henv)
  obtain ⟨stores, -, assigns⟩ := places_get_put henv 4
  refine ⟨env, m₁, m₂, henv, settled, hp, hv, ?_, ?_⟩
  · have stored : (Calls.withFuel env 4).store env (.object 0) (.slot 0 0 .unknown) m₁ = .ok () _ :=
      Calls.store_slot .unknown (.object 0) hl₁ Nat.zero_lt_one
    have ends := (stores _ _ (.object 0) _ m₁ m₁ hp (Nat.le_refl _) trivial).ok stored
    obtain ⟨-, ⟨l, hl, sets⟩, -⟩ := ends
    obtain rfl := Option.some.inj hl
    exact ⟨_, stored, sets⟩
  · obtain ⟨list, ends⟩ :=
      assigns .set itemsName _ clearItems .unknown .unknown .unknown 0 0 .null _ m₁ m₂ hp hv
    obtain ⟨items, hl⟩ := list settled
    obtain ⟨-, gone⟩ := ends items hl
    rw [hl₂] at hl
    cases hl
    exact gone (Nat.le_refl 0)

end ClassScript
