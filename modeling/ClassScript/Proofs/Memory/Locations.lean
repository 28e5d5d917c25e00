import ClassScript.Proofs.Collections.Entries
import ClassScript.Proofs.Memory.FieldTables

/-!
# Locations of values

A `Location` is where a machine holds one value: a variable of a block of a frame, a static field of
a class, or a `Part` of an object, which is a field, an item of a list, or the value of an entry of
a map. Names are compared without case, and keys of maps by their order, so a location has several
spellings (`Location.Hits`). `Machine.read? l` is the value there, if there is one.

`Machine.blank` takes all values from their locations and leaves the rest of the machine: the frames
with their blocks, the objects with the lengths of the lists among them and all other native state,
the static tables, the output and the log. `m.Sets l v m'`: the machine `m'` has `v` at `l`, and is
otherwise as `m`, in all other locations and in the rest.

There is one lemma for each kind of location: a variable is set in its block (`Machine.sets_var`), a
static field in the table of its class (`Machine.sets_static`), and a part in its object
(`Machine.sets_part`), as a field (`Object.sets_field`), an item (`Object.sets_item`) or the value
of an entry (`Object.sets_entry`).
-/

namespace ClassScript

/-! ## Locations -/

/-- Where an object holds a value (module doc). -/
inductive Part where
  | field (name : String)
  | item (index : Nat)
  | entry (key : MapKey)

/-- Where a machine holds a value (module doc). Frames are counted from the running one, and blocks
from the innermost one. -/
inductive Location where
  | var (frame block : Nat) (name : String)
  | static (owner : List String) (name : String)
  | part (id : ObjectId) (part : Part)

/-- Both are the same part, maybe in another spelling. -/
def Part.Hits : Part → Part → Prop
  | field n, field n' => sameName n n' = true
  | item i, item i' => i = i'
  | entry k, entry k' => k.cmp k' = .eq
  | _, _ => False

/-- Both are the same location, maybe in another spelling. -/
def Location.Hits : Location → Location → Prop
  | var d b n, var d' b' n' => d = d' ∧ b = b' ∧ sameName n n' = true
  | static o n, static o' n' => o = o' ∧ sameName n n' = true
  | part id p, part id' p' => id = id' ∧ p.Hits p'
  | _, _ => False

namespace Payload

/-- The items of a list; no other native state has any. -/
def items : Payload → Array Value
  | list items => items
  | _ => #[]

/-- The entries of a map; no other native state has any. -/
def entries : Payload → List MapEntry
  | map entries => entries
  | _ => []

/-- Native state without the values that it holds. -/
def blank : Payload → Payload
  | list items => list (items.map fun _ => .null)
  | map _ => map []
  | p => p

end Payload

def NameTable.blank (t : NameTable Value) : NameTable Value := t.map fun _ => .null

def Frame.blank (f : Frame) : Frame :=
  { f with block := f.block.blank, outer := f.outer.map NameTable.blank }

namespace Object

def blank (o : Object) : Object := { o with fields := .empty, payload := o.payload.blank }

/-- The entry of a map under a key. -/
def entryAt? (o : Object) (key : MapKey) : Option MapEntry := MapEntries.find? o.payload.entries key

/-- The value of a part. -/
def read? (o : Object) : Part → Option Value
  | .field name => o.fields.get? name
  | .item i => o.payload.items[i]?
  | .entry key => (o.entryAt? key).map MapEntry.value

/-- The object `o'` has the value in the part, and is otherwise as `o`. Other entries of a map also
keep the values that their keys were made from. -/
structure Sets (p : Part) (v : Value) (o o' : Object) : Prop where
  value : ∀ p', p.Hits p' → o'.read? p' = some v
  others : ∀ p', ¬ p.Hits p' → o'.read? p' = o.read? p'
  entries : ∀ key, ¬ p.Hits (.entry key) → o'.entryAt? key = o.entryAt? key
  rest : o'.blank = o.blank

end Object

namespace Machine

/-- The value at a location. -/
def read? (m : Machine) : Location → Option Value
  | .var d b name => do (← (← m.frames[d]?).blocks[b]?).get? name
  | .static owner name => m.statics.get? owner name
  | .part id p => (m.world.heap.get id).read? p

/-- The machine without the values at its locations (module doc). -/
def blank (m : Machine) : Machine where
  world := { m.world with heap := ⟨m.world.heap.objects.map Object.blank⟩ }
  frames := m.frames.map Frame.blank
  statics := ⟨m.statics.tables.map fun e => (e.1, .empty)⟩

/-- The machine `m'` has the value at the location, and is otherwise as `m` (module doc). -/
structure Sets (l : Location) (v : Value) (m m' : Machine) : Prop where
  value : ∀ l', l.Hits l' → m'.read? l' = some v
  others : ∀ l', ¬ l.Hits l' → m'.read? l' = m.read? l'
  entries : ∀ id key, ¬ l.Hits (.part id (.entry key)) →
    (m'.world.heap.get id).entryAt? key = (m.world.heap.get id).entryAt? key
  rest : m'.blank = m.blank

end Machine

/-! ## A variable -/

/-- Of a table, its names are left. -/
theorem NameTable.blank_congr {t t' : NameTable Value} (h : t.names = t'.names) :
    t.blank = t'.blank := by
  have entries : ∀ t : NameTable Value, t.blank.entries = t.names.map fun n => (n, .null) := by
    intro t
    rw [NameTable.names, List.map_map]
    rfl
  exact NameTable.eq_of_entries (by rw [entries, entries, h])

namespace Frame

variable {f : Frame} {name : String} {v : Value} {b : Nat} {bs : List Block}

/-- The block of a variable is the innermost one that has it, and no other block changes. -/
theorem getElem?_assignIn (name : String) (v : Value) : ∀ {bs : List Block} {b : Nat},
    bs.findIdx? (·.contains name) = some b → ∀ j,
      (assignIn name v bs)[j]? = if b = j then bs[j]?.map (·.insert name v) else bs[j]?
  | c :: bs, b, h, j => by
    rw [List.findIdx?_cons] at h
    unfold assignIn
    split at h
    · rename_i hc
      obtain rfl := Option.some.inj h
      rw [if_pos hc]
      cases j with
      | zero => rfl
      | succ j => simp
    · rename_i hc
      rw [if_neg hc]
      obtain ⟨i, hi, rfl⟩ := Option.map_eq_some_iff.1 h
      cases j with
      | zero => simp
      | succ j => simp [getElem?_assignIn name v hi j]

theorem map_blank_congr : ∀ {bs bs' : List Block}, bs.map NameTable.names = bs'.map NameTable.names →
    bs.map NameTable.blank = bs'.map NameTable.blank
  | [], [], _ => rfl
  | b :: bs, b' :: bs', h => by
    rw [List.map_cons, List.map_cons, List.cons.injEq] at h ⊢
    exact ⟨NameTable.blank_congr h.1, map_blank_congr h.2⟩

/-- An assigned variable was there before, in the same block. -/
theorem blank_assign (f : Frame) (name : String) (v : Value) :
    (f.assign name v).blank = f.blank := by
  have keeps := f.keeps_assign name v
  obtain ⟨new, names, none⟩ := keeps.block
  obtain rfl : new = [] := List.eq_nil_iff_forall_not_mem.2 fun x hx => List.not_mem_nil (none x hx)
  have block : (f.assign name v).block.blank = f.block.blank :=
    NameTable.blank_congr (names.trans (List.append_nil _))
  have outer : (f.assign name v).outer.map NameTable.blank = f.outer.map NameTable.blank :=
    map_blank_congr keeps.outer
  unfold blank
  rw [block, outer, keeps.cls, keeps.this]

theorem isLocal_iff :
    f.isLocal name = true ↔ ∃ b, f.blocks.findIdx? (·.contains name) = some b := by
  rw [← Option.isSome_iff_exists, List.findIdx?_isSome, isLocal, lookup?, List.any_eq_true,
    List.findSome?_isSome_iff]
  simp only [NameTable.contains_eq]

/-- An assigned variable has the value. -/
theorem lookup?_assign (h : f.isLocal name = true) : (f.assign name v).lookup? name = some v := by
  unfold lookup?
  rw [blocks_assign]
  obtain ⟨b, hb⟩ := isLocal_iff.1 h
  generalize f.blocks = bs at hb
  clear h
  induction bs generalizing b with
  | nil => cases hb
  | cons c bs ih =>
    rw [List.findIdx?_cons] at hb
    unfold assignIn
    split
    · rw [List.findSome?_cons, NameTable.get?_insert, if_pos (sameName_self name)]
    · rename_i hc
      rw [if_neg hc] at hb
      obtain ⟨i, hi, -⟩ := Option.map_eq_some_iff.1 hb
      have none : c.get? name = none := by
        simpa [NameTable.contains_eq] using hc
      rw [List.findSome?_cons, none]
      exact ih i hi

end Frame

theorem Machine.sets_var {m : Machine} {f : Frame} {fs : List Frame} {name : String} {b : Nat}
    (v : Value) (hm : m.frames = f :: fs) (hb : f.blocks.findIdx? (·.contains name) = some b) :
    m.Sets (.var 0 b name) v { m with frames := f.assign name v :: fs } := by
  have block : ∃ c, f.blocks[b]? = some c := by
    rw [List.findIdx?_eq_some_iff_getElem] at hb
    obtain ⟨lt, -⟩ := hb
    exact ⟨_, List.getElem?_eq_getElem lt⟩
  obtain ⟨c, hc⟩ := block
  refine ⟨fun l hl => ?_, fun l hl => ?_, fun _ _ _ => rfl, ?_⟩
  · cases l with
    | var d b' n =>
      obtain ⟨rfl, rfl, hn⟩ := hl
      simp [read?, Frame.blocks_assign, Frame.getElem?_assignIn name v hb, hc,
        NameTable.get?_insert, hn]
    | static _ _ | part _ _ => cases hl
  · cases l with
    | var d b' n =>
      cases d with
      | zero =>
        by_cases he : b = b'
        · subst he
          have hn : sameName name n ≠ true := fun hn => hl ⟨rfl, rfl, hn⟩
          simp [read?, hm, Frame.blocks_assign, Frame.getElem?_assignIn name v hb, hc,
            NameTable.get?_insert, hn]
        · simp [read?, hm, Frame.blocks_assign, Frame.getElem?_assignIn name v hb, he]
      | succ d => simp [read?, hm]
    | static _ _ | part _ _ => rfl
  · unfold blank
    rw [hm, List.map_cons, List.map_cons, Frame.blank_assign]

/-! ## A static field -/

namespace Statics

theorem blank_set (owner : List String) (name : String) (v : Value) :
    ∀ tables : List (List String × NameTable Value),
      (setIn owner name v tables).map (fun e => (e.1, (.empty : NameTable Value))) =
        tables.map fun e => (e.1, .empty)
  | [] => rfl
  | (path, table) :: tables => by
    unfold setIn
    split
    · rfl
    · rw [List.map_cons, List.map_cons, blank_set owner name v tables]

end Statics

theorem Machine.sets_static {m : Machine} {owner : List String} (name : String) (v : Value)
    (h : m.statics.contains owner = true) :
    m.Sets (.static owner name) v { m with statics := m.statics.set owner name v } := by
  obtain ⟨table, ht⟩ := Option.isSome_iff_exists.1 h
  refine ⟨fun l hl => ?_, fun l hl => ?_, fun _ _ _ => rfl, ?_⟩
  · cases l with
    | static o n =>
      obtain ⟨rfl, hn⟩ := hl
      simp [read?, Statics.get?, Statics.table?_set, ht, NameTable.get?_insert, hn]
    | var _ _ _ | part _ _ => cases hl
  · cases l with
    | static o n =>
      by_cases ho : o = owner
      · subst ho
        have hn : sameName name n ≠ true := fun hn => hl ⟨rfl, hn⟩
        simp [read?, Statics.get?, Statics.table?_set, ht, NameTable.get?_insert, hn]
      · simp [read?, Statics.get?, Statics.table?_set, ho]
    | var _ _ _ | part _ _ => rfl
  · unfold blank Statics.set
    rw [Statics.blank_set]

/-! ## A part of an object -/

namespace Object

variable {o : Object}

theorem sets_field (o : Object) (name : String) (v : Value) :
    o.Sets (.field name) v (o.setField name v) := by
  refine ⟨fun p hp => ?_, fun p hp => ?_, fun _ _ => rfl, rfl⟩
  · cases p with
    | field n =>
      show (o.fields.insert name v).get? n = _
      rw [NameTable.get?_insert]
      exact if_pos hp
    | item _ | entry _ => cases hp
  · cases p with
    | field n =>
      show (o.fields.insert name v).get? n = _
      rw [NameTable.get?_insert]
      exact if_neg hp
    | item _ | entry _ => rfl

theorem sets_item {items : Array Value} {i : Nat} (v : Value) (ho : o.payload = .list items)
    (hi : i < items.size) :
    o.Sets (.item i) v { o with payload := .list (items.setIfInBounds i v) } := by
  refine ⟨fun p hp => ?_, fun p hp => ?_, fun key _ => ?_, ?_⟩
  · cases p with
    | item j =>
      obtain rfl : i = j := hp
      exact Array.getElem?_setIfInBounds_self_of_lt hi
    | field _ | entry _ => cases hp
  · cases p with
    | item j =>
      show (items.setIfInBounds i v)[j]? = o.payload.items[j]?
      rw [ho, Array.getElem?_setIfInBounds_ne hp]
      rfl
    | field _ => rfl
    | entry key =>
      simp only [read?, entryAt?, ho]
      rfl
  · simp only [entryAt?, ho]
    rfl
  · -- a blank list shows its length only
    have same : (items.setIfInBounds i v).map (fun _ => Value.null) =
        items.map fun _ => .null := by
      refine Array.ext (by simp) fun j _ _ => ?_
      rw [Array.getElem_map, Array.getElem_map]
    simp only [blank, ho, Payload.blank, same]

theorem sets_entry {entries : List MapEntry} (key : MapKey) (kv v : Value)
    (ho : o.payload = .map entries) :
    o.Sets (.entry key) v { o with payload := .map (MapEntries.insert key kv v entries) } := by
  refine ⟨fun p hp => ?_, fun p hp => ?_, fun key' hk => ?_, ?_⟩
  · cases p with
    | entry key' => exact MapEntries.get?_insert kv v hp entries
    | field _ | item _ => cases hp
  · cases p with
    | entry key' =>
      simp only [read?, entryAt?, ho, Payload.entries, MapEntries.find?_insert kv v hp]
    | field _ => rfl
    | item i =>
      simp only [read?, ho]
      rfl
  · simp only [entryAt?, ho, Payload.entries, MapEntries.find?_insert kv v hk]
  · simp only [blank, ho, Payload.blank]

end Object

namespace Heap

variable {h : Heap} {id : ObjectId}

/-- A change that leaves the rest of the object leaves the rest of the heap. -/
theorem map_blank_modify {f : Object → Object} (hf : (f (h.get id)).blank = (h.get id).blank) :
    (h.modify id f).objects.map Object.blank = h.objects.map Object.blank := by
  obtain ⟨objects⟩ := h
  refine Array.ext (by simp [modify]) fun i hi _ => ?_
  have lt : i < objects.size := by simpa [modify] using hi
  simp only [modify, Array.getElem_map, Array.getElem_modify]
  split
  · rename_i he
    subst he
    simpa [get, lt] using hf
  · rfl

/-- An object with native state stands in the heap. -/
theorem lt_of_payload (hp : (h.get id).payload ≠ .none) : id < h.objects.size := by
  by_contra hge
  rw [get_of_le (Nat.le_of_not_lt hge)] at hp
  exact hp rfl

theorem list_eq_ok {items : Array Value} :
    h.list id = .ok items ↔ (h.get id).payload = .list items := by
  unfold list
  cases (h.get id).payload <;> simp

/-- Native state that is replaced is there. -/
theorem payload_setPayload (hp : (h.get id).payload ≠ .none) (p : Payload) :
    ((h.setPayload id p).get id).payload = p := by
  rw [get_setPayload _ _ _ (lt_of_payload hp), if_pos rfl]

/-- The items of a list change as a whole. -/
theorem modifyItems_of_list {items : Array Value} (hl : h.list id = .ok items)
    (f : Array Value → Array Value) : h.modifyItems id f = h.setPayload id (.list (f items)) := by
  rw [modifyItems_eq, list_eq_ok.1 hl]
  rfl

theorem map_eq_ok {entries : List MapEntry} :
    h.map id = .ok entries ↔ (h.get id).payload = .map entries := by
  unfold map
  cases (h.get id).payload <;> simp

/-- The heap without its values has the objects without theirs. -/
theorem get_map_blank (h : Heap) (id : ObjectId) :
    (⟨h.objects.map Object.blank⟩ : Heap).get id = (h.get id).blank := by
  unfold get
  rw [Array.getD_eq_getD_getElem?, Array.getD_eq_getD_getElem?, Array.getElem?_map]
  cases h.objects[id]? with
  | none => rfl
  | some o => rfl

end Heap

namespace Machine

/-- No list changes its length. -/
theorem Sets.size_items {m m' : Machine} {l : Location} {v : Value} (h : m.Sets l v m')
    (id : ObjectId) : (m'.world.heap.get id).payload.items.size =
      (m.world.heap.get id).payload.items.size := by
  have size_blank : ∀ p : Payload, p.blank.items.size = p.items.size := by
    intro p
    cases p with
    | list items => exact Array.size_map
    | none | integer _ | double _ | boolean _ | string _ | map _ | date _ | request _ => rfl
  have same : (m'.world.heap.get id).blank = (m.world.heap.get id).blank := by
    rw [← Heap.get_map_blank, ← Heap.get_map_blank]
    exact congrArg (fun b : Machine => b.world.heap.get id) h.rest
  calc (m'.world.heap.get id).payload.items.size
      = (m'.world.heap.get id).blank.payload.items.size := (size_blank _).symm
    _ = (m.world.heap.get id).blank.payload.items.size := by rw [same]
    _ = (m.world.heap.get id).payload.items.size := size_blank _

/-- The machine with other objects. -/
def withHeap (m : Machine) (h : Heap) : Machine := { m with world := { m.world with heap := h } }

/-- A change of one object reaches no location outside of the object. -/
theorem sets_part {m : Machine} {id : ObjectId} {p : Part} {v : Value} (f : Object → Object)
    (lt : id < m.world.heap.objects.size)
    (hf : (m.world.heap.get id).Sets p v (f (m.world.heap.get id))) :
    m.Sets (.part id p) v (m.withHeap (m.world.heap.modify id f)) := by
  have get : ∀ j, (m.withHeap (m.world.heap.modify id f)).world.heap.get j =
      if id = j then f (m.world.heap.get j) else m.world.heap.get j := fun j =>
    (m.world.heap.get_modify_of_lt id j f).trans
      (if_congr ⟨And.left, fun he => ⟨he, he ▸ lt⟩⟩ rfl rfl)
  refine ⟨fun l hl => ?_, fun l hl => ?_, fun j key hk => ?_, ?_⟩
  · cases l with
    | part j q =>
      obtain ⟨rfl, hq⟩ := hl
      rw [read?, get, if_pos rfl]
      exact hf.value q hq
    | var _ _ _ | static _ _ => cases hl
  · cases l with
    | part j q =>
      rw [read?, get]
      split
      · rename_i he
        subst he
        exact hf.others q fun hq => hl ⟨rfl, hq⟩
      · rfl
    | var _ _ _ | static _ _ => rfl
  · rw [get]
    split
    · rename_i he
      subst he
      exact hf.entries key fun hq => hk ⟨rfl, hq⟩
    · rfl
  · simp only [blank, withHeap, Heap.map_blank_modify hf.rest]

end Machine

end ClassScript
