import ClassScript.Proofs.Collections.Entries
import ClassScript.Proofs.Machine.Objects

/-!
# Keys of the maps in a heap

An entry of a map keeps the key that orders it and the value that the key was made from. They fit if
that value, as it stands in the heap, is the same key (`MapEntries.Keyed`), and a heap is keyed if
this holds of all its maps (`Heap.Keyed`).

Scalars are keys for good: what `KeepsKeys` leaves all of them as they are, so it leaves the entries
of a map keyed. A new object, other native state for a container, and a new entry under the key of
its key value keep a heap keyed (`Heap.Keyed.alloc`, `Heap.Keyed.setPayload`, `Heap.Keyed.renew`).
-/

namespace ClassScript

namespace Payload

/-- Native state as the key of an entry; only scalars are keys. -/
def key? : Payload → Option MapKey
  | integer n => some (.integer n)
  | double x => some (.double x)
  | boolean b => some (.boolean b)
  | string s => some (.string s)
  | none | list _ | map _ | date _ | request _ => Option.none

theorem key?_isSome_iff {p : Payload} :
    p.key?.isSome = true ↔ p.kind ∈ ["Integer", "Double", "Boolean", "String"] := by
  cases p <;> simp [key?, kind]

/-- Native state of the kind of a container is no key. -/
theorem key?_eq_none_of_kind {p q : Payload} (hq : q.key? = Option.none) (h : p.kind = q.kind) :
    p.key? = Option.none := by
  rw [← Option.not_isSome_iff_eq_none, key?_isSome_iff] at hq ⊢
  rwa [h]

end Payload

namespace Heap

variable {h h' h'' : Heap} {id : ObjectId} {k : MapKey} {o : Object}

theorem mapKey_object : h.mapKey (.object id) = .ok k ↔ (h.get id).payload.key? = some k := by
  simp only [mapKey]
  cases (h.get id).payload <;> simp [Payload.key?]

/-- A key is no place outside of the heap. -/
theorem lt_of_key? (hk : (h.get id).payload.key? = some k) : id < h.objects.size := by
  by_contra hge
  rw [get_of_le (Nat.le_of_not_lt hge)] at hk
  cases hk

/-- Every value that is a key stays this key. -/
def KeepsKeys (h h' : Heap) : Prop := ∀ v k, h.mapKey v = .ok k → h'.mapKey v = .ok k

theorem KeepsKeys.trans (g : h.KeepsKeys h') (g' : h'.KeepsKeys h'') : h.KeepsKeys h'' :=
  fun v k hk => g' v k (g v k hk)

theorem KeepsKeys.of_key? (hk : ∀ id k, (h.get id).payload.key? = some k →
    (h'.get id).payload.key? = some k) : h.KeepsKeys h' := by
  intro v k hv
  cases v with
  | null => exact hv
  | object id => exact mapKey_object.2 (hk id k (mapKey_object.1 hv))

theorem keepsKeys_alloc (h : Heap) (o : Object) : h.KeepsKeys (h.alloc o).2 :=
  .of_key? fun id k hk => by rwa [get_alloc_of_lt h o (lt_of_key? hk)]

theorem keepsKeys_modify {f : Object → Object} (hf : ∀ k, (h.get id).payload.key? = some k →
    (f (h.get id)).payload.key? = some k) : h.KeepsKeys (h.modify id f) :=
  .of_key? fun j k hk => by
    rw [get_modify h id j f (lt_of_key? hk)]
    split
    · rename_i he
      subst he
      exact hf k hk
    · exact hk

/-- Native state that is no key may be replaced. -/
theorem keepsKeys_setPayload (p : Payload) (hn : (h.get id).payload.key? = none) :
    h.KeepsKeys (h.setPayload id p) :=
  keepsKeys_modify fun k hk => by rw [hn] at hk; cases hk

end Heap

namespace MapEntries

variable {h h' : Heap} {es : List MapEntry}

/-- Entries in the order of their keys, each under the key that its key value is. -/
structure Keyed (h : Heap) (es : List MapEntry) : Prop where
  sorted : Sorted es
  own : ∀ e ∈ es, ∃ k, h.mapKey e.keyValue = .ok k ∧ e.key.cmp k = .eq

theorem Keyed.nil (h : Heap) : Keyed h [] := ⟨.nil, nofun⟩

theorem Keyed.insert (hes : Keyed h es) {k : MapKey} {kv : Value} (v : Value)
    (hk : h.mapKey kv = .ok k) : Keyed h (insert k kv v es) := by
  refine ⟨hes.sorted.insert k kv v, fun e he => ?_⟩
  rcases mem_insert he with he | ⟨hek, rfl, -⟩
  · exact hes.own e he
  · exact ⟨k, hk, hek⟩

theorem Keyed.erase (hes : Keyed h es) (k : MapKey) : Keyed h (erase k es) :=
  ⟨hes.sorted.erase k, fun e he => hes.own e ((erase_sublist k es).mem he)⟩

theorem Keyed.keeps (hes : Keyed h es) (keeps : h.KeepsKeys h') : Keyed h' es := by
  refine ⟨hes.sorted, fun e he => ?_⟩
  obtain ⟨k, hk, hek⟩ := hes.own e he
  exact ⟨k, keeps _ k hk, hek⟩

end MapEntries

namespace Heap

variable {h : Heap} {id : ObjectId} {p : Payload}

/-- The entries of all maps are keyed. -/
def Keyed (h : Heap) : Prop := ∀ id es, (h.get id).payload = .map es → MapEntries.Keyed h es

theorem keyed_empty : Heap.empty.Keyed := by
  intro id es hp
  rw [get_of_le (Nat.zero_le id)] at hp
  cases hp

theorem Keyed.alloc (hh : h.Keyed) {o : Object} (ho : ∀ es, o.payload = .map es → es = []) :
    (h.alloc o).2.Keyed := by
  intro id es hp
  rcases Nat.lt_trichotomy id h.objects.size with lt | rfl | gt
  · rw [get_alloc_of_lt h o lt] at hp
    exact (hh id es hp).keeps (keepsKeys_alloc h o)
  · have self : (h.alloc o).2.get h.objects.size = o := get_alloc_self h o
    rw [self] at hp
    exact ho es hp ▸ .nil _
  · have size : (h.alloc o).2.objects.size = h.objects.size + 1 := by simp [Heap.alloc]
    rw [get_of_le (by omega)] at hp
    cases hp

theorem Keyed.setPayload (hh : h.Keyed) (keeps : h.KeepsKeys (h.setPayload id p))
    (hp : ∀ es, p = .map es → MapEntries.Keyed h es) : (h.setPayload id p).Keyed := by
  intro j es hj
  refine MapEntries.Keyed.keeps ?_ keeps
  unfold Heap.setPayload at hj
  rw [get_modify_of_lt] at hj
  split at hj
  · exact hp es hj
  · exact hh j es hj

/-- Renewed native state has no entry under a key that is not that of its key value. -/
theorem Keyed.renew (hh : h.Keyed) (hp : h.Renews (h.get id).payload p) :
    (h.setPayload id p).Keyed := by
  generalize hq : (h.get id).payload = q at hp
  have no_key : q.key? = none → h.KeepsKeys (h.setPayload id p) := fun hn =>
    keepsKeys_setPayload p (by rw [hq]; exact hn)
  cases hp with
  | same =>
    refine hh.setPayload (keepsKeys_modify fun k hk => ?_) fun es he => hh id es (hq.trans he)
    rwa [hq] at hk
  | items items items' => exact hh.setPayload (no_key rfl) nofun
  | put v entries hk =>
    refine hh.setPayload (no_key rfl) ?_
    rintro _ ⟨⟩
    exact (hh id entries hq).insert v hk
  | erase k entries =>
    refine hh.setPayload (no_key rfl) ?_
    rintro _ ⟨⟩
    exact (hh id entries hq).erase k
  | request r r' => exact hh.setPayload (no_key rfl) nofun

theorem Keyed.setField (hh : h.Keyed) (id : ObjectId) (name : String) (v : Value) :
    (h.setField id name v).Keyed := by
  intro j es hj
  have keeps : h.KeepsKeys (h.setField id name v) := keepsKeys_modify fun _ hk => hk
  refine MapEntries.Keyed.keeps (hh j es ?_) keeps
  unfold Heap.setField at hj
  rw [get_modify_of_lt] at hj
  split at hj <;> exact hj

end Heap

end ClassScript
