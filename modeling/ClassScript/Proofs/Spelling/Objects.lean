import ClassScript.Proofs.Machine.Objects
import ClassScript.Proofs.Spelling.Registration

/-!
# Objects in other spellings

Two runs of a program in two spellings make the same objects: of classes that look alike, with equal
fields and equal native state (`Object.Twin`). Their heaps are tied (`Heap.Tied τ`) if moreover

* every object has all fields that its class declares (`Object.Complete`), and
* the objects have the fields in `τ.held`.

Only then it does not matter how a program spells the field that it sets: a field that an object has
keeps its spelling, a new one gets the spelling of the assignment. Fields are never lost, so a field
that an object has may join `τ.held` at any time.

What is read from tied heaps is the same: numbers and texts, the types of values up to spelling, and
what a value looks like (`Heap.Tied.display`).
-/

namespace ClassScript

/-! ## Setting an entry that is there -/

namespace NameTable

variable {α : Type} {t : NameTable α} {n n' : String}

theorem insert_respelled (hn : sameName n n' = true) (hc : t.contains n = true) (v : α) :
    t.insert n v = t.insert n' v := by
  refine eq_of_entries ?_
  rw [entries_insert, entries_insert]
  rw [contains_eq_find?] at hc
  generalize t.entries = es at hc ⊢
  induction es with
  | nil => cases hc
  | cons e es ih =>
    unfold insertEntry
    rw [← sameName_congr_right hn e.1]
    split
    · rfl
    · rename_i he
      rw [List.find?_cons, Bool.eq_false_iff.2 he] at hc
      rw [ih hc]

theorem contains_of_insert (h : t.contains n = true) (name : String) (v : α) :
    (t.insert name v).contains n = true := by
  rw [contains_insert, h, Bool.or_true]

end NameTable

/-! ## Classes of two runs -/

variable {σ : Spelling}

/-- Classes that look alike, with instance fields under their own names. -/
structure ClassInfo.Twin (σ : Spelling) (c d : ClassInfo) : Prop where
  like : c.Like (.spelled σ) d
  named : c.Deep ClassInfo.Named

theorem twin_of_like {a b : Option ClassInfo} (h : Option.Rel (ClassInfo.Like (.spelled σ)) a b)
    (hn : ∀ c, a = some c → c.Deep ClassInfo.Named) : Option.Rel (ClassInfo.Twin σ) a b := by
  cases h with
  | none => exact .none
  | some h => exact .some ⟨h, hn _ rfl⟩

theorem ClassInfo.Twin.inner? {c d : ClassInfo} (h : c.Twin σ d) {n n' : String}
    (hn : sameName n n' = true) : Option.Rel (ClassInfo.Twin σ) (c.inner? n) (d.inner? n') :=
  twin_of_like (h.like.inner? hn) fun _ he => h.named.inner (List.mem_of_find?_eq_some he)

namespace ClassTable.Twins

variable {t t' : ClassTable} (h : t.Twins σ t')
include h

theorem like : t.Like (.spelled σ) t' := .of_classes h.classes

/-- The fields of superclasses stand under their own names as well. -/
theorem named_chain {c d : ClassInfo} (hc : c.Deep ClassInfo.Named) (hd : d ∈ c.chain t) :
    d.Named := by
  unfold ClassInfo.chain ClassInfo.chainUpTo at hd
  rcases List.mem_cons.1 hd with rfl | hd
  · exact hc.self
  · split at hd
    · rename_i hp
      exact (((Has.of_parent? hp).of_chainUpTo hd).deep h.named).self
    · cases hd

variable {n n' : String} (hn : sameName n n' = true)
include hn

theorem get? : Option.Rel (ClassInfo.Twin σ) (t.get? n) (t'.get? n') :=
  twin_of_like (h.like.get? hn) fun _ he => (Has.of_get? he).deep h.named

theorem resolve? : Option.Rel (ClassInfo.Twin σ) (t.resolve? n) (t'.resolve? n') :=
  twin_of_like (resolve?_like h.like hn) fun _ he => (Has.of_resolve? he).deep h.named

end ClassTable.Twins

/-! ## Classes whose instances have no fields -/

namespace ClassInfo

variable {t : ClassTable} {c : ClassInfo}

/-- Neither the class nor a superclass declares a field. -/
def Bare (t : ClassTable) (c : ClassInfo) : Prop := ∀ name, c.instanceField? t name = none

/-- In a class without a superclass, all fields are its own. -/
theorem instanceField?_own (hs : c.superclass = none) (name : String) :
    c.instanceField? t name = c.instanceFields.get? name := by
  unfold instanceField?
  rw [chain_of_no_superclass hs, List.findSome?_cons]
  cases c.instanceFields.get? name <;> rfl

theorem bare_of_own (hs : c.superclass = none) (hf : c.instanceFields = .empty) : c.Bare t := by
  intro name
  rw [instanceField?_own hs, hf, NameTable.get?_empty]

end ClassInfo

/-! ## Objects -/

namespace Object

/-- The object has every field that its class declares. -/
def Complete (t : ClassTable) (o : Object) : Prop :=
  ∀ name, (o.cls.instanceField? t name).isSome = true → o.fields.contains name = true

/-- The object of the other run (module doc). -/
structure Twin (σ : Spelling) (o o' : Object) : Prop where
  cls : o.cls.Twin σ o'.cls
  typeArgs : List.Forall₂ (DataType.Spelled σ) o.typeArgs o'.typeArgs
  fields : o.fields = o'.fields
  payload : o.payload = o'.payload

variable {t : ClassTable} {o o' : Object}

theorem complete_make {c : ClassInfo} (h : c.Bare t) (typeArgs : List DataType)
    (payload : Payload) : (Object.make c typeArgs payload).Complete t := by
  intro name hn
  rw [show (Object.make c typeArgs payload).cls = c from rfl, h name] at hn
  cases hn

theorem twin_make {c d : ClassInfo} (h : c.Twin σ d) {as bs : List DataType}
    (hs : List.Forall₂ (DataType.Spelled σ) as bs) (payload : Payload) :
    (Object.make c as payload).Twin σ (Object.make d bs payload) :=
  ⟨h, hs, rfl, rfl⟩

/-- Outside both heaps. -/
theorem twin_default : (default : Object).Twin σ default :=
  ⟨⟨.spelled_refl _, .intro (fun _ he => nomatch he) fun _ hd => nomatch hd⟩, .nil, rfl, rfl⟩

theorem complete_default : (default : Object).Complete t := by
  intro name hn
  rw [show (default : Object).cls = default from rfl,
    ClassInfo.bare_of_own (c := default) rfl rfl name] at hn
  cases hn

namespace Twin

variable (h : o.Twin σ o')
include h

theorem name : o.cls.name = o'.cls.name := h.cls.like.name

theorem dataType : o.dataType.Spelled σ o'.dataType := by
  unfold Object.dataType
  rw [h.name]
  exact .intro (σ.refl _) h.typeArgs

theorem mismatch (expected : String) : o.mismatch expected = o'.mismatch expected := by
  unfold Object.mismatch
  rw [h.name]

/-- A field that the object has is set in any spelling. -/
theorem setField {n n' : String} (hn : sameName n n' = true) (hc : o.fields.contains n = true)
    (v : Value) : (o.setField n v).Twin σ (o'.setField n' v) :=
  { h with
    fields := (NameTable.insert_respelled hn hc v).trans (congrArg (·.insert n' v) h.fields) }

theorem setSameField (n : String) (v : Value) : (o.setField n v).Twin σ (o'.setField n v) :=
  { h with fields := congrArg (·.insert n v) h.fields }

theorem objectText (keyText valueText : Value → String) :
    Heap.objectText keyText valueText o = Heap.objectText keyText valueText o' := by
  unfold Heap.objectText
  rw [h.payload, h.name, h.fields]

end Twin

end Object

/-! ## Heaps -/

/-- What two runs have in common: how far spellings differ, the classes of the first run, and fields
that objects are known to have. -/
structure Tie where
  spelling : Spelling
  classes : ClassTable
  held : List (ObjectId × String) := []

/-- The tie with more fields that objects are known to have. -/
def Tie.hold (τ : Tie) (fields : List (ObjectId × String)) : Tie :=
  { τ with held := fields ++ τ.held }

/-- The heaps of two runs (module doc). -/
structure Heap.Tied (τ : Tie) (h h' : Heap) : Prop where
  size : h.objects.size = h'.objects.size
  object : ∀ id, (h.get id).Twin τ.spelling (h'.get id)
  complete : ∀ id, (h.get id).Complete τ.classes
  held : ∀ p ∈ τ.held, (h.get p.1).fields.contains p.2 = true

namespace Heap

variable {τ : Tie} {h h' : Heap}

theorem get_alloc (h : Heap) (o : Object) (id : ObjectId) :
    (h.alloc o).2.get id = if id = h.objects.size then o else h.get id := by
  simp only [alloc, get, Array.getD_eq_getD_getElem?, Array.getElem?_push]
  split <;> rfl

namespace Tied

theorem empty (σ : Spelling) (t : ClassTable) : Heap.Tied ⟨σ, t, []⟩ .empty .empty :=
  ⟨rfl, fun _ => Object.twin_default, fun _ => Object.complete_default, fun _ hp => nomatch hp⟩

variable (hh : h.Tied τ h')
include hh

/-! ### Changes -/

/-- A field that an object has may be held. -/
theorem hold {id : ObjectId} {name : String} (hc : (h.get id).fields.contains name = true) :
    h.Tied (τ.hold [(id, name)]) h' :=
  { hh with held := List.forall_mem_cons.2 ⟨hc, hh.held⟩ }

omit hh in
/-- Holding less. -/
theorem release {fields : List (ObjectId × String)} (hh : h.Tied (τ.hold fields) h') :
    h.Tied τ h' :=
  ⟨hh.size, hh.object, hh.complete, fun p hp => hh.held p (List.mem_append_right _ hp)⟩

theorem alloc {o o' : Object} (ho : o.Twin τ.spelling o') (hc : o.Complete τ.classes) :
    (h.alloc o).1 = (h'.alloc o').1 ∧ (h.alloc o).2.Tied τ (h'.alloc o').2 := by
  refine ⟨hh.size, ?_, fun id => ?_, fun id => ?_, fun p hp => ?_⟩
  · simp [Heap.alloc, hh.size]
  · rw [get_alloc, get_alloc, hh.size]
    split
    · exact ho
    · exact hh.object id
  · rw [get_alloc]
    split
    · exact hc
    · exact hh.complete id
  · have hheld := hh.held p hp
    rw [get_alloc]
    split
    · -- an object that is not there has no fields
      rename_i hid
      rw [get_of_le (Nat.le_of_eq hid.symm)] at hheld
      cases hheld
    · exact hheld

/-- A change of one object that keeps its class and its fields. -/
theorem modify {id : ObjectId} {f f' : Object → Object}
    (twin : (f (h.get id)).Twin τ.spelling (f' (h'.get id)))
    (cls : (f (h.get id)).cls = (h.get id).cls)
    (grows : ∀ name, (h.get id).fields.contains name = true →
      (f (h.get id)).fields.contains name = true) :
    (h.modify id f).Tied τ (h'.modify id f') := by
  have kept : ∀ j name, (h.get j).fields.contains name = true →
      ((h.modify id f).get j).fields.contains name = true := by
    intro j name hc
    rw [get_modify_of_lt]
    split
    · rename_i hj
      obtain ⟨rfl, -⟩ := hj
      exact grows name hc
    · exact hc
  refine ⟨by rw [size_modify, size_modify, hh.size], fun j => ?_, fun j name hn => ?_,
    fun p hp => kept _ _ (hh.held p hp)⟩
  · rw [get_modify_of_lt, get_modify_of_lt, ← hh.size]
    split
    · rename_i hj
      obtain ⟨rfl, -⟩ := hj
      exact twin
    · exact hh.object j
  · refine kept j name (hh.complete j name ?_)
    rw [get_modify_of_lt] at hn
    split at hn
    · rename_i hj
      obtain ⟨rfl, -⟩ := hj
      rwa [cls] at hn
    · exact hn

theorem setPayload (id : ObjectId) (payload : Payload) :
    (h.setPayload id payload).Tied τ (h'.setPayload id payload) :=
  hh.modify { hh.object id with payload := rfl } rfl fun _ hc => hc

theorem modifyItems (id : ObjectId) (f : Array Value → Array Value) :
    (h.modifyItems id f).Tied τ (h'.modifyItems id f) := by
  have twin := hh.object id
  unfold Heap.modifyItems
  refine hh.modify ?_ ?_ fun name hc => ?_
  · generalize h.get id = o, h'.get id = o' at twin
    obtain ⟨cls, typeArgs, fields, payload⟩ := o
    obtain ⟨cls', typeArgs', fields', payload'⟩ := o'
    obtain ⟨hcls, htypeArgs, rfl, rfl⟩ := twin
    cases payload <;> exact ⟨hcls, htypeArgs, rfl, rfl⟩
  all_goals
    generalize h.get id = o at *
    obtain ⟨cls, typeArgs, fields, payload⟩ := o
    cases payload <;> first | rfl | exact hc

theorem setField {id : ObjectId} {n n' : String} (hn : sameName n n' = true)
    (hp : (id, n) ∈ τ.held) (v : Value) : (h.setField id n v).Tied τ (h'.setField id n' v) := by
  have held : (h.get id).fields.contains n = true := hh.held (id, n) hp
  have twin := (hh.object id).setField hn held v
  unfold Heap.setField
  exact hh.modify twin rfl fun _ hc => NameTable.contains_of_insert hc n v

theorem setSameField (id : ObjectId) (n : String) (v : Value) :
    (h.setField id n v).Tied τ (h'.setField id n v) :=
  hh.modify ((hh.object id).setSameField n v) rfl fun _ hc => NameTable.contains_of_insert hc n v

/-! ### Reading -/

theorem payload? (v : Value) : h.payload? v = h'.payload? v := by
  cases v with
  | null => rfl
  | object id => exact congrArg some (hh.object id).payload

theorem dataType (v : Value) : (h.dataType v).Spelled τ.spelling (h'.dataType v) := by
  cases v with
  | null => exact .refl _
  | object id => exact (hh.object id).dataType

theorem integer? (v : Value) : h.integer? v = h'.integer? v := by
  unfold Heap.integer?
  rw [hh.payload?]

theorem double? (v : Value) : h.double? v = h'.double? v := by
  unfold Heap.double?
  rw [hh.payload?]

theorem boolean? (v : Value) : h.boolean? v = h'.boolean? v := by
  unfold Heap.boolean?
  rw [hh.payload?]

theorem string? (v : Value) : h.string? v = h'.string? v := by
  unfold Heap.string?
  rw [hh.payload?]

theorem mismatch (id : ObjectId) (expected : String) :
    (h.get id).mismatch expected = (h'.get id).mismatch expected :=
  (hh.object id).mismatch expected

theorem list (id : ObjectId) : h.list id = h'.list id := by
  unfold Heap.list
  rw [(hh.object id).payload, hh.mismatch]

theorem map (id : ObjectId) : h.map id = h'.map id := by
  unfold Heap.map
  rw [(hh.object id).payload, hh.mismatch]

theorem mapKey (v : Value) : h.mapKey v = h'.mapKey v := by
  cases v with
  | null => rfl
  | object id =>
    unfold Heap.mapKey
    dsimp only
    rw [(hh.object id).payload, (hh.object id).name]

theorem displayUpTo {keyText keyText' : Value → String} (hk : keyText = keyText') :
    ∀ n, h.displayUpTo keyText n = h'.displayUpTo keyText' n
  | 0 => by
    funext v
    cases v <;> rfl
  | n + 1 => by
    funext v
    cases v with
    | null => rfl
    | object id =>
      unfold Heap.displayUpTo
      rw [(hh.object id).objectText, displayUpTo hk n, hk]

theorem keyTextUpTo : ∀ n, h.keyTextUpTo n = h'.keyTextUpTo n
  | 0 => rfl
  | n + 1 => by
    funext v
    unfold Heap.keyTextUpTo
    rw [hh.displayUpTo (keyTextUpTo n)]

/-- Values look alike in both runs. -/
theorem display (v : Value) : h.display v = h'.display v := by
  unfold Heap.display
  rw [hh.size, hh.displayUpTo (hh.keyTextUpTo _)]

theorem equalsUpTo : ∀ n, h.equalsUpTo n = h'.equalsUpTo n
  | 0 => rfl
  | n + 1 => by
    funext a b
    unfold Heap.equalsUpTo
    rw [equalsUpTo n]
    cases a with
    | null => rfl
    | object i =>
      cases b with
      | null => rfl
      | object j => simp only [(hh.object i).payload, (hh.object j).payload]

theorem equals (a b : Value) : h.equals a b = h'.equals a b := by
  unfold Heap.equals
  rw [hh.equalsUpTo]

/-- The heaps agree on which fields an object has or declares. -/
theorem readField? {t t' : ClassTable} (ht : t.Like (.spelled τ.spelling) t') (id : ObjectId)
    {n n' : String} (hn : sameName n n' = true) :
    Machine.readField? t h id n = Machine.readField? t' h' id n' := by
  unfold Machine.readField?
  rw [(hh.object id).fields, NameTable.get?_congr _ hn]
  have hf := ClassInfo.instanceField?_like ht hn (hh.object id).cls.like
  generalize (h.get id).cls.instanceField? t n = x, (h'.get id).cls.instanceField? t' n' = y at hf
  cases hf <;> rfl

end Tied

end Heap

end ClassScript
