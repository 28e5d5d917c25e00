import ClassScript.Machine.Entry
import ClassScript.Proofs.Class.Inheritance
import ClassScript.Proofs.Machine.Acts

/-!
# The objects of a run

`Heap.Belongs t h`: every object of `h` is an instance of a class of `t`, and has only the fields
that its chain declares. The exception are the records of a query, which have a field for each
column; their class has no methods, so no code runs on them.

`Heap.Evolves t h h'`: `h'` has the objects of `h` and maybe more. An object keeps its class and its
generic arguments for good.

Single acts of built-in methods keep both, so the methods do (`Native.call_keeps`): they make
objects without fields or records, and change nothing but native state.
-/

namespace ClassScript

namespace Object

variable {t : ClassTable} {o : Object}

/-- Every field of the object is declared in its chain. -/
def Tidy (t : ClassTable) (o : Object) : Prop :=
  ∀ name, o.fields.contains name = true → (o.cls.instanceField? t name).isSome = true

/-- An object of a class of the table (module doc). -/
structure Belongs (t : ClassTable) (o : Object) : Prop where
  cls : t.Has o.cls
  fields : o.Tidy t ∨ o.cls = Builtin.recordClass

theorem tidy_make (t : ClassTable) (c : ClassInfo) (typeArgs : List DataType) (payload : Payload) :
    (Object.make c typeArgs payload).Tidy t := by
  intro name h
  cases h

theorem belongs_make {c : ClassInfo} (h : t.Has c) (typeArgs : List DataType) (payload : Payload) :
    (Object.make c typeArgs payload).Belongs t :=
  ⟨h, .inl (tidy_make t c typeArgs payload)⟩

/-- A field that the chain of a tidy object declares may be set. -/
theorem tidy_setField {name : String} (v : Value)
    (hn : o.Tidy t → (o.cls.instanceField? t name).isSome = true) :
    (o.setField name v).Tidy t ↔ o.Tidy t := by
  have contains : ∀ n, (o.setField name v).fields.contains n =
      (sameName name n || o.fields.contains n) := fun n => NameTable.contains_insert _ _ _ _
  constructor
  · intro h n hc
    exact h n (by rw [contains, hc, Bool.or_true])
  · intro h n hc
    rw [contains, Bool.or_eq_true] at hc
    rcases hc with hs | hc
    · have same : o.cls.instanceField? t n = o.cls.instanceField? t name := by
        unfold ClassInfo.instanceField?
        congr 1
        funext d
        exact d.instanceFields.get?_congr (sameName_symm hs)
      exact same ▸ hn h
    · exact h n hc

end Object

namespace Heap

variable {t : ClassTable} {h h' h'' : Heap}

/-- Every object belongs to the table (module doc). -/
def Belongs (t : ClassTable) (h : Heap) : Prop := ∀ id < h.objects.size, (h.get id).Belongs t

/-- Objects keep their classes (module doc). -/
structure Evolves (t : ClassTable) (h h' : Heap) : Prop where
  size : h.objects.size ≤ h'.objects.size
  cls : ∀ id < h.objects.size, (h'.get id).cls = (h.get id).cls
  typeArgs : ∀ id < h.objects.size, (h'.get id).typeArgs = (h.get id).typeArgs
  tidy : ∀ id < h.objects.size, (h'.get id).Tidy t ↔ (h.get id).Tidy t

theorem Evolves.refl (t : ClassTable) (h : Heap) : h.Evolves t h :=
  ⟨Nat.le_refl _, fun _ _ => rfl, fun _ _ => rfl, fun _ _ => Iff.rfl⟩

theorem Evolves.trans (e : h.Evolves t h') (e' : h'.Evolves t h'') : h.Evolves t h'' where
  size := Nat.le_trans e.size e'.size
  cls id lt := (e'.cls id (Nat.lt_of_lt_of_le lt e.size)).trans (e.cls id lt)
  typeArgs id lt := (e'.typeArgs id (Nat.lt_of_lt_of_le lt e.size)).trans (e.typeArgs id lt)
  tidy id lt := (e'.tidy id (Nat.lt_of_lt_of_le lt e.size)).trans (e.tidy id lt)

theorem belongs_empty (t : ClassTable) : Heap.empty.Belongs t := by
  intro id lt
  cases lt

/-- An object outside the heap looks like one without a class. -/
theorem get_of_le {id : ObjectId} (le : h.objects.size ≤ id) : h.get id = default := by
  unfold get
  rw [Array.getD_eq_getD_getElem?, Array.getElem?_eq_none le]
  rfl

/-- A change reaches the object at its place, if there is one, and no other. -/
theorem get_modify_of_lt (h : Heap) (id j : ObjectId) (f : Object → Object) :
    (h.modify id f).get j =
      if id = j ∧ j < h.objects.size then f (h.get j) else h.get j := by
  by_cases lt : j < h.objects.size
  · rw [get_modify h id j f lt]
    simp [lt]
  · rw [if_neg fun hj => lt hj.2, get_of_le (Nat.not_lt.1 lt),
      get_of_le (by rw [size_modify]; exact Nat.not_lt.1 lt)]

/-! ## Changes of the heap -/

/-- `g` keeps the heap in order. -/
def Keeps (t : ClassTable) (h : Heap) (g : Heap → Heap) : Prop :=
  (g h).Belongs t ∧ h.Evolves t (g h)

theorem Belongs.alloc (hb : h.Belongs t) {o : Object} (ho : o.Belongs t) :
    (h.alloc o).2.Belongs t ∧ h.Evolves t (h.alloc o).2 := by
  have size : (h.alloc o).2.objects.size = h.objects.size + 1 := by simp [Heap.alloc]
  refine ⟨fun id lt => ?_, by omega, fun id lt => ?_, fun id lt => ?_, fun id lt => ?_⟩
  · by_cases lt' : id < h.objects.size
    · rw [get_alloc_of_lt h o lt']
      exact hb id lt'
    · have hid : id = (h.alloc o).1 := by
        show id = h.objects.size
        omega
      rw [hid, get_alloc_self]
      exact ho
  all_goals rw [get_alloc_of_lt h o lt]

/-- A change of one object that keeps its class. -/
theorem Belongs.modify (hb : h.Belongs t) {id : ObjectId} {f : Object → Object}
    (cls : (f (h.get id)).cls = (h.get id).cls)
    (typeArgs : (f (h.get id)).typeArgs = (h.get id).typeArgs)
    (tidy : id < h.objects.size → ((f (h.get id)).Tidy t ↔ (h.get id).Tidy t)) :
    h.Keeps t (·.modify id f) := by
  refine ⟨fun j lt => ?_, by simp, fun j lt => ?_, fun j lt => ?_, fun j lt => ?_⟩
  · rw [size_modify] at lt
    rw [get_modify h id j f lt]
    split
    · rename_i he
      subst he
      refine ⟨cls ▸ (hb id lt).cls, ?_⟩
      rcases (hb id lt).fields with ht | hr
      · exact .inl ((tidy lt).2 ht)
      · exact .inr (cls.trans hr)
    · exact hb j lt
  all_goals
    rw [get_modify h id j f lt]
    split
    · rename_i he
      subst he
      first | exact cls | exact typeArgs | exact tidy lt
    · rfl

theorem Belongs.setPayload (hb : h.Belongs t) (id : ObjectId) (p : Payload) :
    h.Keeps t (·.setPayload id p) :=
  hb.modify rfl rfl fun _ => Iff.rfl

theorem Belongs.modifyItems (hb : h.Belongs t) (id : ObjectId) (g : Array Value → Array Value) :
    h.Keeps t (·.modifyItems id g) := by
  refine hb.modify ?_ ?_ fun _ => ?_
  · split <;> simp_all
  · split <;> simp_all
  · split
    · rename_i ho
      rw [ho]
      exact Iff.rfl
    · rfl

theorem Belongs.setField (hb : h.Belongs t) {id : ObjectId} {name : String} (v : Value)
    (hn : id < h.objects.size → (h.get id).Tidy t →
      ((h.get id).cls.instanceField? t name).isSome = true) :
    h.Keeps t (·.setField id name v) :=
  hb.modify rfl rfl fun lt => Object.tidy_setField v (hn lt)

end Heap

/-! ## Built-in methods -/

/-- The classes that built-in methods make objects of belong to the table. -/
structure Host.Proper (host : Host) : Prop where
  integer : host.classes.Has host.prims.integer
  double : host.classes.Has host.prims.double
  string : host.classes.Has host.prims.string
  boolean : host.classes.Has host.prims.boolean
  list : host.classes.Has host.prims.list
  record : ∀ c, host.classes.get? Builtin.recordName = some c → c = Builtin.recordClass

/-- The objects that the host makes belong to its classes. -/
theorem Host.Makes.belongs {host : Host} (hh : host.Proper) {o : Object} (ho : host.Makes o) :
    o.Belongs host.classes := by
  cases ho with
  | integer n => exact Object.belongs_make hh.integer _ _
  | double x => exact Object.belongs_make hh.double _ _
  | boolean b => exact Object.belongs_make hh.boolean _ _
  | string s => exact Object.belongs_make hh.string _ _
  | list element items => exact Object.belongs_make hh.list _ _
  | date d hc => exact Object.belongs_make (.of_resolve? hc) _ _
  | record hc _ => exact ⟨.of_get? hc, .inr (hh.record _ hc)⟩

namespace Native

variable {α : Type}

/-- `x` keeps the heap in order, with a result or without. -/
def Keeps (t : ClassTable) (x : Native α) : Prop :=
  ∀ w : World, w.heap.Belongs t → match x w with
    | .ok _ w' => w'.heap.Belongs t ∧ w.heap.Evolves t w'.heap
    | .error _ w' => w'.heap.Belongs t ∧ w.heap.Evolves t w'.heap

section

variable {t : ClassTable}

theorem Keeps.setPayload (id : ObjectId) (p : Payload) : Keeps t (Native.setPayload id p) :=
  fun _ h => h.setPayload id p

theorem Keeps.modifyItems (id : ObjectId) (g : Array Value → Array Value) :
    Keeps t (Native.modifyHeap (·.modifyItems id g)) :=
  fun _ h => h.modifyItems id g

theorem Keeps.log (event : LogEvent) : Keeps t (Native.log event) :=
  fun w h => ⟨h, .refl t w.heap⟩

end

section

variable {host : Host} (hh : host.Proper)
include hh

/-- What works on the heap in single acts keeps it in order. -/
theorem Keeps.of_acts (starts : ObjectId → Payload → Prop) {x : Native α}
    (h : ∀ w, Acts host starts x w) : Keeps host.classes x := by
  intro w hw
  have hkeeps := (h w).keeps
    (R := fun h h' => h.Belongs host.classes → h'.Belongs host.classes ∧ h.Evolves host.classes h')
    (fun h hb => ⟨hb, .refl _ h⟩)
    (fun h₁ h₂ hb => ⟨(h₂ (h₁ hb).1).1, (h₁ hb).2.trans (h₂ (h₁ hb).1).2⟩)
    (by
      intro h h' act hb
      cases act with
      | make ho => exact hb.alloc (Host.Makes.belongs hh ho)
      | renew id _ => exact hb.setPayload id _
      | start _ => exact hb.setPayload _ _)
  cases hx : x w with
  | ok a w' =>
    rw [hx] at hkeeps
    exact hkeeps hw
  | error e w' =>
    rw [hx] at hkeeps
    exact hkeeps hw

theorem integer_keeps (n : Int64) : Keeps host.classes (integer host n) :=
  .of_acts hh (fun _ _ => False) fun _ => integer_acts n

theorem double_keeps (x : Double) : Keeps host.classes (double host x) :=
  .of_acts hh (fun _ _ => False) fun _ => double_acts x

theorem boolean_keeps (b : Bool) : Keeps host.classes (boolean host b) :=
  .of_acts hh (fun _ _ => False) fun _ => boolean_acts b

theorem string_keeps (s : String) : Keeps host.classes (string host s) :=
  .of_acts hh (fun _ _ => False) fun _ => string_acts s

theorem runQuery_keeps (query : String) : Keeps host.classes (runQuery host query) :=
  .of_acts hh (fun _ _ => False) fun _ => runQuery_acts query

/-- Built-in methods keep the heap in order. -/
theorem call_keeps (c : NativeCall) (m : NativeMethod) : Keeps host.classes (call host c m) :=
  .of_acts hh (Starts c m) (call_acts c m)

end

end Native

end ClassScript
