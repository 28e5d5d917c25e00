import ClassScript.Proofs.Collections.Keys
import ClassScript.Proofs.Memory.History
import ClassScript.Proofs.Memory.NativeClasses

/-!
# What can happen to the memory of a run

`Change env s e s'` says once what each event does to the memory: it is the only place that a
property of whole histories has to look at. Beside the memory a `Stage` has what no run can see,
the static initializers that are due and those that are running; a chain that is touched makes its
initializers due before all others, and it is the first one due that starts. `Course env s moments
s'` is a history that is made of such changes.

Along a course the objects last: they stay, and keep their class and the names of their fields
(`Course.lasts`), and all of them are instances of classes of the table (`Course.placed`).
-/

namespace ClassScript

open Relation (ReflTransGen)

theorem Payload.eq_none_of_kind {p : Payload} (h : p.kind = Payload.none.kind) : p = .none := by
  cases p with
  | none => rfl
  | _ => exact absurd h (by simp [kind])

namespace Heap

/-- Every object is an instance of a class of the table. -/
def Placed (t : ClassTable) (h : Heap) : Prop := ∀ id < h.objects.size, t.Has (h.get id).cls

/-- `h'` has the objects of `h`, with their classes and their fields, and maybe more. -/
structure Lasts (h h' : Heap) : Prop where
  size : h.objects.size ≤ h'.objects.size
  cls : ∀ id < h.objects.size, (h'.get id).cls = (h.get id).cls
  fields : ∀ id < h.objects.size, ∀ name, (h.get id).fields.contains name = true →
    (h'.get id).fields.contains name = true

/-- The object has native state of the kind of its class. -/
def HasOwn (h : Heap) (id : ObjectId) : Prop := (h.get id).payload.kind = (h.get id).cls.name

/-- Native state is of the kind of the object's class, where there is any. -/
def Own (h : Heap) : Prop := ∀ id < h.objects.size, (h.get id).payload = .none ∨ h.HasOwn id

/-- The native state that a constructor may give the object: that of its class, as a method starts
it. -/
def Starts (h : Heap) (id : ObjectId) (p : Payload) : Prop :=
  ((h.get id).cls.Constructs ∧ p.kind = (h.get id).cls.name) ∧
    ∃ method : NativeMethod, method.start? = some p

/-- What built-in methods do to the heap: objects keep their class and their fields, and their
native state keeps its kind, unless a constructor gives them that of their class; new objects are
values or records; and entries of maps stay under the keys of their key values, where native state
is the object's own. -/
structure Works (h h' : Heap) : Prop where
  size : h.objects.size ≤ h'.objects.size
  cls : ∀ id < h.objects.size, (h'.get id).cls = (h.get id).cls
  fields : ∀ id < h.objects.size, (h'.get id).fields = (h.get id).fields
  kind : ∀ id < h.objects.size, (h'.get id).payload.kind = (h.get id).payload.kind ∨
    (h.get id).cls.Constructs ∧ (h'.get id).payload.kind = (h.get id).cls.name
  new : ∀ id < h'.objects.size, h.objects.size ≤ id →
    ((h'.get id).cls ∈ Builtin.nativeClasses ∧ (h'.get id).payload.kind = (h'.get id).cls.name) ∨
      ((h'.get id).cls = Builtin.recordClass ∧ (h'.get id).payload = .none)
  keyed : h.Own → h.Keyed → h'.Keyed

variable {h h' h'' : Heap}

theorem Works.refl (h : Heap) : h.Works h :=
  ⟨Nat.le_refl _, fun _ _ => rfl, fun _ _ => rfl, fun _ _ => .inl rfl,
    fun _ lt le => absurd lt (Nat.not_lt.2 le), fun _ hk => hk⟩

theorem Works.lasts (w : h.Works h') : h.Lasts h' :=
  ⟨w.size, w.cls, fun id lt name hc => by rwa [w.fields id lt]⟩

theorem Lasts.refl (h : Heap) : h.Lasts h := ⟨Nat.le_refl _, fun _ _ => rfl, fun _ _ _ hc => hc⟩

theorem Lasts.trans (g : h.Lasts h') (g' : h'.Lasts h'') : h.Lasts h'' where
  size := Nat.le_trans g.size g'.size
  cls id lt := (g'.cls id (Nat.lt_of_lt_of_le lt g.size)).trans (g.cls id lt)
  fields id lt name hc := g'.fields id (Nat.lt_of_lt_of_le lt g.size) name (g.fields id lt name hc)

/-- A change of one object that keeps its class and its fields. -/
theorem lasts_modify {id : ObjectId} {f : Object → Object}
    (hcls : (f (h.get id)).cls = (h.get id).cls)
    (hfields : ∀ name, (h.get id).fields.contains name = true →
      (f (h.get id)).fields.contains name = true) : h.Lasts (h.modify id f) := by
  refine ⟨by simp, fun j lt => ?_, fun j lt name hc => ?_⟩
  all_goals
    rw [get_modify h id j f lt]
    split
  · rename_i he
    exact he ▸ hcls
  · rfl
  · rename_i he
    exact he ▸ hfields name (he ▸ hc)
  · exact hc

theorem lasts_setField (h : Heap) (id : ObjectId) (name : String) (v : Value) :
    h.Lasts (h.setField id name v) :=
  lasts_modify rfl fun n hc => by rw [Object.setField, NameTable.contains_insert, hc, Bool.or_true]

theorem size_alloc (h : Heap) (o : Object) :
    (h.alloc o).2.objects.size = h.objects.size + 1 := by
  simp [Heap.alloc]

theorem lasts_alloc (h : Heap) (o : Object) : h.Lasts (h.alloc o).2 := by
  refine ⟨by simp [size_alloc], fun id lt => ?_, fun id lt name hc => ?_⟩
  all_goals rw [get_alloc_of_lt h o lt]
  exact hc

/-- The object at a place after another was made. -/
theorem get_alloc_cases (h : Heap) (o : Object) {id : ObjectId}
    (lt : id < (h.alloc o).2.objects.size) :
    (id < h.objects.size ∧ (h.alloc o).2.get id = h.get id) ∨
      (id = h.objects.size ∧ (h.alloc o).2.get id = o) := by
  rw [size_alloc] at lt
  rcases Nat.lt_succ_iff_lt_or_eq.1 lt with lt | rfl
  · exact .inl ⟨lt, get_alloc_of_lt h o lt⟩
  · exact .inr ⟨rfl, get_alloc_self h o⟩

theorem get_setPayload (h : Heap) (id : ObjectId) (p : Payload) {j : ObjectId}
    (lt : j < h.objects.size) : (h.setPayload id p).get j =
      if id = j then { h.get j with payload := p } else h.get j :=
  get_modify h id j _ lt

theorem Starts.lt {id : ObjectId} {p : Payload} (hs : h.Starts id p) : id < h.objects.size := by
  refine Nat.lt_of_not_le fun le => ?_
  have hd : (default : ClassInfo) ∈ Builtin.nativeClasses := by
    have hc := hs.1.1.1
    rwa [get_of_le le] at hc
  have hn : (default : ClassInfo).name ∈ Builtin.nativeClasses.map ClassInfo.name :=
    List.mem_map_of_mem hd
  exact absurd hn (by decide +kernel)

/-- A constructor starts a container without entries, where there is no key. -/
theorem Works.keyed_start (w : h.Works h') {id : ObjectId} {p : Payload} (hs : h.Starts id p)
    (own : h.Own) (hk : h.Keyed) : (h'.setPayload id p).Keyed := by
  have lt := hs.lt
  obtain ⟨⟨-, hkind⟩, method, hm⟩ := hs
  have no_key : p.key? = none := by cases method <;> cases hm <;> rfl
  refine (w.keyed own hk).setPayload (keepsKeys_setPayload p ?_) fun es he => ?_
  · obtain same | ⟨-, his⟩ := w.kind id lt
    · obtain none | hown := own id lt
      · rw [none] at same
        rw [Payload.eq_none_of_kind same]
        rfl
      · exact Payload.key?_eq_none_of_kind no_key (same.trans (hown.trans hkind.symm))
    · exact Payload.key?_eq_none_of_kind no_key (his.trans hkind.symm)
  · obtain rfl : es = [] := by
      subst he
      cases method <;> cases hm
      rfl
    exact .nil h'

/-- Native state that renews what was there or, for an object that was there, that of its class. -/
theorem Works.setPayload (w : h.Works h') {id : ObjectId} {p : Payload}
    (hp : h'.Renews (h'.get id).payload p ∨ h.Starts id p) : h.Works (h'.setPayload id p) := by
  have size : (h'.setPayload id p).objects.size = h'.objects.size := size_modify ..
  have same : ∀ j < h'.objects.size, ((h'.setPayload id p).get j).cls = (h'.get j).cls ∧
      ((h'.setPayload id p).get j).fields = (h'.get j).fields := by
    intro j lt
    rw [get_setPayload h' id p lt]
    split <;> exact ⟨rfl, rfl⟩
  have kind : ∀ j < h'.objects.size,
      ((h'.setPayload id p).get j).payload.kind = (h'.get j).payload.kind ∨
        h.Starts j ((h'.setPayload id p).get j).payload := by
    intro j lt
    rw [get_setPayload h' id p lt]
    split
    · rename_i he
      exact he ▸ hp.imp_left Renews.kind
    · exact .inl rfl
  have old : ∀ j < h.objects.size, j < h'.objects.size := fun j lt => Nat.lt_of_lt_of_le lt w.size
  refine ⟨size ▸ w.size, fun j lt => ?_, fun j lt => ?_, fun j lt => ?_, fun j lt le => ?_,
    fun own hk => ?_⟩
  · exact (same j (old j lt)).1.trans (w.cls j lt)
  · exact (same j (old j lt)).2.trans (w.fields j lt)
  · obtain hkind | starts := kind j (old j lt)
    · rw [hkind]
      exact w.kind j lt
    · exact .inr starts.1
  · rw [size] at lt
    obtain hkind | starts := kind j lt
    · rw [(same j lt).1, hkind]
      refine (w.new j lt le).imp_right fun hnew => ⟨hnew.1, ?_⟩
      rw [hnew.2] at hkind
      exact Payload.eq_none_of_kind hkind
    · -- an object that is started was there before
      exact absurd starts.lt (Nat.not_lt.2 le)
  · obtain renews | starts := hp
    · exact (w.keyed own hk).renew renews
    · exact w.keyed_start starts own hk

/-- Single acts of built-in methods are their work. -/
theorem Works.act {env : Env} {decls : List ClassDecl} (he : env.Registered decls)
    (w : h.Works h') (act : Native.Act env.toHost h.Starts h' h'') : h.Works h'' := by
  cases act with
  | renew id hp => exact w.setPayload (.inl hp)
  | start hs => exact w.setPayload (.inr hs)
  | @make o ho =>
    have old : ∀ id < h.objects.size, (h'.alloc o).2.get id = h'.get id := fun id lt =>
      get_alloc_of_lt h' o (Nat.lt_of_lt_of_le lt w.size)
    refine ⟨Nat.le_trans w.size (lasts_alloc h' o).size, fun id lt => ?_, fun id lt => ?_,
      fun id lt => ?_, fun id lt le => ?_, fun own hk => (w.keyed own hk).alloc fun es he => ?_⟩
    · rw [old id lt]
      exact w.cls id lt
    · rw [old id lt]
      exact w.fields id lt
    · rw [old id lt]
      exact w.kind id lt
    · obtain ⟨lt', hget⟩ | ⟨-, hget⟩ := get_alloc_cases h' o lt
      · rw [hget]
        exact w.new id lt' le
      · rw [hget]
        exact he.makes ho
    · exact absurd he (ho.payload_ne_map es)

theorem works_of_acts {env : Env} {decls : List ClassDecl} (he : env.Registered decls)
    (acts : ReflTransGen (Native.Act env.toHost h.Starts) h h') : h.Works h' := by
  induction acts with
  | refl => exact .refl h
  | tail _ act ih => exact ih.act he act

theorem Works.placed {env : Env} {decls : List ClassDecl} (he : env.Registered decls)
    (w : h.Works h') (hp : h.Placed env.classes) : h'.Placed env.classes := by
  intro id lt
  by_cases lt' : id < h.objects.size
  · rw [w.cls id lt']
    exact hp id lt'
  · obtain ⟨hnative, -⟩ | ⟨hrecord, -⟩ := w.new id lt (Nat.le_of_not_lt lt')
    · exact he.has_native hnative
    · rw [hrecord]
      exact he.has_record

end Heap

/-! ## Changes -/

/-- The memory after moments. -/
def Memory.after (memory : Memory) (moments : List Moment) : Memory :=
  moments.foldl (fun _ μ => μ.memory) memory

/-- A point of a run: its memory, and the static initializers that are due and that are running, the
next one and the innermost one first. -/
structure Stage where
  memory : Memory
  due : List PendingStatic := []
  running : List PendingStatic := []

/-- What a completed instance has: its place in the heap and, where a constructor gives native
state, that state. -/
structure Heap.Ready (h : Heap) (id : ObjectId) : Prop where
  lt : id < h.objects.size
  kind : (h.get id).cls.Constructs → (h.get id).payload.kind = (h.get id).cls.name

/-- What an event does (module doc). -/
inductive Change (env : Env) : Stage → Event → Stage → Prop
  | touch {heap : Heap} {statics : Statics} {due running : List PendingStatic} {c : ClassInfo} :
      env.classes.Has c →
      Change env ⟨⟨heap, statics⟩, due, running⟩ (.touch c)
        ⟨⟨heap, (statics.touch (c.chain env.classes)).1⟩,
          (statics.touch (c.chain env.classes)).2 ++ due, running⟩
  | start {memory : Memory} {due running : List PendingStatic} {p : PendingStatic} :
      Change env ⟨memory, p :: due, running⟩ (.start p) ⟨memory, due, p :: running⟩
  | finish {heap : Heap} {statics : Statics} {due running : List PendingStatic}
      {p : PendingStatic} {v : Value} :
      Change env ⟨⟨heap, statics⟩, due, p :: running⟩ (.finish p v)
        ⟨⟨heap, statics.set p.owner p.name v⟩, due, running⟩
  | assign {heap : Heap} {statics : Statics} {due running : List PendingStatic} {c : ClassInfo}
      {name : String} {v : Value} : env.classes.Has c → c.staticFields.contains name = true →
      Change env ⟨⟨heap, statics⟩, due, running⟩ (.assign c.path name v)
        ⟨⟨heap, statics.set c.path name v⟩, due, running⟩
  | make {heap : Heap} {statics : Statics} {due running : List PendingStatic} {c : ClassInfo}
      {typeArgs : List DataType} : env.classes.Has c →
      Change env ⟨⟨heap, statics⟩, due, running⟩ (.make heap.objects.size)
        ⟨⟨(heap.alloc ⟨c, typeArgs, Calls.nullFields (c.allInstanceFields env.classes), .none⟩).2,
          statics⟩, due, running⟩
  | made {s : Stage} {id : ObjectId} : s.memory.heap.Ready id → Change env s (.made id) s
  | write {heap : Heap} {statics : Statics} {due running : List PendingStatic} {id : ObjectId}
      {name : String} {v : Value} : (Machine.readField? env.classes heap id name).isSome = true →
      Change env ⟨⟨heap, statics⟩, due, running⟩ (.write id name)
        ⟨⟨heap.setField id name v, statics⟩, due, running⟩
  | work {heap heap' : Heap} {statics : Statics} {due running : List PendingStatic} :
      heap.Works heap' →
      Change env ⟨⟨heap, statics⟩, due, running⟩ .work ⟨⟨heap', statics⟩, due, running⟩

namespace Change

variable {env : Env} {s s' : Stage} {e : Event}

theorem lasts (h : Change env s e s') : s.memory.heap.Lasts s'.memory.heap := by
  cases h with
  | make _ => exact Heap.lasts_alloc _ _
  | write _ => exact Heap.lasts_setField _ _ _ _
  | work w => exact w.lasts
  | touch _ | start | finish | assign _ _ | made _ => exact .refl _

theorem placed {decls : List ClassDecl} (he : env.Registered decls) (h : Change env s e s')
    (hp : s.memory.heap.Placed env.classes) : s'.memory.heap.Placed env.classes := by
  cases h with
  | make hc =>
    intro id lt
    obtain ⟨lt', hget⟩ | ⟨-, hget⟩ := Heap.get_alloc_cases _ _ lt
    · rw [hget]
      exact hp id lt'
    · rw [hget]
      exact hc
  | @write heap _ _ _ i name v _ =>
    intro id lt
    have lt' : id < heap.objects.size := Heap.size_modify heap i _ ▸ lt
    rw [(heap.lasts_setField i name v).cls id lt']
    exact hp id lt'
  | work w => exact w.placed he hp
  | touch _ | start | finish | assign _ _ | made _ => exact hp

end Change

/-- A history made of changes (module doc). -/
inductive Course (env : Env) : Stage → List Moment → Stage → Prop
  | done (s : Stage) : Course env s [] s
  | next {s s' s'' : Stage} {e : Event} {moments : List Moment} : Change env s e s' →
      Course env s' moments s'' → Course env s (⟨e, s'.memory⟩ :: moments) s''

namespace Course

variable {env : Env} {s s' s'' : Stage} {moments moments' : List Moment}

theorem single {e : Event} (h : Change env s e s') : Course env s [⟨e, s'.memory⟩] s' :=
  .next h (.done s')

theorem append (h : Course env s moments s') (h' : Course env s' moments' s'') :
    Course env s (moments ++ moments') s'' := by
  induction h with
  | done s => exact h'
  | next hc _ ih => exact .next hc (ih h')

theorem lasts (h : Course env s moments s') : s.memory.heap.Lasts s'.memory.heap := by
  induction h with
  | done s => exact .refl _
  | next hc _ ih => exact hc.lasts.trans ih

theorem placed {decls : List ClassDecl} (he : env.Registered decls)
    (h : Course env s moments s') (hp : s.memory.heap.Placed env.classes) :
    s'.memory.heap.Placed env.classes := by
  induction h with
  | done s => exact hp
  | next hc _ ih => exact ih (hc.placed he hp)

/-- The change that a moment of a course is. -/
theorem split {before after : List Moment} {μ : Moment}
    (h : Course env s (before ++ μ :: after) s') : ∃ s₁ s₂, Course env s before s₁ ∧
      Change env s₁ μ.event s₂ ∧ s₂.memory = μ.memory ∧ Course env s₂ after s' := by
  induction before generalizing s with
  | nil =>
    cases h with
    | next hc h => exact ⟨s, _, .done s, hc, rfl, h⟩
  | cons ν before ih =>
    cases h with
    | next hc h =>
      obtain ⟨s₁, s₂, hbefore, hchange, hmemory, hafter⟩ := ih h
      exact ⟨s₁, s₂, .next hc hbefore, hchange, hmemory, hafter⟩

theorem memory_after (h : Course env s moments s') : s'.memory = s.memory.after moments := by
  induction h with
  | done s => rfl
  | next _ _ ih => exact ih

end Course

end ClassScript
