import ClassScript.Machine.Eval
import ClassScript.Proofs.Spelling.Natives

/-!
# Machines in other spellings

The machines of two runs are tied (`Machine.Tied τ`) if their heaps are, their outputs are the same,
their frames run in classes that look alike, on the same receiver and with the same variables, and
their static fields have the same values. Locals keep their spelling, because only declarations make
them; static fields may be spelled in two ways, which nothing shows.

`Run.Tied τ Q x y`: from tied machines, both computations end in such, with results in `Q` or for the
same kind of reason. `Run.PlaceTied τ x y` is said of targets of assignments: the fields that they
denote are fields that the objects have, from then on.
-/

namespace ClassScript

variable {σ : Spelling}

/-! ## Frames -/

/-- The activation of the other run. -/
structure Frame.Twin (σ : Spelling) (f g : Frame) : Prop where
  cls : f.cls.Twin σ g.cls
  this : f.this = g.this
  block : f.block = g.block
  outer : f.outer = g.outer

theorem Frame.assignIn_respelled {n n' : String} (hn : sameName n n' = true) (v : Value) :
    ∀ bs : List Block, assignIn n v bs = assignIn n' v bs
  | [] => rfl
  | b :: bs => by
    unfold assignIn
    rw [NameTable.contains_eq, NameTable.get?_congr b hn, ← NameTable.contains_eq,
      assignIn_respelled hn v bs]
    split
    · rename_i hc
      rw [NameTable.contains_eq, ← NameTable.get?_congr b hn, ← NameTable.contains_eq] at hc
      rw [NameTable.insert_respelled hn hc]
    · rfl

namespace Frame.Twin

theorem make {c d : ClassInfo} (h : c.Twin σ d) (this : Option ObjectId) :
    (Frame.make c this).Twin σ (Frame.make d this) :=
  ⟨h, rfl, rfl, rfl⟩

variable {f g : Frame} (h : f.Twin σ g)
include h

theorem push : f.push.Twin σ g.push :=
  ⟨h.cls, h.this, rfl, by unfold Frame.push; rw [h.block, h.outer]⟩

theorem pop : f.pop.Twin σ g.pop := by
  unfold Frame.pop
  rw [← h.outer]
  split
  · exact h
  · exact ⟨h.cls, h.this, rfl, rfl⟩

theorem declare (name : String) (v : Value) : (f.declare name v).Twin σ (g.declare name v) :=
  { h with block := congrArg (·.insert name v) h.block }

theorem declareParams {ps qs : List ParamInfo}
    (hs : List.Forall₂ (ParamInfo.Like (.spelled σ)) ps qs) (args : List Value) :
    (f.declareParams ps args).Twin σ (g.declareParams qs args) := by
  unfold Frame.declareParams
  induction hs generalizing f g args with
  | nil => exact h
  | cons hp _ ih =>
    cases args with
    | nil => exact h
    | cons v vs =>
      rw [List.zip_cons_cons, List.zip_cons_cons, List.foldl_cons, List.foldl_cons]
      dsimp only
      rw [hp.name]
      exact ih (h.declare _ v) vs

variable {n n' : String} (hn : sameName n n' = true)
include hn

theorem lookup? : f.lookup? n = g.lookup? n' := by
  unfold Frame.lookup? Frame.blocks
  rw [h.block, h.outer]
  congr 1
  funext b
  exact b.get?_congr hn

theorem isLocal : f.isLocal n = g.isLocal n' := by
  unfold Frame.isLocal
  rw [h.lookup? hn]

/-- Setting a variable finds it in both spellings, and keeps that of its declaration. -/
theorem assign (v : Value) : (f.assign n v).Twin σ (g.assign n' v) := by
  unfold Frame.assign
  rw [NameTable.contains_eq, NameTable.get?_congr _ hn, ← NameTable.contains_eq, h.block]
  split
  · rename_i hc
    rw [NameTable.contains_eq, ← NameTable.get?_congr _ hn, ← NameTable.contains_eq] at hc
    exact { h with block := NameTable.insert_respelled hn hc v }
  · exact ⟨h.cls, h.this, rfl, by rw [h.outer, assignIn_respelled hn]⟩

end Frame.Twin

/-! ## Static fields -/

/-- The same classes have been touched, with the same values. -/
def Statics.Twin (σ : Spelling) (s s' : Statics) : Prop :=
  List.Forall₂ (fun e e' => e.1 = e'.1 ∧ NameTable.Paired σ Eq e.2 e'.2) s.tables s'.tables

/-- The initializer of the other run. -/
structure PendingStatic.Twin (σ : Spelling) (p p' : PendingStatic) : Prop where
  owner : p.owner = p'.owner
  name : σ.rel p.name p'.name
  init : p.init.Spelled σ p'.init

namespace Statics

theorem nulls_twin {c d : ClassInfo} (h : c.Like (.spelled σ) d) :
    NameTable.Paired σ Eq (nulls c) (nulls d) := by
  have hn : List.Forall₂ σ.rel c.staticFields.names d.staticFields.names :=
    List.rel_map (fun _ _ he => he.1) h.own.staticFields
  exact List.rel_foldl (R := σ.rel) (P := NameTable.Paired σ Eq)
    (fun _ _ ht _ _ hn => ht.insert hn rfl) .empty hn

theorem pending_twin {c d : ClassInfo} (h : c.Like (.spelled σ) d) :
    List.Forall₂ (PendingStatic.Twin σ) (pending c) (pending d) := by
  refine List.rel_filterMap (fun e e' he => ?_) h.own.staticFields
  exact map_paired he.2.init fun hi => ⟨h.path, he.1, hi⟩

namespace Twin

variable {s s' : Statics} (h : s.Twin σ s')
include h

theorem table? (owner : List String) :
    Option.Rel (NameTable.Paired σ Eq) (s.table? owner) (s'.table? owner) := by
  obtain ⟨ts⟩ := s
  obtain ⟨ts'⟩ := s'
  unfold Statics.table?
  unfold Twin at h
  dsimp only at h ⊢
  induction h with
  | nil => exact .none
  | @cons e e' _ _ he _ ih =>
    rw [List.lookup_cons, List.lookup_cons, he.1]
    split
    · exact .some he.2
    · exact ih

theorem contains (owner : List String) : s.contains owner = s'.contains owner :=
  isSome_paired (h.table? owner)

theorem add (owner : List String) {t t' : NameTable Value} (ht : NameTable.Paired σ Eq t t') :
    Statics.Twin σ ⟨s.tables ++ [(owner, t)]⟩ ⟨s'.tables ++ [(owner, t')]⟩ :=
  List.rel_append h (.cons ⟨rfl, ht⟩ .nil)

theorem get? (owner : List String) {n n' : String} (hn : sameName n n' = true) :
    s.get? owner n = s'.get? owner n' := by
  unfold Statics.get?
  have ht := h.table? owner
  generalize s.table? owner = x, s'.table? owner = y at ht
  cases ht with
  | none => rfl
  | some ht => exact rel_eq (ht.get? hn) fun he => he

theorem set (owner : List String) {n n' : String} (hn : σ.rel n n') (v : Value) :
    (s.set owner n v).Twin σ (s'.set owner n' v) := by
  obtain ⟨ts⟩ := s
  obtain ⟨ts'⟩ := s'
  unfold Statics.set
  unfold Twin at h ⊢
  dsimp only at h ⊢
  induction h with
  | nil => exact .nil
  | @cons e e' es es' he hes ih =>
    unfold setIn
    rw [he.1]
    split
    · exact .cons ⟨rfl, he.2.insert hn rfl⟩ hes
    · exact .cons ⟨rfl, he.2⟩ ih

end Twin

theorem touch_twin {cs ds : List ClassInfo}
    (hs : List.Forall₂ (ClassInfo.Like (.spelled σ)) cs ds) :
    ∀ {s s' : Statics}, s.Twin σ s' → (s.touch cs).1.Twin σ (s'.touch ds).1 ∧
      List.Forall₂ (PendingStatic.Twin σ) (s.touch cs).2 (s'.touch ds).2 := by
  induction hs with
  | nil => exact fun h => ⟨h, .nil⟩
  | @cons c d _ _ hc _ ih =>
    intro s s' h
    unfold touch
    rw [hc.path, h.contains]
    split
    · exact ih h
    · have hmore := ih (h.add d.path (nulls_twin hc))
      exact ⟨hmore.1, List.rel_append (pending_twin hc) hmore.2⟩

end Statics

/-! ## Machines -/

/-- The machines of two runs (module doc). -/
structure Machine.Tied (τ : Tie) (m m' : Machine) : Prop where
  world : m.world.Tied τ m'.world
  frames : List.Forall₂ (Frame.Twin τ.spelling) m.frames m'.frames
  statics : m.statics.Twin τ.spelling m'.statics

/-- Reasons of one kind to stop early. -/
inductive Halt.Alike : Halt → Halt → Prop
  | fault {e e' : RuntimeError} : e.kind = e'.kind → Halt.Alike (.fault e) (.fault e')
  | outOfFuel : Halt.Alike .outOfFuel .outOfFuel

variable {τ : Tie}

namespace Machine

theorem Tied.release {m m' : Machine} {fields : List (ObjectId × String)}
    (h : m.Tied (τ.hold fields) m') : m.Tied τ m' :=
  ⟨⟨h.world.heap.release, h.world.sink⟩, h.frames, h.statics⟩

/-! ### Look-ups -/

variable {t t' : ClassTable} (ht : t.Twins τ.spelling t') {m m' : Machine} (hm : m.Tied τ m')
include ht hm

theorem lookupClass?_tied {n n' : String} (hn : sameName n n' = true) :
    Option.Rel (ClassInfo.Twin τ.spelling) (m.lookupClass? t n) (m'.lookupClass? t' n') := by
  have hinner : Option.Rel (ClassInfo.Twin τ.spelling) (m.frames.head?.bind (·.cls.inner? n))
      (m'.frames.head?.bind (·.cls.inner? n')) := by
    have hf := hm.frames
    generalize m.frames = fs, m'.frames = gs at hf
    cases hf with
    | nil => exact .none
    | cons hf _ => exact hf.cls.inner? hn
  unfold lookupClass?
  generalize m.frames.head?.bind _ = x, m'.frames.head?.bind _ = y at hinner
  cases hinner with
  | none => exact ht.resolve? hn
  | some hc => exact .some hc

theorem namesValue_tied {n n' : String} (hn : sameName n n' = true) :
    m.namesValue t n = m'.namesValue t' n' := by
  unfold namesValue
  have hf := hm.frames
  generalize m.frames = fs, m'.frames = gs at hf
  cases hf with
  | nil => rfl
  | cons hf _ =>
    dsimp only
    rw [hf.isLocal hn, hf.this, isSome_paired (ClassInfo.staticField?_like ht.like hn hf.cls.like)]
    split
    · rw [hm.world.heap.readField? ht.like _ hn]
    · rfl

theorem classRef?_tied {e e' : Expr} (h : e.Spelled τ.spelling e') :
    Option.Rel (ClassInfo.Twin τ.spelling) (m.classRef? t e) (m'.classRef? t' e') := by
  cases h with
  | name hi =>
    have hn := τ.spelling.same hi.name
    unfold classRef?
    rw [namesValue_tied ht hm hn]
    split
    · exact .none
    · exact lookupClass?_tied ht hm hn
  | member he hi =>
    have hobject := classRef?_tied he
    unfold classRef?
    generalize m.classRef? t _ = x, m'.classRef? t' _ = y at hobject
    cases hobject with
    | none => exact .none
    | some hc => exact hc.inner? (τ.spelling.same hi.name)
  | literal | this | call | callOn | create | index | binary | unary | post | assign | conditional
  | query => exact .none

end Machine

/-! ## Computations -/

namespace Run

variable {α β γ δ : Type} {Q : α → β → Prop} {R : γ → δ → Prop}

/-- Both computations do the same (module doc). -/
def Tied (τ : Tie) (Q : α → β → Prop) (x : Run α) (y : Run β) : Prop :=
  ∀ m m' : Machine, m.Tied τ m' → match x m, y m' with
    | .ok a n, .ok b n' => Q a b ∧ n.Tied τ n'
    | .error r n, .error r' n' => r.Alike r' ∧ n.Tied τ n'
    | _, _ => False

namespace Tied

theorem pure {a : α} {b : β} (h : Q a b) :
    Tied τ Q (Pure.pure a : Run α) (Pure.pure b : Run β) :=
  fun _ _ hm => ⟨h, hm⟩

theorem throw {r r' : Halt} (h : r.Alike r') :
    Tied τ Q (MonadExcept.throw r : Run α) (MonadExcept.throw r' : Run β) :=
  fun _ _ hm => ⟨h, hm⟩

theorem fault {e e' : RuntimeError} (h : e.kind = e'.kind) :
    Tied τ Q (Run.fault e : Run α) (Run.fault e' : Run β) :=
  .throw (.fault h)

theorem bind {x : Run α} {y : Run β} (h : Tied τ Q x y) {f : α → Run γ} {g : β → Run δ}
    (hfg : ∀ a b, Q a b → Tied τ R (f a) (g b)) : Tied τ R (x >>= f) (y >>= g) := by
  intro m m' hm
  have hr := h m m' hm
  simp only [Bind.bind, EStateM.bind]
  generalize x m = r, y m' = r' at hr
  cases r <;> cases r'
  · exact hfg _ _ hr.1 _ _ hr.2
  · exact hr.elim
  · exact hr.elim
  · exact hr

/-- After equal results. -/
theorem next {x y : Run α} (h : Tied τ Eq x y) {f : α → Run γ} {g : α → Run δ}
    (hfg : ∀ a, Tied τ R (f a) (g a)) : Tied τ R (x >>= f) (y >>= g) :=
  h.bind fun _ _ hab => hab ▸ hfg _

theorem get : Tied τ (Machine.Tied τ) (MonadState.get : Run Machine) MonadState.get :=
  fun _ _ hm => ⟨hm, hm⟩

theorem heap : Tied τ (Heap.Tied τ) Run.heap Run.heap := fun _ _ hm => ⟨hm.world.heap, hm⟩

theorem ofExcept {x y : Except RuntimeError α} (h : x = y) :
    Tied τ Eq (Run.ofExcept x) (Run.ofExcept y) := by
  subst h
  cases x with
  | ok a => exact .pure rfl
  | error e => exact .fault rfl

theorem ofNative {x y : Except NativeError α} (h : x = y) :
    Tied τ Eq (Run.ofNative x) (Run.ofNative y) := by
  subst h
  cases x with
  | ok a => exact .pure rfl
  | error e => exact .fault rfl

theorem native {x : Native α} {y : Native β} (h : Native.Tied τ Q x y) :
    Tied τ Q (Run.native x) (Run.native y) := by
  rintro ⟨w, fs, s⟩ ⟨w', fs', s'⟩ ⟨hw, hfs, hs⟩
  have hr := h w w' hw
  unfold Run.native
  dsimp only
  generalize x w = r, y w' = r' at hr
  cases r <;> cases r'
  · exact ⟨hr.1, hr.2, hfs, hs⟩
  · exact hr.elim
  · exact hr.elim
  · exact ⟨.fault (congrArg (fun e => (RuntimeError.native e).kind) hr.1), hr.2, hfs, hs⟩

theorem log (event event' : LogEvent) :
    Tied τ (fun _ _ => True) (Run.log event) (Run.log event') :=
  .native (.log event event')

theorem modifyHeap {f g : Heap → Heap} (hfg : ∀ h h', h.Tied τ h' → (f h).Tied τ (g h')) :
    Tied τ (fun _ _ => True) (Run.native (Native.modifyHeap f))
      (Run.native (Native.modifyHeap g)) :=
  .native (.modifyHeap hfg)

/-! ### Frames -/

theorem frame : Tied τ (Frame.Twin τ.spelling) Run.frame Run.frame := by
  rintro ⟨w, fs, s⟩ ⟨w', fs', s'⟩ ⟨hw, hfs, hs⟩
  cases hfs with
  | nil => exact ⟨.fault rfl, hw, .nil, hs⟩
  | cons hf hfs => exact ⟨hf, hw, .cons hf hfs, hs⟩

theorem modifyFrame {f g : Frame → Frame}
    (hfg : ∀ {k k'}, Frame.Twin τ.spelling k k' → (f k).Twin τ.spelling (g k')) :
    Tied τ (fun _ _ => True) (Run.modifyFrame f) (Run.modifyFrame g) := by
  rintro ⟨w, fs, s⟩ ⟨w', fs', s'⟩ ⟨hw, hfs, hs⟩
  cases hfs with
  | nil => exact ⟨.fault rfl, hw, .nil, hs⟩
  | cons hf hfs => exact ⟨trivial, hw, .cons (hfg hf) hfs, hs⟩

theorem ending {x : Run α} {y : Run β} (h : Tied τ Q x y) {f g : Machine → Machine}
    (hfg : ∀ {m m'}, Machine.Tied τ m m' → (f m).Tied τ (g m')) :
    Tied τ Q (Run.ending x f) (Run.ending y g) := by
  intro m m' hm
  have hr := h m m' hm
  unfold Run.ending
  generalize x m = r, y m' = r' at hr
  cases r <;> cases r'
  · exact ⟨hr.1, hfg hr.2⟩
  · exact hr.elim
  · exact hr.elim
  · exact ⟨hr.1, hfg hr.2⟩

theorem inBlock {x : Run α} {y : Run β} (h : Tied τ Q x y) :
    Tied τ Q (Run.inBlock x) (Run.inBlock y) := by
  refine (modifyFrame fun hf => hf.push).bind fun _ _ _ => ending h ?_
  rintro ⟨w, fs, s⟩ ⟨w', fs', s'⟩ ⟨hw, hfs, hs⟩
  cases hfs with
  | nil => exact ⟨hw, .nil, hs⟩
  | cons hf hfs => exact ⟨hw, .cons hf.pop hfs, hs⟩

theorem inFrame {x : Run α} {y : Run β} (h : Tied τ Q x y) {f g : Frame}
    (hf : f.Twin τ.spelling g) : Tied τ Q (Run.inFrame f x) (Run.inFrame g y) := by
  rintro ⟨w, fs, s⟩ ⟨w', fs', s'⟩ ⟨hw, hfs, hs⟩
  refine ending h ?_ _ _ ⟨hw, .cons hf hfs, hs⟩
  rintro ⟨w, fs, s⟩ ⟨w', fs', s'⟩ ⟨hw, hfs, hs⟩
  refine ⟨hw, ?_, hs⟩
  cases hfs with
  | nil => exact .nil
  | cons _ hfs => exact hfs

/-! ### Static fields -/

theorem modifyStatics {f g : Statics → Statics}
    (hfg : ∀ {s s'}, Statics.Twin τ.spelling s s' → (f s).Twin τ.spelling (g s')) :
    Tied τ (fun _ _ => True) (Run.modifyStatics f) (Run.modifyStatics g) :=
  fun _ _ hm => ⟨trivial, hm.world, hm.frames, hfg hm.statics⟩

theorem touchStatics {cs ds : List ClassInfo}
    (hs : List.Forall₂ (ClassInfo.Like (.spelled τ.spelling)) cs ds) :
    Tied τ (List.Forall₂ (PendingStatic.Twin τ.spelling)) (Run.touchStatics cs)
      (Run.touchStatics ds) :=
  fun _ _ hm =>
    have htouch := Statics.touch_twin hs hm.statics
    ⟨htouch.2, hm.world, hm.frames, htouch.1⟩

end Tied

end Run

/-! ## Places -/

/-- One place in two spellings; a field is one that the object is known to have. -/
inductive Place.Tied (τ : Tie) : Place → Place → Prop
  | var {n n' : String} : sameName n n' = true → Place.Tied τ (.var n) (.var n')
  | field {id : ObjectId} {n n' : String} : sameName n n' = true → (id, n) ∈ τ.held →
      Place.Tied τ (.field id n) (.field id n')
  | static {c d : ClassInfo} {n n' : String} : c.Twin τ.spelling d → τ.spelling.rel n n' →
      Place.Tied τ (.static c n) (.static d n')
  | slot (list : ObjectId) (i : Nat) (span : Span) :
      Place.Tied τ (.slot list i span) (.slot list i span)
  | entry (map : ObjectId) (key : Value) : Place.Tied τ (.entry map key) (.entry map key)

/-- What is read as a field of an object is one that the object has. -/
theorem Heap.Tied.contains_of_readField? {h h' : Heap} (hh : h.Tied τ h') {id : ObjectId}
    {n : String} (hr : (Machine.readField? τ.classes h id n).isSome = true) :
    (h.get id).fields.contains n = true := by
  unfold Machine.readField? at hr
  cases hf : (h.get id).fields.get? n with
  | some v => rw [NameTable.contains_eq, hf, Option.isSome_some]
  | none =>
    rw [hf] at hr
    exact hh.complete id n (by simpa using hr)

namespace Run

/-- From these machines, both computations come to one place. -/
def PlaceTiedFrom (τ : Tie) (x y : Run Place) (m m' : Machine) : Prop :=
  match x m, y m' with
  | .ok p n, .ok q n' => ∃ fields, p.Tied (τ.hold fields) q ∧ n.Tied (τ.hold fields) n'
  | .error r n, .error r' n' => r.Alike r' ∧ n.Tied τ n'
  | _, _ => False

/-- Both computations come to one place (module doc). -/
def PlaceTied (τ : Tie) (x y : Run Place) : Prop :=
  ∀ m m' : Machine, m.Tied τ m' → PlaceTiedFrom τ x y m m'

variable {α β : Type} {Q : α → β → Prop}

theorem Tied.place {x y : Run Place} (h : Tied τ (Place.Tied τ) x y) : PlaceTied τ x y := by
  intro m m' hm
  have hr := h m m' hm
  unfold PlaceTiedFrom
  generalize x m = r, y m' = r' at hr
  cases r <;> cases r'
  · exact ⟨[], hr⟩
  · exact hr.elim
  · exact hr.elim
  · exact hr

theorem PlaceTied.fault {e e' : RuntimeError} (h : e.kind = e'.kind) :
    PlaceTied τ (Run.fault e) (Run.fault e') :=
  (Tied.fault h).place

theorem PlaceTied.bind {x : Run α} {y : Run β} (h : Tied τ Q x y) {f : α → Run Place}
    {g : β → Run Place} (hfg : ∀ a b, Q a b → PlaceTied τ (f a) (g b)) :
    PlaceTied τ (x >>= f) (y >>= g) := by
  intro m m' hm
  have hr := h m m' hm
  simp only [PlaceTiedFrom, Bind.bind, EStateM.bind]
  generalize x m = r, y m' = r' at hr
  cases r <;> cases r'
  · exact hfg _ _ hr.1 _ _ hr.2
  · exact hr.elim
  · exact hr.elim
  · exact hr

/-- What a place is may depend on the objects that are there. -/
theorem PlaceTied.heap {f g : Heap → Run Place} (hfg : ∀ m m' : Machine, m.Tied τ m' →
    PlaceTiedFrom τ (f m.world.heap) (g m'.world.heap) m m') :
    PlaceTied τ (Run.heap >>= f) (Run.heap >>= g) := hfg

/-- What follows may hold the fields of the place. -/
theorem PlaceTied.next {x y : Run Place} (h : PlaceTied τ x y) {f : Place → Run α}
    {g : Place → Run β}
    (hfg : ∀ fields p q, p.Tied (τ.hold fields) q → Tied (τ.hold fields) Q (f p) (g q)) :
    Tied τ Q (x >>= f) (y >>= g) := by
  intro m m' hm
  have hr := h m m' hm
  unfold PlaceTiedFrom at hr
  simp only [Bind.bind, EStateM.bind]
  generalize x m = r, y m' = r' at hr
  cases r <;> cases r'
  · obtain ⟨fields, hp, hn⟩ := hr
    have hmore := hfg fields _ _ hp _ _ hn
    dsimp only
    generalize f _ _ = r, g _ _ = r' at hmore
    cases r <;> cases r'
    · exact ⟨hmore.1, hmore.2.release⟩
    · exact hmore.elim
    · exact hmore.elim
    · exact ⟨hmore.1, hmore.2.release⟩
  · exact hr.elim
  · exact hr.elim
  · exact hr

end Run

end ClassScript
