import ClassScript.Machine.Entry
import ClassScript.Proofs.Machine.OperandFault
import ClassScript.Proofs.Machine.Outcome

/-!
# The discipline of frames

Frames and blocks are entered and left in pairs around computations that may halt anywhere. Two
properties of a computation say that the pairs match on every outcome:

* `Run.Balanced x`: `x` leaves the active frames as they are, and never misses a running frame. It
  holds of everything that runs in frames of its own (`Calls.invoke`, `Calls.ensureStatics`, ...).
* `Run.Steady vars x`: `x` leaves the frames below the running one as they are, and of the running
  one the class, the receiver, the number of blocks and the names in each; only the innermost block
  may get new names, from `vars` (`Frame.Keeps`). It holds of evaluation with no names at all, and
  of a statement with the names that it declares itself (`Stmt.declared`).

Both are closed under composition, so they pass from the parts of a step to the step, and by
induction on the fuel to all of `Calls.withFuel` (`Calls.withFuel_steady`).
-/

namespace ClassScript

/-! ## What a frame keeps -/

/-- `g` is `f` with other values of its variables, and with new variables from `vars` in the
innermost block. -/
structure Frame.Keeps (vars : List String) (f g : Frame) : Prop where
  cls : g.cls = f.cls
  this : g.this = f.this
  outer : g.outer.map NameTable.names = f.outer.map NameTable.names
  block : ∃ new, g.block.names = f.block.names ++ new ∧ ∀ x ∈ new, x ∈ vars

namespace Frame.Keeps

variable {vars vars' : List String} {f g k : Frame}

theorem refl (vars : List String) (f : Frame) : f.Keeps vars f :=
  ⟨rfl, rfl, rfl, [], by simp, by simp⟩

theorem mono (h : f.Keeps vars g) (sub : ∀ x ∈ vars, x ∈ vars') : f.Keeps vars' g := by
  obtain ⟨new, hn, hv⟩ := h.block
  exact ⟨h.cls, h.this, h.outer, new, hn, fun x hx => sub x (hv x hx)⟩

theorem trans (h : f.Keeps vars g) (h' : g.Keeps vars' k) : f.Keeps (vars ++ vars') k := by
  obtain ⟨new, hn, hv⟩ := h.block
  obtain ⟨new', hn', hv'⟩ := h'.block
  refine ⟨h'.cls.trans h.cls, h'.this.trans h.this, h'.outer.trans h.outer, new ++ new', ?_, ?_⟩
  · rw [hn', hn, List.append_assoc]
  · intro x hx
    rcases List.mem_append.1 hx with hx | hx
    · exact List.mem_append_left _ (hv x hx)
    · exact List.mem_append_right _ (hv' x hx)

/-- Leaving a block that was entered gives the frame back, whatever was declared in it. -/
theorem pop_push (h : f.push.Keeps vars g) : f.Keeps [] g.pop := by
  have ho := h.outer
  cases hg : g.outer with
  | nil =>
    rw [hg] at ho
    simp [push] at ho
  | cons b bs =>
    rw [hg] at ho
    simp only [push, List.map_cons, List.cons.injEq] at ho
    have hp : g.pop = { g with block := b, outer := bs } := by simp [pop, hg]
    rw [hp]
    exact ⟨h.cls, h.this, ho.2, [], by simpa using ho.1, by simp⟩

end Frame.Keeps

theorem NameTable.names_insert_of_contains {α : Type} {t : NameTable α} {name : String} {value : α}
    (h : t.contains name = true) : (t.insert name value).names = t.names := by
  rw [names_insert, if_pos h]

namespace Frame

theorem keeps_declare (f : Frame) (name : String) (v : Value) : f.Keeps [name] (f.declare name v) := by
  refine ⟨rfl, rfl, rfl, ?_⟩
  by_cases h : f.block.contains name
  · exact ⟨[], by simpa [declare] using NameTable.names_insert_of_contains h, by simp⟩
  · exact ⟨[name], by simp [declare, NameTable.names_insert, h], fun x hx => hx⟩

theorem blocks_assign (f : Frame) (name : String) (v : Value) :
    (f.assign name v).blocks = assignIn name v f.blocks := by
  unfold assign blocks
  rw [assignIn]
  split <;> rfl

theorem names_assignIn (name : String) (v : Value) (bs : List Block) :
    (assignIn name v bs).map NameTable.names = bs.map NameTable.names := by
  induction bs with
  | nil => rfl
  | cons b bs ih =>
    unfold assignIn
    split
    · rename_i h
      simp [NameTable.names_insert_of_contains h]
    · simp [ih]

theorem keeps_assign (f : Frame) (name : String) (v : Value) : f.Keeps [] (f.assign name v) := by
  unfold assign
  split
  · rename_i h
    exact ⟨rfl, rfl, rfl, [], by simp [NameTable.names_insert_of_contains h], by simp⟩
  · exact ⟨rfl, rfl, names_assignIn name v f.outer, [], by simp, by simp⟩

end Frame

/-- The frames below the running one are the same, and the running one is kept. -/
inductive KeepsFrames (vars : List String) : List Frame → List Frame → Prop
  | none : KeepsFrames vars [] []
  | running {f g : Frame} {fs : List Frame} : f.Keeps vars g → KeepsFrames vars (f :: fs) (g :: fs)

namespace KeepsFrames

variable {vars vars' : List String} {fs gs ks : List Frame}

theorem refl (vars : List String) (fs : List Frame) : KeepsFrames vars fs fs := by
  cases fs with
  | nil => exact .none
  | cons f fs => exact .running (.refl vars f)

theorem mono (h : KeepsFrames vars fs gs) (sub : ∀ x ∈ vars, x ∈ vars') :
    KeepsFrames vars' fs gs := by
  cases h with
  | none => exact .none
  | running h => exact .running (h.mono sub)

theorem trans (h : KeepsFrames vars fs gs) (h' : KeepsFrames vars' gs ks) :
    KeepsFrames (vars ++ vars') fs ks := by
  cases h with
  | none => cases h'; exact .none
  | running h => cases h' with
    | running h' => exact .running (h.trans h')

theorem nil_of_nil (h : KeepsFrames vars fs gs) (hg : gs = []) : fs = [] := by
  subst hg
  cases h
  rfl

end KeepsFrames

/-- The names that a statement itself declares in the block it stands in. -/
def Stmt.declared : Stmt → List String
  | .declare d => d.vars.map fun v => v.name.name
  | _ => []

/-! ## The two properties -/

namespace Run

variable {α β : Type}

/-- `x` leaves the frames as they are (module doc). -/
def Balanced (x : Run α) : Prop :=
  ∀ m, x.Ends (fun _ m' => m'.frames = m.frames)
    (fun r m' => m'.frames = m.frames ∧ r ≠ .fault .noFrame) m

/-- `x` keeps the running frame, with new variables from `vars` (module doc). -/
def Steady (vars : List String) (x : Run α) : Prop :=
  ∀ m, x.Ends (fun _ m' => KeepsFrames vars m.frames m'.frames)
    (fun r m' => KeepsFrames vars m.frames m'.frames ∧ (r = .fault .noFrame → m.frames = [])) m

theorem Balanced.steady {x : Run α} (h : Balanced x) (vars : List String) : Steady vars x := by
  intro m
  refine (h m).mono (fun _ m' hm => ?_) (fun r m' hm => ⟨?_, fun hr => absurd hr hm.2⟩)
  · rw [hm]; exact .refl vars _
  · rw [hm.1]; exact .refl vars _

theorem Balanced.frames_after {x : Run α} (h : Balanced x) (m : Machine) :
    (x.after m).frames = m.frames :=
  ends_after.1 ((h m).mono (fun _ _ hm => hm) (fun _ _ hm => hm.1))

theorem Steady.frames_after {vars : List String} {x : Run α} (h : Steady vars x) (m : Machine) :
    KeepsFrames vars m.frames (x.after m).frames :=
  ends_after.1 ((h m).mono (fun _ _ hm => hm) (fun _ _ hm => hm.1))

/-- Where there was a running frame, there is one. -/
theorem Steady.framed {vars : List String} {x : Run α} {a : α} {m m' : Machine}
    (h : Steady vars x) (hx : x m = .ok a m') (hm : m.frames ≠ []) : m'.frames ≠ [] :=
  fun hm' => hm (((h m).ok hx).nil_of_nil hm')

/-! ### Composition -/

theorem Balanced.pure (a : α) : Balanced (Pure.pure a) := fun _ => rfl

theorem Balanced.bind {x : Run α} {f : α → Run β} (hx : Balanced x) (hf : ∀ a, Balanced (f a)) :
    Balanced (x >>= f) := by
  intro m
  rw [ends_bind]
  refine (hx m).mono (fun a m' hm => ?_) (fun _ _ hm => hm)
  refine (hf a m').mono (fun _ m'' hm' => hm'.trans hm) (fun _ m'' hm' => ⟨hm'.1.trans hm, hm'.2⟩)

theorem Steady.mono {vars vars' : List String} {x : Run α} (h : Steady vars x)
    (sub : ∀ v ∈ vars, v ∈ vars') : Steady vars' x :=
  fun m => (h m).mono (fun _ _ hm => hm.mono sub) (fun _ _ hm => ⟨hm.1.mono sub, hm.2⟩)

/-- The new variables of a sequence are those of its parts. -/
theorem Steady.append {vars vars' : List String} {x : Run α} {f : α → Run β} (hx : Steady vars x)
    (hf : ∀ a, Steady vars' (f a)) : Steady (vars ++ vars') (x >>= f) := by
  intro m
  rw [ends_bind]
  refine (hx m).mono (fun a m' hm => ?_) (fun _ _ hm => ⟨?_, hm.2⟩)
  · exact (hf a m').mono (fun _ _ hm' => hm.trans hm')
      (fun _ _ hm' => ⟨hm.trans hm'.1, fun hr => hm.nil_of_nil (hm'.2 hr)⟩)
  · exact hm.1.mono fun v hv => List.mem_append_left _ hv

theorem Steady.bind {vars : List String} {x : Run α} {f : α → Run β} (hx : Steady [] x)
    (hf : ∀ a, Steady vars (f a)) : Steady vars (x >>= f) :=
  hx.append hf

/-! ### Operations of the machine -/

theorem Balanced.fault {e : RuntimeError} (h : e ≠ .noFrame) : Balanced (Run.fault e : Run α) :=
  fun _ => ⟨rfl, fun hr => h (by cases hr; rfl)⟩

theorem Balanced.outOfFuel : Balanced (throw .outOfFuel : Run α) := fun _ => ⟨rfl, by simp⟩

theorem Balanced.get : Balanced (MonadState.get : Run Machine) := fun _ => rfl

theorem Balanced.heap : Balanced Run.heap := fun _ => rfl

theorem Balanced.modifyStatics (g : Statics → Statics) : Balanced (Run.modifyStatics g) :=
  fun _ => rfl

theorem Balanced.touchStatics (chain : List ClassInfo) : Balanced (Run.touchStatics chain) :=
  fun _ => rfl

theorem Balanced.native (x : Native α) : Balanced (Run.native x) := by
  intro m
  rw [ends_native]
  split
  · rfl
  · exact ⟨rfl, by simp⟩

theorem Balanced.log (event : LogEvent) : Balanced (Run.log event) := Balanced.native _

theorem Balanced.ofExcept {x : Except RuntimeError α} (h : FaultsOnOperands x) :
    Balanced (Run.ofExcept x) := by
  cases x with
  | ok a => exact Balanced.pure a
  | error e =>
    refine Balanced.fault fun he => ?_
    subst he
    cases h _ rfl

theorem Balanced.ofNative (x : Except NativeError α) : Balanced (Run.ofNative x) := by
  cases x with
  | ok a => exact Balanced.pure a
  | error e => exact Balanced.fault (by simp)

theorem Steady.frame : Steady [] Run.frame := by
  intro m
  rw [ends_frame]
  split
  · exact .refl _ _
  · rename_i h
    exact ⟨.refl _ _, fun _ => h⟩

theorem Steady.modifyFrame {vars : List String} {g : Frame → Frame}
    (h : ∀ f : Frame, f.Keeps vars (g f)) :
    Steady vars (Run.modifyFrame g) := by
  intro m
  rw [ends_modifyFrame]
  cases hm : m.frames with
  | nil => exact ⟨hm ▸ .refl _ _, fun _ => rfl⟩
  | cons f fs => exact .running (h f)

/-- What runs in a frame of its own leaves the frames around it alone. -/
theorem Steady.inFrame {vars : List String} {x : Run α} (h : Steady vars x) (f : Frame) :
    Balanced (Run.inFrame f x) := by
  have pop : ∀ {gs fs : List Frame} {m' : Machine}, KeepsFrames vars (f :: fs) gs →
      m'.frames = gs → (popFrame m').frames = fs := by
    intro gs fs m' hk hg
    cases hk with
    | running h => simp [popFrame, hg]
  intro m
  rw [ends_inFrame]
  exact (h _).mono (fun _ _ hm => pop hm rfl) fun _ _ hm => ⟨pop hm.1 rfl, fun hr => by
    cases hm.2 hr⟩

/-- What runs in a block of its own leaves no variables behind. -/
theorem Steady.inBlock {vars : List String} {x : Run α} (h : Steady vars x) :
    Steady [] (Run.inBlock x) := by
  intro m
  rw [ends_inBlock]
  cases hm : m.frames with
  | nil => exact ⟨hm ▸ .refl _ _, fun _ => rfl⟩
  | cons f fs =>
    have pop : ∀ {m' : Machine}, KeepsFrames vars (f.push :: fs) m'.frames →
        KeepsFrames [] (f :: fs) (popBlock m').frames := by
      intro m' hk
      obtain ⟨world, frames, statics⟩ := m'
      cases hk with
      | running h => exact .running h.pop_push
    exact (h _).mono (fun _ _ hk => pop hk) fun _ _ hk => ⟨pop hk.1, fun hr => by cases hk.2 hr⟩

end Run

end ClassScript
