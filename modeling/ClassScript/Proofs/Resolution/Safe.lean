import ClassScript.Proofs.Class.Registered
import ClassScript.Proofs.Resolution.Site

/-!
# Computations that stay on checked code

`Run.Safe t x Q m`: started in `m`, the computation `x` keeps the objects of the heap in order and
ends in `Q`; or it halts for a reason that checking cannot exclude (`Halt.Expected`). In particular
it never halts at a probe. Of undefined classes only those are expected that `ClassTable.Excuses`:
the pseudo type `void`, and an inner class that the running class lacks.

A safe computation that keeps the frame keeps every place of the code as well (`Run.Safe.steady`).
-/

namespace ClassScript

open Run (Balanced Steady)

/-- A class name that may be undefined in a running class although checking found it: `void` passes
as a type, and an inner class of the class that the code is written in need not be an inner class of
the running one. -/
def ClassTable.Excuses (t : ClassTable) (name : String) : Prop :=
  sameName name "void" = true ∨ ∃ c d, t.Has c ∧ d ∈ c.chain t ∧ (d.inner? name).isSome = true ∧
    c.inner? name = none ∧ t.resolve? name = none

/-- The reasons to halt that checking does not exclude. -/
structure Halt.Expected (t : ClassTable) (r : Halt) : Prop where
  noProbe : r ≠ .probe
  undefined : ∀ name, r = .fault (.undefinedClass name) → t.Excuses name

/-- A fault that is neither about a class nor about checking. -/
def RuntimeError.IsPlain : RuntimeError → Prop
  | .notChecked | .undefinedClass _ => False
  | _ => True

theorem RuntimeError.IsPlain.expected {e : RuntimeError} (h : e.IsPlain) (t : ClassTable) :
    (Halt.fault e).Expected t := by
  refine ⟨fun hp => ?_, fun name hc => ?_⟩
  · cases hp
    exact h
  · cases hc
    exact h.elim

theorem OperandFault.isPlain {e : RuntimeError} (h : OperandFault e) : e.IsPlain := by
  cases h <;> trivial

namespace Run

variable {α β : Type} {t : ClassTable} {m : Machine}

/-- `x` stays on checked code (module doc). -/
def Safe (t : ClassTable) (x : Run α) (Q : α → Machine → Prop) (m : Machine) : Prop :=
  x.Ends (fun a m' => m'.world.heap.Belongs t ∧ m.world.heap.Evolves t m'.world.heap ∧ Q a m')
    (fun r m' => m'.world.heap.Belongs t ∧ r.Expected t) m

variable {Q Q' : α → Machine → Prop}

theorem Safe.mono {x : Run α} (h : Safe t x Q m) (hq : ∀ a m', Q a m' → Q' a m') :
    Safe t x Q' m :=
  Ends.mono h (fun a m' h => ⟨h.1, h.2.1, hq a m' h.2.2⟩) fun _ _ h => h

theorem Safe.pure {a : α} (hb : m.world.heap.Belongs t) (hq : Q a m) :
    Safe t (Pure.pure a) Q m :=
  ⟨hb, .refl t _, hq⟩

theorem Safe.bind {R : β → Machine → Prop} {x : Run α} {f : α → Run β} (hx : Safe t x Q m)
    (hf : ∀ a m', m'.world.heap.Belongs t → m.world.heap.Evolves t m'.world.heap → Q a m' →
      Safe t (f a) R m') : Safe t (x >>= f) R m := by
  unfold Safe
  rw [ends_bind]
  refine Ends.mono hx (fun a m' h => ?_) fun _ _ h => h
  refine Ends.mono (hf a m' h.1 h.2.1 h.2.2) (fun b m'' h' => ?_) fun _ _ h' => h'
  exact ⟨h'.1, h.2.1.trans h'.2.1, h'.2.2⟩

theorem Safe.halt {r : Halt} (hb : m.world.heap.Belongs t) (hr : r.Expected t) :
    Safe t (throw r : Run α) Q m :=
  ⟨hb, hr⟩

theorem Safe.fault {e : RuntimeError} (hb : m.world.heap.Belongs t) (he : e.IsPlain) :
    Safe t (Run.fault e : Run α) Q m :=
  ⟨hb, he.expected t⟩

/-- A safe computation that keeps the frame keeps the place (module doc). -/
theorem Safe.steady {x : Run α} (hx : Safe t x Q m) (hs : Steady [] x) :
    Safe t x (fun a m' => Q a m' ∧ ∀ cx scope, m.At t cx scope → m'.At t cx scope) m := by
  have hk := hs m
  unfold Safe Ends at *
  split <;> rename_i hr <;> rw [hr] at hx hk
  · exact ⟨hx.1, hx.2.1, hx.2.2, fun cx scope hm => hm.keeps hk hx.1 hx.2.1⟩
  · exact hx

/-- The place after a safe computation that keeps the frame. -/
theorem Safe.stays {x : Run α} {cx : CheckContext} {scope : LocalScope} (hx : Safe t x Q m)
    (hs : Steady [] x) (hm : m.At t cx scope) :
    Safe t x (fun a m' => m'.At t cx scope ∧ Q a m') m :=
  (hx.steady hs).mono fun _ _ h => ⟨h.2 cx scope hm, h.1⟩

/-! ## Operations of the machine -/

variable {R : β → Machine → Prop}

theorem Safe.get_bind {f : Machine → Run β} (h : Safe t (f m) R m) :
    Safe t (MonadState.get >>= f) R m := h

theorem Safe.heap_bind {f : Heap → Run β} (h : Safe t (f m.world.heap) R m) :
    Safe t (Run.heap >>= f) R m := h

theorem Safe.frame_bind {f : Frame} {fs : List Frame} {k : Frame → Run β} (hm : m.frames = f :: fs)
    (h : Safe t (k f) R m) : Safe t (Run.frame >>= k) R m := by
  unfold Safe
  rw [ends_bind, ends_frame, hm]
  exact h

theorem Safe.native {x : Native α} (hb : m.world.heap.Belongs t) (hx : Native.Keeps t x) :
    Safe t (Run.native x) (fun _ m' => m'.frames = m.frames) m := by
  have hw := hx m.world hb
  unfold Safe
  rw [ends_native]
  split <;> rename_i hr <;> rw [hr] at hw
  · exact ⟨hw.1, hw.2, rfl⟩
  · exact ⟨hw.1, (show RuntimeError.IsPlain (.native _) from trivial).expected t⟩

theorem Safe.modifyHeap {g : Heap → Heap} (hg : m.world.heap.Keeps t g) :
    Safe t (Run.native (Native.modifyHeap g)) (fun _ m' => m'.frames = m.frames) m := by
  obtain ⟨⟨heap, sink, log⟩, frames, statics⟩ := m
  exact ⟨hg.1, hg.2, rfl⟩

theorem Safe.log (hb : m.world.heap.Belongs t) (event : LogEvent) :
    Safe t (Run.log event) (fun _ m' => m'.frames = m.frames) m :=
  Safe.native hb (.log event)

theorem Safe.modifyStatics (hb : m.world.heap.Belongs t) (g : Statics → Statics) :
    Safe t (Run.modifyStatics g) (fun _ m' => m'.frames = m.frames) m :=
  ⟨hb, .refl t _, rfl⟩

theorem Safe.ofExcept {x : Except RuntimeError α} (hb : m.world.heap.Belongs t)
    (hx : FaultsOnOperands x) : Safe t (Run.ofExcept x) (fun _ m' => m' = m) m := by
  cases x with
  | ok a => exact Safe.pure hb rfl
  | error e => exact Safe.fault hb (hx e rfl).isPlain

theorem Safe.ofNative (hb : m.world.heap.Belongs t) (x : Except NativeError α) :
    Safe t (Run.ofNative x) (fun _ m' => m' = m) m := by
  cases x with
  | ok a => exact Safe.pure hb rfl
  | error e => exact Safe.fault hb trivial

theorem Safe.inFrame {x : Run α} {f : Frame}
    (hx : Safe t x Q { m with frames := f :: m.frames }) :
    Safe t (Run.inFrame f x) (fun _ _ => True) m := by
  have world : ∀ m' : Machine, (popFrame m').world = m'.world := fun _ => rfl
  unfold Safe
  rw [ends_inFrame]
  refine Ends.mono hx (fun a m' h => ?_) fun r m' h => ?_
  · rw [world]
    exact ⟨h.1, h.2.1, trivial⟩
  · rw [world]
    exact h

theorem Safe.inBlock {x : Run α} {f : Frame} {fs : List Frame} (hm : m.frames = f :: fs)
    (hx : Safe t x Q { m with frames := f.push :: fs }) :
    Safe t (Run.inBlock x) (fun _ _ => True) m := by
  have world : ∀ m' : Machine, (popBlock m').world = m'.world := by
    rintro ⟨world, _ | ⟨top, frames⟩, statics⟩ <;> rfl
  unfold Safe
  rw [ends_inBlock, hm]
  refine Ends.mono hx (fun a m' h => ?_) fun r m' h => ?_
  · rw [world]
    exact ⟨h.1, h.2.1, trivial⟩
  · rw [world]
    exact h

end Run

end ClassScript
