import ClassScript.Proofs.Resolution.Dispatch

/-!
# Watching a run

`Calls.watching env stop n` evaluates and executes as `Calls.withFuel env n` does, but halts with a
reason of its own as soon as it starts a `Task` in a state of `stop`. So a run starts a task in a
state exactly if a watch for the two halts there (`Machine.Starts`, `Calls.StartsIn`).

`Run.Passes I x`: from frames in `I`, the computation `x` ends with frames in `I` and never halts
at a watch. It is closed under composition and holds of each operation of the machine.
-/

namespace ClassScript

open Run (Balanced Steady)

/-- What a run starts: an expression, a statement, or the passes of a loop. -/
inductive Task where
  | eval (e : Expr)
  | exec (s : Stmt)
  | iterate (l : Loop)

namespace Run

variable {α β : Type}

open Classical in
/-- Runs `x`, but halts in a state of `stop`. -/
noncomputable def watched (stop : Machine → Prop) (x : Run α) : Run α := fun m =>
  if stop m then .error .probe m else x m

theorem watched_never (x : Run α) : watched (fun _ => False) x = x := by
  funext m
  simp [watched]

theorem Steady.watched {vars : List String} {x : Run α} (h : Steady vars x) (stop : Machine → Prop) :
    Steady vars (watched stop x) := by
  intro m
  unfold Run.watched Ends
  by_cases hs : stop m
  · simp only [hs, if_true]
    exact ⟨.refl _ _, fun hr => by cases hr⟩
  · simp only [hs, if_false]
    exact h m

end Run

/-! ## Watches -/

/-- Evaluation and execution that halt when a task starts in a state of `stop` (module doc). -/
noncomputable def Calls.watching (env : Env) (stop : Task → Machine → Prop) : Nat → Calls
  | 0 => Calls.withFuel env 0
  | n + 1 =>
    { eval := fun e => Run.watched (stop (.eval e)) ((Calls.watching env stop n).stepEval env e)
      exec := fun s => Run.watched (stop (.exec s)) ((Calls.watching env stop n).stepExec s)
      iterate := fun l => Run.watched (stop (.iterate l)) ((Calls.watching env stop n).stepIterate l) }

namespace Calls

/-- A watch that never stops changes nothing. -/
theorem watching_never (env : Env) : ∀ n, watching env (fun _ _ => False) n = withFuel env n
  | 0 => rfl
  | n + 1 => by
    unfold watching withFuel
    rw [watching_never env n]
    simp only [Run.watched_never]

theorem watching_steady (env : Env) (stop : Task → Machine → Prop) :
    ∀ n, (watching env stop n).IsSteady
  | 0 => withFuel_steady env 0
  | n + 1 =>
    have ih := watching_steady env stop n
    ⟨fun e => (stepEval_steady env ih e).watched _, fun s => (stepExec_steady ih s).watched _,
      fun l => (stepIterate_steady ih l).watched _⟩

/-- Executing the statement `b` from `m` starts the task in the state `m'`. -/
def StartsIn (env : Env) (fuel : Nat) (b : Stmt) (m : Machine) (task : Task) (m' : Machine) : Prop :=
  ∃ last, (watching env (fun t s => t = task ∧ s = m') fuel).exec b m = .error .probe last

end Calls

/-- Running a method of a class from `start` starts the task in the state `m`. -/
def Machine.Starts (env : Env) (fuel : Nat) (className method : String) (start : Machine)
    (task : Task) (m : Machine) : Prop :=
  ∃ last, enter env (Calls.watching env (fun t s => t = task ∧ s = m) fuel) className method start =
    .error .probe last

/-! ## Passing every watch -/

/-- A property of the frames that only the names in them matter for. -/
def Kept (I : List Frame → Prop) : Prop := ∀ {fs gs}, KeepsFrames [] fs gs → I fs → I gs

/-- A property that only the number of frames matters for. -/
def Unframed (I : List Frame → Prop) : Prop := ∀ f g fs, I (f :: fs) → I (g :: fs)

theorem Unframed.kept {I : List Frame → Prop} (h : Unframed I) : Kept I := by
  intro fs gs hk hi
  cases hk with
  | none => exact hi
  | running => exact h _ _ _ hi

theorem kept_keepsFrames (fs : List Frame) : Kept (KeepsFrames [] fs) := fun hk h => h.trans hk

namespace Run

variable {α β : Type} {I J : List Frame → Prop}

/-- `x` keeps `I` and halts at no watch (module doc). -/
def Passes (I : List Frame → Prop) (x : Run α) : Prop :=
  ∀ m, I m.frames → x.Ends (fun _ m' => I m'.frames) (fun r _ => r ≠ .probe) m

namespace Passes

theorem not_probe {x : Run α} (h : Passes I x) {m m' : Machine} (hm : I m.frames) :
    x m ≠ .error .probe m' := fun hx => (h m hm).error hx rfl

/-- A steady computation passes on every narrower property that it keeps. -/
theorem narrow {x : Run α} (h : Passes J x) (hs : Steady [] x) (hk : Kept I)
    (sub : ∀ fs, I fs → J fs) : Passes I x := by
  intro m hm
  unfold Ends
  split <;> rename_i hx
  · exact hk ((hs m).ok hx) hm
  · exact (h m (sub _ hm)).error hx

/-- What leaves the frames alone passes if it passes from each state. -/
theorem of_balanced {x : Run α} (hb : Balanced x)
    (h : ∀ m, I m.frames → ∀ m', x m ≠ .error .probe m') : Passes I x := by
  intro m hm
  unfold Ends
  split <;> rename_i hx
  · show I _
    rw [(hb m).ok hx]
    exact hm
  · rintro rfl
    exact h m hm _ hx

/-! ### Composition -/

theorem pure (a : α) : Passes I (Pure.pure a) := fun _ hm => hm

theorem bind {x : Run α} {f : α → Run β} (hx : Passes I x) (hf : ∀ a, Passes I (f a)) :
    Passes I (x >>= f) := by
  intro m hm
  rw [ends_bind]
  exact (hx m hm).mono (fun a m' hm' => hf a m' hm') fun _ _ hr => hr

theorem watched {x : Run α} {stop : Machine → Prop} (h : Passes I x)
    (hstop : ∀ m, I m.frames → ¬ stop m) : Passes I (Run.watched stop x) := by
  intro m hm
  unfold Run.watched Ends
  simp only [hstop m hm, if_false]
  exact h m hm

/-! ### Operations of the machine -/

theorem fault {e : RuntimeError} (h : e ≠ .notChecked) : Passes I (Run.fault e : Run α) :=
  fun _ _ hr => h (by cases hr; rfl)

theorem outOfFuel : Passes I (throw .outOfFuel : Run α) := fun _ _ hr => by cases hr

theorem get : Passes I (MonadState.get : Run Machine) := fun _ hm => hm

theorem heap : Passes I Run.heap := fun _ hm => hm

theorem frame : Passes I Run.frame := by
  intro m hm
  rw [ends_frame]
  split
  · exact hm
  · exact fun hr => by cases hr

theorem modifyStatics (g : Statics → Statics) : Passes I (Run.modifyStatics g) := fun _ hm => hm

theorem native (x : Native α) : Passes I (Run.native x) := by
  intro m hm
  rw [ends_native]
  split
  · exact hm
  · exact fun hr => by cases hr

theorem log (event : LogEvent) : Passes I (Run.log event) := Passes.native _

theorem ofExcept {x : Except RuntimeError α} (h : FaultsOnOperands x) :
    Passes I (Run.ofExcept x) := by
  cases x with
  | ok a => exact Passes.pure a
  | error e =>
    refine Passes.fault fun he => ?_
    subst he
    cases h _ rfl

theorem ofNative (x : Except NativeError α) : Passes I (Run.ofNative x) := by
  cases x with
  | ok a => exact Passes.pure a
  | error e => exact Passes.fault (by simp)

theorem modifyFrame {g : Frame → Frame} (h : ∀ f fs, I (f :: fs) → I (g f :: fs)) :
    Passes I (Run.modifyFrame g) := by
  intro m hm
  rw [ends_modifyFrame]
  split
  · rename_i f fs hf
    exact h f fs (hf ▸ hm)
  · exact fun hr => by cases hr

theorem inBlock {x : Run α} (hI : Unframed I) (h : Passes I x) : Passes I (Run.inBlock x) := by
  have pop : ∀ m : Machine, I m.frames → I (popBlock m).frames := by
    rintro ⟨world, _ | ⟨top, frames⟩, statics⟩ hm
    · exact hm
    · exact hI _ _ _ hm
  intro m hm
  rw [ends_inBlock]
  split
  · rename_i f fs hf
    exact (h { m with frames := f.push :: fs } (hI _ _ _ (hf ▸ hm))).mono (fun _ m' hm' => pop m' hm')
      fun _ _ hr => hr
  · exact fun hr => by cases hr

/-- What passes from the frame it is given passes in that frame. -/
theorem inFrame {x : Run α} {f : Frame} (hb : Balanced (Run.inFrame f x))
    (h : ∀ fs, I fs → ∃ J : List Frame → Prop, J (f :: fs) ∧ Passes J x) :
    Passes I (Run.inFrame f x) := by
  refine of_balanced hb fun m hm m' hx => ?_
  obtain ⟨J, hj, hp⟩ := h _ hm
  have hends := (ends_inFrame (E := fun r _ => r ≠ .probe) (Q := fun _ _ => True)).2
    ((hp { m with frames := f :: m.frames } hj).mono (fun _ _ _ => trivial) fun _ _ hr => hr)
  exact hends.error hx rfl

end Passes

end Run

end ClassScript
