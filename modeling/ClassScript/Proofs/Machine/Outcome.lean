import ClassScript.Machine.Eval

/-!
# Outcomes of computations

`Run.Ends x Q E m`: the computation `x`, started in `m`, ends with a result and a state in `Q`, or
halts with a reason and a state in `E`. It is computed through `>>=` and through each operation of
the machine, so a statement about a longer computation becomes one about its parts
(`Run.ends_bind` and the lemmas beside it).

`Calls.pass` names the part of a loop that follows its condition.
-/

namespace ClassScript

namespace Run

variable {α β : Type}

/-- The state that `x` leaves, with a result or without. -/
def after (x : Run α) (m : Machine) : Machine :=
  match x m with
  | .ok _ m' => m'
  | .error _ m' => m'

/-- `x` ends in `Q` or halts in `E` (module doc). -/
def Ends (x : Run α) (Q : α → Machine → Prop) (E : Halt → Machine → Prop) (m : Machine) : Prop :=
  match x m with
  | .ok a m' => Q a m'
  | .error h m' => E h m'

variable {Q Q' : α → Machine → Prop} {E E' : Halt → Machine → Prop} {m m' : Machine}

theorem Ends.ok {x : Run α} {a : α} (h : Ends x Q E m) (hx : x m = .ok a m') : Q a m' := by
  simpa only [Ends, hx] using h

theorem Ends.error {x : Run α} {r : Halt} (h : Ends x Q E m) (hx : x m = .error r m') :
    E r m' := by
  simpa only [Ends, hx] using h

theorem Ends.mono {x : Run α} (h : Ends x Q E m) (hQ : ∀ a m', Q a m' → Q' a m')
    (hE : ∀ r m', E r m' → E' r m') : Ends x Q' E' m := by
  unfold Ends at *
  split <;> rename_i hx <;> rw [hx] at h
  · exact hQ _ _ h
  · exact hE _ _ h

/-- A property of both kinds of outcome is one of the state that is left. -/
theorem ends_after {x : Run α} {P : Machine → Prop} :
    Ends x (fun _ => P) (fun _ => P) m ↔ P (x.after m) := by
  unfold Ends after
  cases x m <;> rfl

/-! ## Composition -/

theorem bind_eq {x : Run α} {f : α → Run β} :
    (x >>= f) m = match x m with
      | .ok a m' => f a m'
      | .error r m' => .error r m' := by
  show EStateM.bind x f m = _
  unfold EStateM.bind
  cases x m <;> rfl

theorem bind_ok {x : Run α} {f : α → Run β} {a : α} (h : x m = .ok a m') :
    (x >>= f) m = f a m' := by
  rw [bind_eq, h]

/-- What follows matters only where it is reached. -/
theorem bind_congr_ok {x : Run α} {f g : α → Run β}
    (h : ∀ a m', x m = .ok a m' → f a m' = g a m') : (x >>= f) m = (x >>= g) m := by
  rw [bind_eq, bind_eq]
  split
  · exact h _ _ ‹_›
  · rfl

@[simp] theorem ends_pure {a : α} : Ends (pure a) Q E m ↔ Q a m := Iff.rfl

@[simp] theorem ends_bind {Q : β → Machine → Prop} {x : Run α} {f : α → Run β} :
    Ends (x >>= f) Q E m ↔ Ends x (fun a => Ends (f a) Q E) E m := by
  unfold Ends
  rw [bind_eq]
  cases x m <;> rfl

@[simp] theorem ends_throw {r : Halt} : Ends (throw r : Run α) Q E m ↔ E r m := Iff.rfl

@[simp] theorem ends_fault {e : RuntimeError} : Ends (fault e : Run α) Q E m ↔ E (.fault e) m :=
  Iff.rfl

/-! ## Operations of the machine -/

/-- The running frame, where there is one. -/
theorem frame_bind {f : Frame} {fs : List Frame} (hf : m.frames = f :: fs) (k : Frame → Run α) :
    (frame >>= k) m = k f m := by
  obtain ⟨world, frames, statics⟩ := m
  cases hf
  rfl

theorem heap_bind (k : Heap → Run α) : (heap >>= k) m = k m.world.heap m := rfl

theorem get_run : (get : Run Machine) m = .ok m m := rfl

theorem get_bind (k : Machine → Run α) : (get >>= k) m = k m m := rfl

@[simp] theorem ends_get {Q : Machine → Machine → Prop} : Ends get Q E m ↔ Q m m := Iff.rfl

@[simp] theorem ends_heap {Q : Heap → Machine → Prop} : Ends heap Q E m ↔ Q m.world.heap m :=
  Iff.rfl

theorem ends_frame {Q : Frame → Machine → Prop} :
    Ends frame Q E m ↔ match m.frames with
      | f :: _ => Q f m
      | [] => E (.fault .noFrame) m := by
  unfold Ends frame
  cases m.frames <;> rfl

theorem ends_modifyFrame {Q : Unit → Machine → Prop} {g : Frame → Frame} :
    Ends (modifyFrame g) Q E m ↔ match m.frames with
      | f :: fs => Q () { m with frames := g f :: fs }
      | [] => E (.fault .noFrame) m := by
  obtain ⟨world, frames, statics⟩ := m
  cases frames <;> rfl

@[simp] theorem ends_modifyStatics {Q : Unit → Machine → Prop} {g : Statics → Statics} :
    Ends (modifyStatics g) Q E m ↔ Q () { m with statics := g m.statics } :=
  Iff.rfl

@[simp] theorem ends_touchStatics {Q : List PendingStatic → Machine → Prop}
    {chain : List ClassInfo} :
    Ends (touchStatics chain) Q E m ↔
      Q (m.statics.touch chain).2 { m with statics := (m.statics.touch chain).1 } :=
  Iff.rfl

theorem ends_native {x : Native α} :
    Ends (native x) Q E m ↔ match x m.world with
      | .ok a w => Q a { m with world := w }
      | .error e w => E (.fault (.native e)) { m with world := w } := by
  obtain ⟨world, frames, statics⟩ := m
  unfold Ends native
  dsimp only
  cases x world <;> rfl

theorem ends_ofExcept {x : Except RuntimeError α} :
    Ends (ofExcept x) Q E m ↔ match x with
      | .ok a => Q a m
      | .error e => E (.fault e) m := by
  cases x <;> rfl

@[simp] theorem ends_ending {x : Run α} {g : Machine → Machine} :
    Ends (ending x g) Q E m ↔ Ends x (fun a m' => Q a (g m')) (fun r m' => E r (g m')) m := by
  unfold Ends ending
  cases x m <;> rfl

@[simp] theorem ends_inFrame {x : Run α} {f : Frame} :
    Ends (inFrame f x) Q E m ↔
      Ends x (fun a m' => Q a (popFrame m')) (fun r m' => E r (popFrame m'))
        { m with frames := f :: m.frames } := by
  obtain ⟨world, frames, statics⟩ := m
  exact ends_ending

theorem ends_inBlock {x : Run α} :
    Ends (inBlock x) Q E m ↔ match m.frames with
      | f :: fs =>
        Ends x (fun a m' => Q a (popBlock m')) (fun r m' => E r (popBlock m'))
          { m with frames := f.push :: fs }
      | [] => E (.fault .noFrame) m := by
  unfold inBlock
  rw [ends_bind, ends_modifyFrame]
  cases m.frames with
  | nil => exact Iff.rfl
  | cons f fs => exact ends_ending

end Run

namespace Calls

/-- What a loop does once its condition is known: the body, the updates and the passes to come, or
nothing more. -/
def pass (calls : Calls) (l : Loop) (go : Bool) : Run Flow := do
  if go then
    match ← calls.execBody l.body with
    | some flow => return flow
    | none =>
      let _ ← calls.evalAll l.update
      calls.iterate l
  else return .normal

/-- A loop with a condition goes by its value. -/
theorem stepIterate_of_some (calls : Calls) {l : Loop} {e : Expr} (h : l.condition = some e) :
    calls.stepIterate l = calls.evalCondition e >>= calls.pass l := by
  unfold stepIterate
  rw [h]
  rfl

/-- A loop without a condition goes on. -/
theorem stepIterate_of_none (calls : Calls) {l : Loop} (h : l.condition = none) :
    calls.stepIterate l = calls.pass l true := by
  unfold stepIterate
  rw [h]
  rfl

end Calls

end ClassScript
