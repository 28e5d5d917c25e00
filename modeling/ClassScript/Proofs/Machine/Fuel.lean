import ClassScript.Proofs.Machine.Congruence

/-!
# Fuel

Fuel only bounds the number of steps: what a run does with some fuel it does with more
(`Calls.withFuel_within`). `Run.Within x y` says that `y` does what `x` does, from every state in
which `x` does not run out of fuel; all steps respect this.

`Run.Finishes x m o` says that the computations `x n` with fuel `n` terminate from `m`, in the
outcome `o`, of which there is one at most (`Run.Finishes.unique`). Two of them terminate alike if
each stays within the other for some more fuel (`Run.finishes_iff`).
-/

namespace ClassScript

namespace Run

variable {α β : Type}

/-- From `m`, `x` runs out of fuel. -/
def Exhausts (x : Run α) (m : Machine) : Prop := ∃ m', x m = .error .outOfFuel m'

/-- From `m`, `y` does what `x` does unless `x` runs out of fuel. -/
def WithinAt (m : Machine) (x y : Run α) : Prop := y m = x m ∨ x.Exhausts m

/-- `y` does what `x` does unless `x` runs out of fuel (module doc). -/
def Within (α : Type) (x y : Run α) : Prop := ∀ m, WithinAt m x y

variable {m : Machine} {x y z : Run α}

theorem WithinAt.trans (h : WithinAt m x y) (h' : WithinAt m y z) : WithinAt m x z := by
  rcases h with hxy | hx
  · rcases h' with hyz | ⟨m', hy⟩
    · exact .inl (hyz.trans hxy)
    · exact .inr ⟨m', hxy ▸ hy⟩
  · exact .inr hx

theorem WithinAt.bind {f g : α → Run β} (h : WithinAt m x y)
    (hf : ∀ a m', x m = .ok a m' → WithinAt m' (f a) (g a)) :
    WithinAt m (x >>= f) (y >>= g) := by
  unfold WithinAt Exhausts
  rw [bind_eq, bind_eq]
  rcases h with hxy | ⟨m', hx⟩
  · rw [hxy]
    cases hx : x m with
    | ok a m' => exact hf a m' hx
    | error r m' => exact .inl rfl
  · exact .inr ⟨m', by rw [hx]⟩

theorem WithinAt.ending (h : WithinAt m x y) (f : Machine → Machine) :
    WithinAt m (x.ending f) (y.ending f) := by
  unfold WithinAt Exhausts Run.ending
  rcases h with hxy | ⟨m', hx⟩
  · exact .inl (by rw [hxy])
  · exact .inr ⟨f m', by rw [hx]⟩

/-- What runs in a block of its own starts with a frame. -/
theorem WithinAt.inBlock (h : ∀ m', m'.frames ≠ [] → WithinAt m' x y) :
    WithinAt m (Run.inBlock x) (Run.inBlock y) := by
  obtain ⟨world, frames, statics⟩ := m
  cases frames with
  | nil => exact .inl rfl
  | cons f fs => exact (h ⟨world, f.push :: fs, statics⟩ (List.cons_ne_nil _ _)).ending popBlock

theorem Within.trans (h : Within α x y) (h' : Within α y z) : Within α x z :=
  fun m => (h m).trans (h' m)

theorem within_congruence : Congruence Within where
  refl _ _ := .inl rfl
  bind h hf m := (h m).bind fun a m' _ => hf a m'
  inFrame f h := fun ⟨world, frames, statics⟩ => (h ⟨world, f :: frames, statics⟩).ending popFrame
  inBlock h _ := .inBlock fun m' _ => h m'

end Run

/-- What is evaluated and executed with some fuel is evaluated and executed alike with more. -/
theorem Calls.withFuel_within (env : Env) :
    ∀ {n k : Nat}, n ≤ k → (withFuel env n).Related Run.Within (withFuel env k)
  | 0, _, _ => ⟨fun _ m => .inr ⟨m, rfl⟩, fun _ m => .inr ⟨m, rfl⟩, fun _ m => .inr ⟨m, rfl⟩⟩
  | n + 1, k + 1, h => by
    have ih := withFuel_within env (Nat.le_of_succ_le_succ h)
    exact ⟨stepEval_congr Run.within_congruence (.refl env) ih,
      stepExec_congr Run.within_congruence ih, stepIterate_congr Run.within_congruence ih⟩

/-! ## Termination -/

namespace Run

variable {α : Type} {x y : Nat → Run α} {m : Machine} {o : EStateM.Result Halt Machine α}

/-- With enough fuel, `x` terminates from `m` in the outcome `o` (module doc). -/
def Finishes (x : Nat → Run α) (m : Machine) (o : EStateM.Result Halt Machine α) : Prop :=
  ∃ n, x n m = o ∧ ¬ (x n).Exhausts m

theorem Finishes.within {k : Nat} (h : ∀ n, Within α (x n) (y (n + k))) (hx : Finishes x m o) :
    Finishes y m o := by
  obtain ⟨n, hn, hfuel⟩ := hx
  rcases h n m with heq | hout
  · refine ⟨n + k, heq.trans hn, fun ⟨m', hm'⟩ => hfuel ⟨m', heq ▸ hm'⟩⟩
  · exact absurd hout hfuel

/-- **Computations that stay within each other terminate alike.** -/
theorem finishes_iff {k l : Nat} (h : ∀ n, Within α (x n) (y (n + k)))
    (h' : ∀ n, Within α (y n) (x (n + l))) : Finishes x m o ↔ Finishes y m o :=
  ⟨.within h, .within h'⟩

/-- A computation terminates in one outcome at most, if more fuel changes nothing. -/
theorem Finishes.unique {o' : EStateM.Result Halt Machine α}
    (h : ∀ {n k}, n ≤ k → Within α (x n) (x k)) (ho : Finishes x m o) (ho' : Finishes x m o') :
    o = o' := by
  obtain ⟨n, rfl, hn⟩ := ho
  obtain ⟨k, rfl, hk⟩ := ho'
  rcases Nat.le_total n k with hle | hle
  · exact ((h hle m).resolve_right hn).symm
  · exact (h hle m).resolve_right hk

end Run

end ClassScript
