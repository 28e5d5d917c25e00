import ClassScript.Proofs.Typing.Plain
import ClassScript.Proofs.Typing.ScopeSteps

/-!
# What checking does to its state

Checking walks over a body once and never takes anything back. Four properties of a checking
computation say how far it reaches, the last three each a case of the next:

* `Check.Blind x`: `x` does not see what was reported before. It finds the same and adds the same
  errors from every state with the same local variables and loops. It holds of all checking.
* `Check.Quiet x`: `x` leaves the local variables and the loop count alone. It holds of every rule
  that only reports (`Check.Plain.quiet`), so of every expression (`Typing.denote_quiet`).
* `Check.Restores x`: `x` changes the local variables in blocks of its own, so that after it they are
  again what they were, seen as a stack of blocks (`Check.Restores.scope`). It holds of whatever is
  checked in a block (`Check.Nested.inBlock`).
* `Check.Nested x`: `x` leaves the blocks that it enters, and may declare variables in the innermost
  block. It holds of every statement (`Typing.checkStmt_nested`).

`Check.Clean x s` says that `x` reports nothing from `s`. Since errors only accumulate, a clean
computation is clean in all its parts (`Check.Clean.bind`); one that also leaves the state alone
`Gives` its result.
-/

namespace ClassScript

/-- The states agree in what checking depends on: the local variables and the loops around. -/
structure CheckState.Like (s s' : CheckState) : Prop where
  scope : s'.scope = s.scope
  loopDepth : s'.loopDepth = s.loopDepth

namespace CheckState.Like

variable {s s' s'' : CheckState}

theorem refl (s : CheckState) : s.Like s := ⟨rfl, rfl⟩

theorem symm (h : s.Like s') : s'.Like s := ⟨h.scope.symm, h.loopDepth.symm⟩

theorem trans (h : s.Like s') (h' : s'.Like s'') : s.Like s'' :=
  ⟨h'.scope.trans h.scope, h'.loopDepth.trans h.loopDepth⟩

end CheckState.Like

namespace Check

variable {α β : Type}

/-- `x` does not see what was reported before, and only adds errors (module doc). -/
structure Blind (x : Check α) : Prop where
  result : ∀ {s s'}, s.Like s' → (x s').1 = (x s).1
  like : ∀ {s s'}, s.Like s' → (x s).2.Like (x s').2
  adds : ∀ {s s'}, s.Like s' → ∃ new,
    (x s).2.errors = s.errors ++ new ∧ (x s').2.errors = s'.errors ++ new

/-- `x` leaves the local variables and the loop count as they are (module doc). -/
structure Quiet (x : Check α) : Prop where
  blind : Blind x
  scope : ∀ s, (x s).2.scope = s.scope
  loopDepth : ∀ s, (x s).2.loopDepth = s.loopDepth

/-- `x` gives the local variables back as they were (module doc). -/
structure Restores (x : Check α) : Prop where
  blind : Blind x
  steps : ∀ s, ∃ steps, Enclosed steps ∧ (x s).2.scope = s.scope.after steps
  loopDepth : ∀ s, (x s).2.loopDepth = s.loopDepth

/-- `x` gives the outer blocks back as they were (module doc). -/
structure Nested (x : Check α) : Prop where
  blind : Blind x
  steps : ∀ s, ∃ steps, Balanced steps ∧ (x s).2.scope = s.scope.after steps
  loopDepth : ∀ s, (x s).2.loopDepth = s.loopDepth

theorem Restores.scope {x : Check α} (h : Restores x) (s : CheckState) (b : NameTable LocalVar)
    (bs : BlockStack) (hm : s.scope.Models (b :: bs)) : (x s).2.scope.Models (b :: bs) := by
  obtain ⟨steps, hsteps, hs⟩ := h.steps s
  rw [hs]
  exact hm.after_enclosed hsteps

theorem Nested.scope {x : Check α} (h : Nested x) (s : CheckState) (b : NameTable LocalVar)
    (bs : BlockStack) (hm : s.scope.Models (b :: bs)) : ∃ b', (x s).2.scope.Models (b' :: bs) := by
  obtain ⟨steps, hsteps, hs⟩ := h.steps s
  rw [hs]
  exact hm.after_balanced hsteps

theorem Blind.errors {x : Check α} (h : Blind x) (s : CheckState) :
    s.errors <+: (x s).2.errors := by
  obtain ⟨new, hnew, -⟩ := h.adds (.refl s)
  exact ⟨new, hnew.symm⟩

theorem Quiet.errors {x : Check α} (h : Quiet x) (s : CheckState) :
    s.errors <+: (x s).2.errors :=
  h.blind.errors s

theorem Restores.errors {x : Check α} (h : Restores x) (s : CheckState) :
    s.errors <+: (x s).2.errors :=
  h.blind.errors s

theorem Nested.errors {x : Check α} (h : Nested x) (s : CheckState) :
    s.errors <+: (x s).2.errors :=
  h.blind.errors s

theorem Quiet.restores {x : Check α} (h : Quiet x) : Restores x :=
  ⟨h.blind, fun s => ⟨[], .nil, h.scope s⟩, h.loopDepth⟩

theorem Restores.nested {x : Check α} (h : Restores x) : Nested x where
  blind := h.blind
  steps s := by
    obtain ⟨steps, hsteps, hs⟩ := h.steps s
    exact ⟨steps, hsteps.balanced, hs⟩
  loopDepth := h.loopDepth

theorem Quiet.nested {x : Check α} (h : Quiet x) : Nested x := h.restores.nested

theorem Quiet.like {x : Check α} (h : Quiet x) (s : CheckState) : s.Like (x s).2 :=
  ⟨h.scope s, h.loopDepth s⟩

/-! ## Composition -/

theorem Blind.pure (a : α) : Blind (Pure.pure a) :=
  ⟨fun _ => rfl, fun h => h, fun _ => ⟨[], (List.append_nil _).symm, (List.append_nil _).symm⟩⟩

theorem Blind.bind {x : Check α} {f : α → Check β} (hx : Blind x) (hf : ∀ a, Blind (f a)) :
    Blind (x >>= f) where
  result {s s'} h := by
    show (f (x s').1 (x s').2).1 = (f (x s).1 (x s).2).1
    rw [hx.result h]
    exact (hf _).result (hx.like h)
  like {s s'} h := by
    show (f (x s).1 (x s).2).2.Like (f (x s').1 (x s').2).2
    rw [hx.result h]
    exact (hf _).like (hx.like h)
  adds {s s'} h := by
    obtain ⟨new, hn, hn'⟩ := hx.adds h
    obtain ⟨more, hm, hm'⟩ := (hf (x s).1).adds (hx.like h)
    refine ⟨new ++ more, ?_, ?_⟩
    · show (f (x s).1 (x s).2).2.errors = s.errors ++ (new ++ more)
      rw [hm, hn, List.append_assoc]
    · show (f (x s').1 (x s').2).2.errors = s'.errors ++ (new ++ more)
      rw [hx.result h, hm', hn', List.append_assoc]

theorem Blind.forM {f : α → Check PUnit} (hf : ∀ a, Blind (f a)) : ∀ as : List α, Blind (as.forM f)
  | [] => Blind.pure _
  | a :: as => (hf a).bind fun _ => Blind.forM hf as

/-- What depends on the local variables and the loops alone. -/
theorem Blind.get {f : CheckState → Check α} (hf : ∀ s, Blind (f s))
    (hlike : ∀ {s s'}, s.Like s' → f s' = f s) : Blind (MonadState.get >>= f) where
  result {s s'} h := by
    show (f s' s').1 = (f s s).1
    rw [hlike h]
    exact (hf s).result h
  like {s s'} h := by
    show (f s s).2.Like (f s' s').2
    rw [hlike h]
    exact (hf s).like h
  adds {s s'} h := by
    obtain ⟨new, hn, hn'⟩ := (hf s).adds h
    refine ⟨new, hn, ?_⟩
    show (f s' s').2.errors = s'.errors ++ new
    rw [hlike h, hn']

/-- What adds an error, changes the local variables or loops, or logs. -/
theorem Blind.changes {f : CheckState → CheckState}
    (hlike : ∀ {s s'}, s.Like s' → (f s).Like (f s'))
    (hadds : ∀ {s s'}, s.Like s' → ∃ new,
      (f s).errors = s.errors ++ new ∧ (f s').errors = s'.errors ++ new) :
    Blind (modify f : Check PUnit) :=
  ⟨fun _ => rfl, hlike, hadds⟩

theorem Blind.report (v : Violation) (span : Span) : Blind (Check.report v span) :=
  .changes (fun h => ⟨h.scope, h.loopDepth⟩) fun _ => ⟨[⟨v, span⟩], rfl, rfl⟩

/-- What changes no errors. -/
theorem Blind.silent {f : CheckState → CheckState}
    (hlike : ∀ {s s'}, s.Like s' → (f s).Like (f s')) (herrors : ∀ s, (f s).errors = s.errors) :
    Blind (modify f : Check PUnit) :=
  .changes hlike fun {s s'} _ => ⟨[], by simp [herrors], by simp [herrors]⟩

theorem Blind.log (event : LogEvent) : Blind (Check.log event) :=
  .silent (fun h => ⟨h.scope, h.loopDepth⟩) fun _ => rfl

theorem Blind.modifyScope (f : LocalScope → LocalScope) : Blind (Check.modifyScope f) :=
  .silent (fun h => ⟨congrArg f h.scope, h.loopDepth⟩) fun _ => rfl

theorem declare_run (name : String) (type : Option DataType) (span : Span) (s : CheckState) :
    (Check.declare name type span s).2 =
      match s.scope.declare name type span with
      | .ok scope => { s with scope }
      | .error e => { s with errors := s.errors ++ [e] } :=
  rfl

theorem declare_scope (name : String) (type : Option DataType) (span : Span) (s : CheckState) :
    (Check.declare name type span s).2.scope = s.scope.after [.declare name type span] := by
  show _ = (s.scope.declare name type span).toOption.getD s.scope
  rw [declare_run]
  cases s.scope.declare name type span <;> rfl

theorem Blind.declare (name : String) (type : Option DataType) (span : Span) :
    Blind (Check.declare name type span) := by
  refine .changes (fun {s s'} h => ?_) fun {s s'} h => ?_
  · rw [h.scope]
    cases s.scope.declare name type span with
    | ok scope => exact ⟨rfl, h.loopDepth⟩
    | error e => exact ⟨rfl, h.loopDepth⟩
  · rw [h.scope]
    cases s.scope.declare name type span with
    | ok scope => exact ⟨[], by simp, by simp⟩
    | error e => exact ⟨[e], rfl, rfl⟩

theorem Blind.inBlock {x : Check Unit} (h : Blind x) : Blind (Check.inBlock x) :=
  (Blind.modifyScope _).bind fun _ => h.bind fun _ => Blind.modifyScope _

theorem Blind.inLoop {x : Check Unit} (h : Blind x) : Blind (Check.inLoop x) := by
  have count : ∀ f : Nat → Nat, Blind (modify fun s : CheckState =>
      { s with loopDepth := f s.loopDepth } : Check PUnit) := fun f =>
    .silent (fun h => ⟨h.scope, congrArg f h.loopDepth⟩) fun _ => rfl
  exact (count (· + 1)).bind fun _ => h.bind fun _ => count (· - 1)

theorem Blind.inMethod {x : Check Unit} (h : Blind x) : Blind (Check.inMethod x) := by
  have start : Blind (modify fun s : CheckState =>
      { s with scope := .empty, loopDepth := 0 } : Check PUnit) :=
    .silent (fun _ => ⟨rfl, rfl⟩) fun _ => rfl
  exact start.bind fun _ => h

theorem Quiet.pure (a : α) : Quiet (Pure.pure a) := ⟨Blind.pure a, fun _ => rfl, fun _ => rfl⟩

theorem Quiet.report (v : Violation) (span : Span) : Quiet (Check.report v span) :=
  ⟨Blind.report v span, fun _ => rfl, fun _ => rfl⟩

theorem Quiet.log (event : LogEvent) : Quiet (Check.log event) :=
  ⟨Blind.log event, fun _ => rfl, fun _ => rfl⟩

theorem Quiet.get {f : CheckState → Check α} (hf : ∀ s, Quiet (f s))
    (hlike : ∀ {s s'}, s.Like s' → f s' = f s) : Quiet (MonadState.get >>= f) :=
  ⟨Blind.get (fun s => (hf s).blind) hlike, fun s => (hf s).scope s, fun s => (hf s).loopDepth s⟩

theorem Quiet.bind {x : Check α} {f : α → Check β} (hx : Quiet x) (hf : ∀ a, Quiet (f a)) :
    Quiet (x >>= f) where
  blind := hx.blind.bind fun a => (hf a).blind
  scope s := ((hf _).scope _).trans (hx.scope s)
  loopDepth s := ((hf _).loopDepth _).trans (hx.loopDepth s)

/-- What only reports is quiet. -/
theorem Plain.quiet {x : Check α} (h : Plain x) : Quiet x := by
  induction h with
  | pure a => exact Quiet.pure a
  | bind _ _ hx hf => exact hx.bind hf
  | report v span => exact Quiet.report v span
  | log event => exact Quiet.log event
  | get _ hscope hf => exact Quiet.get hf fun h => hscope h.scope

/-- What two parts do to the local variables, one after the other. -/
theorem bind_scope {x : Check α} {f : α → Check β} {s : CheckState} {steps more : List ScopeStep}
    (hx : (x s).2.scope = s.scope.after steps)
    (hf : (f (x s).1 (x s).2).2.scope = (x s).2.scope.after more) :
    ((x >>= f) s).2.scope = s.scope.after (steps ++ more) := by
  rw [LocalScope.after_append, ← hx]
  exact hf

theorem Restores.bind {x : Check α} {f : α → Check β} (hx : Restores x)
    (hf : ∀ a, Restores (f a)) : Restores (x >>= f) where
  blind := hx.blind.bind fun a => (hf a).blind
  steps s := by
    obtain ⟨steps, hsteps, hs⟩ := hx.steps s
    obtain ⟨more, hmore, hm⟩ := (hf (x s).1).steps (x s).2
    exact ⟨steps ++ more, hsteps.append hmore, bind_scope hs hm⟩
  loopDepth s := ((hf _).loopDepth _).trans (hx.loopDepth s)

theorem Nested.bind {x : Check α} {f : α → Check β} (hx : Nested x) (hf : ∀ a, Nested (f a)) :
    Nested (x >>= f) where
  blind := hx.blind.bind fun a => (hf a).blind
  steps s := by
    obtain ⟨steps, hsteps, hs⟩ := hx.steps s
    obtain ⟨more, hmore, hm⟩ := (hf (x s).1).steps (x s).2
    exact ⟨steps ++ more, hsteps.append hmore, bind_scope hs hm⟩
  loopDepth s := ((hf _).loopDepth _).trans (hx.loopDepth s)

theorem Quiet.forM {f : α → Check PUnit} (hf : ∀ a, Quiet (f a)) : ∀ as : List α, Quiet (as.forM f)
  | [] => Quiet.pure _
  | a :: as => (hf a).bind fun _ => Quiet.forM hf as

theorem Nested.forM {f : α → Check PUnit} (hf : ∀ a, Nested (f a)) :
    ∀ as : List α, Nested (as.forM f)
  | [] => (Quiet.pure _).nested
  | a :: as => (hf a).bind fun _ => Nested.forM hf as

/-- A declaration adds a variable to the innermost block, or reports that it has the name. -/
theorem Nested.declare (name : String) (type : Option DataType) (span : Span) :
    Nested (Check.declare name type span) where
  blind := Blind.declare name type span
  steps s := ⟨[.declare name type span], rfl, declare_scope name type span s⟩
  loopDepth s := by
    rw [declare_run]
    cases s.scope.declare name type span <;> rfl

/-- What is checked in a block of its own leaves no variables behind. -/
theorem Nested.inBlock {x : Check Unit} (h : Nested x) : Restores (Check.inBlock x) where
  blind := h.blind.inBlock
  steps s := by
    obtain ⟨body, hbody, hs⟩ := h.steps { s with scope := s.scope.push }
    refine ⟨.push :: (body ++ [.pop]), .block hbody .nil, ?_⟩
    calc (x { s with scope := s.scope.push }).2.scope.pop
        = (s.scope.push.after body).pop := by rw [hs]
      _ = (s.scope.push.after body).after [.pop] := rfl
      _ = s.scope.push.after (body ++ [.pop]) := (LocalScope.after_append ..).symm
  loopDepth s := h.loopDepth { s with scope := s.scope.push }

theorem Restores.inLoop {x : Check Unit} (h : Restores x) : Restores (Check.inLoop x) where
  blind := h.blind.inLoop
  steps s := h.steps { s with loopDepth := s.loopDepth + 1 }
  loopDepth s := by
    have hl := h.loopDepth { s with loopDepth := s.loopDepth + 1 }
    show (x { s with loopDepth := s.loopDepth + 1 }).2.loopDepth - 1 = s.loopDepth
    rw [hl]
    exact Nat.add_sub_cancel ..

theorem Restores.lookup {x : Check α} (h : Restores x) {s : CheckState} {b : NameTable LocalVar}
    {bs : BlockStack} (hm : s.scope.Models (b :: bs)) (name : String) :
    (x s).2.scope.lookup? name = s.scope.lookup? name := by
  rw [(h.scope s b bs hm).lookup, hm.lookup]

/-! ## Nothing to report -/

/-- `x` reports nothing from `s`. -/
def Clean (x : Check α) (s : CheckState) : Prop := (x s).2.errors = s.errors

theorem clean_report {v : Violation} {span : Span} {s : CheckState} :
    ¬ Clean (Check.report v span) s := by
  intro h
  have hl := congrArg List.length h
  rw [show (Check.report v span s).2.errors = s.errors ++ [⟨v, span⟩] from rfl] at hl
  simp at hl

/-- A sequence without errors has none in its parts. -/
theorem Clean.bind {x : Check α} {f : α → Check β} {s : CheckState} (h : Clean (x >>= f) s)
    (hx : ∀ s, s.errors <+: (x s).2.errors) (hf : ∀ a s, s.errors <+: (f a s).2.errors) :
    Clean x s ∧ Clean (f (x s).1) (x s).2 := by
  have h1 := hx s
  have h2 := hf (x s).1 (x s).2
  have h3 : (f (x s).1 (x s).2).2.errors = s.errors := h
  have hlen := h1.length_le
  rw [h3] at h2
  have h4 : (x s).2.errors = s.errors := h2.eq_of_length_le hlen
  exact ⟨h4, h3.trans h4.symm⟩

theorem clean_inBlock {x : Check Unit} {s : CheckState} :
    Clean (Check.inBlock x) s ↔ Clean x { s with scope := s.scope.push } := Iff.rfl

theorem declare_clean {name : String} {type : Option DataType} {span : Span} {s : CheckState}
    (h : Clean (Check.declare name type span) s) :
    ∃ scope, s.scope.declare name type span = .ok scope ∧
      (Check.declare name type span s).2 = { s with scope } := by
  unfold Clean at h
  rw [declare_run] at h ⊢
  cases hd : s.scope.declare name type span with
  | ok scope => exact ⟨scope, rfl, rfl⟩
  | error e =>
    rw [hd] at h
    simp at h

theorem Clean.split {x : Check α} {f : α → Check β} {s : CheckState} (h : Clean (x >>= f) s)
    (hx : Blind x) (hf : ∀ a, Blind (f a)) : Clean x s ∧ Clean (f (x s).1) (x s).2 :=
  h.bind hx.errors fun a => (hf a).errors

theorem Clean.seq {x : Check α} {f : α → Check β} {s : CheckState} (h : Clean (x >>= f) s)
    (hx : Quiet x) (hf : ∀ a, Quiet (f a)) : Clean x s ∧ Clean (f (x s).1) (x s).2 :=
  h.split hx.blind fun a => (hf a).blind

/-- What was reported before does not matter. -/
theorem Blind.clean_iff {x : Check α} (h : Blind x) {s s' : CheckState} (hs : s.Like s') :
    Clean x s ↔ Clean x s' := by
  obtain ⟨new, hnew, hnew'⟩ := h.adds hs
  unfold Clean
  rw [hnew, hnew', List.append_right_eq_self, List.append_right_eq_self]

/-- A sequence of quiet parts reports nothing exactly if none of them does from the start. -/
theorem Quiet.clean_bind_iff {x : Check α} {f : α → Check β} {s : CheckState} (hx : Quiet x)
    (hf : ∀ a, Quiet (f a)) : Clean (x >>= f) s ↔ Clean x s ∧ Clean (f (x s).1) s := by
  rw [(hf (x s).1).blind.clean_iff (hx.like s)]
  exact ⟨fun h => h.seq hx hf, fun h => h.2.trans h.1⟩

/-- The result of a sequence of quiet parts, each from the start. -/
theorem Quiet.result_bind {x : Check α} {f : α → Check β} {s : CheckState} (hx : Quiet x)
    (hf : ∀ a, Quiet (f a)) : ((x >>= f) s).1 = (f (x s).1 s).1 :=
  (hf (x s).1).blind.result (hx.like s)

section

variable {x : Check α} {y : Check β} {f : α → β → Check γ} {s : CheckState} (hx : Quiet x)
  (hy : Quiet y) (hf : ∀ a b, Quiet (f a b))
include hx hy hf

/-- Two operands and what is made of them, each from the start. -/
theorem Quiet.clean_operands_iff : Clean (x >>= fun a => y >>= f a) s ↔
    Clean x s ∧ Clean y s ∧ Clean (f (x s).1 (y s).1) s := by
  rw [hx.clean_bind_iff fun a => hy.bind (hf a), hy.clean_bind_iff (hf _)]

theorem Quiet.result_operands :
    ((x >>= fun a => y >>= f a) s).1 = (f (x s).1 (y s).1 s).1 := by
  rw [hx.result_bind fun a => hy.bind (hf a), hy.result_bind (hf _)]

end

theorem Clean.left {x : Check α} {f : α → Check β} {s : CheckState} (h : Clean (x >>= f) s)
    (hx : Quiet x) (hf : ∀ a, Quiet (f a)) : Clean x s :=
  (h.seq hx hf).1

/-- The first two of three parts. -/
theorem Clean.both {x : Check α} {y : Check β} {f : α → β → Check γ} {s : CheckState}
    (h : Clean (x >>= fun a => y >>= f a) s) (hx : Quiet x) (hy : Quiet y)
    (hf : ∀ a b, Quiet (f a b)) : Clean x s ∧ Clean y (x s).2 := by
  obtain ⟨hcx, hrest⟩ := h.seq hx fun a => hy.bind (hf a)
  exact ⟨hcx, hrest.left hy (hf _)⟩

theorem Clean.report_bind {v : Violation} {span : Span} {f : Unit → Check α} {s : CheckState}
    (h : Clean (Check.report v span >>= f) s) (hf : ∀ u, Quiet (f u)) : False :=
  clean_report (h.left (Quiet.report v span) hf)

/-- `x` gives `a` from `s` and leaves the state as it is. -/
def Gives (x : Check α) (s : CheckState) (a : α) : Prop := x s = (a, s)

theorem Gives.bind_eq {x : Check α} {s : CheckState} {a : α} (h : Gives x s a) (f : α → Check β) :
    (x >>= f) s = f a s := by
  show f (x s).1 (x s).2 = f a s
  rw [show x s = (a, s) from h]

theorem Gives.bind {x : Check α} {f : α → Check β} {s : CheckState} {a : α} {b : β}
    (hx : Gives x s a) (hf : Gives (f a) s b) : Gives (x >>= f) s b :=
  (hx.bind_eq f).trans hf

/-- After `x` gives `a`, what is left of a clean sequence is clean from the same state. -/
theorem Gives.clean {x : Check α} {f : α → Check β} {s : CheckState} {a : α} (hx : Gives x s a)
    (h : Clean (x >>= f) s) : Clean (f a) s := by
  unfold Clean at *
  rwa [hx.bind_eq f] at h

end Check

namespace Typing

open Check (Quiet Restores Nested)

variable (cx : CheckContext)

/-! ## Rules that only report -/

theorem requireCondition_quiet (t : Option DataType) (span : Span) :
    Quiet (requireCondition t span) :=
  (requireCondition_plain t span).quiet

theorem requireFits_quiet (a d : Option DataType) (span : Span) : Quiet (requireFits a d span) :=
  (requireFits_plain a d span).quiet

theorem resolveType_quiet (t : DataType) (span : Span) : Quiet (cx.resolveType t span) :=
  (resolveType_plain cx t span).quiet

theorem memberType_quiet (outer : Denotation) (m : Ident) : Quiet (memberType cx outer m) :=
  (memberType_plain cx outer m).quiet

theorem denoteMember_quiet (role : Role) (outer : Denotation) (m : Ident) :
    Quiet (denoteMember cx role outer m) :=
  (denoteMember_plain cx role outer m).quiet

theorem implicitTarget_quiet (name : String) (span : Span) : Quiet (implicitTarget cx name span) :=
  (implicitTarget_plain cx name span).quiet

theorem select_quiet (name : String) (b : TypeBindings) (group : List MethodInfo) (args : List
    (Option DataType)) (span : Span) : Quiet (select cx name b group args span) :=
  (select_plain cx name b group args span).quiet

theorem callType_quiet (target : Option CallTarget) (method : Ident) (args : List (Option DataType))
    (span : Span) : Quiet (callType cx target method args span) :=
  (callType_plain cx target method args span).quiet

theorem createType_quiet (type : Option DataType) (args : List (Option DataType)) (span : Span) :
    Quiet (createType cx type args span) :=
  (createType_plain cx type args span).quiet

theorem arithmeticType_quiet (op : BinaryOp) (l r : DataType) (span : Span) :
    Quiet (arithmeticType op l r span) :=
  (arithmeticType_plain op l r span).quiet

theorem requireLogical_quiet (l r : Option DataType) (span : Span) :
    Quiet (requireLogical l r span) :=
  (requireLogical_plain l r span).quiet

theorem binaryType_quiet (op : BinaryOp) (l r : Option DataType) (span : Span) :
    Quiet (binaryType op l r span) :=
  (binaryType_plain op l r span).quiet

/-- A comparison and arithmetic have no type without the types of the operands. -/
theorem binaryType_unknown {op : BinaryOp} {l r : Option DataType} {span : Span}
    (he : op.isEquality = false) (hl : op.isLogical = false) (h : l = none ∨ r = none) :
    binaryType op l r span = pure none := by
  unfold binaryType
  simp only [he, hl, Bool.false_eq_true, ↓reduceIte]
  rcases h with rfl | rfl
  · rfl
  · cases l <;> rfl

theorem unaryType_quiet (op : UnaryOp) (t : Option DataType) (span : Span) :
    Quiet (unaryType op t span) :=
  (unaryType_plain op t span).quiet

theorem stepType_quiet (operand : Expr) (t : Option DataType) (span : Span) :
    Quiet (stepType operand t span) :=
  (stepType_plain operand t span).quiet

theorem compoundType_quiet (op : BinaryOp) (t v : Option DataType) (span : Span) :
    Quiet (compoundType op t v span) :=
  (compoundType_plain op t v span).quiet

theorem conditionalType_quiet (y n : Option DataType) (span : Span) :
    Quiet (conditionalType cx y n span) :=
  (conditionalType_plain cx y n span).quiet

theorem indexType_quiet (object key : Option DataType) (keySpan span : Span) :
    Quiet (indexType object key keySpan span) :=
  (indexType_plain object key keySpan span).quiet

theorem typed_quiet {x : Check (Option DataType)} (h : Quiet x) :
    Quiet (do return Denotation.ofType? (← x)) :=
  h.bind fun _ => Quiet.pure _

/-- Checking an expression changes no local variable. -/
theorem denote_quiet (role : Role) (e : Expr) : Quiet (denote cx role e) :=
  (denote_plain cx role e).quiet

theorem inferAll_quiet (es : List Expr) : Quiet (inferAll cx es) :=
  (inferAll_plain cx es).quiet

theorem infer_quiet (e : Expr) : Quiet (infer cx e) :=
  (infer_plain cx e).quiet

theorem checkCondition_quiet (e : Expr) : Quiet (checkCondition cx e) :=
  (checkCondition_plain cx e).quiet

theorem checkStored_quiet (e : Expr) (declared : Option DataType) :
    Quiet (checkStored cx e declared) :=
  (checkStored_plain cx e declared).quiet

theorem checkExpr_quiet (e : Expr) : Quiet (checkExpr cx e) :=
  (checkExpr_plain cx e).quiet

theorem requireElements_quiet (collection declared : Option DataType) (iterable span : Span) :
    Quiet (requireElements collection declared iterable span) :=
  (requireElements_plain collection declared iterable span).quiet

theorem checkReturn_quiet (value : Option Expr) (span : Span) : Quiet (checkReturn cx value span) :=
  (checkReturn_plain cx value span).quiet

/-! ## Statements -/

theorem checkDeclarator_nested (declared : Option DataType) (v : Declarator) :
    Nested (checkDeclarator cx declared v) := by
  have rest := Nested.declare v.name.name declared v.name.span
  unfold checkDeclarator
  dsimp only
  split
  · exact (checkStored_quiet cx _ declared).nested.bind fun _ => rest
  · exact rest

theorem checkDeclaration_nested (d : VarDecl) : Nested (checkDeclaration cx d) :=
  (resolveType_quiet cx _ _).nested.bind fun declared =>
    Nested.forM (checkDeclarator_nested cx declared) d.vars

theorem checkForInit_nested (init : Option ForInit) : Nested (checkForInit cx init) := by
  unfold checkForInit
  split
  · exact checkDeclaration_nested cx _
  · exact (Quiet.forM (checkExpr_quiet cx) _).nested
  · exact (Quiet.pure _).nested

theorem requireLoop_quiet (v : Violation) (span : Span) : Quiet (requireLoop v span) := by
  refine Quiet.get (fun s => ?_) fun h => by rw [h.loopDepth]
  split
  · exact Quiet.report _ _
  · exact Quiet.pure _

theorem declareParams_nested (params : List ParamInfo) (span : Span) :
    Nested (declareParams cx params span) :=
  Nested.forM (fun _ => (resolveType_quiet cx _ _).nested.bind fun _ => Nested.declare _ _ _) params

mutual

/-- Checking a statement changes no block but the innermost. -/
theorem checkStmt_nested : ∀ s : Stmt, Nested (checkStmt cx s)
  | .expr e span => by unfold checkStmt; exact (checkExpr_quiet cx e).nested
  | .declare d => by unfold checkStmt; exact checkDeclaration_nested cx d
  | .block stmts span => by unfold checkStmt; exact (checkStmts_nested stmts).inBlock.nested
  | .ifElse condition yes no span => by
    unfold checkStmt
    exact (checkCondition_quiet cx condition).nested.bind fun _ =>
      (inBranch_restores yes).nested.bind fun _ => (checkElse_restores no).nested
  | .whileLoop condition body span => by
    unfold checkStmt
    exact (checkCondition_quiet cx condition).nested.bind fun _ =>
      (inBranch_restores body).inLoop.nested
  | .doWhile body condition span => by
    unfold checkStmt
    exact (inBranch_restores body).inLoop.nested.bind fun _ =>
      (checkCondition_quiet cx condition).nested
  | .forLoop init condition update body span => by
    unfold checkStmt
    exact (forClauses_nested init condition update body).inBlock.nested
  | .foreach type var iterable body span => by
    unfold checkStmt
    exact (resolveType_quiet cx _ _).nested.bind fun _ => (infer_quiet cx iterable).nested.bind
      fun _ => (requireElements_quiet _ _ _ _).nested.bind fun _ =>
        ((Nested.declare _ _ _).bind fun _ => (inBranch_restores body).inLoop.nested).inBlock.nested
  | .ret value span => by unfold checkStmt; exact (checkReturn_quiet cx value span).nested
  | .brk span => by unfold checkStmt; exact (requireLoop_quiet _ span).nested
  | .cont span => by unfold checkStmt; exact (requireLoop_quiet _ span).nested

theorem forClauses_nested (init : Option ForInit) (condition : Option Expr) (update : List Expr)
    (body : Stmt) :
    Nested (do
      checkForInit cx init
      match condition with
      | some e => checkCondition cx e
      | none => pure ()
      update.forM (checkExpr cx)
      Check.inLoop (inBranch body (checkStmt cx body)) : Check Unit) := by
  refine (checkForInit_nested cx init).bind fun _ => ?_
  have rest : Nested (do update.forM (checkExpr cx); Check.inLoop (inBranch body
      (checkStmt cx body)) : Check Unit) :=
    (Quiet.forM (checkExpr_quiet cx) update).nested.bind fun _ =>
      (inBranch_restores body).inLoop.nested
  dsimp only
  split
  · exact (checkCondition_quiet cx _).nested.bind fun _ => rest
  · exact rest

/-- A branch gives the local variables back as they were, with or without braces. -/
theorem inBranch_restores : ∀ s : Stmt, Restores (inBranch s (checkStmt cx s))
  | .block stmts span => by
    unfold inBranch checkStmt
    exact (checkStmts_nested stmts).inBlock
  | .expr e span => (checkStmt_nested (.expr e span)).inBlock
  | .declare d => (checkStmt_nested (.declare d)).inBlock
  | .ifElse condition yes no span => (checkStmt_nested (.ifElse condition yes no span)).inBlock
  | .whileLoop condition body span => (checkStmt_nested (.whileLoop condition body span)).inBlock
  | .doWhile body condition span => (checkStmt_nested (.doWhile body condition span)).inBlock
  | .forLoop init condition update body span =>
    (checkStmt_nested (.forLoop init condition update body span)).inBlock
  | .foreach type var iterable body span =>
    (checkStmt_nested (.foreach type var iterable body span)).inBlock
  | .ret value span => (checkStmt_nested (.ret value span)).inBlock
  | .brk span => (checkStmt_nested (.brk span)).inBlock
  | .cont span => (checkStmt_nested (.cont span)).inBlock

theorem checkElse_restores : ∀ s : Option Stmt, Restores (checkElse cx s)
  | none => by unfold checkElse; exact (Quiet.pure _).restores
  | some s => by unfold checkElse; exact inBranch_restores s

theorem checkStmts_nested : ∀ ss : List Stmt, Nested (checkStmts cx ss)
  | [] => by unfold checkStmts; exact (Quiet.pure _).nested
  | s :: ss => by
    unfold checkStmts
    exact (checkStmt_nested s).bind fun _ => checkStmts_nested ss

end

/-- Only a declaration changes the local variables. -/
theorem checkStmt_restores : ∀ s : Stmt, (∀ d, s ≠ .declare d) → Restores (checkStmt cx s)
  | .expr e span, _ => by unfold checkStmt; exact (checkExpr_quiet cx e).restores
  | .declare d, h => absurd rfl (h d)
  | .block stmts span, _ => by unfold checkStmt; exact (checkStmts_nested cx stmts).inBlock
  | .ifElse condition yes no span, _ => by
    unfold checkStmt
    exact (checkCondition_quiet cx condition).restores.bind fun _ =>
      (inBranch_restores cx yes).bind fun _ => checkElse_restores cx no
  | .whileLoop condition body span, _ => by
    unfold checkStmt
    exact (checkCondition_quiet cx condition).restores.bind fun _ =>
      (inBranch_restores cx body).inLoop
  | .doWhile body condition span, _ => by
    unfold checkStmt
    exact (inBranch_restores cx body).inLoop.bind fun _ =>
      (checkCondition_quiet cx condition).restores
  | .forLoop init condition update body span, _ => by
    unfold checkStmt
    exact (forClauses_nested cx init condition update body).inBlock
  | .foreach type var iterable body span, _ => by
    unfold checkStmt
    exact (resolveType_quiet cx _ _).restores.bind fun _ => (infer_quiet cx iterable).restores.bind
      fun _ => (requireElements_quiet _ _ _ _).restores.bind fun _ =>
        ((Nested.declare _ _ _).bind fun _ => (inBranch_restores cx body).inLoop.nested).inBlock
  | .ret value span, _ => by unfold checkStmt; exact (checkReturn_quiet cx value span).restores
  | .brk span, _ => by unfold checkStmt; exact (requireLoop_quiet _ span).restores
  | .cont span, _ => by unfold checkStmt; exact (requireLoop_quiet _ span).restores

end Typing

end ClassScript
