import ClassScript.Proofs.Machine.Fuel
import ClassScript.Proofs.Machine.FrameStack
import ClassScript.Proofs.Machine.PaddedRuns
import ClassScript.Proofs.Soundness.LoopControl
import ClassScript.Registration

/-!
# A `for` loop is a `while` loop

`for (init; condition; updates) body` does what `{ init; while (condition) { { body } updates; } }`
does (`Stmt.whileForm`), if no `continue` in the body belongs to the loop. The `for` loop runs its
updates after a `continue`, and the `while` loop would not.

The `while` loop runs the updates in two more blocks. They are expressions and declare nothing, so
the blocks make no difference where there is a running frame (`Calls.execBranch_withUpdates`). Hence
one pass of either loop is the body and then the updates, and by induction on the fuel each loop
stays within the other (`Calls.for_within_while`, `Calls.while_within_for`).

Main statement: `forLoop_iff_whileForm`.
-/

namespace ClassScript

/-! ## The two forms -/

/-- Expressions as statements. -/
def Stmt.ofExprs (es : List Expr) (span : Span) : List Stmt := es.map (.expr · span)

/-- The first clause of a `for` loop as statements. -/
def ForInit.stmts (span : Span) : Option ForInit → List Stmt
  | some (.declare d) => [.declare d]
  | some (.exprs es) => Stmt.ofExprs es span
  | none => []

/-- `{ { body } updates; }` -/
def Stmt.withUpdates (body : Stmt) (updates : List Expr) (span : Span) : Stmt :=
  .block (.block [body] span :: Stmt.ofExprs updates span) span

/-- `{ init; while (condition) { { body } updates; } }` -/
def Stmt.whileForm (init : Option ForInit) (condition : Expr) (updates : List Expr) (body : Stmt)
    (span : Span) : Stmt :=
  .block (ForInit.stmts span init ++ [.whileLoop condition (body.withUpdates updates span) span])
    span

/-- No `continue` in the statement belongs to a loop around it. -/
def Stmt.NoContinue (s : Stmt) : Prop :=
  ∀ j ∈ s.jumps 0, j.isStray = true → j.violation ≠ .continueOutsideLoop

namespace Calls

open Run (Ignores Within WithinAt)

/-- The body in a block of its own, and after it the updates if it ends normally. -/
def execUpdated (calls : Calls) (body : Stmt) (updates : List Expr) : Run Flow := do
  match ← calls.execBranch body with
  | .normal =>
    let _ ← calls.evalAll updates
    return .normal
  | flow => return flow

theorem execUpdated_ignores {calls : Calls} (h : calls.IgnoresBlocks) {low : Nat} (body : Stmt)
    (updates : List Expr) : Ignores low (calls.execUpdated body updates) := by
  refine (Ignores.inBlock (h.exec body)).bind fun flow => ?_
  cases flow with
  | normal => exact (evalAll_ignores h updates).bind fun _ => .pure _
  | ret _ | brk | cont => exact .pure _

theorem execAll_singleton (calls : Calls) (s : Stmt) : calls.execAll [s] = calls.exec s := by
  refine (bind_congr fun flow => ?_).trans (bind_pure (calls.exec s))
  cases flow <;> rfl

section
variable (env : Env) (n : Nat) (span : Span)

/-- Expressions as statements are evaluated in order, and what follows them is executed. -/
theorem execAll_ofExprs (es : List Expr) (ss : List Stmt) :
    (withFuel env (n + 1)).execAll (Stmt.ofExprs es span ++ ss) = (do
      let _ ← (withFuel env n).evalAll es
      (withFuel env (n + 1)).execAll ss) := by
  induction es with
  | nil => exact (pure_bind _ _).symm
  | cons e es ih =>
    show ((withFuel env n).eval e >>= fun _ => pure Flow.normal) >>= _ = _
    simp only [evalAll, bind_assoc, pure_bind]
    exact bind_congr fun _ => ih

theorem execAll_forInit (init : Option ForInit) (ss : List Stmt) :
    (withFuel env (n + 1)).execAll (ForInit.stmts span init ++ ss) = (do
      (withFuel env n).execForInit init
      (withFuel env (n + 1)).execAll ss) := by
  match init with
  | some (.declare d) =>
    show ((withFuel env n).declareVars d.vars >>= fun _ => pure Flow.normal) >>= _ = _
    simp only [bind_assoc, pure_bind]
    rfl
  | some (.exprs es) =>
    refine (execAll_ofExprs env n span es ss).trans ?_
    simp only [execForInit, bind_assoc, pure_bind]
  | none => exact (pure_bind _ _).symm

theorem exec_withUpdates (body : Stmt) (updates : List Expr) :
    (withFuel env (n + 2)).exec (body.withUpdates updates span) =
      Run.inBlock ((withFuel env n).execUpdated body updates) := by
  have inner : (withFuel env (n + 1)).exec (.block [body] span) =
      (withFuel env n).execBranch body :=
    congrArg Run.inBlock (execAll_singleton _ body)
  have outer : (withFuel env (n + 1)).execAll (Stmt.ofExprs updates span) = (do
      let _ ← (withFuel env n).evalAll updates
      return .normal) := by
    have run := execAll_ofExprs env n span updates []
    rwa [List.append_nil] at run
  refine congrArg Run.inBlock ?_
  show (withFuel env (n + 1)).exec (.block [body] span) >>= _ = _
  rw [inner]
  refine bind_congr fun flow => ?_
  cases flow with
  | normal => exact outer
  | ret _ | brk | cont => rfl

theorem exec_whileForm (init : Option ForInit) (condition : Expr) (updates : List Expr)
    (body : Stmt) : (withFuel env (n + 2)).exec (.whileForm init condition updates body span) =
      Run.inBlock (do
        (withFuel env n).execForInit init
        (withFuel env n).iterate ⟨some condition, body.withUpdates updates span, []⟩) := by
  refine congrArg Run.inBlock ((execAll_forInit env n span init _).trans ?_)
  rw [execAll_singleton]
  rfl

/-- **The further blocks make no difference.** -/
theorem execBranch_withUpdates (body : Stmt) (updates : List Expr) {m : Machine}
    (hm : m.frames ≠ []) :
    (withFuel env (n + 2)).execBranch (body.withUpdates updates span) m =
      (withFuel env n).execUpdated body updates m := by
  have ignored : ∀ {low : Nat}, Ignores low ((withFuel env n).execUpdated body updates) :=
    execUpdated_ignores (withFuel_ignores env n) body updates
  unfold execBranch
  rw [exec_withUpdates, Ignores.inBlock_eq (.inBlock ignored) hm, Ignores.inBlock_eq ignored hm]

end

/-! ## One round -/

/-- What follows a pass of a loop: its end, or the updates and the rest of the run. -/
def afterBody (calls : Calls) (updates : List Expr) (rest : Run Flow) : Option Flow → Run Flow
  | some flow => return flow
  | none => do
    let _ ← calls.evalAll updates
    rest

/-- A loop from its condition through one pass to the rest of the run. -/
def round (calls : Calls) (condition : Expr) (body : Stmt) (updates : List Expr)
    (rest : Run Flow) : Run Flow := do
  if ← calls.evalCondition condition then
    calls.execBody body >>= calls.afterBody updates rest
  else return .normal

theorem stepIterate_eq_round (calls : Calls) (condition : Expr) (body : Stmt)
    (updates : List Expr) : calls.stepIterate ⟨some condition, body, updates⟩ =
      calls.round condition body updates (calls.iterate ⟨some condition, body, updates⟩) := by
  rw [stepIterate_of_some calls rfl]
  refine bind_congr fun go => ?_
  cases go with
  | false => rfl
  | true => exact bind_congr fun r => by cases r <;> rfl

variable (env : Env) (n : Nat) (span : Span) (condition : Expr) (updates : List Expr)
  {body : Stmt} {m : Machine}

/-- A round respects what the rest of the run stays within. -/
theorem round_mono (body : Stmt) {x y : Run Flow} (h : ∀ m, m.frames ≠ [] → WithinAt m x y)
    (hm : m.frames ≠ []) :
    WithinAt m ((withFuel env n).round condition body updates x)
      ((withFuel env n).round condition body updates y) := by
  have steady := withFuel_steady env n
  refine .bind (.inl rfl) fun go m₁ hgo => ?_
  cases go with
  | false => exact .inl rfl
  | true =>
    refine .bind (.inl rfl) fun r m₂ hr => ?_
    cases r with
    | some flow => exact .inl rfl
    | none =>
      refine .bind (.inl rfl) fun _ m₃ hupdates => h m₃ ?_
      have hm₁ := (evalCondition_steady steady condition).framed hgo hm
      have hm₂ := (execBody_steady steady body).framed hr hm₁
      exact (evalAll_steady steady updates).framed hupdates hm₂

section
variable (hbody : body.NoContinue)
include hbody

/-- Without a `continue` of its own, a body does not end with one. -/
theorem execBranch_ne_cont {flow : Flow} {m' : Machine}
    (h : (withFuel env n).execBranch body m = .ok flow m') : flow ≠ .cont := by
  rintro rfl
  have strays := (((withFuel_contains env n).exec body).inBlock m).ok h
  obtain ⟨j, hj, stray, violation⟩ := strays _ rfl
  exact hbody j hj stray violation

/-- A pass with the updates in the body is one with the updates after it. -/
theorem execBody_withUpdates (calls : Calls) (rest : Run Flow) (hm : m.frames ≠ []) :
    ((withFuel env (n + 2)).execBody (body.withUpdates updates span) >>=
        calls.afterBody [] rest) m =
      ((withFuel env n).execBody body >>= (withFuel env n).afterBody updates rest) m := by
  unfold execBody
  rw [bind_assoc, bind_assoc, Run.bind_eq, execBranch_withUpdates env n span body updates hm,
    ← Run.bind_eq]
  unfold execUpdated
  rw [bind_assoc]
  refine Run.bind_congr_ok fun flow m' hflow => ?_
  cases flow with
  | normal => simp only [bind_assoc, pure_bind, afterBody, evalAll]
  | ret _ | brk => rfl
  | cont => exact absurd rfl (execBranch_ne_cont env n hbody hflow)

theorem round_within_withUpdates (rest : Run Flow) (hm : m.frames ≠ []) :
    WithinAt m ((withFuel env n).round condition body updates rest)
      ((withFuel env (n + 2)).round condition (body.withUpdates updates span) [] rest) := by
  have more := withFuel_within env (Nat.le_add_right n 2)
  refine .bind (evalCondition_congr Run.within_congruence more condition m) fun go m' hgo => ?_
  have hm' := (evalCondition_steady (withFuel_steady env n) condition).framed hgo hm
  cases go with
  | false => exact .inl rfl
  | true => exact .inl (execBody_withUpdates env n span updates hbody _ rest hm')

theorem withUpdates_within_round (rest : Run Flow) (hm : m.frames ≠ []) :
    WithinAt m ((withFuel env n).round condition (body.withUpdates updates span) [] rest)
      ((withFuel env n).round condition body updates rest) := by
  have more := withFuel_within env (Nat.le_add_right n 2)
  refine .bind (.inl rfl) fun go m' hgo => ?_
  have hm' := (evalCondition_steady (withFuel_steady env n) condition).framed hgo hm
  cases go with
  | false => exact .inl rfl
  | true =>
    have body_within := execBody_congr Run.within_congruence more (body.withUpdates updates span) m'
    exact .trans (.bind body_within fun _ _ _ => .inl rfl)
      (.inl (execBody_withUpdates env n span updates hbody _ rest hm').symm)

/-! ## All rounds -/

/-- What the `for` loop does, the `while` loop does with a little more fuel. -/
theorem for_within_while : ∀ m : Machine, m.frames ≠ [] →
    WithinAt m ((withFuel env n).iterate ⟨some condition, body, updates⟩)
      ((withFuel env (n + 2)).iterate ⟨some condition, body.withUpdates updates span, []⟩) := by
  induction n with
  | zero => exact fun m _ => .inr ⟨m, rfl⟩
  | succ n ih =>
    intro m hm
    have first := stepIterate_eq_round (withFuel env n) condition body updates
    have second := stepIterate_eq_round (withFuel env (n + 2)) condition
      (body.withUpdates updates span) []
    have rounds := (round_mono env n condition updates body ih hm).trans
      (round_within_withUpdates env n span condition updates hbody _ hm)
    rwa [← first, ← second] at rounds

/-- What the `while` loop does, the `for` loop does. -/
theorem while_within_for : ∀ m : Machine, m.frames ≠ [] →
    WithinAt m ((withFuel env n).iterate ⟨some condition, body.withUpdates updates span, []⟩)
      ((withFuel env n).iterate ⟨some condition, body, updates⟩) := by
  induction n with
  | zero => exact fun m _ => .inr ⟨m, rfl⟩
  | succ n ih =>
    intro m hm
    have first := stepIterate_eq_round (withFuel env n) condition (body.withUpdates updates span) []
    have second := stepIterate_eq_round (withFuel env n) condition body updates
    have rounds := (withUpdates_within_round env n span condition updates hbody _ hm).trans
      (round_mono env n condition updates body ih hm)
    rwa [← first, ← second] at rounds

/-! ## Statements -/

theorem forLoop_within_whileForm (init : Option ForInit) :
    Within _ ((withFuel env n).exec (.forLoop init (some condition) updates body span))
      ((withFuel env (n + 3)).exec (.whileForm init condition updates body span)) := by
  intro m
  cases n with
  | zero => exact .inr ⟨m, rfl⟩
  | succ n =>
    have more := withFuel_within env (Nat.le_add_right n 2)
    rw [exec_whileForm env (n + 2) span]
    refine .inBlock fun m₁ hm₁ =>
      .bind (execForInit_congr Run.within_congruence more init m₁) fun _ m₂ hinit => ?_
    obtain ⟨vars, steady⟩ := execForInit_steady (withFuel_steady env n) init
    exact for_within_while env n span condition updates hbody m₂ (steady.framed hinit hm₁)

theorem whileForm_within_forLoop (init : Option ForInit) :
    Within _ ((withFuel env n).exec (.whileForm init condition updates body span))
      ((withFuel env (n + 1)).exec (.forLoop init (some condition) updates body span)) := by
  refine ((withFuel_within env (Nat.le_add_right n 2)).exec _).trans fun m => ?_
  rw [exec_whileForm env n span]
  refine .inBlock fun m₁ hm₁ => .bind (.inl rfl) fun _ m₂ hinit => ?_
  obtain ⟨vars, steady⟩ := execForInit_steady (withFuel_steady env n) init
  exact while_within_for env n span condition updates hbody m₂ (steady.framed hinit hm₁)

end

end Calls

/-- **A `for` loop is a `while` loop.** If a `for` loop has a condition and no `continue` in its body
belongs to it, then in every state the loop and its `while` form either both terminate or neither
does, with the same flow or fault and the same machine after it. -/
theorem forLoop_iff_whileForm {body : Stmt} (hbody : body.NoContinue) (init : Option ForInit)
    (condition : Expr) (updates : List Expr) (span : Span) (env : Env) (m : Machine)
    (o : EStateM.Result Halt Machine Flow) :
    Run.Finishes (fun n => (Calls.withFuel env n).exec
        (.forLoop init (some condition) updates body span)) m o ↔
      Run.Finishes (fun n => (Calls.withFuel env n).exec
        (.whileForm init condition updates body span)) m o :=
  Run.finishes_iff
    (fun n => Calls.forLoop_within_whileForm env n span condition updates hbody init)
    (fun n => Calls.whileForm_within_forLoop env n span condition updates hbody init)

/-- A method with the Integer 0 in the variable `last`. -/
def lastRunning : Machine where
  world := { heap := ⟨#[.make Builtin.integerClass [] (.integer 0)]⟩ }
  frames := [{ cls := Builtin.integerClass, this := none,
               block := NameTable.empty.insert "last" (.object 0) }]

/-- `i` -/
def loopIndex : Expr := .name ⟨"i", .unknown⟩

/-- `{ if (i == 2) break; last = i; }` -/
def untilTwo : Stmt :=
  let isTwo : Expr := .binary .equal loopIndex (.literal (.integer 2) .unknown) .unknown
  let assigned : Expr := .assign .set (.name ⟨"last", .unknown⟩) loopIndex .unknown
  .block [.ifElse isTwo (.brk .unknown) none .unknown, .expr assigned .unknown] .unknown

/-- `Integer i = 0` -/
def fromZero : ForInit :=
  .declare ⟨⟨⟨"Integer", .unknown⟩, [], .unknown⟩,
    [⟨⟨"i", .unknown⟩, some (.literal (.integer 0) .unknown), .unknown⟩], .unknown⟩

/-- `for (Integer i = 0; true; i++) { if (i == 2) break; last = i; }` ends with 1 in `last`, and so
does its `while` form. -/
theorem forLoop_iff_whileForm_untilTwo : ∃ env m,
    Env.make (Registration.registerAll .initial []).table none {} ⟨2024, 1, 1⟩ 16 = .ok env ∧
    untilTwo.NoContinue ∧
    (m.frames.head?.bind (·.lookup? "last")).bind m.world.heap.integer? = some 1 ∧
    Run.Finishes (fun n => (Calls.withFuel env n).exec
      (.forLoop (some fromZero) (some (.literal (.boolean true) .unknown))
        [.post .inc loopIndex .unknown] untilTwo .unknown)) lastRunning (.ok .normal m) ∧
    Run.Finishes (fun n => (Calls.withFuel env n).exec
      (.whileForm (some fromZero) (.literal (.boolean true) .unknown)
        [.post .inc loopIndex .unknown] untilTwo .unknown)) lastRunning (.ok .normal m) := by
  have running : ∃ env m,
      Env.make (Registration.registerAll .initial []).table none {} ⟨2024, 1, 1⟩ 16 = .ok env ∧
      (m.frames.head?.bind (·.lookup? "last")).bind m.world.heap.integer? = some 1 ∧
      (Calls.withFuel env 12).exec (.forLoop (some fromZero)
        (some (.literal (.boolean true) .unknown)) [.post .inc loopIndex .unknown] untilTwo
        .unknown) lastRunning = .ok .normal m :=
    ⟨_, _, rfl, rfl, rfl⟩
  obtain ⟨env, m, henv, hlast, hrun⟩ := running
  have finishes : Run.Finishes (fun n => (Calls.withFuel env n).exec
      (.forLoop (some fromZero) (some (.literal (.boolean true) .unknown))
        [.post .inc loopIndex .unknown] untilTwo .unknown)) lastRunning (.ok .normal m) :=
    ⟨12, hrun, fun ⟨_, h⟩ => by simp [hrun] at h⟩
  have hbody : untilTwo.NoContinue := by
    simp [Stmt.NoContinue, untilTwo, Stmt.jumps, Stmt.jumpsOf, Stmt.jumpsElse]
  exact ⟨env, m, henv, hbody, hlast, finishes,
    (forLoop_iff_whileForm hbody _ _ _ _ env lastRunning _).1 finishes⟩

end ClassScript
