import ClassScript.Machine.Entry
import ClassScript.Proofs.Machine.Outcome
import ClassScript.Proofs.Typing.CheckRun

/-!
# Loop control

A `break` or `continue` statement is a *jump*; `Stmt.jumps` lists those of a statement in order,
each with the number of loops around it. A jump with no loop around it is stray.

Checking counts the loops around a statement as it walks, and reports exactly the stray jumps
(`Typing.checkStmts_controls`). Execution hands a jump on until a loop takes it, so only a stray
jump can be what a body ends with (`Calls.withFuel_contains`).

Main statement: `loop_control_exact`.
-/

namespace ClassScript

/-! ## Jumps -/

/-- A `break` or `continue` statement. -/
structure Jump where
  /-- What is wrong with it outside of loops. -/
  violation : Violation
  span : Span
  /-- The number of loops around it. -/
  loops : Nat

namespace Jump

/-- The error for the jump. -/
def error (j : Jump) : CheckError := ⟨j.violation, j.span⟩

/-- No loop is around the jump. -/
def isStray (j : Jump) : Bool := j.loops = 0

/-- The errors for the stray ones among jumps. -/
def errors (js : List Jump) : List CheckError := (js.filter isStray).map error

@[simp] theorem errors_nil : errors [] = [] := rfl

@[simp] theorem errors_append (js ks : List Jump) : errors (js ++ ks) = errors js ++ errors ks := by
  simp [errors]

end Jump

mutual

/-- The jumps in a statement that stands inside of `loops` loops, in order. -/
def Stmt.jumps (loops : Nat) : Stmt → List Jump
  | .expr .. | .declare _ | .ret .. => []
  | .block stmts _ => Stmt.jumpsOf loops stmts
  | .ifElse _ yes no _ => yes.jumps loops ++ Stmt.jumpsElse loops no
  | .whileLoop _ body _ | .doWhile body _ _ | .forLoop _ _ _ body _ | .foreach _ _ _ body _ =>
    body.jumps (loops + 1)
  | .brk span => [⟨.breakOutsideLoop, span, loops⟩]
  | .cont span => [⟨.continueOutsideLoop, span, loops⟩]

/-- The jumps in the other branch of a condition. -/
def Stmt.jumpsElse (loops : Nat) : Option Stmt → List Jump
  | none => []
  | some s => s.jumps loops

/-- The jumps in statements, in order. -/
def Stmt.jumpsOf (loops : Nat) : List Stmt → List Jump
  | [] => []
  | s :: ss => s.jumps loops ++ Stmt.jumpsOf loops ss

end

/-! ## Checking -/

/-- The errors about loop control among errors. -/
def loopErrors (errors : List CheckError) : List CheckError :=
  errors.filter fun e => e.kind = .loopControl

@[simp] theorem loopErrors_append (es fs : List CheckError) :
    loopErrors (es ++ fs) = loopErrors es ++ loopErrors fs := List.filter_append ..

theorem LocalScope.declare_kind {scope : LocalScope} {name : String} {type : Option DataType}
    {span : Span} {e : CheckError} (h : scope.declare name type span = .error e) :
    e.kind = .redeclaration := by
  unfold LocalScope.declare at h
  split at h
  · cases h
  · split at h
    · cases h
      rfl
    · cases h

namespace Check

variable {α β : Type}

/-- Inside of `d` loops, `x` adds the errors `js d` about loop control. It leaves the loop count as
it was. -/
structure Controls (js : Nat → List Jump) (x : Check α) : Prop where
  errors : ∀ s, loopErrors (x s).2.errors = loopErrors s.errors ++ Jump.errors (js s.loopDepth)
  depth : ∀ s, (x s).2.loopDepth = s.loopDepth

namespace Controls

variable {js ks : Nat → List Jump}

theorem bind {x : Check α} {f : α → Check β} (hx : Controls js x) (hf : ∀ a, Controls ks (f a)) :
    Controls (fun d => js d ++ ks d) (x >>= f) where
  errors s := by
    show loopErrors (f (x s).1 (x s).2).2.errors = _
    rw [(hf _).errors, hx.errors, hx.depth, Jump.errors_append, List.append_assoc]
  depth s := by
    show (f (x s).1 (x s).2).2.loopDepth = _
    rw [(hf _).depth, hx.depth]

/-- A block of its own changes local variables only. -/
theorem inBlock {x : Check Unit} (h : Controls js x) : Controls js (Check.inBlock x) :=
  ⟨fun s => h.errors { s with scope := s.scope.push },
    fun s => h.depth { s with scope := s.scope.push }⟩

theorem inBranch (b : Stmt) {x : Check Unit} (h : Controls js x) :
    Controls js (Typing.inBranch b x) := by
  unfold Typing.inBranch
  split
  · exact h
  · exact h.inBlock

/-- In a loop, there is one more around. -/
theorem inLoop {x : Check Unit} (h : Controls js x) :
    Controls (fun d => js (d + 1)) (Check.inLoop x) where
  errors s := h.errors { s with loopDepth := s.loopDepth + 1 }
  depth s := by
    show (x { s with loopDepth := s.loopDepth + 1 }).2.loopDepth - 1 = s.loopDepth
    rw [h.depth]
    exact Nat.add_sub_cancel ..

theorem declare (name : String) (type : Option DataType) (span : Span) :
    Controls (fun _ => []) (Check.declare name type span) := by
  have run : ∀ s : CheckState, loopErrors (Check.declare name type span s).2.errors =
      loopErrors s.errors ∧ (Check.declare name type span s).2.loopDepth = s.loopDepth := by
    intro s
    rw [declare_run]
    cases hd : s.scope.declare name type span with
    | ok scope => exact ⟨rfl, rfl⟩
    | error e => exact ⟨by simp [loopErrors, LocalScope.declare_kind hd], rfl⟩
  exact ⟨fun s => by rw [(run s).1, Jump.errors_nil, List.append_nil], fun s => (run s).2⟩

end Controls

/-- What only reports, reports nothing about loop control. -/
theorem Plain.controls {x : Check α} (h : Plain x) : Controls (fun _ => []) x := by
  induction h with
  | pure a => exact ⟨fun s => (List.append_nil _).symm, fun s => rfl⟩
  | bind _ _ hx hf => exact hx.bind hf
  | report v span hv =>
    refine ⟨fun s => ?_, fun s => rfl⟩
    show loopErrors (s.errors ++ [⟨v, span⟩]) = _
    simp [loopErrors, CheckError.kind, hv]
  | log event => exact ⟨fun s => (List.append_nil _).symm, fun s => rfl⟩
  | get _ _ hf => exact ⟨fun s => (hf s).errors s, fun s => (hf s).depth s⟩

/-- What only reports may come first. -/
theorem Plain.before {js : Nat → List Jump} {x : Check α} {f : α → Check β} (hx : Plain x)
    (hf : ∀ a, Controls js (f a)) : Controls js (x >>= f) :=
  hx.controls.bind hf

theorem Controls.forM {f : α → Check PUnit} (hf : ∀ a, Controls (fun _ => []) (f a)) :
    ∀ as : List α, Controls (fun _ => []) (as.forM f)
  | [] => (Plain.pure _).controls
  | a :: as => (hf a).bind fun _ => Controls.forM hf as

end Check

namespace Typing

open Check (Controls Plain)

variable (cx : CheckContext)

theorem checkDeclaration_controls (d : VarDecl) :
    Controls (fun _ => []) (checkDeclaration cx d) := by
  refine (resolveType_plain cx _ _).before fun declared => Controls.forM (fun v => ?_) d.vars
  have rest := Controls.declare v.name.name declared v.name.span
  unfold checkDeclarator
  dsimp only
  split
  · exact (checkStored_plain cx _ declared).before fun _ => rest
  · exact rest

theorem checkForInit_controls (init : Option ForInit) :
    Controls (fun _ => []) (checkForInit cx init) := by
  unfold checkForInit
  split
  · exact checkDeclaration_controls cx _
  · exact (Plain.forM (checkExpr_plain cx) _).controls
  · exact (Plain.pure _).controls

/-- A jump is reported outside of loops. -/
theorem requireLoop_controls {v : Violation} (hv : v.kind = .loopControl) (span : Span) :
    Controls (fun d => [⟨v, span, d⟩]) (requireLoop v span) := by
  have run : ∀ s : CheckState, (requireLoop v span s).2 =
      if s.loopDepth = 0 then { s with errors := s.errors ++ [⟨v, span⟩] } else s := by
    intro s
    show ((if s.loopDepth = 0 then Check.report v span else pure ()) s).2 = _
    split <;> rfl
  refine ⟨fun s => ?_, fun s => ?_⟩
  · rw [run]
    split
    · rename_i hd
      simp [loopErrors, Jump.errors, Jump.isStray, Jump.error, CheckError.kind, hv, hd]
    · rename_i hd
      simp [Jump.errors, Jump.isStray, hd]
  · rw [run]
    split <;> rfl

mutual

/-- **Checking reports the stray jumps of a statement.** -/
theorem checkStmt_controls : ∀ s : Stmt, Controls (fun d => s.jumps d) (checkStmt cx s)
  | .expr e span => by
    unfold checkStmt Stmt.jumps
    exact (checkExpr_plain cx e).controls
  | .declare d => by
    unfold checkStmt Stmt.jumps
    exact checkDeclaration_controls cx d
  | .block stmts span => by
    unfold checkStmt Stmt.jumps
    exact (checkStmts_controls stmts).inBlock
  | .ifElse condition yes no span => by
    unfold checkStmt Stmt.jumps
    exact (checkCondition_plain cx condition).before fun _ =>
      ((checkStmt_controls yes).inBranch yes).bind fun _ => checkElse_controls no
  | .whileLoop condition body span => by
    unfold checkStmt Stmt.jumps
    exact (checkCondition_plain cx condition).before fun _ => checkLoopBody_controls body
  | .doWhile body condition span => by
    unfold checkStmt Stmt.jumps
    have h := (checkLoopBody_controls body).bind fun _ =>
      (checkCondition_plain cx condition).controls
    simpa only [List.append_nil] using h
  | .forLoop init condition update body span => by
    unfold checkStmt Stmt.jumps
    have rest : Controls (fun d => body.jumps (d + 1)) (do
        update.forM (checkExpr cx)
        Check.inLoop (inBranch body (checkStmt cx body)) : Check Unit) :=
      (Plain.forM (checkExpr_plain cx) update).before fun _ => checkLoopBody_controls body
    refine ((checkForInit_controls cx init).bind fun _ => ?_).inBlock
    dsimp only
    split
    · exact (checkCondition_plain cx _).before fun _ => rest
    · exact rest
  | .foreach type var iterable body span => by
    unfold checkStmt Stmt.jumps
    exact (resolveType_plain cx _ _).before fun _ => (infer_plain cx iterable).before fun _ =>
      (requireElements_plain _ _ _ _).before fun _ =>
        ((Controls.declare _ _ _).bind fun _ => checkLoopBody_controls body).inBlock
  | .ret value span => by
    unfold checkStmt Stmt.jumps
    exact (checkReturn_plain cx value span).controls
  | .brk span => by
    unfold checkStmt Stmt.jumps
    exact requireLoop_controls rfl span
  | .cont span => by
    unfold checkStmt Stmt.jumps
    exact requireLoop_controls rfl span

theorem checkLoopBody_controls (body : Stmt) : Controls (fun d => body.jumps (d + 1))
    (Check.inLoop (inBranch body (checkStmt cx body))) :=
  ((checkStmt_controls body).inBranch body).inLoop

theorem checkElse_controls : ∀ s : Option Stmt,
    Controls (fun d => Stmt.jumpsElse d s) (checkElse cx s)
  | none => by
    unfold checkElse Stmt.jumpsElse
    exact (Plain.pure _).controls
  | some s => by
    unfold checkElse Stmt.jumpsElse
    exact (checkStmt_controls s).inBranch s

theorem checkStmts_controls : ∀ ss : List Stmt,
    Controls (fun d => Stmt.jumpsOf d ss) (checkStmts cx ss)
  | [] => by
    unfold checkStmts Stmt.jumpsOf
    exact (Plain.pure _).controls
  | s :: ss => by
    unfold checkStmts Stmt.jumpsOf
    exact (checkStmt_controls s).bind fun _ => checkStmts_controls ss

end

end Typing

/-! ## Running -/

/-- The flow after a `break` or a `continue` that no loop has taken. -/
def Flow.isJump : Flow → Bool
  | .brk | .cont => true
  | .normal | .ret _ => false

/-- What is wrong with the jump that a flow comes from, outside of loops. -/
def Flow.violation? : Flow → Option Violation
  | .brk => some .breakOutsideLoop
  | .cont => some .continueOutsideLoop
  | .normal | .ret _ => none

/-- The flow comes from a stray one among jumps, if it comes from a jump. -/
def Flow.StraysFrom (js : List Jump) (flow : Flow) : Prop :=
  ∀ v, flow.violation? = some v → ∃ j ∈ js, j.isStray = true ∧ j.violation = v

namespace Flow.StraysFrom

variable {js ks : List Jump} {flow : Flow}

theorem of_not_isJump (h : flow.isJump = false) : flow.StraysFrom js := by
  intro v hv
  cases flow with
  | normal | ret _ => cases hv
  | brk | cont => cases h

theorem mono (h : flow.StraysFrom js) (sub : js ⊆ ks) : flow.StraysFrom ks := fun v hv =>
  have ⟨j, hj, stray⟩ := h v hv
  ⟨j, sub hj, stray⟩

/-- Jumps that are not reported let none out. -/
theorem not_isJump (h : flow.StraysFrom js) (hjs : Jump.errors js = []) : flow.isJump = false := by
  have none_out : ∀ v, flow.violation? ≠ some v := by
    intro v hv
    obtain ⟨j, hj, stray, -⟩ := h v hv
    exact absurd stray (List.filter_eq_nil_iff.1 (List.map_eq_nil_iff.1 hjs) j hj)
  cases flow with
  | normal | ret _ => rfl
  | brk | cont => exact absurd rfl (none_out _)

end Flow.StraysFrom

namespace Run

variable {α β : Type} {P : α → Prop}

/-- Whatever `x` ends with is in `P`. -/
def Yields (P : α → Prop) (x : Run α) : Prop := ∀ m, x.Ends (fun a _ => P a) (fun _ _ => True) m

namespace Yields

theorem pure {a : α} (h : P a) : Yields P (Pure.pure a) := fun _ => h

theorem throw (r : Halt) : Yields P (MonadExcept.throw r : Run α) := fun _ => trivial

theorem bind {Q : β → Prop} {x : Run β} {f : β → Run α} (hx : Yields Q x)
    (hf : ∀ b, Q b → Yields P (f b)) : Yields P (x >>= f) := by
  intro m
  rw [ends_bind]
  exact (hx m).mono (fun b m' hb => hf b hb m') fun _ _ h => h

theorem mono {Q : α → Prop} {x : Run α} (h : Yields P x) (hPQ : ∀ a, P a → Q a) : Yields Q x :=
  fun m => (h m).mono (fun a _ => hPQ a) fun _ _ => id

/-- What comes first does not matter. -/
theorem after {x : Run β} {f : β → Run α} (hf : ∀ b, Yields P (f b)) : Yields P (x >>= f) := by
  refine bind (Q := fun _ => True) (fun m => ?_) fun b _ => hf b
  unfold Ends
  split <;> trivial

theorem inBlock {x : Run α} (h : Yields P x) : Yields P (Run.inBlock x) := by
  intro m
  rw [ends_inBlock]
  split
  · exact h _
  · trivial

end Yields

end Run

open Run (Yields)

/-- Loops take all jumps, and statements end with none but their own stray ones. -/
structure Calls.Contains (calls : Calls) : Prop where
  exec : ∀ s : Stmt, Yields (·.StraysFrom (s.jumps 0)) (calls.exec s)
  iterate : ∀ l, Yields (·.isJump = false) (calls.iterate l)

namespace Calls

variable {calls : Calls}

/-- A pass of a loop takes the jumps of the body, stray or not. -/
theorem execBody_yields (body : Stmt) :
    Yields (fun r => ∀ flow, r = some flow → flow.isJump = false) (calls.execBody body) := by
  refine Yields.after fun flow => ?_
  split
  · exact Yields.pure fun _ h => by cases h; rfl
  · exact Yields.pure fun _ h => by cases h; rfl
  · exact Yields.pure nofun
  · exact Yields.pure nofun

theorem execEach_yields (name : String) (body : Stmt) :
    ∀ vs : List Value, Yields (·.isJump = false) (calls.execEach name body vs)
  | [] => Yields.pure rfl
  | v :: vs => by
    refine Yields.bind (Yields.inBlock (Yields.after fun _ => execBody_yields body)) fun r hr => ?_
    split
    · exact Yields.pure (hr _ rfl)
    · exact execEach_yields name body vs

section

variable (h : calls.Contains)
include h

theorem stepIterate_yields (l : Loop) : Yields (·.isJump = false) (calls.stepIterate l) := by
  have pass : ∀ go : Bool, Yields (·.isJump = false) (calls.pass l go) := by
    intro go
    cases go with
    | false => exact Yields.pure rfl
    | true =>
      refine Yields.bind (execBody_yields l.body) fun r hr => ?_
      cases r with
      | some flow => exact Yields.pure (hr flow rfl)
      | none => exact Yields.after fun _ => h.iterate l
  cases hc : l.condition with
  | some e =>
    rw [stepIterate_of_some calls hc]
    exact Yields.after pass
  | none =>
    rw [stepIterate_of_none calls hc]
    exact pass true

theorem execAll_strays : ∀ ss : List Stmt,
    Yields (·.StraysFrom (Stmt.jumpsOf 0 ss)) (calls.execAll ss)
  | [] => Yields.pure (.of_not_isJump rfl)
  | s :: ss => by
    rw [Stmt.jumpsOf]
    refine Yields.bind (h.exec s) fun flow hflow => ?_
    split
    · exact (execAll_strays ss).mono fun _ h => h.mono (List.subset_append_right _ _)
    · exact Yields.pure (hflow.mono (List.subset_append_left _ _))

theorem execAll_yields {ss : List Stmt} (hs : Jump.errors (Stmt.jumpsOf 0 ss) = []) :
    Yields (·.isJump = false) (calls.execAll ss) :=
  (execAll_strays h ss).mono fun _ h => h.not_isJump hs

theorem stepExec_strays (s : Stmt) : Yields (·.StraysFrom (s.jumps 0)) (calls.stepExec s) := by
  -- what loops end with is no jump at all
  have loop : ∀ {js : List Jump} {x : Run Flow}, Yields (·.isJump = false) x →
      Yields (·.StraysFrom js) x := fun hx => hx.mono fun _ => .of_not_isJump
  cases s with
  | expr e span => exact loop (.after fun _ => .pure rfl)
  | declare d => exact loop (.after fun _ => .pure rfl)
  | block stmts span =>
    rw [Stmt.jumps]
    exact (execAll_strays h stmts).inBlock
  | ifElse condition yes no span =>
    rw [Stmt.jumps]
    refine Yields.after fun b => ?_
    split
    · exact (h.exec yes).inBlock.mono fun _ h => h.mono (List.subset_append_left _ _)
    · cases no with
      | some s =>
        rw [Stmt.jumpsElse]
        exact (h.exec s).inBlock.mono fun _ h => h.mono (List.subset_append_right _ _)
      | none => exact loop (.pure rfl)
  | whileLoop condition body span => exact loop (h.iterate _)
  | doWhile body condition span =>
    refine loop (Yields.bind (execBody_yields body) fun r hr => ?_)
    split
    · exact Yields.pure (hr _ rfl)
    · exact h.iterate _
  | forLoop init condition update body span =>
    exact loop (Yields.inBlock (Yields.after fun _ => h.iterate _))
  | foreach type var iterable body span =>
    refine loop (Yields.after fun v => ?_)
    cases v with
    | null => exact Yields.throw _
    | object id => exact Yields.after fun _ => Yields.after fun _ => execEach_yields _ _ _
  | ret value span =>
    cases value with
    | some e => exact loop (.after fun _ => .pure rfl)
    | none => exact loop (.pure rfl)
  | brk span | cont span =>
    refine Yields.pure fun v hv => ?_
    cases hv
    simp [Stmt.jumps, Jump.isStray]

end

/-- **Loops take all jumps.** Whatever a run does, only a stray jump leaves a statement. -/
theorem withFuel_contains (env : Env) : ∀ n, (withFuel env n).Contains
  | 0 => ⟨fun _ => Yields.throw _, fun _ => Yields.throw _⟩
  | n + 1 => by
    have ih := withFuel_contains env n
    exact ⟨stepExec_strays ih, stepIterate_yields ih⟩

end Calls

/-! ## Checking and running -/

/-- **Loop control is checked exactly, and never escapes.** Outside of loops, checking a body
reports about loop control one error for each `break` or `continue` that has no loop of the body
around it, in order. If there is none, executing the body, in any state, ends with neither. -/
theorem loop_control_exact (cx : CheckContext) (body : List Stmt) {s : CheckState}
    (hs : s.loopDepth = 0) :
    ∃ reported, (Typing.checkStmts cx body s).2.errors = s.errors ++ reported ∧
      loopErrors reported = ((Stmt.jumpsOf 0 body).filter fun j => j.loops = 0).map Jump.error ∧
      (loopErrors reported = [] → ∀ env fuel m flow m',
        (Calls.withFuel env fuel).execAll body m = .ok flow m' → flow ≠ .brk ∧ flow ≠ .cont) := by
  obtain ⟨reported, hadds⟩ := (Typing.checkStmts_nested cx body).errors s
  have herrors := (Typing.checkStmts_controls cx body).errors s
  rw [← hadds, loopErrors_append, List.append_cancel_left_eq, hs] at herrors
  refine ⟨reported, hadds.symm, herrors, ?_⟩
  intro hnone env fuel m flow m' hrun
  have hflow := (Calls.execAll_yields (Calls.withFuel_contains env fuel)
    (herrors.symm.trans hnone) m).ok hrun
  exact ⟨fun h => by simp [h, Flow.isJump] at hflow, fun h => by simp [h, Flow.isJump] at hflow⟩

/-- `while (true) { if (true) break; }` -/
def leftLoop : Stmt :=
  let yes : Expr := .literal (.boolean true) .unknown
  .whileLoop yes (.block [.ifElse yes (.brk .unknown) none .unknown] .unknown) .unknown

/-- A loop that is left is not reported, and a stray `continue` after it is. The loop alone runs to
its end. -/
theorem loop_control_exact_left : ∃ cx : CheckContext,
    (∃ reported,
      (Typing.checkStmts cx [leftLoop, .block [.cont .unknown] .unknown] {}).2.errors = reported ∧
        loopErrors reported = [⟨.continueOutsideLoop, .unknown⟩]) ∧
    ∃ env m flow m', Env.make cx.classes none {} ⟨2024, 1, 1⟩ 16 = .ok env ∧
      (Calls.withFuel env 10).execAll [leftLoop] m = .ok flow m' ∧ flow ≠ .brk ∧ flow ≠ .cont := by
  refine ⟨⟨.initial, default, some .void, true⟩, ?_, ?_⟩
  · obtain ⟨reported, hadds, herrors, -⟩ := loop_control_exact ⟨.initial, default, some .void, true⟩
      [leftLoop, .block [.cont .unknown] .unknown] (s := {}) rfl
    exact ⟨reported, hadds, herrors⟩
  · obtain ⟨env, flow, m', henv, hrun⟩ : ∃ env flow m',
        Env.make .initial none {} ⟨2024, 1, 1⟩ 16 = .ok env ∧
        (Calls.withFuel env 10).execAll [leftLoop]
          { Machine.start {} with frames := [Frame.make default none] } = .ok flow m' :=
      ⟨_, _, _, rfl, rfl⟩
    obtain ⟨reported, -, herrors, hends⟩ := loop_control_exact
      ⟨.initial, default, some .void, true⟩ [leftLoop] (s := {}) rfl
    exact ⟨env, _, flow, m', henv, hrun, hends herrors env 10 _ flow m' hrun⟩

end ClassScript
