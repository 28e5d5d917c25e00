import ClassScript.Proofs.Misuse.Runs
import ClassScript.Proofs.Typing.Unknown

/-!
# What is written to

An assignment, an increment and a decrement write to a name, a member or an element. The rule for
assignments looks at the target before anything else. The rule for increments and decrements looks
at the type of the operand first, and stays silent if there is none; so checking lets an operand
pass that is no place, if its type is unknown.

`targets_assignable_unless_untyped`: this is the only way in which a run of checked classes can come
to a target that cannot be assigned to. `checked_step_not_assignable`: it does happen.
-/

namespace ClassScript

open Typing (Checks denote)

/-! ## Targets that checking lets pass -/

/-- The operand of an increment or a decrement. -/
def Expr.stepped? : Expr → Option Expr
  | .unary op operand _ => if op.mutates then some operand else none
  | .post _ operand _ => some operand
  | _ => none

theorem Expr.target?_of_stepped? {e x : Expr} (h : e.stepped? = some x) : e.target? = some x := by
  cases e with
  | unary op operand span => exact h
  | post op operand span => exact h
  | _ => cases h

/-- `e` increments or decrements `x`. Nothing is reported about `x`, but it has no type, and
checking comes to a reason inside it. -/
structure Expr.StepsUntyped (cx : CheckContext) (e x : Expr) (s : CheckState) : Prop where
  step : e.stepped? = some x
  clean : Check.Clean (denote cx .value x) s
  untyped : (denote cx .value x s).1.type? = none
  reason : Typing.Reaches cx .value x s

namespace Typing

open Check (Clean Quiet)

variable {t : ClassTable} {cx : CheckContext} {role : Role} {e x : Expr} {s : CheckState}

/-- Both forms of a step check the operand, then apply the rule. -/
theorem denote_stepped (cx : CheckContext) (role : Role) (hx : e.stepped? = some x) :
    ∃ span, denote cx role e =
      (do let t ← denote cx .value x
          typed (stepType x t.type? span)) := by
  cases e with
  | unary op operand span =>
    rw [Expr.stepped?] at hx
    split at hx
    · rename_i hop
      cases hx
      refine ⟨span, ?_⟩
      rw [denote]
      simp only [hop, ↓reduceIte]
      rfl
    · cases hx
  | post op operand span =>
    cases hx
    refine ⟨span, ?_⟩
    rw [denote]
    rfl
  | _ => cases hx

theorem clean_step (hx : e.stepped? = some x) (h : Clean (denote cx role e) s) :
    Clean (denote cx .value x) s ∧
      ((denote cx .value x s).1.type? = none ∨ x.isAssignable = true) := by
  obtain ⟨span, heq⟩ := denote_stepped cx role hx
  rw [heq] at h
  obtain ⟨hclean, hrule⟩ := h.seq (denote_quiet cx .value x) fun _ =>
    typed_quiet (stepType_quiet _ _ _)
  refine ⟨hclean, ?_⟩
  exact (stepType_clean (hrule.left (stepType_quiet _ _ _) fun _ => Quiet.pure _)).imp_right
    fun h => h.1

theorem Checks.assign_target {op : AssignOp} {target value : Expr} {span : Span}
    (h : Checks t cx (.expr role (.assign op target value span)) s) :
    target.isAssignable = true := by
  cases ha : target.isAssignable with
  | true => rfl
  | false =>
    have hs : Clean (denote cx role (.assign op target value span)) s := h.clean
    unfold denote at hs
    simp only [ha, Bool.false_eq_true, ↓reduceIte] at hs
    exact (hs.report_bind fun _ => (denote_quiet cx .value value).bind fun _ => Quiet.pure _).elim

/-- A checked target can be assigned to, or it is a step of an expression without a type. -/
theorem Checks.target (hg : ∀ c, t.Has c → c.Grouped) (h : Checks t cx (.expr role e) s)
    (hx : e.target? = some x) : x.isAssignable = true ∨ e.StepsUntyped cx x s := by
  have stepped : e.stepped? = some x → x.isAssignable = true ∨ e.StepsUntyped cx x s := by
    intro hstep
    obtain ⟨hclean, hn | ha⟩ := clean_step hstep h.clean
    · refine .inr ⟨hstep, hclean, hn, ?_⟩
      exact reaches_of_unexplained (h.classes ▸ hg) (h.classes ▸ h.has)
        ⟨hclean, denote_value_none hn⟩
    · exact .inl ha
  cases e with
  | assign op target value span =>
    cases hx
    exact .inl h.assign_target
  | unary op operand span => exact stepped hx
  | post op operand span => exact stepped hx
  | _ => cases hx

end Typing

/-! ## Runs -/

/-- **Only a step of an expression without a type can miss its target.** Take classes that are
registered and checked without an error, and run any entry method of theirs, on a new machine or
after other entry methods. The target of every assignment that the run comes to is a name, a member
or an element. So is the operand of every increment and decrement that it comes to, unless checking
found no type for it. The run ends in a fault for a target that is not assignable only at such an
operand. -/
theorem targets_assignable_unless_untyped {decls : List ClassDecl} {query : Option QueryService}
    {credentials : Credentials} {today : Date} {maxDepth : Nat} {env : Env}
    (hcheck : (Typing.checkTable (Registration.registerAll .initial decls).table).1 = [])
    (henv : Env.make (Registration.registerAll .initial decls).table query credentials today
      maxDepth = .ok env)
    (sink : Sink) (entries : List (Nat × EntryPoint)) (fuel : Nat) (className method : String) :
    let start := (Machine.start sink).afterEntries env entries
    (∀ op target value span m,
      Machine.Evaluates env fuel className method start (.assign op target value span) m →
      target.isAssignable = true) ∧
    (∀ e x m, Machine.Evaluates env fuel className method start e m → e.stepped? = some x →
      x.isAssignable = true ∨ ∃ cx role s, Checks env.classes cx (.expr role e) s ∧
        m.At env.classes cx s.scope ∧ e.StepsUntyped cx x s) ∧
    ∀ span m, Machine.runEntry env fuel className method start =
        .error (.fault (.notAssignable span)) m →
      ∃ cx role e x s, Checks env.classes cx (.expr role e) s ∧ e.StepsUntyped cx x s ∧
        x.isAssignable = false ∧ x.span = span := by
  intro start
  obtain ⟨he, hclasses⟩ := Env.make_checked hcheck henv
  have hb : start.world.heap.Belongs env.classes :=
    Machine.afterEntries_belongs he entries (Heap.belongs_empty _)
  have hgrouped : ∀ c, env.classes.Has c → c.Grouped := by
    rw [hclasses]
    exact fun c hc => hc.grouped
  refine ⟨?_, ?_, ?_⟩
  · intro op target value span m hev
    obtain ⟨cx, role, s, hc, -⟩ := hev.site he hb
    exact hc.assign_target
  · intro e x m hev hx
    obtain ⟨cx, role, s, hc, hm⟩ := hev.site he hb
    rcases hc.target hgrouped (Expr.target?_of_stepped? hx) with ha | hu
    · exact .inl ha
    · exact .inr ⟨cx, role, s, hc, hm, hu⟩
  · intro span m hrun
    obtain ⟨cx, role, e, s, c, hc, -, -, hmis⟩ :=
      (Machine.checked_runEntry_traces hcheck henv sink entries fuel className method).error hrun
        (.notAssignable span) rfl fun h => h
    cases hmis with
    | target hx ha =>
      rcases hc.target hgrouped hx with ha' | hu
      · rw [ha] at ha'
        cases ha'
      · exact ⟨cx, role, e, _, s, hc, hu, ha, rfl⟩

/-! ### A step of an element without a type -/

/-- A class whose method increments `new List().get(0)`. -/
def rawStep : List ClassDecl :=
  let action : MethodDecl := ⟨.union .pub .static, none, ⟨"action", .unknown⟩, [],
    some [.expr (.post .inc rawElement .unknown) .unknown], .unknown⟩
  [⟨.none, [], ⟨"Main", .unknown⟩, none, [], [.method action], .unknown⟩]

theorem rawStep_checked :
    (Typing.checkTable (Registration.registerAll .initial rawStep).table).1 = [] :=
  List.isEmpty_iff.1 (by decide +kernel)

theorem rawStep_halts : ∃ env m,
    Env.make (Registration.registerAll .initial rawStep).table none {} ⟨2024, 1, 1⟩ 16 = .ok env ∧
    Machine.runEntry env 10 "Main" "action" (.start {}) =
      .error (.fault (.notAssignable .unknown)) m :=
  ⟨_, _, rfl, rfl⟩

/-- Checked classes may run into a target that is not assignable. -/
theorem checked_step_not_assignable : ¬ ∀ (decls : List ClassDecl) (env : Env) (fuel : Nat)
    (className method : String) (span : Span) (m : Machine),
    (Typing.checkTable (Registration.registerAll .initial decls).table).1 = [] →
    Env.make (Registration.registerAll .initial decls).table none {} ⟨2024, 1, 1⟩ 16 = .ok env →
    Machine.runEntry env fuel className method (.start {}) ≠
      .error (.fault (.notAssignable span)) m := by
  intro h
  obtain ⟨env, m, henv, hrun⟩ := rawStep_halts
  exact h rawStep env 10 "Main" "action" .unknown m rawStep_checked henv hrun

/-- The run faults, so it came to a step of an expression without a type. -/
theorem targets_assignable_unless_untyped_element : ∃ env cx role e x s,
    Env.make (Registration.registerAll .initial rawStep).table none {} ⟨2024, 1, 1⟩ 16 = .ok env ∧
    Checks env.classes cx (.expr role e) s ∧ e.StepsUntyped cx x s ∧ x.isAssignable = false := by
  obtain ⟨env, m, henv, hrun⟩ := rawStep_halts
  obtain ⟨cx, role, e, x, s, hc, hu, ha, -⟩ := (targets_assignable_unless_untyped rawStep_checked
    henv {} [] 10 "Main" "action").2.2 .unknown m hrun
  exact ⟨env, cx, role, e, x, s, henv, hc, hu, ha⟩

end ClassScript
