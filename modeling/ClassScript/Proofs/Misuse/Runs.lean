import ClassScript.Proofs.Misuse.Trace

/-!
# Runs trace their misuses

One lemma for each step of evaluation and execution: it halts for traced reasons only
(`Run.Traces`), over calls that do. Three steps can misuse an expression: `this`, a call without a
receiver, and the resolution of a target. By induction on the fuel all of evaluation traces
(`Calls.withFuel_traces`), and so does every run (`Machine.runEntry_traces`).
-/

namespace ClassScript

open Run (Balanced Steady Safe Tame Traces)
open Typing (Checks Code)

/-- A checked expression that is misused where the machine is. -/
theorem Machine.On.misused {t : ClassTable} {cx : CheckContext} {scope : LocalScope} {m : Machine}
    (hm : m.On t cx scope) {e : Expr} (hx : ExprAt t cx scope e) {error : RuntimeError}
    (h : ∀ f fs, m.frames = f :: fs → e.Misuses t cx f.cls error) :
    (Halt.fault error).Traced t := by
  obtain ⟨role, s, hc, -⟩ := hx
  obtain ⟨f, fs, hf, hr⟩ := hm.frame
  intro _ heq _
  cases heq
  exact ⟨cx, role, e, s, f.cls, hc, hr.cls, hr.code, h f fs hf⟩

namespace Calls

variable {env : Env} {calls : Calls} {m : Machine} {cx : CheckContext} {scope : LocalScope}

section

variable (he : env.Checked) (hsort : ∀ c, env.classes.Has c → c.Sorted)
  (h : calls.Follows env.classes) (ht : calls.AllTrace env.classes)
  (hm : m.On env.classes cx scope)

/-! ## Places -/

section

include ht hm

theorem memberPlace_traces {object : Expr} (ho : ExprAt env.classes cx scope object) (name : String)
    (span : Span) : Traces env.classes (calls.memberPlace env object name span) m := by
  refine Traces.get_bind ?_
  split
  · exact (staticPlace_tame _ name).traces
  · refine (ht.eval ho hm).tame fun v => ?_
    cases v with
    | null => exact Tame.fault trivial
    | object id =>
      refine Tame.heap.bind fun heap => ?_
      split
      · exact Tame.pure _
      · exact staticPlace_tame _ name

include h

theorem indexPlace_traces {object key : Expr} (ho : ExprAt env.classes cx scope object)
    (hk : ExprAt env.classes cx scope key) (span : Span) :
    Traces env.classes (calls.indexPlace object key span) m := by
  refine eval_bind_traces h ht ho hm fun v m₁ hm₁ _ => (ht.eval hk hm₁).tame fun k => ?_
  cases v with
  | null => exact Tame.fault trivial
  | object id =>
    refine Tame.heap.bind fun heap => ?_
    split
    · exact (Tame.ofExcept (listSlot_faults _ _ _ _ _)).bind fun _ => Tame.pure _
    · exact Tame.pure _
    · exact Tame.fault trivial

/-- Resolving an expression that is no place is a misuse. -/
theorem place_traces {x : Expr} (hx : ExprAt env.classes cx scope x)
    (hmis : x.isAssignable = false → (Halt.fault (.notAssignable x.span)).Traced env.classes) :
    Traces env.classes (calls.place env x) m := by
  cases x with
  | name i => exact (namePlace_tame i.name).traces
  | member object i span =>
    exact memberPlace_traces ht hm (hx.operand (by simp [Expr.operands])) i.name span
  | index object key span =>
    exact indexPlace_traces h ht hm (hx.operand (by simp [Expr.operands]))
      (hx.operand (by simp [Expr.operands])) span
  | literal _ _ | this _ | call _ _ _ | callOn _ _ _ _ | create _ _ _ | binary _ _ _ _
  | unary _ _ _ | post _ _ _ | assign _ _ _ _ | conditional _ _ _ _ | query _ _ => exact hmis rfl

end

section

include he hsort h ht hm

theorem load_traces {p : Place} (hp : p.Ok env.classes m.world.heap) :
    Traces env.classes (calls.load env p) m := by
  cases p with
  | var name =>
    refine (Tame.frame.bind fun f => ?_).traces
    split
    · exact Tame.pure _
    · exact Tame.fault trivial
  | field id name => exact (Tame.heap.bind fun _ => Tame.pure _).traces
  | static c name =>
    exact (readStatic_traces he hsort h ht hm.heap hp name).tame fun _ => Tame.pure _
  | slot id i span =>
    exact (Tame.heap.bind fun _ => (Tame.ofNative _).bind fun _ => Tame.pure _).traces
  | entry id key =>
    exact (Tame.heap.bind fun _ => (Tame.ofNative _).bind fun _ => (Tame.ofNative _).bind fun _ =>
      Tame.pure _).traces

theorem store_traces (v : Value) {p : Place} (hp : p.Ok env.classes m.world.heap) :
    Traces env.classes (calls.store env v p) m := by
  cases p with
  | var name =>
    refine (Tame.frame.bind fun f => ?_).traces
    split
    · exact Tame.modifyFrame _
    · exact Tame.fault trivial
  | field id name =>
    unfold store
    exact (Tame.native _).traces
  | static c name => exact writeStatic_traces he hsort h ht hm.heap hp name v
  | slot id i span =>
    refine (Tame.heap.bind fun _ => (Tame.ofNative _).bind fun items => ?_).traces
    split
    · exact Tame.native _
    · exact Tame.fault trivial
  | entry id key =>
    exact (Tame.heap.bind fun _ => (Tame.ofNative _).bind fun _ => (Tame.ofNative _).bind fun _ =>
      Tame.native _).traces

end

/-! ## Expressions -/

section

include hm

/-- Without a receiver the code is static, and `this` is misused. -/
theorem evalThis_traces {span : Span} (hx : ExprAt env.classes cx scope (.this span)) :
    Traces env.classes (evalThis span) m := by
  obtain ⟨f, fs, hf, -⟩ := hm.frame
  refine Traces.frame_bind hf ?_
  split
  · exact (Tame.pure _).traces
  · rename_i hthis
    refine hm.misused hx fun g gs hg => ?_
    rw [hf] at hg
    cases hg
    exact .this (hm.suits f fs hf hthis)

theorem implicitTarget_traces {method : Ident} {args : List Expr} {span : Span}
    (hx : ExprAt env.classes cx scope (.call method args span)) :
    Traces env.classes (implicitTarget env method.name) m := by
  obtain ⟨f, fs, hf, -⟩ := hm.frame
  refine Traces.frame_bind hf ?_
  split
  · refine (Tame.heap.bind fun heap => ?_).traces
    dsimp only
    split <;> exact Tame.pure _
  · rename_i hthis
    split
    · rename_i hnone
      rw [Bool.and_eq_true, Option.isNone_iff_eq_none] at hnone
      refine hm.misused hx fun g gs hg => ?_
      rw [hf] at hg
      cases hg
      exact .call (hm.suits f fs hf hthis) hnone.1 hnone.2
    · exact (Tame.pure _).traces

include ht

theorem explicitTarget_traces {receiver : Expr} (hx : ExprAt env.classes cx scope receiver) :
    Traces env.classes (calls.explicitTarget env receiver) m := by
  refine Traces.get_bind ?_
  split
  · exact (Tame.pure _).traces
  · refine (ht.eval hx hm).tame fun v => ?_
    cases v with
    | object id => exact Tame.pure _
    | null => exact Tame.fault trivial

include h

theorem evalLogical_traces (op : BinaryOp) {left right : Expr}
    (hl : ExprAt env.classes cx scope left) (hr : ExprAt env.classes cx scope right) :
    Traces env.classes (calls.evalLogical env op left right) m := by
  refine evalCondition_bind_traces h ht hm hl fun l m₁ hm₁ => ?_
  split
  · exact (constant_tame _).traces
  · exact (evalCondition_traces ht hm₁ hr).tame fun _ => constant_tame _

end

section

include he hsort h ht hm

theorem evalName_traces (name : String) : Traces env.classes (calls.evalName env name) m := by
  obtain ⟨f, fs, hf, hr⟩ := hm.frame
  refine Traces.frame_bind hf ?_
  split
  · exact (Tame.pure _).traces
  · refine Traces.heap_bind ?_
    split
    · exact (Tame.pure _).traces
    · refine (readStatic_traces he hsort h ht hm.heap hr.cls name).tame fun found => ?_
      split
      · exact Tame.pure _
      · exact Tame.fault trivial

theorem callTarget_traces {target : Target} (htarget : target.Ok env.classes) (name : String)
    (args : List Value) : Traces env.classes (calls.callTarget env target name args) m := by
  match target with
  | .static c =>
    exact (callStatic_traces he hsort h ht hm.heap htarget name args).tame fun _ => Tame.pure _
  | .instance id =>
    exact (callInstance_traces he h ht hm.heap id name args).tame fun _ => Tame.pure _

theorem evalCreate_traces (type : DataType) {args : List Expr}
    (hargs : ∀ e ∈ args, ExprAt env.classes cx scope e) :
    Traces env.classes (calls.evalCreate env type args) m := by
  refine Traces.get_bind ?_
  split
  · exact Traces.fault trivial
  · rename_i c hc
    refine evalAll_bind_traces h ht hm hargs fun vs m₁ hm₁ => ?_
    exact (instantiate_traces he hsort h ht hm₁.heap (hm.toAt.lookupClass?_has hc) _ vs).tame
      fun _ => Tame.pure _

section

variable {e target : Expr} (hx : ExprAt env.classes cx scope e) (htarget : e.target? = some target)
include hx htarget

omit he hsort in
/-- A target that is resolved, with what follows at its place. -/
theorem target_bind_traces {α : Type} {f : Place → Run α}
    (hf : ∀ p m', m'.On env.classes cx scope → p.Ok env.classes m'.world.heap →
      Traces env.classes (f p) m') : Traces env.classes (calls.place env target >>= f) m := by
  have hop := hx.operand (Expr.target?_mem htarget)
  refine (place_traces h ht hm hop fun hna => ?_).bind (place_safe h hm.toAt hop)
    (place_steady env h.steady target) fun p m₁ hb hev hk hp => hf p m₁ (hm.keeps hk hb hev) hp.2
  exact hm.misused hx fun _ _ _ => .target htarget hna

theorem evalStep_traces (up : Bool) (span : Span) :
    Traces env.classes (calls.evalStep env target up span) m := by
  refine target_bind_traces h ht hm hx htarget fun p m₁ hm₁ hp => ?_
  refine (load_traces he hsort h ht hm₁ hp).bind (load_safe he h hm₁.toAt hp)
    (load_steady env h.steady p) fun before m₂ hb₂ he₂ hk₂ _ => Traces.heap_bind ?_
  have hm₂ := hm₁.keeps hk₂ hb₂ he₂
  have hstep := Operator.step_faults m₂.world.heap before up span
  refine (Tame.ofExcept hstep).traces.bind (Safe.ofExcept hb₂ hstep)
    ((Balanced.ofExcept hstep).steady []) fun l m₃ _ _ _ hl => ?_
  subst hl
  refine (constant_tame l).traces.bind (constant_safe he hm₂.toAt l)
    ((constant_balanced env l).steady []) fun after m₄ hb₄ he₄ hk₄ _ => ?_
  have hp₄ := (hp.evolves he₂).evolves he₄
  exact (store_traces he hsort h ht (hm₂.keeps hk₄ hb₄ he₄) after hp₄).tame fun _ => Tame.pure _

end

theorem evalUnary_traces {op : UnaryOp} {operand : Expr} {span : Span}
    (hx : ExprAt env.classes cx scope (.unary op operand span)) :
    Traces env.classes (calls.evalUnary env op operand span) m := by
  have hop : ExprAt env.classes cx scope operand := hx.operand List.mem_cons_self
  cases op with
  | plus => exact ht.eval hop hm
  | neg =>
    exact (ht.eval hop hm).tame fun _ => Tame.heap.bind fun _ =>
      (Tame.ofExcept (Operator.negate_faults _ _ _)).bind fun _ => constant_tame _
  | not =>
    exact (ht.eval hop hm).tame fun _ => Tame.heap.bind fun _ =>
      (Tame.ofExcept (Operator.truth_faults _ _ _)).bind fun _ => constant_tame _
  | inc | dec => exact (evalStep_traces he hsort h ht hm hx rfl _ span).tame fun _ => Tame.pure _

theorem evalAssign_traces {op : AssignOp} {target value : Expr} {span : Span}
    (hx : ExprAt env.classes cx scope (.assign op target value span)) :
    Traces env.classes (calls.evalAssign env op target value span) m := by
  have hv : ExprAt env.classes cx scope value := hx.operand (by simp [Expr.operands])
  refine target_bind_traces h ht hm hx rfl fun p m₁ hm₁ hp => ?_
  have rest : ∀ {v : Value} {m₂ : Machine}, m₂.On env.classes cx scope →
      m₁.world.heap.Evolves env.classes m₂.world.heap →
      Traces env.classes (do calls.store env v p; pure v : Run Value) m₂ := fun hm₂ he₂ =>
    (store_traces he hsort h ht hm₂ _ (hp.evolves he₂)).tame fun _ => Tame.pure _
  dsimp only
  split
  · exact eval_bind_traces h ht hv hm₁ fun v m₂ hm₂ he₂ => rest hm₂ he₂
  · rename_i bop _
    refine (load_traces he hsort h ht hm₁ hp).bind (load_safe he h hm₁.toAt hp)
      (load_steady env h.steady p) fun before m₂ hb₂ he₂ hk₂ _ => ?_
    have hm₂ := hm₁.keeps hk₂ hb₂ he₂
    refine eval_bind_traces h ht hv hm₂ fun operand m₃ hm₃ he₃ => ?_
    refine (applyBinary_tame bop before operand span).traces.bind
      (applyBinary_safe he hm₃.toAt bop before operand span)
      ((applyBinary_balanced env bop before operand span).steady [])
      fun v m₄ hb₄ he₄ hk₄ _ => ?_
    exact rest (hm₃.keeps hk₄ hb₄ he₄) ((he₂.trans he₃).trans he₄)

/-- A checked expression halts for traced reasons. -/
theorem stepEval_traces {e : Expr} (hx : ExprAt env.classes cx scope e) :
    Traces env.classes (calls.stepEval env e) m := by
  have part : ∀ {p : Expr}, p ∈ e.operands → ExprAt env.classes cx scope p := fun hp =>
    hx.operand hp
  have place : e.isAssignable = true →
      Traces env.classes (do calls.load env (← calls.place env e)) m := by
    intro ha
    refine (place_traces h ht hm hx fun hna => ?_).bind (place_safe h hm.toAt hx)
      (place_steady env h.steady e) fun p m₁ hb hev hk hp =>
        load_traces he hsort h ht (hm.keeps hk hb hev) hp.2
    rw [ha] at hna
    cases hna
  cases e with
  | literal value span => exact (constant_tame value).traces
  | name i => exact evalName_traces he hsort h ht hm i.name
  | this span => exact evalThis_traces hm hx
  | member object i span => exact place rfl
  | index object key span => exact place rfl
  | call method args span =>
    refine (implicitTarget_traces hm hx).bind (implicitTarget_safe hm.toAt method.name)
      (implicitTarget_steady env method.name) fun target m₁ hb₁ he₁ hk₁ htarget => ?_
    refine evalAll_bind_traces h ht (hm.keeps hk₁ hb₁ he₁) (fun _ hp => part hp)
      fun vs m₂ hm₂ => ?_
    exact callTarget_traces he hsort h ht hm₂ htarget.2 method.name vs
  | callOn receiver method args span =>
    have hr := part (List.mem_cons_self : receiver ∈ receiver :: args)
    refine (explicitTarget_traces ht hm hr).bind (explicitTarget_safe h hm.toAt hr)
      (explicitTarget_steady env h.steady receiver) fun target m₁ hb₁ he₁ hk₁ htarget => ?_
    refine evalAll_bind_traces h ht (hm.keeps hk₁ hb₁ he₁)
      (fun _ hp => part (List.mem_cons_of_mem _ hp)) fun vs m₂ hm₂ => ?_
    exact callTarget_traces he hsort h ht hm₂ htarget.2 method.name vs
  | create type args span =>
    exact evalCreate_traces he hsort h ht hm type.dataType fun _ hp => part hp
  | binary op left right span =>
    have hl : ExprAt env.classes cx scope left := part (by simp [Expr.operands])
    have hr : ExprAt env.classes cx scope right := part (by simp [Expr.operands])
    simp only [stepEval]
    split
    · exact evalLogical_traces h ht hm op hl hr
    · exact eval_bind_traces h ht hl hm fun l m₁ hm₁ _ => (ht.eval hr hm₁).tame fun r =>
        applyBinary_tame op l r span
  | unary op operand span => exact evalUnary_traces he hsort h ht hm hx
  | post op operand span =>
    exact (evalStep_traces he hsort h ht hm hx rfl _ span).tame fun _ => Tame.pure _
  | assign op target value span => exact evalAssign_traces he hsort h ht hm hx
  | conditional condition yes no span =>
    refine evalCondition_bind_traces h ht hm (part (by simp [Expr.operands])) fun b m₁ hm₁ => ?_
    split
    · exact ht.eval (part (by simp [Expr.operands])) hm₁
    · exact ht.eval (part (by simp [Expr.operands])) hm₁
  | query text span => exact (Tame.native _).traces

end

end

/-! ## Statements -/

section

variable {t : ClassTable} (h : calls.Follows t) (ht : calls.AllTrace t)
include h ht

theorem declareVars_traces {declared : Option DataType} : ∀ {vs : List Declarator} {s : CheckState}
    {m : Machine}, Checks t cx (.vars declared vs) s → m.On t cx s.scope →
    Traces t (calls.declareVars vs) m
  | [], _, _, _, _ => (Tame.pure _).traces
  | v :: vs, s, m, hc, hm => by
    have hvs : Checks t cx (.vars declared vs) (Typing.checkDeclarator cx declared v s).2 :=
      .part hc (List.mem_append_right _ List.mem_cons_self)
    have declare : ∀ (value : Value) {m₁ : Machine}, m₁.On t cx s.scope →
        Traces t (do Run.modifyFrame (·.declare v.name.name value); calls.declareVars vs) m₁ := by
      intro value m₁ hm₁
      refine (Tame.modifyFrame _).traces.bind (declare_safe hc hm₁.toAt)
        (Steady.modifyFrame fun f => f.keeps_declare v.name.name value) fun _ m₂ _ _ hk₂ hm₂ => ?_
      exact declareVars_traces hvs ⟨hm₂, hm₁.suits.keeps hk₂⟩
    unfold declareVars
    split
    · rename_i e hi
      have hx : ExprAt t cx s.scope e := exprAt_part hc (by simp [Code.parts, hi]) fun _ => rfl
      exact eval_bind_traces h ht hx hm fun value m₁ hm₁ _ => declare value hm₁
    · exact declare .null hm

variable {m : Machine} (hm : m.On t cx scope)
include hm

omit h in
theorem execBranch_traces {b : Stmt} (hb : StmtAt t cx scope b) :
    Traces t (calls.execBranch b) m := by
  obtain ⟨s, hc, hs⟩ := hb
  obtain ⟨f, fs, hf, -⟩ := hm.frame
  exact Traces.inBlock hf (ht.exec hc ((hm.push hf).of_lookup hs))

omit h in
theorem execBody_traces {b : Stmt} (hb : StmtAt t cx scope b) : Traces t (calls.execBody b) m := by
  refine (execBranch_traces ht hm hb).tame fun flow => ?_
  cases flow <;> exact Tame.pure _

/-- After a pass of a loop the machine is where it was. -/
theorem execBody_bind_traces {α : Type} {b : Stmt} {f : Option Flow → Run α}
    (hb : StmtAt t cx scope b) (hf : ∀ flow m', m'.On t cx scope → Traces t (f flow) m') :
    Traces t (calls.execBody b >>= f) m :=
  (execBody_traces ht hm hb).bind (execBody_safe h hm.toAt hb) (execBody_steady h.steady b)
    fun flow m' hb' hev hk _ => hf flow m' (hm.keeps hk hb' hev)

theorem stepIterate_traces {l : Loop} (hl : LoopAt t cx scope l) :
    Traces t (calls.stepIterate l) m := by
  have pass : ∀ (go : Bool) {m₁ : Machine}, m₁.On t cx scope → Traces t (calls.pass l go) m₁ := by
    intro go m₁ hm₁
    cases go with
    | false => exact (Tame.pure _).traces
    | true =>
      refine execBody_bind_traces h ht hm₁ hl.body fun flow m₂ hm₂ => ?_
      cases flow with
      | some flow => exact (Tame.pure _).traces
      | none => exact evalAll_bind_traces h ht hm₂ hl.update fun _ m₃ hm₃ => ht.iterate hl hm₃
  cases hc : l.condition with
  | some e =>
    rw [stepIterate_of_some calls hc]
    exact evalCondition_bind_traces h ht hm (hl.condition e hc) fun go m₁ hm₁ => pass go hm₁
  | none =>
    rw [stepIterate_of_none calls hc]
    exact pass true hm

/-- The loop variable is declared in a block of its own in each pass. -/
theorem execEach_traces {name : String} {declared : Option DataType} {span : Span} {body : Stmt}
    {inner scope' : LocalScope} (hi : ∀ n, inner.lookup? n = scope.lookup? n)
    (hd : inner.declare name declared span = .ok scope') (hb : StmtAt t cx scope' body)
    (vs : List Value) : Traces t (calls.execEach name body vs) m := by
  induction vs generalizing m with
  | nil => exact (Tame.pure _).traces
  | cons v vs ih =>
    obtain ⟨f, fs, hf, -⟩ := hm.frame
    have inside := (hm.push hf).of_lookup hi
    have hat := inside.toAt.declare rfl v hd
    have hsteady := (Steady.modifyFrame fun f => f.keeps_declare name v).append fun _ =>
      execBody_steady h.steady body
    have pass : Traces t (Run.inBlock do
        Run.modifyFrame (·.declare name v)
        calls.execBody body) m :=
      Traces.inBlock hf (execBody_traces ht
        ⟨hat, inside.suits.keeps (.running (f.push.keeps_declare name v))⟩ hb)
    have safe : Safe t (Run.inBlock do
        Run.modifyFrame (·.declare name v)
        calls.execBody body) (fun _ _ => True) m :=
      Safe.inBlock hf (execBody_safe h hat hb)
    refine pass.bind safe hsteady.inBlock fun flow m₁ hb₁ he₁ hk₁ _ => ?_
    cases flow with
    | some flow => exact (Tame.pure _).traces
    | none => exact ih (hm.keeps hk₁ hb₁ he₁)

end

theorem execForInit_traces {t : ClassTable} (h : calls.Follows t) (ht : calls.AllTrace t)
    {init : Option ForInit} {condition : Option Expr} {update : List Expr} {body : Stmt}
    {span : Span} {s : CheckState}
    (hc : Checks t cx (.stmt (.forLoop init condition update body span)) s) {m : Machine}
    (hm : m.On t cx s.scope) : Traces t (calls.execForInit init) m := by
  match init with
  | some (.declare d) =>
    have hq := Typing.resolveType_quiet cx d.type.dataType d.type.span
    have hvars : Checks t cx
        (.vars (cx.resolveType d.type.dataType d.type.span (Typing.pushed s)).1 d.vars)
        (cx.resolveType d.type.dataType d.type.span (Typing.pushed s)).2 :=
      hc.forInit List.mem_cons_self
    refine declareVars_traces h ht hvars (hm.of_lookup fun name => ?_)
    rw [hq.scope]
    rfl
  | some (.exprs es) =>
    exact (evalAll_traces h ht hc.forInit_exprs hm).tame fun _ => Tame.pure _
  | none => exact (Tame.pure _).traces

/-- A checked statement halts for traced reasons. -/
theorem stepExec_traces {t : ClassTable} (h : calls.Follows t) (ht : calls.AllTrace t) {b : Stmt}
    {s : CheckState} (hc : Checks t cx (.stmt b) s) {m : Machine} (hm : m.On t cx s.scope) :
    Traces t (calls.stepExec b) m := by
  obtain ⟨f, fs, hf, -⟩ := hm.frame
  cases b with
  | declare d =>
    have hvars : Checks t cx (.vars (cx.resolveType d.type.dataType d.type.span s).1 d.vars)
        (cx.resolveType d.type.dataType d.type.span s).2 := .part hc List.mem_cons_self
    have hq := Typing.resolveType_quiet cx d.type.dataType d.type.span
    exact (declareVars_traces h ht hvars (hq.scope s ▸ hm)).tame fun _ => Tame.pure _
  | expr e span =>
    exact (ht.eval (exprAt_part hc List.mem_cons_self fun _ => rfl) hm).tame fun _ => Tame.pure _
  | block stmts span =>
    have hss : Checks t cx (.stmts stmts) (Typing.pushed s) := .part hc List.mem_cons_self
    exact Traces.inBlock hf (execAll_traces h ht hss ((hm.push hf).of_lookup fun _ => rfl))
  | ifElse condition yes no span =>
    obtain ⟨hcond, hyes, hno⟩ := hc.ifElse
    refine evalCondition_bind_traces h ht hm hcond fun b m₁ hm₁ => ?_
    split
    · exact execBranch_traces ht hm₁ hyes
    · split
      · exact execBranch_traces ht hm₁ (hno _ rfl)
      · exact (Tame.pure _).traces
  | whileLoop condition body span => exact ht.iterate hc.whileLoop hm
  | doWhile body condition span =>
    refine execBody_bind_traces h ht hm hc.doWhile.body fun flow m₁ hm₁ => ?_
    cases flow with
    | some flow => exact (Tame.pure _).traces
    | none => exact ht.iterate hc.doWhile hm₁
  | forLoop init condition update body span =>
    obtain ⟨vars, hi⟩ := execForInit_steady h.steady init
    have hin := hm.push hf
    refine Traces.inBlock hf ((execForInit_traces h ht hc hin).bind
      (execForInit_safe h hc hin.toAt) hi fun _ m₁ _ _ hk₁ hm₁ => ?_)
    exact ht.iterate hc.forLoop ⟨hm₁, hin.suits.keeps hk₁⟩
  | foreach type var iterable body span =>
    obtain ⟨hx, declared, inner, scope', hi, hd, hb⟩ := hc.foreach
    refine eval_bind_traces h ht hx hm fun v m₁ hm₁ _ => ?_
    cases v with
    | null => exact Traces.fault trivial
    | object id =>
      refine Traces.heap_bind ((Tame.ofNative _).traces.bind (Safe.ofNative hm₁.heap _)
        ((Balanced.ofNative _).steady []) fun items m₂ _ _ _ hm₂ => ?_)
      subst hm₂
      exact execEach_traces h ht hm₁ hi hd hb _
  | ret value span =>
    cases value with
    | some e =>
      exact (ht.eval (exprAt_part hc List.mem_cons_self fun _ => rfl) hm).tame fun _ => Tame.pure _
    | none => exact (Tame.pure _).traces
  | brk span => exact (Tame.pure _).traces
  | cont span => exact (Tame.pure _).traces

/-! ## All of evaluation -/

theorem withFuel_traces (he : env.Checked) (hsort : ∀ c, env.classes.Has c → c.Sorted) :
    ∀ n, (withFuel env n).AllTrace env.classes
  | 0 => by
    have halts : (Halt.outOfFuel).Traced env.classes := fun _ h => by cases h
    exact ⟨fun _ _ => halts, fun _ _ => halts, fun _ _ => halts⟩
  | n + 1 => by
    have ih := withFuel_traces he hsort n
    have h := Machine.runEntry_follows he n
    exact ⟨fun hx hm => stepEval_traces he hsort h ih hm hx,
      fun hc hm => stepExec_traces h ih hc hm, fun hl hm => stepIterate_traces h ih hm hl⟩

end Calls

/-- **A misuse is one of checked code.** A run of an entry method that faults for a misused
expression came to a checked one (module doc). -/
theorem Machine.runEntry_traces {env : Env} {m : Machine} (he : env.Checked)
    (hsort : ∀ c, env.classes.Has c → c.Sorted) (hb : m.world.heap.Belongs env.classes) (fuel : Nat)
    (className method : String) : Traces env.classes (runEntry env fuel className method) m := by
  have h := runEntry_follows he fuel
  have ht := Calls.withFuel_traces he hsort fuel
  unfold runEntry
  dsimp only
  split
  · exact Traces.fault trivial
  · rename_i c hc
    have hhas : env.classes.Has c := .of_resolve? hc
    refine (Tame.log _).traces.bind (Safe.log hb _) ((Balanced.log _).steady [])
      fun _ m₁ hb₁ _ _ _ => ?_
    split
    · exact Calls.callStatic_traces he hsort h ht hb₁ hhas method []
    · split
      · exact (Calls.instantiate_traces he hsort h ht hb₁ hhas [] []).bind
          (Calls.instantiate_safe he h hb₁ hhas [] [])
          ((Calls.instantiate_balanced env h.steady c [] []).steady []) fun id m₂ hb₂ _ _ _ =>
            Calls.callInstance_traces he h ht hb₂ id method []
      · exact Traces.fault trivial

/-- The same of a run over classes that are registered and checked without an error, on a new
machine or after other entry methods. -/
theorem Machine.checked_runEntry_traces {decls : List ClassDecl} {query : Option QueryService}
    {credentials : Credentials} {today : Date} {maxDepth : Nat} {env : Env}
    (hcheck : (Typing.checkTable (Registration.registerAll .initial decls).table).1 = [])
    (henv : Env.make (Registration.registerAll .initial decls).table query credentials today
      maxDepth = .ok env)
    (sink : Sink) (entries : List (Nat × EntryPoint)) (fuel : Nat) (className method : String) :
    Traces env.classes (runEntry env fuel className method)
      ((Machine.start sink).afterEntries env entries) := by
  obtain ⟨he, hclasses⟩ := Env.make_checked hcheck henv
  have hsort : ∀ c, env.classes.Has c → c.Sorted := by
    rw [hclasses]
    exact fun c hc => hc.sorted
  exact runEntry_traces he hsort (afterEntries_belongs he entries (Heap.belongs_empty _)) fuel
    className method

end ClassScript
