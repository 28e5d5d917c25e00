import ClassScript.Proofs.Machine.Watch

/-!
# Steps that pass every watch

One lemma for each operation of the machine: it passes (`Run.Passes`) if everything passes that it
starts in turn. What an expression evaluates in turn (`Expr.evaluated`) runs in the same frame. What
it calls runs in frames of its own, and there are two ways to enter one (`Calls.Enters`): for an
initializer of a class, and for the body of a method, the second only below the deepest nesting.

Main statements: `Calls.stepEval_passes` for expressions, and `Calls.stepExec_passes` for statements
where only the number of frames matters.
-/

namespace ClassScript

open Run (Balanced Steady Passes)

/-! ## What an expression evaluates -/

namespace Expr

/-- The expressions that resolving a target evaluates. -/
def placed (e : Expr) : List Expr := if e.isAssignable then e.operands else []

/-- The expressions that evaluating an expression evaluates in turn. A target is not evaluated
itself: it is resolved to a place. -/
def evaluated : Expr → List Expr
  | .assign _ target value _ => target.placed ++ [value]
  | .unary op operand _ => if op.mutates then operand.placed else [operand]
  | .post _ operand _ => operand.placed
  | e => e.operands

end Expr

/-! ## Frames that are entered -/

/-- The frames that code running in frames of `I` enters (module doc). -/
structure Calls.Enters (env : Env) (calls : Calls) (I : List Frame → Prop) : Prop where
  initializer : ∀ {fs : List Frame} {c d : ClassInfo} {f : FieldInfo} {e : Expr}
    (this : Option ObjectId), I fs → d ∈ c.chain env.classes → f ∈ d.ownFields → f.init = some e →
      Passes (KeepsFrames [] (Frame.make c this :: fs)) (calls.eval e)
  body : ∀ {fs : List Frame} (f : Frame) (stmts : List Stmt), I fs → fs.length < env.maxDepth →
    ∃ J : List Frame → Prop, J (f :: fs) ∧ Passes J (calls.execAll stmts)

namespace Calls

variable {env : Env} {calls : Calls} {I : List Frame → Prop}

theorem initStatics_passes : ∀ {ps : List PendingStatic},
    (∀ p ∈ ps, Passes I (calls.eval p.init)) → Passes I (calls.initStatics ps)
  | [], _ => Passes.pure _
  | p :: _, h =>
    (h p List.mem_cons_self).bind fun _ => (Passes.modifyStatics _).bind fun _ =>
      initStatics_passes fun q hq => h q (List.mem_cons_of_mem _ hq)

theorem initFields_passes (id : ObjectId) : ∀ {fields : List FieldInfo},
    (∀ f ∈ fields, ∀ e, f.init = some e → Passes I (calls.eval e)) →
      Passes I (calls.initFields id fields)
  | [], _ => Passes.pure _
  | f :: fields, h => by
    have rest := initFields_passes id fun g hg => h g (List.mem_cons_of_mem _ hg)
    unfold initFields
    split
    · rename_i e he
      exact (h f List.mem_cons_self e he).bind fun _ => (Passes.native _).bind fun _ => rest
    · exact rest

theorem selectOrFail_passes (b : TypeBindings) (group : Option (List MethodInfo))
    (args : List Value) (className name : String) :
    Passes I (selectOrFail env b group args className name) := by
  refine (Passes.heap.bind fun _ => Passes.pure _).bind fun found => ?_
  cases found with
  | none => exact Passes.fault (by simp)
  | some m => exact Passes.pure _

section
variable (h : calls.IsSteady) (he : calls.Enters env I)
include h he

theorem ensureStatics_passes (c : ClassInfo) : Passes I (calls.ensureStatics env c) := by
  intro m hm
  have hpending : ∀ p ∈ (m.statics.touch (c.chain env.classes)).2, ∃ d ∈ c.chain env.classes,
      ∃ f ∈ d.ownFields, f.init = some p.init := fun p hp => Statics.touch_pending hp
  unfold ensureStatics
  rw [Run.ends_bind, Run.ends_touchStatics]
  generalize (m.statics.touch (c.chain env.classes)).2 = pending at hpending ⊢
  split
  · exact hm
  · have run : Passes I (Run.inFrame (.make c none) (calls.initStatics pending)) := by
      refine Passes.inFrame ((initStatics_steady h pending).inFrame _) fun fs hfs => ?_
      refine ⟨KeepsFrames [] _, .refl _ _, initStatics_passes fun p hp => ?_⟩
      obtain ⟨d, hd, f, hf, hi⟩ := hpending p hp
      exact he.initializer none hfs hd hf hi
    exact ((Passes.log _).bind fun _ => run) { m with statics := _ } hm

theorem readStatic_passes (c : ClassInfo) (name : String) :
    Passes I (calls.readStatic env c name) := by
  unfold readStatic
  split
  · exact Passes.pure _
  · exact (ensureStatics_passes h he c).bind fun _ => Passes.get.bind fun _ => Passes.pure _

theorem writeStatic_passes (c : ClassInfo) (name : String) (v : Value) :
    Passes I (calls.writeStatic env c name v) := by
  unfold writeStatic
  split
  · exact Passes.pure _
  · exact (ensureStatics_passes h he c).bind fun _ => Passes.modifyStatics _

/-- The body of a method runs only below the deepest nesting. -/
theorem invoke_passes (k : MethodInfo) (c : ClassInfo) (receiver : Option ObjectId)
    (args : List Value) : Passes I (calls.invoke env k c receiver args) := by
  refine (Passes.log _).bind fun _ m hm => ?_
  rw [Run.ends_bind, Run.ends_get]
  split
  · exact Passes.fault (by simp) m hm
  · rename_i hdepth
    have below : ∀ {x : Run (Option Value)},
        Passes (fun fs => I fs ∧ fs.length < env.maxDepth) x →
        x.Ends (fun _ m' => I m'.frames) (fun r _ => r ≠ .probe) m := fun hx =>
      (hx m ⟨hm, Nat.lt_of_not_le hdepth⟩).mono (fun _ _ hq => hq.1) fun _ _ hr => hr
    refine below ?_
    split
    · exact Passes.native _
    · split
      · exact (Passes.inFrame ((execAll_steady h _).inFrame _) fun fs hfs =>
          he.body _ _ hfs.1 hfs.2).bind fun _ => Passes.pure _
      · exact Passes.fault (by simp)
    · exact Passes.fault (by simp)

theorem callStatic_passes (c : ClassInfo) (name : String) (args : List Value) :
    Passes I (calls.callStatic env c name args) :=
  (ensureStatics_passes h he c).bind fun _ => (selectOrFail_passes _ _ _ _ _).bind fun k =>
    invoke_passes h he k c none args

theorem callInstance_passes (id : ObjectId) (name : String) (args : List Value) :
    Passes I (calls.callInstance env id name args) :=
  Passes.heap.bind fun _ => (selectOrFail_passes _ _ _ _ _).bind fun k =>
    invoke_passes h he k _ (some id) args

theorem construct_passes (c : ClassInfo) (id : ObjectId) (typeArgs : List DataType)
    (args : List Value) : Passes I (calls.construct env c id typeArgs args) := by
  unfold construct
  split
  · split
    · exact Passes.pure _
    · exact Passes.fault (by simp)
  · exact (selectOrFail_passes _ _ _ _ _).bind fun k =>
      (invoke_passes h he k c (some id) args).bind fun _ => Passes.pure _

theorem instantiate_passes (c : ClassInfo) (typeArgs : List DataType) (args : List Value) :
    Passes I (calls.instantiate env c typeArgs args) := by
  refine (ensureStatics_passes h he c).bind fun _ => Passes.heap.bind fun heap =>
    (Passes.native _).bind fun _ => ?_
  have rest : Passes I (do
      calls.construct env c heap.objects.size typeArgs args
      pure heap.objects.size : Run ObjectId) :=
    (construct_passes h he c _ typeArgs args).bind fun _ => Passes.pure _
  dsimp only
  split
  · refine Passes.bind (Passes.inFrame ((initFields_steady h _ _).inFrame _) fun fs hfs => ?_)
      fun _ => rest
    refine ⟨KeepsFrames [] _, .refl _ _, initFields_passes _ fun f hf e hi => ?_⟩
    obtain ⟨d, hd, hfd⟩ := List.mem_flatMap.1 hf
    exact he.initializer _ hfs (List.mem_reverse.1 hd) (List.mem_append_left _ hfd) hi
  · exact rest

theorem callTarget_passes (target : Target) (name : String) (args : List Value) :
    Passes I (calls.callTarget env target name args) := by
  match target with
  | .static c => exact (callStatic_passes h he c name args).bind fun _ => Passes.pure _
  | .instance id => exact (callInstance_passes h he id name args).bind fun _ => Passes.pure _

end

/-! ## Places -/

theorem namePlace_passes (name : String) : Passes I (namePlace env name) := by
  refine Passes.frame.bind fun f => Passes.heap.bind fun heap => ?_
  split
  · exact Passes.pure _
  · split
    · exact Passes.pure _
    · split
      · exact Passes.pure _
      · exact Passes.fault (by simp)

theorem staticPlace_passes (c : ClassInfo) (name : String) : Passes I (staticPlace env c name) := by
  unfold staticPlace
  split
  · exact Passes.pure _
  · exact Passes.fault (by simp)

section
variable (hk : Kept I) (h : calls.IsSteady) (he : calls.Enters env I)

theorem memberPlace_passes {object : Expr} (ho : Passes I (calls.eval object)) (name : String)
    (span : Span) : Passes I (calls.memberPlace env object name span) := by
  refine Passes.get.bind fun s => ?_
  split
  · exact staticPlace_passes _ _
  · refine ho.bind fun v => ?_
    cases v with
    | null => exact Passes.fault (by simp)
    | object id =>
      refine Passes.heap.bind fun heap => ?_
      split
      · exact Passes.pure _
      · exact staticPlace_passes _ _

theorem indexPlace_passes {object key : Expr} (ho : Passes I (calls.eval object))
    (hkey : Passes I (calls.eval key)) (span : Span) :
    Passes I (calls.indexPlace object key span) := by
  refine ho.bind fun v => hkey.bind fun k => ?_
  cases v with
  | null => exact Passes.fault (by simp)
  | object id =>
    refine Passes.heap.bind fun heap => ?_
    split
    · exact (Passes.ofExcept (listSlot_faults _ _ _ _ _)).bind fun _ => Passes.pure _
    · exact Passes.pure _
    · exact Passes.fault (by simp)

theorem place_passes {e : Expr} (hp : ∀ p ∈ e.placed, Passes I (calls.eval p)) :
    Passes I (calls.place env e) := by
  unfold place
  split
  · exact namePlace_passes _
  · exact memberPlace_passes (hp _ (by simp [Expr.placed, Expr.isAssignable, Expr.operands])) _ _
  · exact indexPlace_passes (hp _ (by simp [Expr.placed, Expr.isAssignable, Expr.operands]))
      (hp _ (by simp [Expr.placed, Expr.isAssignable, Expr.operands])) _
  · exact Passes.fault (by simp)

section
include h he

theorem load_passes (p : Place) : Passes I (calls.load env p) := by
  cases p with
  | var name =>
    refine Passes.frame.bind fun f => ?_
    split
    · exact Passes.pure _
    · exact Passes.fault (by simp)
  | field id name => exact Passes.heap.bind fun _ => Passes.pure _
  | static c name => exact (readStatic_passes h he c name).bind fun _ => Passes.pure _
  | slot id i span =>
    exact Passes.heap.bind fun _ => (Passes.ofNative _).bind fun _ => Passes.pure _
  | entry id key =>
    exact Passes.heap.bind fun _ => (Passes.ofNative _).bind fun _ =>
      (Passes.ofNative _).bind fun _ => Passes.pure _

include hk in
theorem store_passes (v : Value) (p : Place) : Passes I (calls.store env v p) := by
  cases p with
  | var name =>
    refine Passes.frame.bind fun f => ?_
    split
    · exact Passes.modifyFrame fun f fs hf => hk (.running (f.keeps_assign name v)) hf
    · exact Passes.fault (by simp)
  | field id name =>
    unfold store
    exact Passes.native _
  | static c name => exact writeStatic_passes h he c name v
  | slot id i span =>
    refine Passes.heap.bind fun _ => (Passes.ofNative _).bind fun items => ?_
    split
    · exact Passes.native _
    · exact Passes.fault (by simp)
  | entry id key =>
    exact Passes.heap.bind fun _ => (Passes.ofNative _).bind fun _ =>
      (Passes.ofNative _).bind fun _ => Passes.native _

end

/-! ## Expressions -/

theorem evalAll_passes : ∀ {es : List Expr}, (∀ e ∈ es, Passes I (calls.eval e)) →
    Passes I (calls.evalAll es)
  | [], _ => Passes.pure _
  | e :: _, hes =>
    (hes e List.mem_cons_self).bind fun _ =>
      (evalAll_passes fun e' he' => hes e' (List.mem_cons_of_mem _ he')).bind fun _ => Passes.pure _

theorem constant_passes (l : Literal) : Passes I (constant env l) := by
  unfold constant
  split
  case h_5 => exact Passes.pure _
  all_goals exact Passes.native _

theorem applyBinary_passes (op : BinaryOp) (l r : Value) (span : Span) :
    Passes I (applyBinary env op l r span) :=
  Passes.heap.bind fun _ => (Passes.ofExcept (Operator.binary_faults _ _ _ _ _)).bind fun _ =>
    constant_passes _

theorem evalThis_passes (span : Span) : Passes I (evalThis span) := by
  refine Passes.frame.bind fun f => ?_
  split
  · exact Passes.pure _
  · exact Passes.fault (by simp)

theorem implicitTarget_passes (name : String) : Passes I (implicitTarget env name) := by
  refine Passes.frame.bind fun f => ?_
  split
  · refine Passes.heap.bind fun heap => ?_
    dsimp only
    split <;> exact Passes.pure _
  · split
    · exact Passes.fault (by simp)
    · exact Passes.pure _

theorem explicitTarget_passes {receiver : Expr} (hr : Passes I (calls.eval receiver)) :
    Passes I (calls.explicitTarget env receiver) := by
  refine Passes.get.bind fun s => ?_
  split
  · exact Passes.pure _
  · refine hr.bind fun v => ?_
    cases v with
    | null => exact Passes.fault (by simp)
    | object id => exact Passes.pure _

theorem evalCondition_passes {e : Expr} (hx : Passes I (calls.eval e)) :
    Passes I (calls.evalCondition e) :=
  hx.bind fun _ => Passes.heap.bind fun _ => Passes.ofExcept (Operator.truth_faults _ _ _)

theorem evalLogical_passes (op : BinaryOp) {left right : Expr} (hl : Passes I (calls.eval left))
    (hr : Passes I (calls.eval right)) : Passes I (calls.evalLogical env op left right) := by
  refine (evalCondition_passes hl).bind fun l => ?_
  split
  · exact constant_passes _
  · exact (evalCondition_passes hr).bind fun _ => constant_passes _

section
include h he

theorem evalName_passes (name : String) : Passes I (calls.evalName env name) := by
  refine Passes.frame.bind fun f => ?_
  split
  · exact Passes.pure _
  · refine Passes.heap.bind fun heap => ?_
    split
    · exact Passes.pure _
    · refine (readStatic_passes h he _ _).bind fun found => ?_
      split
      · exact Passes.pure _
      · exact Passes.fault (by simp)

theorem evalCreate_passes (type : DataType) {args : List Expr}
    (ha : ∀ e ∈ args, Passes I (calls.eval e)) : Passes I (calls.evalCreate env type args) := by
  refine Passes.get.bind fun s => ?_
  split
  · exact Passes.fault (by simp)
  · exact (evalAll_passes ha).bind fun _ =>
      (instantiate_passes h he _ _ _).bind fun _ => Passes.pure _

include hk

theorem evalStep_passes {target : Expr} (hp : ∀ p ∈ target.placed, Passes I (calls.eval p))
    (up : Bool) (span : Span) : Passes I (calls.evalStep env target up span) :=
  (place_passes hp).bind fun p => (load_passes h he p).bind fun _ => Passes.heap.bind fun _ =>
    (Passes.ofExcept (Operator.step_faults _ _ _ _)).bind fun _ => (constant_passes _).bind fun _ =>
      (store_passes hk h he _ p).bind fun _ => Passes.pure _

theorem evalUnary_passes (op : UnaryOp) {operand : Expr} (span : Span)
    (hp : ∀ p ∈ (Expr.unary op operand span).evaluated, Passes I (calls.eval p)) :
    Passes I (calls.evalUnary env op operand span) := by
  cases op with
  | plus => exact hp operand List.mem_cons_self
  | neg =>
    exact Passes.bind (hp operand List.mem_cons_self) fun _ => Passes.heap.bind fun _ =>
      (Passes.ofExcept (Operator.negate_faults _ _ _)).bind fun _ => constant_passes _
  | not =>
    exact Passes.bind (hp operand List.mem_cons_self) fun _ => Passes.heap.bind fun _ =>
      (Passes.ofExcept (Operator.truth_faults _ _ _)).bind fun _ => constant_passes _
  | inc | dec => exact (evalStep_passes hk h he hp _ _).bind fun _ => Passes.pure _

theorem evalAssign_passes (op : AssignOp) {target value : Expr} (span : Span)
    (ht : ∀ p ∈ target.placed, Passes I (calls.eval p)) (hv : Passes I (calls.eval value)) :
    Passes I (calls.evalAssign env op target value span) := by
  refine (place_passes ht).bind fun p => ?_
  have rest : ∀ v : Value, Passes I (do calls.store env v p; pure v : Run Value) :=
    fun v => (store_passes hk h he v p).bind fun _ => Passes.pure _
  dsimp only
  split
  · exact hv.bind rest
  · exact (load_passes h he p).bind fun _ => hv.bind fun _ =>
      (applyBinary_passes _ _ _ _).bind rest

/-- An expression passes if everything passes that it evaluates in turn (module doc). -/
theorem stepEval_passes {e : Expr} (hp : ∀ p ∈ e.evaluated, Passes I (calls.eval p)) :
    Passes I (calls.stepEval env e) := by
  cases e with
  | literal value span => exact constant_passes value
  | name i => exact evalName_passes h he i.name
  | this span => exact evalThis_passes span
  | member object m span =>
    exact (place_passes (e := .member object m span) hp).bind fun p => load_passes h he p
  | index object key span =>
    exact (place_passes (e := .index object key span) hp).bind fun p => load_passes h he p
  | call method args span =>
    exact (implicitTarget_passes method.name).bind fun target => (evalAll_passes hp).bind fun vs =>
      callTarget_passes h he target method.name vs
  | callOn receiver method args span =>
    exact (explicitTarget_passes (hp receiver List.mem_cons_self)).bind fun target =>
      (evalAll_passes fun e he => hp e (List.mem_cons_of_mem _ he)).bind fun vs =>
        callTarget_passes h he target method.name vs
  | create type args span => exact evalCreate_passes h he type.dataType hp
  | binary op left right span =>
    have hl := hp left List.mem_cons_self
    have hr := hp right (List.mem_cons_of_mem _ List.mem_cons_self)
    simp only [stepEval]
    split
    · exact evalLogical_passes op hl hr
    · exact hl.bind fun l => hr.bind fun r => applyBinary_passes op l r span
  | unary op operand span => exact evalUnary_passes hk h he op span hp
  | post op operand span => exact (evalStep_passes hk h he hp _ _).bind fun _ => Passes.pure _
  | assign op target value span =>
    exact evalAssign_passes hk h he op span (fun p ht => hp p (List.mem_append_left _ ht))
      (hp value (List.mem_append_right _ List.mem_cons_self))
  | conditional condition yes no span =>
    refine (evalCondition_passes (hp condition List.mem_cons_self)).bind fun b => ?_
    split
    · exact hp yes (by simp [Expr.evaluated, Expr.operands])
    · exact hp no (by simp [Expr.evaluated, Expr.operands])
  | query text span => exact Passes.native (Native.runQuery env.toHost text)

end

end

/-! ## Statements -/

/-- Everything that is evaluated or executed passes. -/
structure AllPass (I : List Frame → Prop) (calls : Calls) : Prop where
  eval : ∀ e, Passes I (calls.eval e)
  exec : ∀ s, Passes I (calls.exec s)
  iterate : ∀ l, Passes I (calls.iterate l)

section
variable (h : calls.AllPass I)
include h

theorem execAll_passes (ss : List Stmt) : Passes I (calls.execAll ss) := by
  induction ss with
  | nil => exact Passes.pure _
  | cons s ss ih =>
    refine (h.exec s).bind fun flow => ?_
    cases flow with
    | normal => exact ih
    | ret _ | brk | cont => exact Passes.pure _

variable (hI : Unframed I)
include hI

theorem declareVars_passes : ∀ vs : List Declarator, Passes I (calls.declareVars vs)
  | [] => Passes.pure _
  | v :: vs => by
    have declared : ∀ value : Value, Passes I
        (do Run.modifyFrame (·.declare v.name.name value); calls.declareVars vs) := fun value =>
      (Passes.modifyFrame fun _ _ hf => hI _ _ _ hf).bind fun _ => declareVars_passes vs
    unfold declareVars
    split
    · exact (h.eval _).bind declared
    · exact (Passes.pure _).bind declared

theorem execBody_passes (body : Stmt) : Passes I (calls.execBody body) := by
  refine (Passes.inBlock hI (h.exec body)).bind fun flow => ?_
  cases flow <;> exact Passes.pure _

theorem execForInit_passes (init : Option ForInit) : Passes I (calls.execForInit init) := by
  match init with
  | some (.declare d) => exact declareVars_passes h hI d.vars
  | some (.exprs es) => exact (evalAll_passes fun e _ => h.eval e).bind fun _ => Passes.pure _
  | none => exact Passes.pure _

theorem execEach_passes (name : String) (body : Stmt) :
    ∀ vs : List Value, Passes I (calls.execEach name body vs)
  | [] => Passes.pure _
  | v :: vs => by
    refine Passes.bind (Passes.inBlock hI ?_) fun flow => ?_
    · exact (Passes.modifyFrame fun _ _ hf => hI _ _ _ hf).bind fun _ => execBody_passes h hI body
    · cases flow with
      | none => exact execEach_passes name body vs
      | some flow => exact Passes.pure _

theorem stepIterate_passes (l : Loop) : Passes I (calls.stepIterate l) := by
  have pass : ∀ go : Bool, Passes I (calls.pass l go) := by
    intro go
    cases go with
    | false => exact Passes.pure _
    | true =>
      refine (execBody_passes h hI l.body).bind fun flow => ?_
      cases flow with
      | some flow => exact Passes.pure _
      | none => exact (evalAll_passes fun e _ => h.eval e).bind fun _ => h.iterate l
  cases hc : l.condition with
  | some e =>
    rw [stepIterate_of_some calls hc]
    exact (evalCondition_passes (h.eval e)).bind pass
  | none =>
    rw [stepIterate_of_none calls hc]
    exact pass true

theorem stepExec_passes (s : Stmt) : Passes I (calls.stepExec s) := by
  cases s with
  | expr e span => exact (h.eval e).bind fun _ => Passes.pure _
  | declare d => exact (declareVars_passes h hI d.vars).bind fun _ => Passes.pure _
  | block stmts span => exact Passes.inBlock hI (execAll_passes h stmts)
  | ifElse condition yes no span =>
    refine (evalCondition_passes (h.eval condition)).bind fun b => ?_
    split
    · exact Passes.inBlock hI (h.exec yes)
    · split
      · exact Passes.inBlock hI (h.exec _)
      · exact Passes.pure _
  | whileLoop condition body span => exact h.iterate _
  | doWhile body condition span =>
    refine (execBody_passes h hI body).bind fun flow => ?_
    cases flow with
    | some flow => exact Passes.pure _
    | none => exact h.iterate _
  | forLoop init condition update body span =>
    exact Passes.inBlock hI ((execForInit_passes h hI init).bind fun _ => h.iterate _)
  | foreach type var iterable body span =>
    refine (h.eval iterable).bind fun v => ?_
    cases v with
    | null => exact Passes.fault (by simp)
    | object id =>
      exact Passes.heap.bind fun _ => (Passes.ofNative _).bind fun items =>
        execEach_passes h hI var.name body _
  | ret value span =>
    cases value with
    | some e => exact (h.eval e).bind fun _ => Passes.pure _
    | none => exact Passes.pure _
  | brk span => exact Passes.pure _
  | cont span => exact Passes.pure _

end

/-! ## Deeper frames -/

/-- Where everything passes in the frames that are entered, they may be entered. -/
theorem AllPass.enters {J : List Frame → Prop} (h : calls.AllPass J) (hs : calls.IsSteady)
    (hJ : Unframed J) (hI : ∀ f fs, I fs → J (f :: fs)) : calls.Enters env I where
  initializer this hfs _ _ _ := by
    refine (h.eval _).narrow (hs.eval _) (kept_keepsFrames _) fun gs hk => ?_
    exact hJ.kept hk (hI _ _ hfs)
  body f stmts hfs _ := ⟨J, hI f _ hfs, execAll_passes h stmts⟩

/-- A watch that never stops below some depth is passed there. -/
theorem watching_deeper (env : Env) {stop : Task → Machine → Prop} {depth : Nat}
    (hstop : ∀ task m, depth < m.depth → ¬ stop task m) :
    ∀ n, (watching env stop n).AllPass fun fs => depth < fs.length
  | 0 => ⟨fun _ => Passes.outOfFuel, fun _ => Passes.outOfFuel, fun _ => Passes.outOfFuel⟩
  | n + 1 => by
    have ih := watching_deeper env hstop n
    have hs := watching_steady env stop n
    have hI : Unframed fun fs => depth < fs.length := fun _ _ _ hfs => hfs
    have hd : (watching env stop n).Enters env fun fs => depth < fs.length :=
      ih.enters hs hI fun _ _ hfs => Nat.lt_succ_of_lt hfs
    exact ⟨fun e => (stepEval_passes hI.kept hs hd fun p _ => ih.eval p).watched fun m => hstop _ m,
      fun s => (stepExec_passes ih hI s).watched fun m => hstop _ m,
      fun l => (stepIterate_passes ih hI l).watched fun m => hstop _ m⟩

end Calls

/-- An entry method is entered from the frames it is called in. -/
theorem Machine.enter_passes {env : Env} {calls : Calls} {I : List Frame → Prop}
    (h : calls.IsSteady) (he : calls.Enters env I) (className method : String) :
    Passes I (enter env calls className method) := by
  unfold enter
  split
  · exact Passes.fault (by simp)
  · refine (Passes.log _).bind fun _ => ?_
    split
    · exact Calls.callStatic_passes h he _ _ _
    · split
      · exact (Calls.instantiate_passes h he _ _ _).bind fun id =>
          Calls.callInstance_passes h he id _ _
      · exact Passes.fault (by simp)

end ClassScript
