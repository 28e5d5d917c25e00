import ClassScript.Proofs.Machine.Balance

/-!
# Every computation of the machine keeps the frame stack

One lemma for each operation of the machine, over any `Calls` whose own evaluation is steady. What
runs in frames of its own is `Run.Balanced`; what works in the running frame is `Run.Steady`.
`Calls.withFuel_steady` ties the knot, and `frame_stack_discipline` puts the statement together.
-/

namespace ClassScript

open Run (Balanced Steady)

/-- Evaluation that keeps the running frame; a statement adds the variables it declares. -/
structure Calls.IsSteady (calls : Calls) : Prop where
  eval : ∀ e, Steady [] (calls.eval e)
  exec : ∀ s, Steady s.declared (calls.exec s)
  iterate : ∀ l, Steady [] (calls.iterate l)

namespace Calls

variable (env : Env) {calls : Calls} (h : calls.IsSteady)

/-! ## Calls and instances -/

section
include h

theorem evalAll_steady (es : List Expr) : Steady [] (calls.evalAll es) := by
  induction es with
  | nil => exact (Balanced.pure _).steady _
  | cons e es ih => exact (h.eval e).bind fun _ => ih.bind fun _ => (Balanced.pure _).steady _

theorem execAll_steady (ss : List Stmt) :
    Steady (ss.flatMap Stmt.declared) (calls.execAll ss) := by
  induction ss with
  | nil => exact (Balanced.pure _).steady _
  | cons s ss ih =>
    refine (h.exec s).append fun flow => ?_
    cases flow with
    | normal => exact ih
    | ret _ | brk | cont => exact (Balanced.pure _).steady _

theorem initStatics_steady : ∀ ps : List PendingStatic, Steady [] (calls.initStatics ps)
  | [] => (Balanced.pure _).steady _
  | p :: ps =>
    (h.eval p.init).bind fun _ => ((Balanced.modifyStatics _).steady _).bind fun _ =>
      initStatics_steady ps

theorem ensureStatics_balanced (c : ClassInfo) : Balanced (calls.ensureStatics env c) := by
  refine (Balanced.touchStatics _).bind fun pending => ?_
  split
  · exact Balanced.pure _
  · exact (Balanced.log _).bind fun _ => (initStatics_steady h pending).inFrame _

theorem readStatic_balanced (c : ClassInfo) (name : String) :
    Balanced (calls.readStatic env c name) := by
  unfold readStatic
  split
  · exact Balanced.pure _
  · exact (ensureStatics_balanced env h c).bind fun _ => Balanced.get.bind fun _ => Balanced.pure _

theorem writeStatic_balanced (c : ClassInfo) (name : String) (v : Value) :
    Balanced (calls.writeStatic env c name v) := by
  unfold writeStatic
  split
  · exact Balanced.pure _
  · exact (ensureStatics_balanced env h c).bind fun _ => Balanced.modifyStatics _

end

theorem selectOrFail_balanced (b : TypeBindings) (group : Option (List MethodInfo))
    (args : List Value) (className name : String) :
    Balanced (selectOrFail env b group args className name) := by
  refine (Balanced.heap.bind fun _ => Balanced.pure _).bind fun found => ?_
  cases found with
  | none => exact Balanced.fault (by simp)
  | some m => exact Balanced.pure _

section
include h

theorem invoke_balanced (m : MethodInfo) (c : ClassInfo) (receiver : Option ObjectId)
    (args : List Value) : Balanced (calls.invoke env m c receiver args) := by
  refine (Balanced.log _).bind fun _ => Balanced.get.bind fun s => ?_
  split
  · exact Balanced.fault (by simp)
  · split
    · exact Balanced.native _
    · split
      · exact ((execAll_steady h _).inFrame _).bind fun _ => Balanced.pure _
      · exact Balanced.fault (by simp)
    · exact Balanced.fault (by simp)

theorem callStatic_balanced (c : ClassInfo) (name : String) (args : List Value) :
    Balanced (calls.callStatic env c name args) :=
  (ensureStatics_balanced env h c).bind fun _ =>
    (selectOrFail_balanced env _ _ _ _ _).bind fun m => invoke_balanced env h m c none args

theorem callInstance_balanced (id : ObjectId) (name : String) (args : List Value) :
    Balanced (calls.callInstance env id name args) :=
  Balanced.heap.bind fun _ => (selectOrFail_balanced env _ _ _ _ _).bind fun m =>
    invoke_balanced env h m _ (some id) args

theorem initFields_steady (id : ObjectId) : ∀ fs : List FieldInfo, Steady [] (calls.initFields id fs)
  | [] => (Balanced.pure _).steady _
  | f :: fs => by
    unfold initFields
    split
    · exact (h.eval _).bind fun _ => ((Balanced.native _).steady _).bind fun _ =>
        initFields_steady id fs
    · exact initFields_steady id fs

theorem construct_balanced (c : ClassInfo) (id : ObjectId) (typeArgs : List DataType)
    (args : List Value) : Balanced (calls.construct env c id typeArgs args) := by
  unfold construct
  split
  · split
    · exact Balanced.pure _
    · exact Balanced.fault (by simp)
  · exact (selectOrFail_balanced env _ _ _ _ _).bind fun m =>
      (invoke_balanced env h m c (some id) args).bind fun _ => Balanced.pure _

theorem instantiate_balanced (c : ClassInfo) (typeArgs : List DataType) (args : List Value) :
    Balanced (calls.instantiate env c typeArgs args) := by
  refine (ensureStatics_balanced env h c).bind fun _ => Balanced.heap.bind fun _ =>
    (Balanced.native _).bind fun _ => ?_
  have rest : ∀ {id : ObjectId}, Balanced
      (do calls.construct env c id typeArgs args; pure id : Run ObjectId) :=
    (construct_balanced env h c _ typeArgs args).bind fun _ => Balanced.pure _
  dsimp only
  split
  · exact ((initFields_steady h _ _).inFrame _).bind fun _ => rest
  · exact rest

end

/-! ## Places -/

theorem namePlace_steady (name : String) : Steady [] (namePlace env name) := by
  refine Steady.frame.bind fun f => (Balanced.heap.steady _).bind fun heap => Balanced.steady ?_ _
  split
  · exact Balanced.pure _
  · split
    · exact Balanced.pure _
    · split
      · exact Balanced.pure _
      · exact Balanced.fault (by simp)

theorem staticPlace_balanced (c : ClassInfo) (name : String) :
    Balanced (staticPlace env c name) := by
  unfold staticPlace
  split
  · exact Balanced.pure _
  · exact Balanced.fault (by simp)

section
include h

theorem memberPlace_steady (object : Expr) (name : String) (span : Span) :
    Steady [] (calls.memberPlace env object name span) := by
  refine (Balanced.get.steady _).bind fun s => ?_
  split
  · exact (staticPlace_balanced env _ _).steady _
  · refine (h.eval object).bind fun v => Balanced.steady ?_ _
    cases v with
    | null => exact Balanced.fault (by simp)
    | object id =>
      refine Balanced.heap.bind fun heap => ?_
      split
      · exact Balanced.pure _
      · exact staticPlace_balanced env _ _

theorem indexPlace_steady (object key : Expr) (span : Span) :
    Steady [] (calls.indexPlace object key span) := by
  refine (h.eval object).bind fun v => (h.eval key).bind fun k => Balanced.steady ?_ _
  cases v with
  | null => exact Balanced.fault (by simp)
  | object id =>
    refine Balanced.heap.bind fun heap => ?_
    split
    · exact (Balanced.ofExcept (listSlot_faults _ _ _ _ _)).bind fun _ => Balanced.pure _
    · exact Balanced.pure _
    · exact Balanced.fault (by simp)

theorem place_steady (e : Expr) : Steady [] (calls.place env e) := by
  unfold place
  split
  · exact namePlace_steady env _
  · exact memberPlace_steady env h _ _ _
  · exact indexPlace_steady h _ _ _
  · exact (Balanced.fault (by simp)).steady _

theorem load_steady (p : Place) : Steady [] (calls.load env p) := by
  cases p with
  | var name =>
    refine Steady.frame.bind fun f => Balanced.steady ?_ _
    split
    · exact Balanced.pure _
    · exact Balanced.fault (by simp)
  | field id name => exact (Balanced.heap.bind fun _ => Balanced.pure _).steady _
  | static c name =>
    exact ((readStatic_balanced env h c name).bind fun _ => Balanced.pure _).steady _
  | slot id i span =>
    exact (Balanced.heap.bind fun _ => (Balanced.ofNative _).bind fun _ => Balanced.pure _).steady _
  | entry id key =>
    exact (Balanced.heap.bind fun _ => (Balanced.ofNative _).bind fun _ =>
      (Balanced.ofNative _).bind fun _ => Balanced.pure _).steady _

theorem store_steady (v : Value) (p : Place) : Steady [] (calls.store env v p) := by
  cases p with
  | var name =>
    refine Steady.frame.bind fun f => ?_
    split
    · exact Steady.modifyFrame fun f => f.keeps_assign name v
    · exact (Balanced.fault (by simp)).steady _
  | field id name =>
    unfold store
    exact (Balanced.native _).steady _
  | static c name => exact (writeStatic_balanced env h c name v).steady _
  | slot id i span =>
    refine (Balanced.heap.bind fun _ => (Balanced.ofNative _).bind fun items => ?_).steady _
    split
    · exact Balanced.native _
    · exact Balanced.fault (by simp)
  | entry id key =>
    exact (Balanced.heap.bind fun _ => (Balanced.ofNative _).bind fun _ =>
      (Balanced.ofNative _).bind fun _ => Balanced.native _).steady _

end

/-! ## Expressions -/

theorem constant_balanced (l : Literal) : Balanced (constant env l) := by
  unfold constant
  split
  case h_5 => exact Balanced.pure _
  all_goals exact Balanced.native _

theorem applyBinary_balanced (op : BinaryOp) (l r : Value) (span : Span) :
    Balanced (applyBinary env op l r span) :=
  Balanced.heap.bind fun _ => (Balanced.ofExcept (Operator.binary_faults _ _ _ _ _)).bind fun _ =>
    constant_balanced env _

theorem evalThis_steady (span : Span) : Steady [] (evalThis span) := by
  refine Steady.frame.bind fun f => Balanced.steady ?_ _
  split
  · exact Balanced.pure _
  · exact Balanced.fault (by simp)

theorem implicitTarget_steady (name : String) : Steady [] (implicitTarget env name) := by
  refine Steady.frame.bind fun f => Balanced.steady ?_ _
  split
  · refine Balanced.heap.bind fun heap => ?_
    dsimp only
    split <;> exact Balanced.pure _
  · split
    · exact Balanced.fault (by simp)
    · exact Balanced.pure _

section
include h

theorem evalName_steady (name : String) : Steady [] (calls.evalName env name) := by
  refine Steady.frame.bind fun f => Balanced.steady ?_ _
  split
  · exact Balanced.pure _
  · refine Balanced.heap.bind fun heap => ?_
    split
    · exact Balanced.pure _
    · refine (readStatic_balanced env h _ _).bind fun found => ?_
      split
      · exact Balanced.pure _
      · exact Balanced.fault (by simp)

theorem explicitTarget_steady (receiver : Expr) :
    Steady [] (calls.explicitTarget env receiver) := by
  refine (Balanced.get.steady _).bind fun s => ?_
  split
  · exact (Balanced.pure _).steady _
  · refine (h.eval receiver).bind fun v => Balanced.steady ?_ _
    cases v with
    | null => exact Balanced.fault (by simp)
    | object id => exact Balanced.pure _

theorem callTarget_balanced (target : Target) (name : String) (args : List Value) :
    Balanced (calls.callTarget env target name args) := by
  match target with
  | .static c => exact (callStatic_balanced env h c name args).bind fun _ => Balanced.pure _
  | .instance id => exact (callInstance_balanced env h id name args).bind fun _ => Balanced.pure _

theorem evalCreate_steady (type : DataType) (args : List Expr) :
    Steady [] (calls.evalCreate env type args) := by
  refine (Balanced.get.steady _).bind fun s => ?_
  split
  · exact (Balanced.fault (by simp)).steady _
  · exact (evalAll_steady h args).bind fun _ =>
      ((instantiate_balanced env h _ _ _).bind fun _ => Balanced.pure _).steady _

theorem evalCondition_steady (e : Expr) : Steady [] (calls.evalCondition e) :=
  (h.eval e).bind fun _ =>
    (Balanced.heap.bind fun _ => Balanced.ofExcept (Operator.truth_faults _ _ _)).steady _

theorem evalLogical_steady (op : BinaryOp) (left right : Expr) :
    Steady [] (calls.evalLogical env op left right) := by
  refine (evalCondition_steady h left).bind fun l => ?_
  split
  · exact (constant_balanced env _).steady _
  · exact (evalCondition_steady h right).bind fun _ => (constant_balanced env _).steady _

theorem evalStep_steady (target : Expr) (up : Bool) (span : Span) :
    Steady [] (calls.evalStep env target up span) :=
  (place_steady env h target).bind fun p => (load_steady env h p).bind fun _ =>
    (Balanced.heap.steady _).bind fun _ =>
      ((Balanced.ofExcept (Operator.step_faults _ _ _ _)).steady _).bind fun _ =>
        ((constant_balanced env _).steady _).bind fun _ => (store_steady env h _ p).bind fun _ =>
          (Balanced.pure _).steady _

theorem evalUnary_steady (op : UnaryOp) (operand : Expr) (span : Span) :
    Steady [] (calls.evalUnary env op operand span) := by
  cases op with
  | plus => exact h.eval operand
  | neg =>
    exact (h.eval operand).bind fun _ => (Balanced.heap.bind fun _ =>
      (Balanced.ofExcept (Operator.negate_faults _ _ _)).bind fun _ =>
        constant_balanced env _).steady _
  | not =>
    exact (h.eval operand).bind fun _ => (Balanced.heap.bind fun _ =>
      (Balanced.ofExcept (Operator.truth_faults _ _ _)).bind fun _ =>
        constant_balanced env _).steady _
  | inc | dec => exact (evalStep_steady env h _ _ _).bind fun _ => (Balanced.pure _).steady _

theorem evalAssign_steady (op : AssignOp) (target value : Expr) (span : Span) :
    Steady [] (calls.evalAssign env op target value span) := by
  refine (place_steady env h target).bind fun p => ?_
  have rest : ∀ v : Value, Steady [] (do calls.store env v p; pure v : Run Value) :=
    fun v => (store_steady env h v p).bind fun _ => (Balanced.pure _).steady _
  dsimp only
  split
  · exact (h.eval value).bind rest
  · exact (load_steady env h p).bind fun _ => (h.eval value).bind fun _ =>
      ((applyBinary_balanced env _ _ _ _).steady _).bind rest

theorem stepEval_steady (e : Expr) : Steady [] (calls.stepEval env e) := by
  cases e with
  | literal value span => exact (constant_balanced env value).steady _
  | name i => exact evalName_steady env h i.name
  | this span => exact evalThis_steady span
  | member object m span => exact (place_steady env h _).bind fun p => load_steady env h p
  | index object key span => exact (place_steady env h _).bind fun p => load_steady env h p
  | call method args span =>
    exact (implicitTarget_steady env method.name).bind fun target =>
      (evalAll_steady h args).bind fun vs =>
        (callTarget_balanced env h target method.name vs).steady _
  | callOn receiver method args span =>
    exact (explicitTarget_steady env h receiver).bind fun target =>
      (evalAll_steady h args).bind fun vs =>
        (callTarget_balanced env h target method.name vs).steady _
  | create type args span => exact evalCreate_steady env h type.dataType args
  | binary op left right span =>
    simp only [stepEval]
    split
    · exact evalLogical_steady env h op left right
    · exact (h.eval left).bind fun l => (h.eval right).bind fun r =>
        (applyBinary_balanced env op l r span).steady _
  | unary op operand span => exact evalUnary_steady env h op operand span
  | post op operand span =>
    exact (evalStep_steady env h _ _ _).bind fun _ => (Balanced.pure _).steady _
  | assign op target value span => exact evalAssign_steady env h op target value span
  | conditional condition yes no span =>
    refine (evalCondition_steady h condition).bind fun b => ?_
    split
    · exact h.eval yes
    · exact h.eval no
  | query text span => exact (Balanced.native (Native.runQuery env.toHost text)).steady _

/-! ## Statements -/

theorem declareVars_steady : ∀ vs : List Declarator,
    Steady (vs.map fun v => v.name.name) (calls.declareVars vs)
  | [] => (Balanced.pure _).steady _
  | v :: vs => by
    have declared : ∀ value : Value, Steady ((v :: vs).map fun v => v.name.name)
        (do Run.modifyFrame (·.declare v.name.name value); calls.declareVars vs) := fun value =>
      (Steady.modifyFrame fun f => f.keeps_declare v.name.name value).append fun _ =>
        declareVars_steady vs
    unfold declareVars
    split
    · exact (h.eval _).bind declared
    · exact ((Balanced.pure _).steady _).bind declared

theorem execBody_steady (body : Stmt) : Steady [] (calls.execBody body) := by
  refine (h.exec body).inBlock.bind fun flow => Balanced.steady ?_ _
  cases flow <;> exact Balanced.pure _

theorem execForInit_steady (init : Option ForInit) :
    ∃ vars, Steady vars (calls.execForInit init) := by
  match init with
  | some (.declare d) => exact ⟨_, declareVars_steady h d.vars⟩
  | some (.exprs es) =>
    exact ⟨[], (evalAll_steady h es).bind fun _ => (Balanced.pure _).steady _⟩
  | none => exact ⟨[], (Balanced.pure _).steady _⟩

theorem execEach_steady (name : String) (body : Stmt) :
    ∀ vs : List Value, Steady [] (calls.execEach name body vs)
  | [] => (Balanced.pure _).steady _
  | v :: vs => by
    have pass : Steady [name] (do Run.modifyFrame (·.declare name v); calls.execBody body) :=
      (Steady.modifyFrame fun f => f.keeps_declare name v).append fun _ => execBody_steady h body
    refine pass.inBlock.bind fun flow => ?_
    cases flow with
    | none => exact execEach_steady name body vs
    | some flow => exact (Balanced.pure _).steady _

theorem execForeach_steady (name : String) (iterable : Expr) (body : Stmt) :
    Steady [] (calls.execForeach name iterable body) := by
  refine (h.eval iterable).bind fun v => ?_
  cases v with
  | null => exact (Balanced.fault (by simp)).steady _
  | object id =>
    exact (Balanced.heap.steady _).bind fun _ => ((Balanced.ofNative _).steady _).bind fun items =>
      execEach_steady h name body _

theorem stepIterate_steady (l : Loop) : Steady [] (calls.stepIterate l) := by
  have pass : ∀ go : Bool, Steady [] (calls.pass l go) := by
    intro go
    cases go with
    | false => exact (Balanced.pure _).steady _
    | true =>
      refine (execBody_steady h l.body).bind fun flow => ?_
      cases flow with
      | some flow => exact (Balanced.pure _).steady _
      | none => exact (evalAll_steady h l.update).bind fun _ => h.iterate l
  cases hc : l.condition with
  | some e =>
    rw [stepIterate_of_some calls hc]
    exact (evalCondition_steady h e).bind pass
  | none =>
    rw [stepIterate_of_none calls hc]
    exact pass true

theorem stepExec_steady (s : Stmt) : Steady s.declared (calls.stepExec s) := by
  cases s with
  | expr e span => exact (h.eval e).bind fun _ => (Balanced.pure _).steady _
  | declare d =>
    refine ((declareVars_steady h d.vars).append fun _ => (Balanced.pure _).steady []).mono ?_
    simp [Stmt.declared]
  | block stmts span => exact (execAll_steady h stmts).inBlock
  | ifElse condition yes no span =>
    refine (evalCondition_steady h condition).bind fun b => ?_
    split
    · exact (h.exec yes).inBlock
    · split
      · exact (h.exec _).inBlock
      · exact (Balanced.pure _).steady _
  | whileLoop condition body span => exact h.iterate _
  | doWhile body condition span =>
    refine (execBody_steady h body).bind fun flow => ?_
    cases flow with
    | some flow => exact (Balanced.pure _).steady _
    | none => exact h.iterate _
  | forLoop init condition update body span =>
    obtain ⟨vars, hi⟩ := execForInit_steady h init
    exact (hi.append fun _ => h.iterate _).inBlock
  | foreach type var iterable body span => exact execForeach_steady h var.name iterable body
  | ret value span =>
    cases value with
    | some e => exact (h.eval e).bind fun _ => (Balanced.pure _).steady _
    | none => exact (Balanced.pure _).steady _
  | brk span => exact (Balanced.pure _).steady _
  | cont span => exact (Balanced.pure _).steady _

end

/-- Evaluation and execution keep the running frame, with any fuel. -/
theorem withFuel_steady : ∀ n, (Calls.withFuel env n).IsSteady
  | 0 =>
    ⟨fun _ => Balanced.outOfFuel.steady _, fun _ => Balanced.outOfFuel.steady _,
      fun _ => Balanced.outOfFuel.steady _⟩
  | n + 1 =>
    have ih := withFuel_steady n
    ⟨stepEval_steady env ih, stepExec_steady ih, stepIterate_steady ih⟩

end Calls

/-! ## Entry points -/

namespace Machine

theorem runEntry_balanced (env : Env) (fuel : Nat) (className method : String) :
    Balanced (runEntry env fuel className method) := by
  have h := Calls.withFuel_steady env fuel
  unfold runEntry
  dsimp only
  split
  · exact Balanced.fault (by simp)
  · refine (Balanced.log _).bind fun _ => ?_
    split
    · exact Calls.callStatic_balanced env h _ _ _
    · split
      · exact (Calls.instantiate_balanced env h _ _ _).bind fun id =>
          Calls.callInstance_balanced env h id _ _
      · exact Balanced.fault (by simp)

/-- The machine after entry methods have run one after the other, each with its own fuel. -/
def afterEntries (env : Env) (m : Machine) (entries : List (Nat × EntryPoint)) : Machine :=
  entries.foldl (fun m e => (runEntry env e.1 e.2.cls e.2.method).after m) m

theorem frames_afterEntries (env : Env) (entries : List (Nat × EntryPoint)) :
    ∀ m : Machine, (m.afterEntries env entries).frames = m.frames := by
  induction entries with
  | nil => intro m; rfl
  | cons e es ih =>
    intro m
    exact (ih _).trans ((runEntry_balanced env e.1 e.2.cls e.2.method).frames_after m)

end Machine

/-- **The frame stack is kept on every outcome.** Evaluation leaves the frames below the running
one alone and keeps the class, the receiver and the names of the running one; a statement, or a
sequence, may add the variables it declares itself to the innermost block. Calls, instances and
static initializers leave every frame as it is. So entry methods, run one after the other, give
back the depth they found, and none halts for want of a frame. -/
theorem frame_stack_discipline (env : Env) (n : Nat) (m : Machine) :
    (∀ e, KeepsFrames [] m.frames (((Calls.withFuel env n).eval e).after m).frames) ∧
    (∀ s, KeepsFrames s.declared m.frames (((Calls.withFuel env n).exec s).after m).frames) ∧
    (∀ ss, KeepsFrames (ss.flatMap Stmt.declared) m.frames
      (((Calls.withFuel env n).execAll ss).after m).frames) ∧
    (∀ c name args,
      (((Calls.withFuel env n).callStatic env c name args).after m).frames = m.frames) ∧
    (∀ id name args,
      (((Calls.withFuel env n).callInstance env id name args).after m).frames = m.frames) ∧
    (∀ method c receiver args,
      (((Calls.withFuel env n).invoke env method c receiver args).after m).frames = m.frames) ∧
    (∀ c typeArgs args,
      (((Calls.withFuel env n).instantiate env c typeArgs args).after m).frames = m.frames) ∧
    (∀ c, (((Calls.withFuel env n).ensureStatics env c).after m).frames = m.frames) ∧
    (∀ entries, (m.afterEntries env entries).depth = m.depth) ∧
    (∀ className method m',
      Machine.runEntry env n className method m ≠ .error (.fault .noFrame) m') := by
  have h := Calls.withFuel_steady env n
  refine ⟨fun e => (h.eval e).frames_after m, fun s => (h.exec s).frames_after m,
    fun ss => (Calls.execAll_steady h ss).frames_after m,
    fun c name args => (Calls.callStatic_balanced env h c name args).frames_after m,
    fun id name args => (Calls.callInstance_balanced env h id name args).frames_after m,
    fun k c r args => (Calls.invoke_balanced env h k c r args).frames_after m,
    fun c ts args => (Calls.instantiate_balanced env h c ts args).frames_after m,
    fun c => (Calls.ensureStatics_balanced env h c).frames_after m, fun entries => ?_, ?_⟩
  · simp only [Machine.depth, Machine.frames_afterEntries]
  · intro className method m' hr
    exact ((Machine.runEntry_balanced env n className method m).error hr).2 rfl

end ClassScript
