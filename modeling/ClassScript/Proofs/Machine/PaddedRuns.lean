import ClassScript.Proofs.Machine.Padding

/-!
# Every computation of the machine ignores empty blocks

One lemma for each operation of the machine, over any `Calls` whose own evaluation ignores empty
blocks. Evaluation and loops ignore them everywhere. What declares variables in the block that it
runs in ignores all but an innermost one. `Calls.withFuel_ignores` ties the knot.
-/

namespace ClassScript

open Run (Ignores)

/-- Evaluation and loops that ignore empty blocks everywhere; a statement ignores those that are not
innermost. -/
structure Calls.IgnoresBlocks (calls : Calls) : Prop where
  eval : ∀ {low : Nat} e, Ignores low (calls.eval e)
  exec : ∀ s, Ignores 1 (calls.exec s)
  iterate : ∀ {low : Nat} l, Ignores low (calls.iterate l)

namespace Calls

variable (env : Env) {calls : Calls} (h : calls.IgnoresBlocks) {low : Nat}

/-! ## Calls and instances -/

section
include h

theorem evalAll_ignores (es : List Expr) : Ignores low (calls.evalAll es) := by
  induction es with
  | nil => exact .pure _
  | cons e es ih => exact (h.eval e).bind fun _ => ih.bind fun _ => .pure _

theorem execAll_ignores (ss : List Stmt) : Ignores 1 (calls.execAll ss) := by
  induction ss with
  | nil => exact .pure _
  | cons s ss ih =>
    refine (h.exec s).bind fun flow => ?_
    cases flow with
    | normal => exact ih
    | ret _ | brk | cont => exact .pure _

theorem initStatics_ignores : ∀ ps : List PendingStatic, Ignores low (calls.initStatics ps)
  | [] => .pure _
  | p :: ps => (h.eval p.init).bind fun _ => (Ignores.modifyStatics _).bind fun _ =>
      initStatics_ignores ps

theorem ensureStatics_ignores (c : ClassInfo) : Ignores low (calls.ensureStatics env c) := by
  refine (Ignores.touchStatics _).bind fun pending => ?_
  split
  · exact .pure _
  · exact (Ignores.log _).bind fun _ => .inFrame _ (initStatics_ignores h pending)

theorem readStatic_ignores (c : ClassInfo) (name : String) :
    Ignores low (calls.readStatic env c name) := by
  unfold readStatic
  split
  · exact .pure _
  · exact (ensureStatics_ignores env h c).bind fun _ =>
      .get (fun _ => .pure _) fun j k m m' hm => by rw [hm.statics]

theorem writeStatic_ignores (c : ClassInfo) (name : String) (v : Value) :
    Ignores low (calls.writeStatic env c name v) := by
  unfold writeStatic
  split
  · exact .pure _
  · exact (ensureStatics_ignores env h c).bind fun _ => .modifyStatics _

end

theorem selectOrFail_ignores (b : TypeBindings) (group : Option (List MethodInfo))
    (args : List Value) (className name : String) :
    Ignores low (selectOrFail env b group args className name) := by
  refine (Ignores.heap.bind fun _ => .pure _).bind fun found => ?_
  cases found with
  | none => exact .fault _
  | some m => exact .pure _

section
include h

theorem invoke_ignores (m : MethodInfo) (c : ClassInfo) (receiver : Option ObjectId)
    (args : List Value) : Ignores low (calls.invoke env m c receiver args) := by
  refine (Ignores.log _).bind fun _ => .get (fun s => ?_) fun j k s s' hs => by rw [hs.depth]
  split
  · exact .fault _
  · split
    · exact .native _
    · split
      · exact (Ignores.inFrame _ (execAll_ignores h _)).bind fun _ => .pure _
      · exact .fault _
    · exact .fault _

theorem callStatic_ignores (c : ClassInfo) (name : String) (args : List Value) :
    Ignores low (calls.callStatic env c name args) :=
  (ensureStatics_ignores env h c).bind fun _ =>
    (selectOrFail_ignores env _ _ _ _ _).bind fun m => invoke_ignores env h m c none args

theorem callInstance_ignores (id : ObjectId) (name : String) (args : List Value) :
    Ignores low (calls.callInstance env id name args) :=
  Ignores.heap.bind fun _ => (selectOrFail_ignores env _ _ _ _ _).bind fun m =>
    invoke_ignores env h m _ (some id) args

theorem initFields_ignores (id : ObjectId) : ∀ fs : List FieldInfo,
    Ignores low (calls.initFields id fs)
  | [] => .pure _
  | f :: fs => by
    unfold initFields
    split
    · exact (h.eval _).bind fun _ => (Ignores.native _).bind fun _ => initFields_ignores id fs
    · exact initFields_ignores id fs

theorem construct_ignores (c : ClassInfo) (id : ObjectId) (typeArgs : List DataType)
    (args : List Value) : Ignores low (calls.construct env c id typeArgs args) := by
  unfold construct
  split
  · split
    · exact .pure _
    · exact .fault _
  · exact (selectOrFail_ignores env _ _ _ _ _).bind fun m =>
      (invoke_ignores env h m c (some id) args).bind fun _ => .pure _

theorem instantiate_ignores (c : ClassInfo) (typeArgs : List DataType) (args : List Value) :
    Ignores low (calls.instantiate env c typeArgs args) := by
  refine (ensureStatics_ignores env h c).bind fun _ => Ignores.heap.bind fun _ =>
    (Ignores.native _).bind fun _ => ?_
  have rest : ∀ {id : ObjectId}, Ignores low
      (do calls.construct env c id typeArgs args; pure id : Run ObjectId) :=
    (construct_ignores env h c _ typeArgs args).bind fun _ => .pure _
  dsimp only
  split
  · exact (Ignores.inFrame _ (initFields_ignores h _ _)).bind fun _ => rest
  · exact rest

end

/-! ## Places -/

theorem namePlace_ignores (name : String) : Ignores low (namePlace env name) := by
  refine .frame (fun f => Ignores.heap.bind fun heap => ?_) fun f f' hcls hthis hlookup => by
    rw [Frame.isLocal_congr hlookup, hcls, hthis]
  split
  · exact .pure _
  · split
    · exact .pure _
    · split
      · exact .pure _
      · exact .fault _

theorem staticPlace_ignores (c : ClassInfo) (name : String) :
    Ignores low (staticPlace env c name) := by
  unfold staticPlace
  split
  · exact .pure _
  · exact .fault _

section
include h

theorem memberPlace_ignores (object : Expr) (name : String) (span : Span) :
    Ignores low (calls.memberPlace env object name span) := by
  refine .get (fun s => ?_) fun j k s s' hs => by rw [hs.classRef?]
  split
  · exact staticPlace_ignores env _ _
  · refine (h.eval object).bind fun v => ?_
    cases v with
    | null => exact .fault _
    | object id =>
      refine Ignores.heap.bind fun heap => ?_
      split
      · exact .pure _
      · exact staticPlace_ignores env _ _

theorem indexPlace_ignores (object key : Expr) (span : Span) :
    Ignores low (calls.indexPlace object key span) := by
  refine (h.eval object).bind fun v => (h.eval key).bind fun k => ?_
  cases v with
  | null => exact .fault _
  | object id =>
    refine Ignores.heap.bind fun heap => ?_
    split
    · exact (Ignores.ofExcept _).bind fun _ => .pure _
    · exact .pure _
    · exact .fault _

theorem place_ignores (e : Expr) : Ignores low (calls.place env e) := by
  unfold place
  split
  · exact namePlace_ignores env _
  · exact memberPlace_ignores env h _ _ _
  · exact indexPlace_ignores h _ _ _
  · exact .fault _

theorem load_ignores (p : Place) : Ignores low (calls.load env p) := by
  cases p with
  | var name =>
    refine .frame (fun f => ?_) fun f f' _ _ hlookup => by rw [hlookup]
    split
    · exact .pure _
    · exact .fault _
  | field id name => exact Ignores.heap.bind fun _ => .pure _
  | static c name => exact (readStatic_ignores env h c name).bind fun _ => .pure _
  | slot id i span => exact Ignores.heap.bind fun _ => (Ignores.ofNative _).bind fun _ => .pure _
  | entry id key =>
    exact Ignores.heap.bind fun _ => (Ignores.ofNative _).bind fun _ =>
      (Ignores.ofNative _).bind fun _ => .pure _

theorem store_ignores (v : Value) (p : Place) : Ignores low (calls.store env v p) := by
  cases p with
  | var name =>
    refine .frame (fun f => ?_) fun f f' _ _ hlookup => by rw [Frame.isLocal_congr hlookup]
    split
    · exact .assign name v
    · exact .fault _
  | field id name =>
    unfold store
    exact .native _
  | static c name => exact writeStatic_ignores env h c name v
  | slot id i span =>
    refine Ignores.heap.bind fun _ => (Ignores.ofNative _).bind fun items => ?_
    split
    · exact .native _
    · exact .fault _
  | entry id key =>
    exact Ignores.heap.bind fun _ => (Ignores.ofNative _).bind fun _ =>
      (Ignores.ofNative _).bind fun _ => .native _

end

/-! ## Expressions -/

theorem constant_ignores (l : Literal) : Ignores low (constant env l) := by
  unfold constant
  split
  case h_5 => exact .pure _
  all_goals exact .native _

theorem applyBinary_ignores (op : BinaryOp) (l r : Value) (span : Span) :
    Ignores low (applyBinary env op l r span) :=
  Ignores.heap.bind fun _ => (Ignores.ofExcept _).bind fun _ => constant_ignores env _

theorem evalThis_ignores (span : Span) : Ignores low (evalThis span) := by
  refine .frame (fun f => ?_) fun f f' _ hthis _ => by rw [hthis]
  split
  · exact .pure _
  · exact .fault _

theorem implicitTarget_ignores (name : String) : Ignores low (implicitTarget env name) := by
  refine .frame (fun f => ?_) fun f f' hcls hthis _ => by rw [hcls, hthis]
  split
  · refine Ignores.heap.bind fun heap => ?_
    dsimp only
    split <;> exact .pure _
  · split
    · exact .fault _
    · exact .pure _

section
include h

theorem evalName_ignores (name : String) : Ignores low (calls.evalName env name) := by
  refine .frame (fun f => ?_) fun f f' hcls hthis hlookup => by rw [hcls, hthis, hlookup]
  split
  · exact .pure _
  · refine Ignores.heap.bind fun heap => ?_
    split
    · exact .pure _
    · refine (readStatic_ignores env h _ _).bind fun found => ?_
      split
      · exact .pure _
      · exact .fault _

theorem explicitTarget_ignores (receiver : Expr) :
    Ignores low (calls.explicitTarget env receiver) := by
  refine .get (fun s => ?_) fun j k s s' hs => by rw [hs.classRef?]
  split
  · exact .pure _
  · refine (h.eval receiver).bind fun v => ?_
    cases v with
    | null => exact .fault _
    | object id => exact .pure _

theorem callTarget_ignores (target : Target) (name : String) (args : List Value) :
    Ignores low (calls.callTarget env target name args) := by
  match target with
  | .static c => exact (callStatic_ignores env h c name args).bind fun _ => .pure _
  | .instance id => exact (callInstance_ignores env h id name args).bind fun _ => .pure _

theorem evalCreate_ignores (type : DataType) (args : List Expr) :
    Ignores low (calls.evalCreate env type args) := by
  refine .get (fun s => ?_) fun j k s s' hs => by rw [hs.lookupClass?]
  split
  · exact .fault _
  · exact (evalAll_ignores h args).bind fun _ =>
      (instantiate_ignores env h _ _ _).bind fun _ => .pure _

theorem evalCondition_ignores (e : Expr) : Ignores low (calls.evalCondition e) :=
  (h.eval e).bind fun _ => Ignores.heap.bind fun _ => .ofExcept _

theorem evalLogical_ignores (op : BinaryOp) (left right : Expr) :
    Ignores low (calls.evalLogical env op left right) := by
  refine (evalCondition_ignores h left).bind fun l => ?_
  split
  · exact constant_ignores env _
  · exact (evalCondition_ignores h right).bind fun _ => constant_ignores env _

theorem evalStep_ignores (target : Expr) (up : Bool) (span : Span) :
    Ignores low (calls.evalStep env target up span) :=
  (place_ignores env h target).bind fun p => (load_ignores env h p).bind fun _ =>
    Ignores.heap.bind fun _ => (Ignores.ofExcept _).bind fun _ =>
      (constant_ignores env _).bind fun _ => (store_ignores env h _ p).bind fun _ => .pure _

theorem evalUnary_ignores (op : UnaryOp) (operand : Expr) (span : Span) :
    Ignores low (calls.evalUnary env op operand span) := by
  cases op with
  | plus => exact h.eval operand
  | neg | not =>
    exact (h.eval operand).bind fun _ => Ignores.heap.bind fun _ =>
      (Ignores.ofExcept _).bind fun _ => constant_ignores env _
  | inc | dec => exact (evalStep_ignores env h _ _ _).bind fun _ => .pure _

theorem evalAssign_ignores (op : AssignOp) (target value : Expr) (span : Span) :
    Ignores low (calls.evalAssign env op target value span) := by
  refine (place_ignores env h target).bind fun p => ?_
  have rest : ∀ v : Value, Ignores low (do calls.store env v p; pure v : Run Value) :=
    fun v => (store_ignores env h v p).bind fun _ => .pure _
  dsimp only
  split
  · exact (h.eval value).bind rest
  · exact (load_ignores env h p).bind fun _ => (h.eval value).bind fun _ =>
      (applyBinary_ignores env _ _ _ _).bind rest

theorem stepEval_ignores (e : Expr) : Ignores low (calls.stepEval env e) := by
  cases e with
  | literal value span => exact constant_ignores env value
  | name i => exact evalName_ignores env h i.name
  | this span => exact evalThis_ignores span
  | member object m span => exact (place_ignores env h _).bind fun p => load_ignores env h p
  | index object key span => exact (place_ignores env h _).bind fun p => load_ignores env h p
  | call method args span =>
    exact (implicitTarget_ignores env method.name).bind fun target =>
      (evalAll_ignores h args).bind fun vs => callTarget_ignores env h target method.name vs
  | callOn receiver method args span =>
    exact (explicitTarget_ignores env h receiver).bind fun target =>
      (evalAll_ignores h args).bind fun vs => callTarget_ignores env h target method.name vs
  | create type args span => exact evalCreate_ignores env h type.dataType args
  | binary op left right span =>
    simp only [stepEval]
    split
    · exact evalLogical_ignores env h op left right
    · exact (h.eval left).bind fun l => (h.eval right).bind fun r =>
        applyBinary_ignores env op l r span
  | unary op operand span => exact evalUnary_ignores env h op operand span
  | post op operand span => exact (evalStep_ignores env h _ _ _).bind fun _ => .pure _
  | assign op target value span => exact evalAssign_ignores env h op target value span
  | conditional condition yes no span =>
    refine (evalCondition_ignores h condition).bind fun b => ?_
    split
    · exact h.eval yes
    · exact h.eval no
  | query text span => exact .native _

/-! ## Statements -/

theorem declareVars_ignores : ∀ vs : List Declarator, Ignores 1 (calls.declareVars vs)
  | [] => .pure _
  | v :: vs => by
    have declared : ∀ value : Value, Ignores 1
        (do Run.modifyFrame (·.declare v.name.name value); calls.declareVars vs) := fun value =>
      (Ignores.declare v.name.name value).bind fun _ => declareVars_ignores vs
    unfold declareVars
    split
    · exact (h.eval _).bind declared
    · exact (Ignores.pure _).bind declared

theorem execBody_ignores (body : Stmt) : Ignores low (calls.execBody body) := by
  refine (Ignores.inBlock (h.exec body)).bind fun flow => ?_
  cases flow <;> exact .pure _

theorem execForInit_ignores (init : Option ForInit) : Ignores 1 (calls.execForInit init) := by
  match init with
  | some (.declare d) => exact declareVars_ignores h d.vars
  | some (.exprs es) => exact (evalAll_ignores h es).bind fun _ => .pure _
  | none => exact .pure _

theorem execEach_ignores (name : String) (body : Stmt) :
    ∀ vs : List Value, Ignores low (calls.execEach name body vs)
  | [] => .pure _
  | v :: vs => by
    have pass : Ignores 1 (do Run.modifyFrame (·.declare name v); calls.execBody body) :=
      (Ignores.declare name v).bind fun _ => execBody_ignores h body
    refine (Ignores.inBlock pass).bind fun flow => ?_
    cases flow with
    | none => exact execEach_ignores name body vs
    | some flow => exact .pure _

theorem execForeach_ignores (name : String) (iterable : Expr) (body : Stmt) :
    Ignores low (calls.execForeach name iterable body) := by
  refine (h.eval iterable).bind fun v => ?_
  cases v with
  | null => exact .fault _
  | object id =>
    exact Ignores.heap.bind fun _ => (Ignores.ofNative _).bind fun items =>
      execEach_ignores h name body _

theorem stepIterate_ignores (l : Loop) : Ignores low (calls.stepIterate l) := by
  have pass : ∀ go : Bool, Ignores low (calls.pass l go) := by
    intro go
    cases go with
    | false => exact .pure _
    | true =>
      refine (execBody_ignores h l.body).bind fun flow => ?_
      cases flow with
      | some flow => exact .pure _
      | none => exact (evalAll_ignores h l.update).bind fun _ => h.iterate l
  cases hc : l.condition with
  | some e =>
    rw [stepIterate_of_some calls hc]
    exact (evalCondition_ignores h e).bind pass
  | none =>
    rw [stepIterate_of_none calls hc]
    exact pass true

theorem stepExec_ignores (s : Stmt) : Ignores 1 (calls.stepExec s) := by
  cases s with
  | expr e span => exact (h.eval e).bind fun _ => .pure _
  | declare d => exact (declareVars_ignores h d.vars).bind fun _ => .pure _
  | block stmts span => exact .inBlock (execAll_ignores h stmts)
  | ifElse condition yes no span =>
    refine (evalCondition_ignores h condition).bind fun b => ?_
    split
    · exact .inBlock (h.exec yes)
    · split
      · exact .inBlock (h.exec _)
      · exact .pure _
  | whileLoop condition body span => exact h.iterate _
  | doWhile body condition span =>
    refine (execBody_ignores h body).bind fun flow => ?_
    cases flow with
    | some flow => exact .pure _
    | none => exact h.iterate _
  | forLoop init condition update body span =>
    exact .inBlock ((execForInit_ignores h init).bind fun _ => h.iterate _)
  | foreach type var iterable body span => exact execForeach_ignores h var.name iterable body
  | ret value span =>
    cases value with
    | some e => exact (h.eval e).bind fun _ => .pure _
    | none => exact .pure _
  | brk span => exact .pure _
  | cont span => exact .pure _

end

/-- Evaluation and execution ignore empty blocks, with any fuel. -/
theorem withFuel_ignores : ∀ n, (Calls.withFuel env n).IgnoresBlocks
  | 0 => ⟨fun _ => .throw _, fun _ => .throw _, fun _ => .throw _⟩
  | n + 1 =>
    have ih := withFuel_ignores n
    ⟨stepEval_ignores env ih, stepExec_ignores ih, stepIterate_ignores ih⟩

end Calls

end ClassScript
