import ClassScript.Proofs.Class.Alike
import ClassScript.Proofs.Machine.Probe

/-!
# Steps over related calls

A step evaluates and executes in turn only through `Calls`, it reads the classes only through
look-ups, and it shows the credentials to the query service only. So a step over one `Calls` is
related to the same step over another, in a run that is given the same as far as that goes
(`Env.Alike`), by every relation between computations that composition respects
(`Run.Congruence`), if what the two calls evaluate and execute is related.

Main statements: `Calls.stepEval_congr`, `Calls.stepExec_congr` and `Calls.stepIterate_congr` for
the steps, and `Machine.enter_congr` for entry methods.
-/

namespace ClassScript

/-! ## What runs cannot tell apart -/

/-- The hosts differ at most in the order of their classes and in their credentials, and the query
service does not tell these credentials apart. -/
structure Host.Alike (host host' : Host) : Prop where
  classes : host.classes.Alike host'.classes
  prims : host'.prims = host.prims
  query : host'.query = host.query
  answers : ∀ service, host.query = some service →
    service.execute host'.credentials = service.execute host.credentials
  today : host'.today = host.today

/-- What runs are given differs at most as hosts that are alike do. -/
structure Env.Alike (env env' : Env) : Prop where
  host : env.toHost.Alike env'.toHost
  maxDepth : env'.maxDepth = env.maxDepth

theorem Env.Alike.refl (env : Env) : env.Alike env :=
  ⟨⟨.refl _, rfl, rfl, fun _ _ => rfl, rfl⟩, rfl⟩

theorem Env.Alike.classes {env env' : Env} (h : env.Alike env') :
    env.classes.Alike env'.classes := h.host.classes

/-! ## Relations between computations -/

/-- The relation holds of equal computations, and composition and the operations that run another
computation respect it. -/
structure Run.Congruence (R : ∀ α : Type, Run α → Run α → Prop) : Prop where
  refl : ∀ {α : Type} (x : Run α), R α x x
  bind : ∀ {α β : Type} {x y : Run α} {f g : α → Run β}, R α x y → (∀ a, R β (f a) (g a)) →
    R β (x >>= f) (y >>= g)
  inFrame : ∀ {α : Type} {x y : Run α} (f : Frame), R α x y → R α (inFrame f x) (inFrame f y)
  inBlock : ∀ {α : Type} {x y : Run α}, R α x y → R α (inBlock x) (inBlock y)

/-- What the calls evaluate and execute is related. -/
structure Calls.Related (R : ∀ α : Type, Run α → Run α → Prop) (calls calls' : Calls) : Prop where
  eval : ∀ e, R _ (calls.eval e) (calls'.eval e)
  exec : ∀ s, R _ (calls.exec s) (calls'.exec s)
  iterate : ∀ l, R _ (calls.iterate l) (calls'.iterate l)

/-! ## Built-in methods -/

namespace Native

variable {host host' : Host} (ha : host.Alike host')
include ha

theorem integer_alike (n : Int64) : integer host' n = integer host n := by
  simp only [integer, ha.prims]

theorem double_alike (x : Double) : double host' x = double host x := by
  simp only [double, ha.prims]

theorem boolean_alike (b : Bool) : boolean host' b = boolean host b := by
  simp only [boolean, ha.prims]

theorem string_alike (s : String) : string host' s = string host s := by
  simp only [string, ha.prims]

theorem list_alike (element : DataType) (items : Array Value) :
    list host' element items = list host element items := by
  simp only [list, ha.prims]

theorem optionalString_alike (s : Option String) :
    optionalString host' s = optionalString host s := by
  cases s with
  | none => rfl
  | some s => exact string_alike ha s

theorem count_alike (n : Nat) : count host' n = count host n := by
  simp only [count, integer_alike ha]

theorem newDate_alike (d : Date) : newDate host' d = newDate host d := by
  simp only [newDate, newObject, ha.classes.resolve?]

theorem materialize_alike (rows : List QueryRow) :
    materialize host' rows = materialize host rows := by
  have hrecord : ∀ cls, recordOf host' cls = recordOf host cls := by
    intro cls
    funext row
    simp only [recordOf, string_alike ha]
  simp only [materialize, ha.classes.get?, hrecord, list_alike ha]

theorem runQuery_alike (query : String) : runQuery host' query = runQuery host query := by
  unfold runQuery
  rw [ha.query]
  cases hq : host.query with
  | none => rfl
  | some service =>
    have hs : ask service host'.credentials query = ask service host.credentials query := by
      funext ⟨heap, sink, log⟩
      simp only [ask, ha.answers service hq]
    simp only [hs, materialize_alike ha]

theorem call_alike (c : NativeCall) (method : NativeMethod) :
    call host' c method = call host c method := by
  cases method
  all_goals simp only [call, scalarMethod, listMethod, mapMethod, dateMethod, requestMethod,
    integer_alike ha, boolean_alike ha, string_alike ha, list_alike ha, optionalString_alike ha,
    count_alike ha, newDate_alike ha, runQuery_alike ha, ha.today]

end Native

/-! ## Look-ups of a running machine -/

namespace Machine

variable {t t' : ClassTable} (ha : t.Alike t')
include ha

theorem lookupClass?_alike (m : Machine) (name : String) :
    m.lookupClass? t' name = m.lookupClass? t name := by
  simp only [lookupClass?, ha.resolve?]

theorem readField?_alike (h : Heap) (id : ObjectId) (name : String) :
    readField? t' h id name = readField? t h id name := by
  simp only [readField?, ha.instanceField?]

theorem namesValue_alike (m : Machine) (name : String) :
    m.namesValue t' name = m.namesValue t name := by
  simp only [namesValue, readField?_alike ha, ha.staticField?]

theorem classRef?_alike (m : Machine) : ∀ e : Expr, m.classRef? t' e = m.classRef? t e
  | .name i => by simp only [classRef?, namesValue_alike ha, lookupClass?_alike ha]
  | .member object i _ => by simp only [classRef?, classRef?_alike m object]
  | .literal .. | .this _ | .call .. | .callOn .. | .create .. | .index .. | .binary .. | .unary ..
  | .post .. | .assign .. | .conditional .. | .query .. => rfl

end Machine

namespace Calls

variable {env env' : Env}

section

variable (ha : env.Alike env')
include ha

theorem selectOrFail_alike (b : TypeBindings) (group : Option (List MethodInfo)) (args : List Value)
    (className name : String) :
    selectOrFail env' b group args className name =
      selectOrFail env b group args className name := by
  simp only [selectOrFail, select, ha.classes.overload]

theorem hasField_alike (h : Heap) (id : ObjectId) (name : String) :
    hasField env' h id name = hasField env h id name := by
  simp only [hasField, Machine.readField?_alike ha.classes]

theorem namePlace_alike (name : String) :
    namePlace env' name = namePlace env name := by
  simp only [namePlace, hasField_alike ha, ha.classes.staticField?]

theorem staticPlace_alike (c : ClassInfo) (name : String) :
    staticPlace env' c name = staticPlace env c name := by
  simp only [staticPlace, ha.classes.staticField?]

theorem implicitTarget_alike (name : String) :
    implicitTarget env' name = implicitTarget env name := by
  simp only [implicitTarget, ha.classes.instanceMethods?, ha.classes.staticMethods?]

theorem constant_alike (literal : Literal) : constant env' literal = constant env literal := by
  cases literal with
  | integer n => exact congrArg Run.native (Native.integer_alike ha.host n)
  | double x => exact congrArg Run.native (Native.double_alike ha.host x)
  | boolean b => exact congrArg Run.native (Native.boolean_alike ha.host b)
  | string s => exact congrArg Run.native (Native.string_alike ha.host s)
  | null => rfl

theorem applyBinary_alike (op : BinaryOp) (left right : Value) (span : Span) :
    applyBinary env' op left right span = applyBinary env op left right span := by
  simp only [applyBinary, constant_alike ha]

end

variable {R : ∀ α : Type, Run α → Run α → Prop} {calls calls' : Calls} (hr : Run.Congruence R)
  (ha : env.Alike env') (h : calls.Related R calls')

/-! ## Calls and instances -/

section

include hr h

theorem evalAll_congr (es : List Expr) : R _ (calls.evalAll es) (calls'.evalAll es) := by
  induction es with
  | nil => exact hr.refl _
  | cons e es ih => exact hr.bind (h.eval e) fun _ => hr.bind ih fun _ => hr.refl _

theorem execAll_congr (ss : List Stmt) : R _ (calls.execAll ss) (calls'.execAll ss) := by
  induction ss with
  | nil => exact hr.refl _
  | cons s ss ih =>
    refine hr.bind (h.exec s) fun flow => ?_
    cases flow with
    | normal => exact ih
    | ret _ | brk | cont => exact hr.refl _

theorem initStatics_congr : ∀ ps : List PendingStatic,
    R _ (calls.initStatics ps) (calls'.initStatics ps)
  | [] => hr.refl _
  | p :: ps =>
    hr.bind (h.eval p.init) fun _ => hr.bind (hr.refl _) fun _ => initStatics_congr ps

theorem initFields_congr (id : ObjectId) : ∀ fs : List FieldInfo,
    R _ (calls.initFields id fs) (calls'.initFields id fs)
  | [] => hr.refl _
  | f :: fs => by
    unfold initFields
    cases f.init with
    | none => exact initFields_congr id fs
    | some e =>
      exact hr.bind (h.eval e) fun _ => hr.bind (hr.refl _) fun _ => initFields_congr id fs

include ha

theorem ensureStatics_congr (c : ClassInfo) :
    R _ (calls.ensureStatics env c) (calls'.ensureStatics env' c) := by
  simp only [ensureStatics, ha.classes.chain]
  refine hr.bind (hr.refl _) fun pending => ?_
  split
  · exact hr.refl _
  · exact hr.bind (hr.refl _) fun _ => hr.inFrame _ (initStatics_congr hr h pending)

theorem readStatic_congr (c : ClassInfo) (name : String) :
    R _ (calls.readStatic env c name) (calls'.readStatic env' c name) := by
  simp only [readStatic, ha.classes.staticField?]
  cases c.staticField? env.classes name with
  | none => exact hr.refl _
  | some found => exact hr.bind (ensureStatics_congr hr ha h c) fun _ => hr.refl _

theorem writeStatic_congr (c : ClassInfo) (name : String) (v : Value) :
    R _ (calls.writeStatic env c name v) (calls'.writeStatic env' c name v) := by
  simp only [writeStatic, ha.classes.staticField?]
  cases c.staticField? env.classes name with
  | none => exact hr.refl _
  | some found => exact hr.bind (ensureStatics_congr hr ha h c) fun _ => hr.refl _

theorem invoke_congr (k : MethodInfo) (c : ClassInfo) (receiver : Option ObjectId)
    (args : List Value) : R _ (calls.invoke env k c receiver args)
      (calls'.invoke env' k c receiver args) := by
  refine hr.bind (hr.refl _) fun _ => hr.bind (hr.refl _) fun m => ?_
  rw [ha.maxDepth]
  split
  · exact hr.refl _
  · cases k.body with
    | native method =>
      simp only [Native.call_alike ha.host]
      exact hr.refl _
    | script stmts =>
      dsimp only
      split
      · exact hr.bind (hr.inFrame _ (execAll_congr hr h stmts)) fun _ => hr.refl _
      · exact hr.refl _
    | abstract => exact hr.refl _

theorem callStatic_congr (c : ClassInfo) (name : String) (args : List Value) :
    R _ (calls.callStatic env c name args)
      (calls'.callStatic env' c name args) := by
  simp only [callStatic, ha.classes.staticMethods?, selectOrFail_alike ha]
  exact hr.bind (ensureStatics_congr hr ha h c) fun _ => hr.bind (hr.refl _) fun k =>
    invoke_congr hr ha h k c none args

theorem callInstance_congr (id : ObjectId) (name : String) (args : List Value) :
    R _ (calls.callInstance env id name args)
      (calls'.callInstance env' id name args) := by
  simp only [callInstance, ha.classes.instanceMethods?, selectOrFail_alike ha]
  exact hr.bind (hr.refl _) fun _ => hr.bind (hr.refl _) fun k => invoke_congr hr ha h k _ _ args

theorem construct_congr (c : ClassInfo) (id : ObjectId) (typeArgs : List DataType)
    (args : List Value) : R _ (calls.construct env c id typeArgs args)
      (calls'.construct env' c id typeArgs args) := by
  simp only [construct, selectOrFail_alike ha]
  split
  · exact hr.refl _
  · exact hr.bind (hr.refl _) fun k => hr.bind (invoke_congr hr ha h k c _ args) fun _ => hr.refl _

theorem instantiate_congr (c : ClassInfo) (typeArgs : List DataType) (args : List Value) :
    R _ (calls.instantiate env c typeArgs args)
      (calls'.instantiate env' c typeArgs args) := by
  simp only [instantiate, ha.classes.allInstanceFields]
  refine hr.bind (ensureStatics_congr hr ha h c) fun _ => hr.bind (hr.refl _) fun heap =>
    hr.bind (hr.refl _) fun _ => ?_
  split
  · exact hr.bind (hr.inFrame _ (initFields_congr hr h _ _)) fun _ =>
      hr.bind (construct_congr hr ha h c _ typeArgs args) fun _ => hr.refl _
  · exact hr.bind (construct_congr hr ha h c _ typeArgs args) fun _ => hr.refl _

/-! ## Places -/

theorem memberPlace_congr (object : Expr) (name : String) (span : Span) :
    R _ (calls.memberPlace env object name span)
      (calls'.memberPlace env' object name span) := by
  simp only [memberPlace, Machine.classRef?_alike ha.classes, staticPlace_alike ha,
    hasField_alike ha]
  refine hr.bind (hr.refl _) fun m => ?_
  cases m.classRef? env.classes object with
  | some c => exact hr.refl _
  | none => exact hr.bind (h.eval object) fun _ => hr.refl _

theorem place_congr (e : Expr) :
    R _ (calls.place env e) (calls'.place env' e) := by
  cases e with
  | name i =>
    simp only [place, namePlace_alike ha]
    exact hr.refl _
  | member object i span => exact memberPlace_congr hr ha h object i.name span
  | index object key span =>
    exact hr.bind (h.eval object) fun _ => hr.bind (h.eval key) fun _ => hr.refl _
  | literal _ _ | this _ | call _ _ _ | callOn _ _ _ _ | create _ _ _ | binary _ _ _ _
  | unary _ _ _ | post _ _ _ | assign _ _ _ _ | conditional _ _ _ _ | query _ _ => exact hr.refl _

theorem load_congr (p : Place) : R _ (calls.load env p) (calls'.load env' p) := by
  cases p with
  | field id name =>
    simp only [load, Machine.readField?_alike ha.classes]
    exact hr.refl _
  | static c name => exact hr.bind (readStatic_congr hr ha h c name) fun _ => hr.refl _
  | var name | slot id i span | entry id key => exact hr.refl _

theorem store_congr (v : Value) (p : Place) :
    R _ (calls.store env v p) (calls'.store env' v p) := by
  cases p with
  | static c name => exact writeStatic_congr hr ha h c name v
  | field id name =>
    unfold store
    exact hr.refl _
  | var name | slot id i span | entry id key => exact hr.refl _

/-! ## Expressions -/

theorem evalName_congr (name : String) :
    R _ (calls.evalName env name) (calls'.evalName env' name) := by
  simp only [evalName, Machine.readField?_alike ha.classes]
  refine hr.bind (hr.refl _) fun f => ?_
  cases f.lookup? name with
  | some v => exact hr.refl _
  | none =>
    refine hr.bind (hr.refl _) fun heap => ?_
    split
    · exact hr.refl _
    · exact hr.bind (readStatic_congr hr ha h f.cls name) fun _ => hr.refl _

theorem explicitTarget_congr (receiver : Expr) :
    R _ (calls.explicitTarget env receiver)
      (calls'.explicitTarget env' receiver) := by
  simp only [explicitTarget, Machine.classRef?_alike ha.classes]
  refine hr.bind (hr.refl _) fun m => ?_
  cases m.classRef? env.classes receiver with
  | some c => exact hr.refl _
  | none => exact hr.bind (h.eval receiver) fun _ => hr.refl _

theorem callTarget_congr (target : Target) (name : String) (args : List Value) :
    R _ (calls.callTarget env target name args)
      (calls'.callTarget env' target name args) := by
  match target with
  | .static c => exact hr.bind (callStatic_congr hr ha h c name args) fun _ => hr.refl _
  | .instance id => exact hr.bind (callInstance_congr hr ha h id name args) fun _ => hr.refl _

theorem evalCreate_congr (type : DataType) (args : List Expr) :
    R _ (calls.evalCreate env type args) (calls'.evalCreate env' type args) := by
  simp only [evalCreate, Machine.lookupClass?_alike ha.classes]
  refine hr.bind (hr.refl _) fun m => ?_
  cases m.lookupClass? env.classes type.name with
  | none => exact hr.refl _
  | some c =>
    exact hr.bind (evalAll_congr hr h args) fun vs =>
      hr.bind (instantiate_congr hr ha h c type.args vs) fun _ => hr.refl _

omit ha in
theorem evalCondition_congr (e : Expr) : R _ (calls.evalCondition e) (calls'.evalCondition e) :=
  hr.bind (h.eval e) fun _ => hr.refl _

theorem evalLogical_congr (op : BinaryOp) (left right : Expr) :
    R _ (calls.evalLogical env op left right)
      (calls'.evalLogical env' op left right) := by
  simp only [evalLogical, constant_alike ha]
  refine hr.bind (evalCondition_congr hr h left) fun l => ?_
  split
  · exact hr.refl _
  · exact hr.bind (evalCondition_congr hr h right) fun _ => hr.refl _

theorem evalStep_congr (target : Expr) (up : Bool) (span : Span) :
    R _ (calls.evalStep env target up span)
      (calls'.evalStep env' target up span) := by
  simp only [evalStep, constant_alike ha]
  exact hr.bind (place_congr hr ha h target) fun p => hr.bind (load_congr hr ha h p) fun _ =>
    hr.bind (hr.refl _) fun _ => hr.bind (hr.refl _) fun _ => hr.bind (hr.refl _) fun v =>
      hr.bind (store_congr hr ha h v p) fun _ => hr.refl _

theorem evalUnary_congr (op : UnaryOp) (operand : Expr) (span : Span) :
    R _ (calls.evalUnary env op operand span)
      (calls'.evalUnary env' op operand span) := by
  cases op with
  | plus => exact h.eval operand
  | neg | not =>
    simp only [evalUnary, constant_alike ha]
    exact hr.bind (h.eval operand) fun _ => hr.refl _
  | inc | dec => exact hr.bind (evalStep_congr hr ha h operand _ span) fun _ => hr.refl _

theorem evalAssign_congr (op : AssignOp) (target value : Expr) (span : Span) :
    R _ (calls.evalAssign env op target value span)
      (calls'.evalAssign env' op target value span) := by
  refine hr.bind (place_congr hr ha h target) fun p => ?_
  have store : ∀ v, R _ (do calls.store env v p; pure v : Run Value)
      (do calls'.store env' v p; pure v : Run Value) := fun v =>
    hr.bind (store_congr hr ha h v p) fun _ => hr.refl _
  cases op.binary? with
  | none => exact hr.bind (h.eval value) store
  | some op =>
    simp only [applyBinary_alike ha]
    exact hr.bind (load_congr hr ha h p) fun _ => hr.bind (h.eval value) fun _ =>
      hr.bind (hr.refl _) store

theorem stepEval_congr (e : Expr) :
    R _ (calls.stepEval env e) (calls'.stepEval env' e) := by
  cases e with
  | literal value span =>
    simp only [stepEval, constant_alike ha]
    exact hr.refl _
  | name i => exact evalName_congr hr ha h i.name
  | this span => exact hr.refl _
  | member object i span =>
    exact hr.bind (place_congr hr ha h (.member object i span)) fun p => load_congr hr ha h p
  | index object key span =>
    exact hr.bind (place_congr hr ha h (.index object key span)) fun p => load_congr hr ha h p
  | call method args span =>
    simp only [stepEval, implicitTarget_alike ha]
    exact hr.bind (hr.refl _) fun target => hr.bind (evalAll_congr hr h args) fun vs =>
      callTarget_congr hr ha h target method.name vs
  | callOn receiver method args span =>
    exact hr.bind (explicitTarget_congr hr ha h receiver) fun target =>
      hr.bind (evalAll_congr hr h args) fun vs => callTarget_congr hr ha h target method.name vs
  | create type args span => exact evalCreate_congr hr ha h type.dataType args
  | binary op left right span =>
    simp only [stepEval, applyBinary_alike ha]
    split
    · exact evalLogical_congr hr ha h op left right
    · exact hr.bind (h.eval left) fun _ => hr.bind (h.eval right) fun _ => hr.refl _
  | unary op operand span => exact evalUnary_congr hr ha h op operand span
  | post op operand span =>
    exact hr.bind (evalStep_congr hr ha h operand _ span) fun _ => hr.refl _
  | assign op target value span => exact evalAssign_congr hr ha h op target value span
  | conditional condition yes no span =>
    refine hr.bind (evalCondition_congr hr h condition) fun b => ?_
    split
    · exact h.eval yes
    · exact h.eval no
  | query text span =>
    simp only [stepEval, Native.runQuery_alike ha.host]
    exact hr.refl _

end

/-! ## Statements -/

section

include hr h

theorem declareVars_congr : ∀ vs : List Declarator,
    R _ (calls.declareVars vs) (calls'.declareVars vs)
  | [] => hr.refl _
  | v :: vs => by
    have declare : ∀ value, R _
        (do Run.modifyFrame (·.declare v.name.name value); calls.declareVars vs : Run Unit)
        (do Run.modifyFrame (·.declare v.name.name value); calls'.declareVars vs) := fun _ =>
      hr.bind (hr.refl _) fun _ => declareVars_congr vs
    unfold declareVars
    cases v.init with
    | some e => exact hr.bind (h.eval e) declare
    | none => exact hr.bind (hr.refl _) declare

theorem execBranch_congr (s : Stmt) : R _ (calls.execBranch s) (calls'.execBranch s) :=
  hr.inBlock (h.exec s)

theorem execBody_congr (body : Stmt) : R _ (calls.execBody body) (calls'.execBody body) :=
  hr.bind (execBranch_congr hr h body) fun _ => hr.refl _

theorem execForInit_congr (init : Option ForInit) :
    R _ (calls.execForInit init) (calls'.execForInit init) := by
  match init with
  | some (.declare d) => exact declareVars_congr hr h d.vars
  | some (.exprs es) => exact hr.bind (evalAll_congr hr h es) fun _ => hr.refl _
  | none => exact hr.refl _

theorem execEach_congr (name : String) (body : Stmt) : ∀ vs : List Value,
    R _ (calls.execEach name body vs) (calls'.execEach name body vs)
  | [] => hr.refl _
  | v :: vs => by
    refine hr.bind (hr.inBlock (hr.bind (hr.refl _) fun _ => execBody_congr hr h body))
      fun flow => ?_
    cases flow with
    | some flow => exact hr.refl _
    | none => exact execEach_congr name body vs

theorem stepIterate_congr (l : Loop) : R _ (calls.stepIterate l) (calls'.stepIterate l) := by
  have pass : ∀ go : Bool, R _ (calls.pass l go) (calls'.pass l go) := by
    intro go
    cases go with
    | false => exact hr.refl _
    | true =>
      refine hr.bind (execBody_congr hr h l.body) fun flow => ?_
      cases flow with
      | some flow => exact hr.refl _
      | none => exact hr.bind (evalAll_congr hr h l.update) fun _ => h.iterate l
  cases hc : l.condition with
  | some e =>
    rw [stepIterate_of_some calls hc, stepIterate_of_some calls' hc]
    exact hr.bind (evalCondition_congr hr h e) pass
  | none =>
    rw [stepIterate_of_none calls hc, stepIterate_of_none calls' hc]
    exact pass true

theorem stepExec_congr (s : Stmt) : R _ (calls.stepExec s) (calls'.stepExec s) := by
  cases s with
  | expr e span => exact hr.bind (h.eval e) fun _ => hr.refl _
  | declare d => exact hr.bind (declareVars_congr hr h d.vars) fun _ => hr.refl _
  | block stmts span => exact hr.inBlock (execAll_congr hr h stmts)
  | ifElse condition yes no span =>
    refine hr.bind (evalCondition_congr hr h condition) fun b => ?_
    split
    · exact execBranch_congr hr h yes
    · cases no with
      | some s => exact execBranch_congr hr h s
      | none => exact hr.refl _
  | whileLoop condition body span => exact h.iterate _
  | doWhile body condition span =>
    refine hr.bind (execBody_congr hr h body) fun flow => ?_
    cases flow with
    | some flow => exact hr.refl _
    | none => exact h.iterate _
  | forLoop init condition update body span =>
    exact hr.inBlock (hr.bind (execForInit_congr hr h init) fun _ => h.iterate _)
  | foreach type var iterable body span =>
    refine hr.bind (h.eval iterable) fun v => ?_
    cases v with
    | null => exact hr.refl _
    | object id =>
      exact hr.bind (hr.refl _) fun _ => hr.bind (hr.refl _) fun items =>
        execEach_congr hr h var.name body items.toList
  | ret value span =>
    cases value with
    | some e => exact hr.bind (h.eval e) fun _ => hr.refl _
    | none => exact hr.refl _
  | brk span | cont span => exact hr.refl _

end

end Calls

/-! ## Entry methods -/

theorem Machine.enter_congr {env env' : Env} {R : ∀ α : Type, Run α → Run α → Prop}
    {calls calls' : Calls} (hr : Run.Congruence R) (ha : env.Alike env')
    (h : calls.Related R calls') (className method : String) :
    R _ (enter env calls className method) (enter env' calls' className method) := by
  simp only [enter, ha.classes.resolve?, ha.classes.staticMethods?, ha.classes.instanceMethods?]
  cases env.classes.resolve? className with
  | none => exact hr.refl _
  | some c =>
    refine hr.bind (hr.refl _) fun _ => ?_
    split
    · exact Calls.callStatic_congr hr ha h c method []
    · split
      · exact hr.bind (Calls.instantiate_congr hr ha h c [] []) fun id =>
          Calls.callInstance_congr hr ha h id method []
      · exact hr.refl _

end ClassScript
