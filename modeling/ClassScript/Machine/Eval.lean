import ClassScript.Machine.Operator
import ClassScript.Machine.Place

/-! # Evaluation

One step of evaluating an expression, executing a statement or passing through a loop, over `Calls`
for everything inside it. `calls` ties the knot: with fuel for `n + 1` nested steps a step runs over
the calls with fuel for `n`, and without fuel everything halts. -/

namespace ClassScript

namespace Calls

variable (env : Env) (calls : Calls)

/-! ## Expressions -/

/-- The value of a constant; every constant but `null` is a new object. -/
def constant : Literal → Run Value
  | .integer n => Run.native (Native.integer env.toHost n)
  | .double x => Run.native (Native.double env.toHost x)
  | .boolean b => Run.native (Native.boolean env.toHost b)
  | .string s => Run.native (Native.string env.toHost s)
  | .null => return .null

/-- The value of a bare name: a local, then a field of the receiver, then a static field of the
running class. -/
def evalName (name : String) : Run Value := do
  let f ← Run.frame
  match f.lookup? name with
  | some v => return v
  | none =>
    let h ← Run.heap
    match f.this.bind fun id => Machine.readField? env.classes h id name with
    | some v => return v
    | none =>
      match ← calls.readStatic env f.cls name with
      | some v => return v
      | none => Run.fault (.undefinedVariable name)

/-- The receiver of the running method. -/
def evalThis (span : Span) : Run Value := do
  match (← Run.frame).this with
  | some id => return .object id
  | none => Run.fault (.staticContext ("this at " ++ span.text))

/-- Where a call goes. -/
inductive Target where
  | static (cls : ClassInfo)
  | instance (id : ObjectId)

/-- The target of a call without a receiver: the receiver of the running method if it has such a
method, otherwise the running class. -/
def implicitTarget (name : String) : Run Target := do
  let f ← Run.frame
  match f.this with
  | some id =>
    let o := (← Run.heap).get id
    if (o.cls.instanceMethods? env.classes name).isSome then return .instance id
    else return .static f.cls
  | none =>
    if (f.cls.staticMethods? env.classes name).isNone
        && (f.cls.instanceMethods? env.classes name).isSome then
      Run.fault (.staticContext name)
    else return .static f.cls

/-- The target of a call on an expression: a class, or an object. -/
def explicitTarget (receiver : Expr) : Run Target := do
  match (← get).classRef? env.classes receiver with
  | some c => return .static c
  | none =>
    match ← calls.eval receiver with
    | .object id => return .instance id
    | .null => Run.fault (.nullReference receiver.span)

/-- Calls a method; without a result the call gives `null`. -/
def callTarget (target : Target) (name : String) (args : List Value) : Run Value := do
  match target with
  | .static c => return (← calls.callStatic env c name args).getD .null
  | .instance id => return (← calls.callInstance env id name args).getD .null

/-- Evaluates `new`. -/
def evalCreate (type : DataType) (args : List Expr) : Run Value := do
  match (← get).lookupClass? env.classes type.name with
  | none => Run.fault (.undefinedClass type.name)
  | some c =>
    let vs ← calls.evalAll args
    return .object (← calls.instantiate env c type.args vs)

/-- Evaluates a condition. -/
def evalCondition (e : Expr) : Run Bool := do
  let v ← calls.eval e
  Run.ofExcept (Operator.truth (← Run.heap) v e.span)

/-- Evaluates a logical operator: `||` stops on true and `&&` on false. -/
def evalLogical (op : BinaryOp) (left right : Expr) : Run Value := do
  let l ← calls.evalCondition left
  if decide (op = .or) = l then constant env (.boolean l)
  else constant env (.boolean (← calls.evalCondition right))

/-- Applies a binary operator to two values. -/
def applyBinary (op : BinaryOp) (left right : Value) (span : Span) : Run Value := do
  constant env (← Run.ofExcept (Operator.binary (← Run.heap) op left right span))

/-- Steps the number at a place by one. The result is the value before and the value after. -/
def evalStep (target : Expr) (up : Bool) (span : Span) : Run (Value × Value) := do
  let p ← calls.place env target
  let before ← calls.load env p
  let after ← constant env (← Run.ofExcept (Operator.step (← Run.heap) before up span))
  calls.store env after p
  return (before, after)

/-- Evaluates an operator in front of its operand. -/
def evalUnary (op : UnaryOp) (operand : Expr) (span : Span) : Run Value :=
  match op with
  | .plus => calls.eval operand
  | .neg => do
    let v ← calls.eval operand
    constant env (← Run.ofExcept (Operator.negate (← Run.heap) v span))
  | .not => do
    let v ← calls.eval operand
    constant env (.boolean !(← Run.ofExcept (Operator.truth (← Run.heap) v span)))
  | .inc => return (← calls.evalStep env operand true span).2
  | .dec => return (← calls.evalStep env operand false span).2

/-- Evaluates an assignment. The target is resolved before the right-hand side runs. -/
def evalAssign (op : AssignOp) (target value : Expr) (span : Span) : Run Value := do
  let p ← calls.place env target
  let v ← match op.binary? with
    | none => calls.eval value
    | some op => do
      let before ← calls.load env p
      let operand ← calls.eval value
      applyBinary env op before operand span
  calls.store env v p
  return v

/-- Evaluates an expression. -/
def stepEval : Expr → Run Value
  | .literal value _ => constant env value
  | .name i => calls.evalName env i.name
  | .this span => evalThis span
  | .member object m span => do
    calls.load env (← calls.place env (.member object m span))
  | .index object key span => do
    calls.load env (← calls.place env (.index object key span))
  | .call method args _ => do
    let target ← implicitTarget env method.name
    let vs ← calls.evalAll args
    calls.callTarget env target method.name vs
  | .callOn receiver method args _ => do
    let target ← calls.explicitTarget env receiver
    let vs ← calls.evalAll args
    calls.callTarget env target method.name vs
  | .create type args _ => calls.evalCreate env type.dataType args
  | .binary op left right span =>
    if op.isLogical then calls.evalLogical env op left right
    else do
      let l ← calls.eval left
      let r ← calls.eval right
      applyBinary env op l r span
  | .unary op operand span => calls.evalUnary env op operand span
  | .post op operand span => return (← calls.evalStep env operand (op = .inc) span).1
  | .assign op target value span => calls.evalAssign env op target value span
  | .conditional condition yes no _ => do
    if ← calls.evalCondition condition then calls.eval yes else calls.eval no
  | .query text _ => Run.native (Native.runQuery env.toHost text)

/-! ## Statements -/

/-- Declares the variables of a declaration in order. -/
def declareVars : List Declarator → Run Unit
  | [] => return ()
  | v :: vs => do
    let value ← match v.init with
      | some e => calls.eval e
      | none => pure .null
    Run.modifyFrame (·.declare v.name.name value)
    declareVars vs

/-- Executes a branch or a loop body in a block of its own. -/
def execBranch (s : Stmt) : Run Flow := Run.inBlock (calls.exec s)

/-- Executes one pass of a loop; a result ends the loop. -/
def execBody (body : Stmt) : Run (Option Flow) := do
  match ← calls.execBranch body with
  | .brk => return some .normal
  | .ret value => return some (.ret value)
  | .normal | .cont => return none

/-- Executes the first clause of a `for` loop. -/
def execForInit : Option ForInit → Run Unit
  | some (.declare d) => calls.declareVars d.vars
  | some (.exprs es) => do
    let _ ← calls.evalAll es
  | none => return ()

/-- Executes a loop body once for each item. -/
def execEach (name : String) (body : Stmt) : List Value → Run Flow
  | [] => return .normal
  | v :: vs => do
    let flow ← Run.inBlock do
      Run.modifyFrame (·.declare name v)
      calls.execBody body
    match flow with
    | some flow => return flow
    | none => execEach name body vs

/-- Executes a loop over the items that a list has at the start. -/
def execForeach (name : String) (iterable : Expr) (body : Stmt) : Run Flow := do
  match ← calls.eval iterable with
  | .null => Run.fault (.nullReference iterable.span)
  | .object id =>
    let items ← Run.ofNative ((← Run.heap).list id)
    calls.execEach name body items.toList

/-- One pass of a loop and all that follow. -/
def stepIterate (l : Loop) : Run Flow := do
  let go ← match l.condition with
    | some e => calls.evalCondition e
    | none => pure true
  if go then
    match ← calls.execBody l.body with
    | some flow => return flow
    | none =>
      let _ ← calls.evalAll l.update
      calls.iterate l
  else return .normal

/-- Executes a statement. -/
def stepExec : Stmt → Run Flow
  | .expr e _ => do
    let _ ← calls.eval e
    return .normal
  | .declare d => do
    calls.declareVars d.vars
    return .normal
  | .block stmts _ => Run.inBlock (calls.execAll stmts)
  | .ifElse condition yes no _ => do
    if ← calls.evalCondition condition then calls.execBranch yes
    else
      match no with
      | some s => calls.execBranch s
      | none => return .normal
  | .whileLoop condition body _ => calls.iterate ⟨some condition, body, []⟩
  | .doWhile body condition _ => do
    match ← calls.execBody body with
    | some flow => return flow
    | none => calls.iterate ⟨some condition, body, []⟩
  | .forLoop init condition update body _ =>
    Run.inBlock do
      calls.execForInit init
      calls.iterate ⟨condition, body, update⟩
  | .foreach _ var iterable body _ => calls.execForeach var.name iterable body
  | .ret value _ => do
    match value with
    | some e => return .ret (some (← calls.eval e))
    | none => return .ret none
  | .brk _ => return .brk
  | .cont _ => return .cont

end Calls

/-- Evaluation and execution with fuel for `n` nested steps. -/
def Calls.withFuel (env : Env) : Nat → Calls
  | 0 => ⟨fun _ => throw .outOfFuel, fun _ => throw .outOfFuel, fun _ => throw .outOfFuel⟩
  | n + 1 =>
    { eval := fun e => (Calls.withFuel env n).stepEval env e
      exec := fun s => (Calls.withFuel env n).stepExec s
      iterate := fun l => (Calls.withFuel env n).stepIterate l }

end ClassScript
