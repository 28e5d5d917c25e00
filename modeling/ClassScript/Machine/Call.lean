import ClassScript.Machine.State
import ClassScript.Typing.Overload

/-! # Calls and instances

Dispatch of methods, creation of instances and initialization of static fields. These are written
over `Calls`, the evaluation of the expressions and statements that they run in turn.

Overloads are selected as in checking, by the types of the argument values. An instance method is
looked up from the class of the receiver, so a subclass hides the methods of its superclass. -/

namespace ClassScript

/-- How a statement ends. -/
inductive Flow where
  | normal
  /-- The method ends, with a value unless it has no result. -/
  | ret (value : Option Value)
  /-- The innermost loop ends. -/
  | brk
  /-- The innermost loop goes on with its next pass. -/
  | cont

/-- A loop that tests its condition before each pass and runs its updates after it. -/
structure Loop where
  condition : Option Expr
  body : Stmt
  update : List Expr

/-- Evaluation of expressions, execution of statements, and the passes of a loop. -/
structure Calls where
  eval : Expr → Run Value
  exec : Stmt → Run Flow
  iterate : Loop → Run Flow

namespace Calls

variable (env : Env) (calls : Calls)

/-- Evaluates expressions from left to right. -/
def evalAll : List Expr → Run (List Value)
  | [] => return []
  | e :: es => do
    let v ← calls.eval e
    let vs ← evalAll es
    return v :: vs

/-- Executes statements in order until one does not end normally. -/
def execAll : List Stmt → Run Flow
  | [] => return .normal
  | s :: ss => do
    match ← calls.exec s with
    | .normal => execAll ss
    | flow => return flow

/-! ## Static fields -/

/-- Runs static initializers in order. -/
def initStatics : List PendingStatic → Run Unit
  | [] => return ()
  | p :: ps => do
    let v ← calls.eval p.init
    Run.modifyStatics (·.set p.owner p.name v)
    initStatics ps

/-- Creates the static fields of a class and its superclasses, and runs the initializers of those
that are new. -/
def ensureStatics (c : ClassInfo) : Run Unit := do
  let pending ← Run.touchStatics (c.chain env.classes)
  if pending.isEmpty then return ()
  else
    Run.log (.staticsInitializing c.name)
    Run.inFrame (.make c none) (calls.initStatics pending)

/-- The static field of a name as seen from a class, if there is one. -/
def readStatic (c : ClassInfo) (name : String) : Run (Option Value) :=
  match c.staticField? env.classes name with
  | none => return none
  | some (owner, _) => do
    calls.ensureStatics env c
    return some (((← get).statics.get? owner.path name).getD .null)

/-- Sets the static field of a name as seen from a class. -/
def writeStatic (c : ClassInfo) (name : String) (value : Value) : Run Unit :=
  match c.staticField? env.classes name with
  | none => return ()
  | some (owner, _) => do
    calls.ensureStatics env c
    Run.modifyStatics (·.set owner.path name value)

/-! ## Dispatch -/

/-- The overload that fits the types of the argument values. -/
def select (bindings : TypeBindings) (group : List MethodInfo) (args : List Value) :
    Run (Option MethodInfo) := do
  let h ← Run.heap
  let types := args.map fun v => some (h.dataType v)
  return (Overload.resolve env.classes bindings group types).map OverloadMatch.method

/-- The overload of a group that may be missing; without one the method is undefined. -/
def selectOrFail (bindings : TypeBindings) (group : Option (List MethodInfo)) (args : List Value)
    (className name : String) : Run MethodInfo := do
  match ← select env bindings (group.getD []) args with
  | some m => return m
  | none => Run.fault (.undefinedMethod className name)

/-- What a method that ends in some way gives back. -/
def resultOf : Flow → Option Value
  | .ret value => value
  | _ => none

/-- Runs a method in a class, on a receiver if it has one. -/
def invoke (m : MethodInfo) (c : ClassInfo) (receiver : Option ObjectId) (args : List Value) :
    Run (Option Value) := do
  Run.log (.dispatch c.name m.name args.length)
  if env.maxDepth ≤ (← get).depth then Run.fault (.callDepthExceeded env.maxDepth)
  else
    match m.body with
    | .native method => Run.native (Native.call env.toHost ⟨receiver, args⟩ method)
    | .script stmts =>
      if args.length = m.arity then
        let f := (Frame.make c receiver).declareParams m.params args
        return resultOf (← Run.inFrame f (calls.execAll stmts))
      else Run.fault (.argumentCount m.name m.arity args.length)
    | .abstract => Run.fault (.undefinedMethod c.name m.name)

/-- Calls a static method of a class. -/
def callStatic (c : ClassInfo) (name : String) (args : List Value) : Run (Option Value) := do
  calls.ensureStatics env c
  let m ← selectOrFail env .none (c.staticMethods? env.classes name) args c.name name
  calls.invoke env m c none args

/-- Calls an instance method of an object. -/
def callInstance (id : ObjectId) (name : String) (args : List Value) : Run (Option Value) := do
  let o := (← Run.heap).get id
  let m ← selectOrFail env ⟨o.cls.typeParams, o.typeArgs⟩ (o.cls.instanceMethods? env.classes name)
    args o.cls.name name
  calls.invoke env m o.cls (some id) args

/-! ## Instances -/

/-- The fields of a new instance, all `null`. -/
def nullFields (fields : List FieldInfo) : NameTable Value :=
  fields.foldl (fun t f => t.insert f.name .null) .empty

/-- Runs the field initializers of a new instance in order. -/
def initFields (id : ObjectId) : List FieldInfo → Run Unit
  | [] => return ()
  | f :: fs => do
    match f.init with
    | some e =>
      let v ← calls.eval e
      Run.native (Native.modifyHeap (·.setField id f.name v))
      initFields id fs
    | none => initFields id fs

/-- Runs the constructor that fits the arguments; a class without one takes no arguments. -/
def construct (c : ClassInfo) (id : ObjectId) (typeArgs : List DataType) (args : List Value) :
    Run Unit := do
  if c.constructors.isEmpty then
    if args.isEmpty then return ()
    else Run.fault (.argumentCount c.name 0 args.length)
  else
    let m ← selectOrFail env ⟨c.typeParams, typeArgs⟩ (some c.constructors) args c.name c.name
    let _ ← calls.invoke env m c (some id) args

/-- Makes an instance: all fields start as `null`, then their initializers run, those of the topmost
class first, and then the constructor. -/
def instantiate (c : ClassInfo) (typeArgs : List DataType) (args : List Value) : Run ObjectId := do
  calls.ensureStatics env c
  let fields := c.allInstanceFields env.classes
  let id := (← Run.heap).objects.size
  let _ ← Run.native (Native.alloc ⟨c, typeArgs, nullFields fields, .none⟩)
  if fields.any (·.init.isSome) then
    Run.inFrame (.make c (some id)) (calls.initFields id fields)
  calls.construct env c id typeArgs args
  return id

end Calls

end ClassScript
