import ClassScript.Proofs.Machine.Balance

/-!
# The history of a run

The memory of a machine is its heap and its static fields. `History x` tells for a computation `x`
what happens to the memory in which order: a list of moments, each an event and the memory after it.
A history is put together along the computation it is about, and computations that do nothing to the
memory have none (`History.quiet`). Some events change nothing and only mark a point: a static
initializer starts (`Event.start`), or a new instance is handed out (`Event.made`).

There is one history for each part of evaluation; `Calls.histories` ties the knot, and
`Machine.lifetime` is the history of entry methods that run one after the other, however they end.
-/

namespace ClassScript

/-- What a run works on: the objects and the static fields. -/
structure Memory where
  heap : Heap
  statics : Statics

/-- The memory of a machine. -/
def Machine.memory (m : Machine) : Memory := ⟨m.world.heap, m.statics⟩

/-- Something that happens in a run. -/
inductive Event where
  /-- The chain of the class is touched. -/
  | touch (cls : ClassInfo)
  | start (field : PendingStatic)
  /-- A static initializer ends with a value, which is stored. -/
  | finish (field : PendingStatic) (value : Value)
  /-- A value is stored to a static field. -/
  | assign (owner : List String) (name : String) (value : Value)
  /-- A new instance is made, its fields still `null`. -/
  | make (id : ObjectId)
  /-- The creation of an instance is completed. -/
  | made (id : ObjectId)
  /-- A field is set. -/
  | write (id : ObjectId) (name : String)
  /-- Values are made, or native state changes. -/
  | work

/-- An event and the memory after it. -/
structure Moment where
  event : Event
  memory : Memory

/-- What happens in the computation, from each state on (module doc). -/
structure History {α : Type} (x : Run α) where
  moments : Machine → List Moment

namespace History

variable {α β : Type} {x y : Run α}

/-- The history of a computation that leaves the memory alone. -/
def quiet (x : Run α) : History x := ⟨fun _ => []⟩

/-- The history of a computation that is a single event. -/
def mark (e : Event) (x : Run α) : History x := ⟨fun m => [⟨e, (x.after m).memory⟩]⟩

/-- The history with an event before everything else. -/
def note (e : Event) (r : History x) : History x := ⟨fun m => ⟨e, m.memory⟩ :: r.moments m⟩

/-- The history of one computation after another. -/
def bind {f : α → Run β} (r : History x) (k : ∀ a, History (f a)) : History (x >>= f) :=
  ⟨fun m => r.moments m ++ match x m with
    | .ok a m' => (k a).moments m'
    | .error _ _ => []⟩

/-- Two spellings of a computation have the same history. -/
def of_eq (_ : x = y) (r : History y) : History x := ⟨r.moments⟩

/-- The history in a frame of its own. -/
def inFrame (f : Frame) (r : History x) : History (Run.inFrame f x) :=
  ⟨fun m => r.moments { m with frames := f :: m.frames }⟩

/-- The history in a block of its own. -/
def inBlock (r : History x) : History (Run.inBlock x) :=
  ⟨fun m => match m.frames with
    | f :: fs => r.moments { m with frames := f.push :: fs }
    | [] => []⟩

end History

/-- Histories of what the calls evaluate and execute. -/
structure Histories (calls : Calls) where
  eval : ∀ e, History (calls.eval e)
  exec : ∀ s, History (calls.exec s)
  iterate : ∀ l, History (calls.iterate l)

namespace Histories

open History (quiet mark note of_eq)

variable (env : Env) {calls : Calls} (hist : Histories calls)

/-- The history of a built-in method. -/
def native {α : Type} (x : Native α) : History (Run.native x) := mark .work _

/-! ## Calls and instances -/

def evalAll : ∀ es : List Expr, History (calls.evalAll es)
  | [] => quiet _
  | e :: es => (hist.eval e).bind fun _ => (evalAll es).bind fun _ => quiet _

def execAll : ∀ ss : List Stmt, History (calls.execAll ss)
  | [] => quiet _
  | s :: ss => (hist.exec s).bind fun flow =>
    match flow with
    | .normal => execAll ss
    | .ret _ | .brk | .cont => quiet _

/-- A static initializer starts before it is evaluated, and is finished once its value is
stored. -/
def initStatics : ∀ ps : List PendingStatic, History (calls.initStatics ps)
  | [] => quiet _
  | p :: ps => (note (.start p) (hist.eval p.init)).bind fun v =>
    (mark (.finish p v) _).bind fun _ => initStatics ps

def ensureStatics (c : ClassInfo) : History (calls.ensureStatics env c) :=
  (mark (.touch c) _).bind fun pending =>
    if h : pending.isEmpty then of_eq (if_pos h) (quiet _)
    else of_eq (if_neg h) ((quiet _).bind fun _ => (hist.initStatics pending).inFrame _)

def readStatic (c : ClassInfo) (name : String) : History (calls.readStatic env c name) :=
  match h : c.staticField? env.classes name with
  | none => quiet _
  | some _ => of_eq (by unfold Calls.readStatic; rw [h])
      ((hist.ensureStatics env c).bind fun _ => quiet _)

def writeStatic (c : ClassInfo) (name : String) (v : Value) :
    History (calls.writeStatic env c name v) :=
  match h : c.staticField? env.classes name with
  | none => quiet _
  | some (owner, _) => of_eq (by unfold Calls.writeStatic; rw [h])
      ((hist.ensureStatics env c).bind fun _ => mark (.assign owner.path name v) _)

def invoke (k : MethodInfo) (c : ClassInfo) (receiver : Option ObjectId) (args : List Value) :
    History (calls.invoke env k c receiver args) :=
  (quiet _).bind fun _ => (quiet _).bind fun m =>
    if hd : env.maxDepth ≤ m.depth then quiet _
    else
      match k.body with
      | .native method => of_eq (if_neg hd)
          (native (Native.call env.toHost ⟨receiver, args⟩ method))
      | .script stmts =>
        if ha : args.length = k.arity then
          let f := (Frame.make c receiver).declareParams k.params args
          of_eq ((if_neg hd).trans (if_pos ha))
            (((hist.execAll stmts).inFrame f).bind fun _ => quiet _)
        else quiet _
      | .abstract => quiet _

def callStatic (c : ClassInfo) (name : String) (args : List Value) :
    History (calls.callStatic env c name args) :=
  (hist.ensureStatics env c).bind fun _ => (quiet _).bind fun k => hist.invoke env k c none args

def callInstance (id : ObjectId) (name : String) (args : List Value) :
    History (calls.callInstance env id name args) :=
  (quiet _).bind fun _ => (quiet _).bind fun k => hist.invoke env k _ (some id) args

def initFields (id : ObjectId) : ∀ fs : List FieldInfo, History (calls.initFields id fs)
  | [] => quiet _
  | f :: fs =>
    match h : f.init with
    | none => of_eq (by rw [Calls.initFields, h]) (initFields id fs)
    | some e => of_eq (by rw [Calls.initFields, h])
        ((hist.eval e).bind fun _ => (mark (.write id f.name) _).bind fun _ => initFields id fs)

def construct (c : ClassInfo) (id : ObjectId) (typeArgs : List DataType) (args : List Value) :
    History (calls.construct env c id typeArgs args) :=
  if h : c.constructors.isEmpty then quiet _
  else of_eq (if_neg h)
    ((quiet _).bind fun k => (hist.invoke env k c (some id) args).bind fun _ => quiet _)

/-- An instance is made before anything runs on it, and is handed out once its constructor is
done. -/
def instantiate (c : ClassInfo) (typeArgs : List DataType) (args : List Value) :
    History (calls.instantiate env c typeArgs args) :=
  (hist.ensureStatics env c).bind fun _ => (quiet _).bind fun heap =>
    (mark (.make heap.objects.size) _).bind fun _ =>
      if h : (c.allInstanceFields env.classes).any (·.init.isSome) then
        of_eq (if_pos h) (((hist.initFields _ _).inFrame _).bind fun _ =>
          (hist.construct env c _ typeArgs args).bind fun _ =>
            note (.made heap.objects.size) (quiet _))
      else
        of_eq (if_neg h) ((hist.construct env c _ typeArgs args).bind fun _ =>
          note (.made heap.objects.size) (quiet _))

/-! ## Places -/

def memberPlace (object : Expr) (name : String) (span : Span) :
    History (calls.memberPlace env object name span) :=
  (quiet _).bind fun m =>
    match m.classRef? env.classes object with
    | some _ => quiet _
    | none => (hist.eval object).bind fun _ => quiet _

def indexPlace (object key : Expr) (span : Span) : History (calls.indexPlace object key span) :=
  (hist.eval object).bind fun _ => (hist.eval key).bind fun _ => quiet _

def place : ∀ e : Expr, History (calls.place env e)
  | .member object i span => hist.memberPlace env object i.name span
  | .index object key span => hist.indexPlace object key span
  | .name _ | .literal .. | .this _ | .call .. | .callOn .. | .create .. | .binary .. | .unary ..
  | .post .. | .assign .. | .conditional .. | .query .. => quiet _

def load : ∀ p : Place, History (calls.load env p)
  | .static c name => (hist.readStatic env c name).bind fun _ => quiet _
  | .var _ | .field .. | .slot .. | .entry .. => quiet _

def store (v : Value) : ∀ p : Place, History (calls.store env v p)
  | .static c name => hist.writeStatic env c name v
  | .field id name => mark (.write id name) _
  | .slot .. | .entry .. => mark .work _
  | .var _ => quiet _

/-! ## Expressions -/

def constant (literal : Literal) : History (Calls.constant env literal) := mark .work _

def evalName (name : String) : History (calls.evalName env name) :=
  (quiet _).bind fun f =>
    match f.lookup? name with
    | some _ => quiet _
    | none => (quiet _).bind fun h =>
      match f.this.bind fun id => Machine.readField? env.classes h id name with
      | some _ => quiet _
      | none => (hist.readStatic env f.cls name).bind fun _ => quiet _

def explicitTarget (receiver : Expr) : History (calls.explicitTarget env receiver) :=
  (quiet _).bind fun m =>
    match m.classRef? env.classes receiver with
    | some _ => quiet _
    | none => (hist.eval receiver).bind fun _ => quiet _

def callTarget (name : String) (args : List Value) :
    ∀ target : Calls.Target, History (calls.callTarget env target name args)
  | .static c => (hist.callStatic env c name args).bind fun _ => quiet _
  | .instance id => (hist.callInstance env id name args).bind fun _ => quiet _

def evalCreate (type : DataType) (args : List Expr) : History (calls.evalCreate env type args) :=
  (quiet _).bind fun m =>
    match m.lookupClass? env.classes type.name with
    | none => quiet _
    | some c => (hist.evalAll args).bind fun vs =>
      (hist.instantiate env c type.args vs).bind fun _ => quiet _

def evalCondition (e : Expr) : History (calls.evalCondition e) :=
  (hist.eval e).bind fun _ => quiet _

def evalLogical (op : BinaryOp) (left right : Expr) :
    History (calls.evalLogical env op left right) :=
  (hist.evalCondition left).bind fun l =>
    if h : decide (op = .or) = l then of_eq (if_pos h) (constant env _)
    else of_eq (if_neg h) ((hist.evalCondition right).bind fun _ => constant env _)

def applyBinary (op : BinaryOp) (left right : Value) (span : Span) :
    History (Calls.applyBinary env op left right span) :=
  (quiet _).bind fun _ => (quiet _).bind fun _ => constant env _

def evalStep (target : Expr) (up : Bool) (span : Span) :
    History (calls.evalStep env target up span) :=
  (hist.place env target).bind fun p => (hist.load env p).bind fun _ => (quiet _).bind fun _ =>
    (quiet _).bind fun _ => (constant env _).bind fun v => (hist.store env v p).bind fun _ =>
      quiet _

def evalUnary (operand : Expr) (span : Span) :
    ∀ op : UnaryOp, History (calls.evalUnary env op operand span)
  | .plus => hist.eval operand
  | .neg => (hist.eval operand).bind fun _ => (quiet _).bind fun _ => (quiet _).bind fun _ =>
    constant env _
  | .not => (hist.eval operand).bind fun _ => (quiet _).bind fun _ => (quiet _).bind fun _ =>
    constant env _
  | .inc => (hist.evalStep env operand true span).bind fun _ => quiet _
  | .dec => (hist.evalStep env operand false span).bind fun _ => quiet _

def evalAssign (op : AssignOp) (target value : Expr) (span : Span) :
    History (calls.evalAssign env op target value span) :=
  (hist.place env target).bind fun p =>
    match op.binary? with
    | none => (hist.eval value).bind fun v => (hist.store env v p).bind fun _ => quiet _
    | some op => (hist.load env p).bind fun _ => (hist.eval value).bind fun _ =>
      (applyBinary env op _ _ span).bind fun v => (hist.store env v p).bind fun _ => quiet _

def stepEval : ∀ e : Expr, History (calls.stepEval env e)
  | .literal value _ => constant env value
  | .name i => hist.evalName env i.name
  | .this _ => quiet _
  | .member object i span => (hist.place env (.member object i span)).bind fun p => hist.load env p
  | .index object key span => (hist.place env (.index object key span)).bind fun p =>
    hist.load env p
  | .call method args _ => (quiet _).bind fun target => (hist.evalAll args).bind fun vs =>
    hist.callTarget env method.name vs target
  | .callOn receiver method args _ => (hist.explicitTarget env receiver).bind fun target =>
    (hist.evalAll args).bind fun vs => hist.callTarget env method.name vs target
  | .create type args _ => hist.evalCreate env type.dataType args
  | .binary op left right span =>
    if h : op.isLogical then of_eq (if_pos h) (hist.evalLogical env op left right)
    else of_eq (if_neg h) ((hist.eval left).bind fun _ => (hist.eval right).bind fun _ =>
      applyBinary env op _ _ span)
  | .unary op operand span => hist.evalUnary env operand span op
  | .post op operand span => (hist.evalStep env operand (op = .inc) span).bind fun _ => quiet _
  | .assign op target value span => hist.evalAssign env op target value span
  | .conditional condition yes no _ => (hist.evalCondition condition).bind fun b =>
    match b with
    | true => hist.eval yes
    | false => hist.eval no
  | .query text _ => native (Native.runQuery env.toHost text)

/-! ## Statements -/

def declareVars : ∀ vs : List Declarator, History (calls.declareVars vs)
  | [] => quiet _
  | v :: vs =>
    match h : v.init with
    | some e => of_eq (by rw [Calls.declareVars, h])
        ((hist.eval e).bind fun _ => (quiet _).bind fun _ => declareVars vs)
    | none => of_eq (by rw [Calls.declareVars, h])
        ((quiet (pure Value.null)).bind fun _ => (quiet _).bind fun _ => declareVars vs)

def execBranch (s : Stmt) : History (calls.execBranch s) := (hist.exec s).inBlock

def execBody (body : Stmt) : History (calls.execBody body) :=
  (hist.execBranch body).bind fun _ => quiet _

def execForInit : ∀ init : Option ForInit, History (calls.execForInit init)
  | some (.declare d) => hist.declareVars d.vars
  | some (.exprs es) => (hist.evalAll es).bind fun _ => quiet _
  | none => quiet _

def execEach (name : String) (body : Stmt) :
    ∀ vs : List Value, History (calls.execEach name body vs)
  | [] => quiet _
  | _ :: vs => (((quiet _).bind fun _ => hist.execBody body).inBlock).bind fun flow =>
    match flow with
    | some _ => quiet _
    | none => execEach name body vs

def execForeach (name : String) (iterable : Expr) (body : Stmt) :
    History (calls.execForeach name iterable body) :=
  (hist.eval iterable).bind fun v =>
    match v with
    | .null => quiet _
    | .object _ => (quiet _).bind fun _ => (quiet _).bind fun items =>
      hist.execEach name body items.toList

/-- The history of a pass of a loop, once its condition is known. -/
def pass (l : Loop) : ∀ go : Bool, History (calls.pass l go)
  | false => quiet _
  | true => (hist.execBody l.body).bind fun flow =>
    match flow with
    | some _ => quiet _
    | none => (hist.evalAll l.update).bind fun _ => hist.iterate l

def stepIterate (l : Loop) : History (calls.stepIterate l) :=
  match h : l.condition with
  | some e => of_eq (calls.stepIterate_of_some h) ((hist.evalCondition e).bind (hist.pass l))
  | none => of_eq (calls.stepIterate_of_none h) (hist.pass l true)

def stepExec : ∀ s : Stmt, History (calls.stepExec s)
  | .expr e _ => (hist.eval e).bind fun _ => quiet _
  | .declare d => (hist.declareVars d.vars).bind fun _ => quiet _
  | .block stmts _ => (hist.execAll stmts).inBlock
  | .ifElse condition yes no _ => (hist.evalCondition condition).bind fun b =>
    match b, no with
    | true, _ => hist.execBranch yes
    | false, some s => hist.execBranch s
    | false, none => quiet _
  | .whileLoop condition body _ => hist.iterate ⟨some condition, body, []⟩
  | .doWhile body condition _ => (hist.execBody body).bind fun flow =>
    match flow with
    | some _ => quiet _
    | none => hist.iterate ⟨some condition, body, []⟩
  | .forLoop init condition update body _ =>
    ((hist.execForInit init).bind fun _ => hist.iterate ⟨condition, body, update⟩).inBlock
  | .foreach _ var iterable body _ => hist.execForeach var.name iterable body
  | .ret (some e) _ => (hist.eval e).bind fun _ => quiet _
  | .ret none _ | .brk _ | .cont _ => quiet _

end Histories

/-! ## Runs -/

open History (quiet of_eq)

/-- The histories of evaluation and execution with fuel. -/
def Calls.histories (env : Env) : ∀ n, Histories (withFuel env n)
  | 0 => ⟨fun _ => quiet _, fun _ => quiet _, fun _ => quiet _⟩
  | n + 1 => ⟨(histories env n).stepEval env, (histories env n).stepExec,
    (histories env n).stepIterate⟩

namespace Machine

/-- The history of an entry method. -/
def entryHistory (env : Env) (fuel : Nat) (className method : String) :
    History (runEntry env fuel className method) :=
  let hist := Calls.histories env fuel
  match h : env.classes.resolve? className with
  | none => quiet _
  | some c => of_eq (by unfold runEntry; rw [h]) ((quiet _).bind fun _ =>
      if hs : (c.staticMethods? env.classes method).isSome then
        of_eq (if_pos hs) (hist.callStatic env c method [])
      else if hi : (c.instanceMethods? env.classes method).isSome then
        of_eq ((if_neg hs).trans (if_pos hi)) ((hist.instantiate env c [] []).bind fun id =>
          hist.callInstance env id method [])
      else quiet _)

/-- What happens in entry methods that run one after the other, however each of them ends. -/
def lifetime (env : Env) (m : Machine) : List (Nat × EntryPoint) → List Moment
  | [] => []
  | e :: entries => (entryHistory env e.1 e.2.cls e.2.method).moments m ++
    lifetime env ((runEntry env e.1 e.2.cls e.2.method).after m) entries

end Machine

end ClassScript
