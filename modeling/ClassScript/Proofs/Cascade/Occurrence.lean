import ClassScript.Proofs.Typing.Selection

/-!
# Occurrences

An expression in the body of a method stands in a statement, inside blocks, branches and loops, and
inside other expressions. `Occurrence` is such a place: the code around it, layer by layer, with a
hole in each layer. `Occurrence.fill` puts an expression into the hole, and `Occurrence.start` is the
state that checking comes to the hole with.
-/

namespace ClassScript

open Typing

namespace Expr

/-- A place for an expression directly inside another one. -/
inductive Slot where
  /-- `□.member` -/
  | object (member : Ident) (span : Span)
  /-- `method(before, □, after)` -/
  | argument (method : Ident) (before after : List Expr) (span : Span)
  /-- `□.method(args)` -/
  | receiver (method : Ident) (args : List Expr) (span : Span)
  /-- `object.method(before, □, after)` -/
  | argumentOn (object : Expr) (method : Ident) (before after : List Expr) (span : Span)
  /-- `new type(before, □, after)` -/
  | argumentNew (type : TypeRef) (before after : List Expr) (span : Span)
  /-- `□[key]` -/
  | indexed (key : Expr) (span : Span)
  /-- `object[□]` -/
  | key (object : Expr) (span : Span)
  /-- `□ op right` -/
  | left (op : BinaryOp) (right : Expr) (span : Span)
  /-- `left op □` -/
  | right (op : BinaryOp) (left : Expr) (span : Span)
  | operand (op : UnaryOp) (span : Span)
  | stepped (op : PostOp) (span : Span)
  /-- `□ op value` -/
  | target (op : AssignOp) (value : Expr) (span : Span)
  /-- `target op □` -/
  | value (op : AssignOp) (target : Expr) (span : Span)
  /-- `□ ? yes : no` -/
  | condition (yes no : Expr) (span : Span)
  /-- `condition ? □ : no` -/
  | yes (condition no : Expr) (span : Span)
  /-- `condition ? yes : □` -/
  | no (condition yes : Expr) (span : Span)

namespace Slot

/-- The expression with `e` in the place. -/
def fill (e : Expr) : Slot → Expr
  | .object m span => .member e m span
  | .argument m before after span => .call m (before ++ e :: after) span
  | .receiver m args span => .callOn e m args span
  | .argumentOn o m before after span => .callOn o m (before ++ e :: after) span
  | .argumentNew type before after span => .create type (before ++ e :: after) span
  | .indexed k span => .index e k span
  | .key o span => .index o e span
  | .left op r span => .binary op e r span
  | .right op l span => .binary op l e span
  | .operand op span => .unary op e span
  | .stepped op span => .post op e span
  | .target op v span => .assign op e v span
  | .value op t span => .assign op t e span
  | .condition y n span => .conditional e y n span
  | .yes c n span => .conditional c e n span
  | .no c y span => .conditional c y e span

/-- The role in which the expression in the place stands. -/
def role : Slot → Role
  | .object .. | .receiver .. => .receiver
  | _ => .value

/-- Whether the whole may be assigned to depends on the place alone. -/
theorem fill_isAssignable (p : Slot) (e e' : Expr) :
    (p.fill e).isAssignable = (p.fill e').isAssignable := by
  cases p <;> rfl

end Slot

/-- The expression with `e` in the innermost of several places, given from the outermost. -/
def plug : List Slot → Expr → Expr
  | [], e => e
  | p :: ps, e => p.fill (plug ps e)

end Expr

/-- A place for the initializer of a variable in a declaration. -/
structure VarDecl.Slot where
  type : TypeRef
  before : List Declarator
  name : Ident
  varSpan : Span
  after : List Declarator
  span : Span

/-- The declaration with `e` as the initializer. -/
def VarDecl.Slot.fill (p : Slot) (e : Expr) : VarDecl :=
  ⟨p.type, p.before ++ ⟨p.name, some e, p.varSpan⟩ :: p.after, p.span⟩

namespace Stmt

/-- A place for an expression directly inside a statement. -/
inductive ValueSlot where
  | expr (span : Span)
  | declare (decl : VarDecl.Slot)
  | ifCondition (yes : Stmt) (no : Option Stmt) (span : Span)
  | whileCondition (body : Stmt) (span : Span)
  | doCondition (body : Stmt) (span : Span)
  /-- A variable of the first clause of a `for` loop. -/
  | forDeclare (decl : VarDecl.Slot) (condition : Option Expr) (update : List Expr) (body : Stmt)
      (span : Span)
  /-- An expression of the first clause of a `for` loop. -/
  | forExpr (before after : List Expr) (condition : Option Expr) (update : List Expr) (body : Stmt)
      (span : Span)
  | forCondition (init : Option ForInit) (update : List Expr) (body : Stmt) (span : Span)
  | forUpdate (init : Option ForInit) (condition : Option Expr) (before after : List Expr)
      (body : Stmt) (span : Span)
  | iterable (type : TypeRef) (var : Ident) (body : Stmt) (span : Span)
  | ret (span : Span)

/-- The statement with `e` in the place. -/
def ValueSlot.fill (e : Expr) : ValueSlot → Stmt
  | .expr span => .expr e span
  | .declare decl => .declare (decl.fill e)
  | .ifCondition yes no span => .ifElse e yes no span
  | .whileCondition body span => .whileLoop e body span
  | .doCondition body span => .doWhile body e span
  | .forDeclare decl condition update body span =>
    .forLoop (some (.declare (decl.fill e))) condition update body span
  | .forExpr before after condition update body span =>
    .forLoop (some (.exprs (before ++ e :: after))) condition update body span
  | .forCondition init update body span => .forLoop init (some e) update body span
  | .forUpdate init condition before after body span =>
    .forLoop init condition (before ++ e :: after) body span
  | .iterable type var body span => .foreach type var e body span
  | .ret span => .ret (some e) span

/-- A place for a statement directly inside another one. -/
inductive Slot where
  | block (before after : List Stmt) (span : Span)
  | ifYes (condition : Expr) (no : Option Stmt) (span : Span)
  | ifNo (condition : Expr) (yes : Stmt) (span : Span)
  | whileBody (condition : Expr) (span : Span)
  | doBody (condition : Expr) (span : Span)
  | forBody (init : Option ForInit) (condition : Option Expr) (update : List Expr) (span : Span)
  | foreachBody (type : TypeRef) (var : Ident) (iterable : Expr) (span : Span)

/-- The statement with `b` in the place. -/
def Slot.fill (b : Stmt) : Slot → Stmt
  | .block before after span => .block (before ++ b :: after) span
  | .ifYes condition no span => .ifElse condition b no span
  | .ifNo condition yes span => .ifElse condition yes (some b) span
  | .whileBody condition span => .whileLoop condition b span
  | .doBody condition span => .doWhile b condition span
  | .forBody init condition update span => .forLoop init condition update b span
  | .foreachBody type var iterable span => .foreach type var iterable b span

/-- The statement with `b` in the innermost of several places, given from the outermost. -/
def plug : List Slot → Stmt → Stmt
  | [], b => b
  | p :: ps, b => p.fill (plug ps b)

end Stmt

/-- A place for an expression in the body of a method. -/
structure Occurrence where
  before : List Stmt
  /-- The statements around, from the outermost. -/
  outer : List Stmt.Slot
  slot : Stmt.ValueSlot
  /-- The expressions around, from the outermost. -/
  inner : List Expr.Slot
  after : List Stmt

namespace Occurrence

/-- The statement of the place, with `e` in it. -/
def stmt (o : Occurrence) (e : Expr) : Stmt := o.slot.fill (Expr.plug o.inner e)

/-- The body with `e` in the place. -/
def fill (o : Occurrence) (e : Expr) : List Stmt :=
  o.before ++ Stmt.plug o.outer (o.stmt e) :: o.after

end Occurrence

/-! ## The state at a place -/

variable (cx : CheckContext)

/-- The state that the initializer is checked from. -/
def VarDecl.Slot.start (p : Slot) (s : CheckState) : CheckState :=
  let declared := cx.resolveType p.type.dataType p.type.span s
  (p.before.forM (checkDeclarator cx declared.1) declared.2).2

namespace Stmt

/-- The state after the clauses of a `for` loop. -/
def clausesEnd (init : Option ForInit) (condition : Option Expr) (update : List Expr)
    (s : CheckState) : CheckState :=
  (update.forM (checkExpr cx) (checkForCondition cx condition (checkForInit cx init s).2).2).2

/-- The state that the expression in the place is checked from. -/
def ValueSlot.start : ValueSlot → CheckState → CheckState
  | .expr _, s | .ifCondition .., s | .whileCondition .., s | .ret _, s => s
  | .declare decl, s => decl.start cx s
  | .doCondition body _, s => (Check.inLoop (inBranch body (checkStmt cx body)) s).2
  | .forDeclare decl .., s => decl.start cx (pushed s)
  | .forExpr before .., s => (before.forM (checkExpr cx) (pushed s)).2
  | .forCondition init .., s => (checkForInit cx init (pushed s)).2
  | .forUpdate init condition before .., s => clausesEnd cx init condition before (pushed s)
  | .iterable type .., s => (cx.resolveType type.dataType type.span s).2

/-- The state that the statement `b` in the place is checked from. -/
def Slot.start (b : Stmt) : Slot → CheckState → CheckState
  | .block before .., s => (checkStmts cx before (pushed s)).2
  | .ifYes condition .., s => branchStart b (checkCondition cx condition s).2
  | .ifNo condition yes _, s =>
    branchStart b (inBranch yes (checkStmt cx yes) (checkCondition cx condition s).2).2
  | .whileBody condition _, s => branchStart b (looped (checkCondition cx condition s).2)
  | .doBody .., s => branchStart b (looped s)
  | .forBody init condition update _, s =>
    branchStart b (looped (clausesEnd cx init condition update (pushed s)))
  | .foreachBody type var iterable span, s =>
    let start := foreachStart cx type iterable span s
    branchStart b (looped (Check.declare var.name start.1 var.span start.2).2)

/-- The state that the statement `b` in the innermost place is checked from. -/
def startAll (b : Stmt) : List Slot → CheckState → CheckState
  | [], s => s
  | p :: ps, s => startAll b ps (p.start cx (plug ps b) s)

end Stmt

/-- The state that the expression `e` in the place, or the expression around it, is checked from. -/
def Occurrence.start (o : Occurrence) (e : Expr) (s : CheckState) : CheckState :=
  o.slot.start cx (Stmt.startAll cx (o.stmt e) o.outer (checkStmts cx o.before s).2)

end ClassScript
