import ClassScript.Program.Stmt
import ClassScript.Typing.Infer

/-! # Checking statements

Every statement of a body is checked, whether it can be reached or not. Blocks, branches and loop
bodies have local variables of their own; the variables of a `for` clause are visible in the whole
loop. -/

namespace ClassScript.Typing

open Check (report inBlock inLoop)

variable (cx : CheckContext)

/-- Infers a condition and requires it to be Boolean. -/
def checkCondition (e : Expr) : Check Unit := do
  requireCondition (← infer cx e) e.span

/-- Infers a stored value and requires it to fit the declared type. -/
def checkStored (e : Expr) (declared : Option DataType) : Check Unit := do
  requireFits (← infer cx e) declared e.span

/-- Infers an expression for the errors in it. -/
def checkExpr (e : Expr) : Check Unit := do
  let _ ← infer cx e

/-- Checks one variable of a declaration. Its initializer comes first and cannot refer to it. -/
def checkDeclarator (declared : Option DataType) (v : Declarator) : Check Unit := do
  match v.init with
  | some e => checkStored cx e declared
  | none => pure ()
  Check.declare v.name.name declared v.name.span

/-- Checks a declaration of variables. -/
def checkDeclaration (d : VarDecl) : Check Unit := do
  let declared ← cx.resolveType d.type.dataType d.type.span
  d.vars.forM (checkDeclarator cx declared)

/-- Checks the first clause of a `for` loop. -/
def checkForInit : Option ForInit → Check Unit
  | some (.declare d) => checkDeclaration cx d
  | some (.exprs es) => es.forM (checkExpr cx)
  | none => pure ()

/-- The elements of a collection have to fit the loop variable. -/
def requireElements (collection declared : Option DataType) (iterable span : Span) : Check Unit :=
  match collection with
  | none => pure ()
  | some t =>
    if t.isList then requireFits t.args.head? declared span
    else report (.notIterable t) iterable

/-- Checks a `return` against the declared result. -/
def checkReturn (value : Option Expr) (span : Span) : Check Unit :=
  match cx.returnType, value with
  | none, none => pure ()
  | none, some e => checkExpr cx e
  | some declared, none =>
    if declared.isVoid then pure () else report (.returnMismatch .void declared) span
  | some declared, some e => do
    match ← infer cx e with
    | none => pure ()
    | some actual =>
      if !declared.isVoid && actual.fitsExactly declared then pure ()
      else report (.returnMismatch actual declared) span

/-- A `break` or `continue` has to be inside a loop. -/
def requireLoop (violation : Violation) (span : Span) : Check Unit := do
  if (← get).loopDepth = 0 then report violation span

/-- A branch has local variables of its own, with or without braces. -/
def inBranch (s : Stmt) (check : Check Unit) : Check Unit :=
  match s with
  | .block .. => check
  | _ => inBlock check

mutual

/-- Checks a statement. -/
def checkStmt : Stmt → Check Unit
  | .expr e _ => checkExpr cx e
  | .declare d => checkDeclaration cx d
  | .block stmts _ => inBlock (checkStmts stmts)
  | .ifElse condition yes no _ => do
    checkCondition cx condition
    inBranch yes (checkStmt yes)
    checkElse no
  | .whileLoop condition body _ => do
    checkCondition cx condition
    inLoop (inBranch body (checkStmt body))
  | .doWhile body condition _ => do
    inLoop (inBranch body (checkStmt body))
    checkCondition cx condition
  | .forLoop init condition update body _ =>
    inBlock do
      checkForInit cx init
      match condition with
      | some e => checkCondition cx e
      | none => pure ()
      update.forM (checkExpr cx)
      inLoop (inBranch body (checkStmt body))
  | .foreach type var iterable body span => do
    let declared ← cx.resolveType type.dataType type.span
    let collection ← infer cx iterable
    requireElements collection declared iterable.span span
    inBlock do
      Check.declare var.name declared var.span
      inLoop (inBranch body (checkStmt body))
  | .ret value span => checkReturn cx value span
  | .brk span => requireLoop .breakOutsideLoop span
  | .cont span => requireLoop .continueOutsideLoop span

/-- Checks the other branch of a condition. -/
def checkElse : Option Stmt → Check Unit
  | none => pure ()
  | some s => inBranch s (checkStmt s)

/-- Checks statements in order, in the current block. -/
def checkStmts : List Stmt → Check Unit
  | [] => pure ()
  | s :: ss => do
    checkStmt s
    checkStmts ss

end

end ClassScript.Typing
