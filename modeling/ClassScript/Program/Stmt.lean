import ClassScript.Program.Expr

/-! # Statements -/

namespace ClassScript

/-- One variable of a declaration. -/
structure Declarator where
  name : Ident
  init : Option Expr
  span : Span

/-- A declaration of variables that share a type. -/
structure VarDecl where
  type : TypeRef
  vars : List Declarator
  span : Span

/-- The first clause of a `for` loop. -/
inductive ForInit where
  | declare (decl : VarDecl)
  | exprs (exprs : List Expr)

/-- A statement. -/
inductive Stmt where
  | expr (expr : Expr) (span : Span)
  | declare (decl : VarDecl)
  | block (stmts : List Stmt) (span : Span)
  | ifElse (condition : Expr) (yes : Stmt) (no : Option Stmt) (span : Span)
  | whileLoop (condition : Expr) (body : Stmt) (span : Span)
  /-- `do body while (condition)` -/
  | doWhile (body : Stmt) (condition : Expr) (span : Span)
  /-- `for (init; condition; update) body` -/
  | forLoop (init : Option ForInit) (condition : Option Expr) (update : List Expr) (body : Stmt)
      (span : Span)
  /-- `for (type var : iterable) body` -/
  | foreach (type : TypeRef) (var : Ident) (iterable : Expr) (body : Stmt) (span : Span)
  | ret (value : Option Expr) (span : Span)
  | brk (span : Span)
  | cont (span : Span)

namespace Stmt

instance : Inhabited Stmt := ⟨.block [] .unknown⟩

/-- Where the statement was written. -/
def span : Stmt → Span
  | expr _ s | block _ s | ifElse _ _ _ s | whileLoop _ _ s | doWhile _ _ s | forLoop _ _ _ _ s
  | foreach _ _ _ _ s | ret _ s | brk s | cont s => s
  | declare d => d.span

/-- The form of the statement in one word. -/
def form : Stmt → String
  | expr .. => "Expr"
  | declare _ => "VarDecl"
  | block .. => "Block"
  | ifElse .. => "If"
  | whileLoop .. => "While"
  | doWhile .. => "DoWhile"
  | forLoop .. => "For"
  | foreach .. => "Foreach"
  | ret .. => "Return"
  | brk _ => "Break"
  | cont _ => "Continue"

end Stmt

end ClassScript
