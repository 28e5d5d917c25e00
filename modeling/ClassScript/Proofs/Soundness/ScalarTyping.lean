import ClassScript.Proofs.Machine.Balance
import ClassScript.Proofs.Typing.ScopeStack
import ClassScript.Typing.Infer

/-!
# Typing rules for scalar code

The part of the language without calls, members and collections: which code belongs to it
(`Expr.isScalar`, `Stmt.isScalar`), and its typing rules over a stack of blocks (`ExprTyped`,
`StmtTyped`). The rules follow the blocks that open at run time: a branch or a loop body has one of
its own, with braces or without.
-/

namespace ClassScript

/-! ## Scalar code -/

/-- Whether an expression is made of constants, the variables `vars`, operators, assignments and
conditionals. -/
def Expr.isScalar (vars : List String) : Expr → Bool
  | .literal .. => true
  | .name i => vars.any fun x => sameName x i.name
  | .binary _ left right _ => left.isScalar vars && right.isScalar vars
  | .unary _ operand _ => operand.isScalar vars
  | .post _ operand _ => operand.isScalar vars
  | .assign _ target value _ => target.isScalar vars && value.isScalar vars
  | .conditional condition yes no _ =>
    condition.isScalar vars && yes.isScalar vars && no.isScalar vars
  | _ => false

/-- Whether the initializers of a declaration are scalar, each with the variables before it. -/
def Declarator.allScalar : List String → List Declarator → Bool
  | _, [] => true
  | vars, v :: vs => v.init.all (·.isScalar vars) && allScalar (v.name.name :: vars) vs

namespace ForInit

/-- Whether the first clause of a `for` loop is scalar. -/
def isScalar (vars : List String) : Option ForInit → Bool
  | some (.declare d) => Declarator.allScalar vars d.vars
  | some (.exprs es) => es.all (·.isScalar vars)
  | none => true

/-- The names that the first clause of a `for` loop declares, the last one first. -/
def declared : Option ForInit → List String
  | some (.declare d) => (d.vars.map fun v => v.name.name).reverse
  | _ => []

end ForInit

/-- The variables after a statement, the last declared one first. -/
def Stmt.extend (vars : List String) (s : Stmt) : List String := s.declared.reverse ++ vars

mutual

/-- Whether a statement is scalar: any but `foreach`, with scalar expressions. -/
def Stmt.isScalar (vars : List String) : Stmt → Bool
  | .expr e _ => e.isScalar vars
  | .declare d => Declarator.allScalar vars d.vars
  | .block stmts _ => Stmt.allScalar vars stmts
  | .ifElse condition yes no _ =>
    condition.isScalar vars && yes.isScalar vars && Stmt.elseScalar vars no
  | .whileLoop condition body _ => condition.isScalar vars && body.isScalar vars
  | .doWhile body condition _ => body.isScalar vars && condition.isScalar vars
  | .forLoop init condition update body _ =>
    let inner := ForInit.declared init ++ vars
    ForInit.isScalar vars init && condition.all (·.isScalar inner) &&
      update.all (·.isScalar inner) && body.isScalar inner
  | .foreach .. => false
  | .ret value _ => value.all (·.isScalar vars)
  | .brk _ => true
  | .cont _ => true

/-- Whether the other branch of a condition is scalar. -/
def Stmt.elseScalar (vars : List String) : Option Stmt → Bool
  | none => true
  | some s => s.isScalar vars

/-- Whether statements are scalar, each with the variables declared before it. -/
def Stmt.allScalar (vars : List String) : List Stmt → Bool
  | [] => true
  | s :: ss => s.isScalar vars && Stmt.allScalar (s.extend vars) ss

end

/-! ## Typing rules -/

open Typing (comparison? arithmetic)

/-- The type of a binary expression. -/
inductive BinaryRule : BinaryOp → DataType → DataType → DataType → Prop
  | equality {op a b} (ho : op.isEquality = true) : BinaryRule op a b .boolean
  | logical {op a b} (ho : op.isLogical = true) (ha : a.isBoolean = true)
      (hb : b.isBoolean = true) : BinaryRule op a b .boolean
  | relational {op a b} (ho : op.isRelational = true) (hc : comparison? a b = none) :
      BinaryRule op a b .boolean
  | arithmetic {op a b t}
      (ho : op.isEquality = false ∧ op.isLogical = false ∧ op.isRelational = false)
      (ht : arithmetic op a b = .ok t) : BinaryRule op a b t

/-- The type of `+a`, `-a` and `!a`, which is that of `a`. -/
inductive UnaryRule : UnaryOp → DataType → Prop
  | not {t} (ht : t.isBoolean = true) : UnaryRule .not t
  | plus {t} (ht : t.isInteger = true) : UnaryRule .plus t
  | neg {t} (ht : t.isInteger = true) : UnaryRule .neg t

/-- The type of a conditional with branches of types `y` and `n`. -/
inductive JoinRule (t : ClassTable) : DataType → DataType → DataType → Prop
  | first {y n} (h : n.isAssignable t y = true) : JoinRule t y n (if y.isNull then n else y)
  | second {y n} (h : y.isAssignable t n = true) : JoinRule t y n n

/-- `e` has type `t` where the variables of `bs` are visible. -/
inductive ExprTyped (classes : ClassTable) (bs : BlockStack) : Expr → DataType → Prop
  | literal {l span} : ExprTyped classes bs (.literal l span) l.dataType
  | name {i var t} (hv : bs.find? i.name = some var) (ht : var.type = some t) :
      ExprTyped classes bs (.name i) t
  | binary {op left right span a b t} (hl : ExprTyped classes bs left a)
      (hr : ExprTyped classes bs right b) (rule : BinaryRule op a b t) :
      ExprTyped classes bs (.binary op left right span) t
  | unary {op e span t} (he : ExprTyped classes bs e t) (rule : UnaryRule op t) :
      ExprTyped classes bs (.unary op e span) t
  | step {op i span t} (ho : op.mutates = true) (hi : ExprTyped classes bs (.name i) t)
      (ht : t.isInteger = true) : ExprTyped classes bs (.unary op (.name i) span) t
  | post {op i span t} (hi : ExprTyped classes bs (.name i) t) (ht : t.isInteger = true) :
      ExprTyped classes bs (.post op (.name i) span) t
  | assign {op i e span t a} (ho : op.binary? = none) (hi : ExprTyped classes bs (.name i) t)
      (he : ExprTyped classes bs e a) (hf : a.fitsExactly t = true) :
      ExprTyped classes bs (.assign op (.name i) e span) t
  | compound {op o i e span t a r} (ho : op.binary? = some o)
      (hi : ExprTyped classes bs (.name i) t) (he : ExprTyped classes bs e a)
      (hr : arithmetic o t a = .ok r) (hf : r.fitsExactly t = true) :
      ExprTyped classes bs (.assign op (.name i) e span) t
  | conditional {c yes no span k y n t} (hc : ExprTyped classes bs c k) (hk : k.isBoolean = true)
      (hy : ExprTyped classes bs yes y) (hn : ExprTyped classes bs no n)
      (rule : JoinRule classes y n t) : ExprTyped classes bs (.conditional c yes no span) t

/-- `e` is a Boolean. -/
def ConditionTyped (classes : ClassTable) (bs : BlockStack) (e : Expr) : Prop :=
  ∃ t, ExprTyped classes bs e t ∧ t.isBoolean = true

/-- Declarators of type `ty` take the innermost block from `b` to `b'`. -/
inductive VarsTyped (classes : ClassTable) (ty : DataType) (bs : BlockStack) :
    NameTable LocalVar → List Declarator → NameTable LocalVar → Prop
  | nil {b} : VarsTyped classes ty bs b [] b
  | cons {b v vs var b'}
      (init : ∀ e, v.init = some e → ∃ a, ExprTyped classes (b :: bs) e a ∧ a.fitsExactly ty = true)
      (hvar : var.type = some ty) (rest : VarsTyped classes ty bs (b.insert v.name.name var) vs b') :
      VarsTyped classes ty bs b (v :: vs) b'

/-- The first clause of a `for` loop takes the innermost block from `b` to `b'`. -/
inductive InitTyped (classes : ClassTable) (bs : BlockStack) :
    NameTable LocalVar → Option ForInit → NameTable LocalVar → Prop
  | none {b} : InitTyped classes bs b none b
  | exprs {b es} (h : ∀ e ∈ es, ∃ t, ExprTyped classes (b :: bs) e t) :
      InitTyped classes bs b (some (.exprs es)) b
  | declare {b b' d ty} (h : VarsTyped classes ty bs b d.vars b') :
      InitTyped classes bs b (some (.declare d)) b'

mutual

/-- In a method with the declared result `ret`, and in a loop or not, the statement takes the
innermost block from `b` to `b'`, with the blocks `bs` around it. -/
inductive StmtTyped (classes : ClassTable) (ret : Option DataType) :
    Bool → BlockStack → NameTable LocalVar → Stmt → NameTable LocalVar → Prop
  | expr {loop bs b e span t} (he : ExprTyped classes (b :: bs) e t) :
      StmtTyped classes ret loop bs b (.expr e span) b
  | declare {loop bs b d ty b'} (hd : VarsTyped classes ty bs b d.vars b') :
      StmtTyped classes ret loop bs b (.declare d) b'
  | block {loop bs b ss span b'} (hs : StmtsTyped classes ret loop (b :: bs) .empty ss b') :
      StmtTyped classes ret loop bs b (.block ss span) b
  | ifThen {loop bs b c yes span b₁} (hc : ConditionTyped classes (b :: bs) c)
      (hy : StmtTyped classes ret loop (b :: bs) .empty yes b₁) :
      StmtTyped classes ret loop bs b (.ifElse c yes none span) b
  | ifElse {loop bs b c yes no span b₁ b₂} (hc : ConditionTyped classes (b :: bs) c)
      (hy : StmtTyped classes ret loop (b :: bs) .empty yes b₁)
      (hn : StmtTyped classes ret loop (b :: bs) .empty no b₂) :
      StmtTyped classes ret loop bs b (.ifElse c yes (some no) span) b
  | whileLoop {loop bs b c body span b₁} (hc : ConditionTyped classes (b :: bs) c)
      (hb : StmtTyped classes ret true (b :: bs) .empty body b₁) :
      StmtTyped classes ret loop bs b (.whileLoop c body span) b
  | doWhile {loop bs b c body span b₁} (hc : ConditionTyped classes (b :: bs) c)
      (hb : StmtTyped classes ret true (b :: bs) .empty body b₁) :
      StmtTyped classes ret loop bs b (.doWhile body c span) b
  | forLoop {loop bs b init condition update body span b₁ b₂}
      (hi : InitTyped classes (b :: bs) .empty init b₁)
      (hc : ∀ e, condition = some e → ConditionTyped classes (b₁ :: b :: bs) e)
      (hu : ∀ e ∈ update, ∃ t, ExprTyped classes (b₁ :: b :: bs) e t)
      (hb : StmtTyped classes ret true (b₁ :: b :: bs) .empty body b₂) :
      StmtTyped classes ret loop bs b (.forLoop init condition update body span) b
  | retVoid {loop bs b span} (hr : ∀ d, ret = some d → d.isVoid = true) :
      StmtTyped classes ret loop bs b (.ret none span) b
  | ret {loop bs b e span t} (he : ExprTyped classes (b :: bs) e t)
      (hr : ∀ d, ret = some d → d.isVoid = false ∧ t.fitsExactly d = true) :
      StmtTyped classes ret loop bs b (.ret (some e) span) b
  | brk {bs b span} : StmtTyped classes ret true bs b (.brk span) b
  | cont {bs b span} : StmtTyped classes ret true bs b (.cont span) b

/-- Statements in order take the innermost block from `b` to `b'`. -/
inductive StmtsTyped (classes : ClassTable) (ret : Option DataType) :
    Bool → BlockStack → NameTable LocalVar → List Stmt → NameTable LocalVar → Prop
  | nil {loop bs b} : StmtsTyped classes ret loop bs b [] b
  | cons {loop bs b s ss b' b''} (hs : StmtTyped classes ret loop bs b s b')
      (hss : StmtsTyped classes ret loop bs b' ss b'') :
      StmtsTyped classes ret loop bs b (s :: ss) b''

end

/-- Parameters take the block of a method from `b` to `b'`. -/
inductive ParamsTyped : NameTable LocalVar → List ParamInfo → NameTable LocalVar → Prop
  | nil {b} : ParamsTyped b [] b
  | cons {b p ps var b'} (hvar : var.type = some p.type)
      (rest : ParamsTyped (b.insert p.name var) ps b') : ParamsTyped b (p :: ps) b'

end ClassScript
