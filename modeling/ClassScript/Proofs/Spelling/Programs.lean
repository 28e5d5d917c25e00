import ClassScript.Program.ClassDecl
import ClassScript.Proofs.Spelling.Names

/-!
# Programs in other spellings

Two programs are related if they are the same up to the spelling of the names by which they refer to
something: names in expressions, names of members and methods in uses, and the names in types. The
names that are declared, the literals, the texts of queries and all source locations are the same.
-/

namespace ClassScript

variable (σ : Spelling)

/-! ## Expressions -/

/-- A reference in two spellings. -/
structure Ident.Spelled (i j : Ident) : Prop where
  name : σ.rel i.name j.name
  span : i.span = j.span

/-- A written type in two spellings. -/
inductive TypeRef.Spelled : TypeRef → TypeRef → Prop
  | intro {i j : Ident} {as bs : List TypeRef} {span : Span} : i.Spelled σ j →
      List.Forall₂ TypeRef.Spelled as bs → TypeRef.Spelled ⟨i, as, span⟩ ⟨j, bs, span⟩

/-- An expression in two spellings. -/
inductive Expr.Spelled : Expr → Expr → Prop
  | literal {value : Literal} {span : Span} :
      Expr.Spelled (.literal value span) (.literal value span)
  | name {i j : Ident} : i.Spelled σ j → Expr.Spelled (.name i) (.name j)
  | this {span : Span} : Expr.Spelled (.this span) (.this span)
  | member {e e' : Expr} {m m' : Ident} {span : Span} : Expr.Spelled e e' → m.Spelled σ m' →
      Expr.Spelled (.member e m span) (.member e' m' span)
  | call {m m' : Ident} {es es' : List Expr} {span : Span} : m.Spelled σ m' →
      List.Forall₂ Expr.Spelled es es' → Expr.Spelled (.call m es span) (.call m' es' span)
  | callOn {e e' : Expr} {m m' : Ident} {es es' : List Expr} {span : Span} : Expr.Spelled e e' →
      m.Spelled σ m' → List.Forall₂ Expr.Spelled es es' →
      Expr.Spelled (.callOn e m es span) (.callOn e' m' es' span)
  | create {t t' : TypeRef} {es es' : List Expr} {span : Span} : t.Spelled σ t' →
      List.Forall₂ Expr.Spelled es es' → Expr.Spelled (.create t es span) (.create t' es' span)
  | index {e e' k k' : Expr} {span : Span} : Expr.Spelled e e' → Expr.Spelled k k' →
      Expr.Spelled (.index e k span) (.index e' k' span)
  | binary {op : BinaryOp} {l l' r r' : Expr} {span : Span} : Expr.Spelled l l' →
      Expr.Spelled r r' → Expr.Spelled (.binary op l r span) (.binary op l' r' span)
  | unary {op : UnaryOp} {e e' : Expr} {span : Span} : Expr.Spelled e e' →
      Expr.Spelled (.unary op e span) (.unary op e' span)
  | post {op : PostOp} {e e' : Expr} {span : Span} : Expr.Spelled e e' →
      Expr.Spelled (.post op e span) (.post op e' span)
  | assign {op : AssignOp} {t t' v v' : Expr} {span : Span} : Expr.Spelled t t' →
      Expr.Spelled v v' → Expr.Spelled (.assign op t v span) (.assign op t' v' span)
  | conditional {c c' y y' n n' : Expr} {span : Span} : Expr.Spelled c c' → Expr.Spelled y y' →
      Expr.Spelled n n' → Expr.Spelled (.conditional c y n span) (.conditional c' y' n' span)
  | query {text : String} {span : Span} : Expr.Spelled (.query text span) (.query text span)

/-! ## Statements -/

/-- One variable of a declaration; its name is declared here. -/
structure Declarator.Spelled (v w : Declarator) : Prop where
  name : v.name = w.name
  init : Option.Rel (Expr.Spelled σ) v.init w.init
  span : v.span = w.span

/-- A declaration of variables in two spellings. -/
structure VarDecl.Spelled (d d' : VarDecl) : Prop where
  type : d.type.Spelled σ d'.type
  vars : List.Forall₂ (Declarator.Spelled σ) d.vars d'.vars
  span : d.span = d'.span

/-- The first clause of a `for` loop in two spellings. -/
inductive ForInit.Spelled : ForInit → ForInit → Prop
  | declare {d d' : VarDecl} : d.Spelled σ d' → ForInit.Spelled (.declare d) (.declare d')
  | exprs {es es' : List Expr} : List.Forall₂ (Expr.Spelled σ) es es' →
      ForInit.Spelled (.exprs es) (.exprs es')

/-- A statement in two spellings. -/
inductive Stmt.Spelled : Stmt → Stmt → Prop
  | expr {e e' : Expr} {span : Span} : e.Spelled σ e' → Stmt.Spelled (.expr e span) (.expr e' span)
  | declare {d d' : VarDecl} : d.Spelled σ d' → Stmt.Spelled (.declare d) (.declare d')
  | block {ss ss' : List Stmt} {span : Span} : List.Forall₂ Stmt.Spelled ss ss' →
      Stmt.Spelled (.block ss span) (.block ss' span)
  | ifElse {c c' : Expr} {y y' : Stmt} {n n' : Option Stmt} {span : Span} : c.Spelled σ c' →
      Stmt.Spelled y y' → Option.Rel Stmt.Spelled n n' →
      Stmt.Spelled (.ifElse c y n span) (.ifElse c' y' n' span)
  | whileLoop {c c' : Expr} {b b' : Stmt} {span : Span} : c.Spelled σ c' → Stmt.Spelled b b' →
      Stmt.Spelled (.whileLoop c b span) (.whileLoop c' b' span)
  | doWhile {b b' : Stmt} {c c' : Expr} {span : Span} : Stmt.Spelled b b' → c.Spelled σ c' →
      Stmt.Spelled (.doWhile b c span) (.doWhile b' c' span)
  | forLoop {init init' : Option ForInit} {c c' : Option Expr} {us us' : List Expr} {b b' : Stmt}
      {span : Span} : Option.Rel (ForInit.Spelled σ) init init' →
      Option.Rel (Expr.Spelled σ) c c' → List.Forall₂ (Expr.Spelled σ) us us' → Stmt.Spelled b b' →
      Stmt.Spelled (.forLoop init c us b span) (.forLoop init' c' us' b' span)
  | foreach {t t' : TypeRef} {var : Ident} {e e' : Expr} {b b' : Stmt} {span : Span} :
      t.Spelled σ t' → e.Spelled σ e' → Stmt.Spelled b b' →
      Stmt.Spelled (.foreach t var e b span) (.foreach t' var e' b' span)
  | ret {e e' : Option Expr} {span : Span} : Option.Rel (Expr.Spelled σ) e e' →
      Stmt.Spelled (.ret e span) (.ret e' span)
  | brk {span : Span} : Stmt.Spelled (.brk span) (.brk span)
  | cont {span : Span} : Stmt.Spelled (.cont span) (.cont span)

/-! ## Classes -/

structure Param.Spelled (p q : Param) : Prop where
  type : p.type.Spelled σ q.type
  name : p.name = q.name
  span : p.span = q.span

structure FieldDecl.Spelled (f g : FieldDecl) : Prop where
  modifiers : f.modifiers = g.modifiers
  type : f.type.Spelled σ g.type
  name : f.name = g.name
  init : Option.Rel (Expr.Spelled σ) f.init g.init
  span : f.span = g.span

/-- A method or a constructor in two spellings. -/
structure MethodDecl.Spelled (m n : MethodDecl) : Prop where
  modifiers : m.modifiers = n.modifiers
  returnType : Option.Rel (TypeRef.Spelled σ) m.returnType n.returnType
  name : m.name = n.name
  params : List.Forall₂ (Param.Spelled σ) m.params n.params
  body : Option.Rel (List.Forall₂ (Stmt.Spelled σ)) m.body n.body
  span : m.span = n.span

/-- A member of a class in two spellings, given what that means for classes. -/
inductive Member.Spelled {κ : Type} (C : κ → κ → Prop) : Member κ → Member κ → Prop
  | field {f g : FieldDecl} : f.Spelled σ g → Member.Spelled C (.field f) (.field g)
  | method {m n : MethodDecl} : m.Spelled σ n → Member.Spelled C (.method m) (.method n)
  | constructor {m n : MethodDecl} : m.Spelled σ n →
      Member.Spelled C (.constructor m) (.constructor n)
  | inner {c d : κ} : C c d → Member.Spelled C (.inner c) (.inner d)

/-- A class in two spellings. -/
inductive ClassDecl.Spelled : ClassDecl → ClassDecl → Prop
  | intro {modifiers : Modifiers} {annotations : List String} {name : Ident}
      {superclass superclass' : Option TypeRef} {interfaces interfaces' : List TypeRef}
      {members members' : List (Member ClassDecl)} {span : Span} :
      Option.Rel (TypeRef.Spelled σ) superclass superclass' →
      List.Forall₂ (TypeRef.Spelled σ) interfaces interfaces' →
      List.Forall₂ (Member.Spelled σ ClassDecl.Spelled) members members' →
      ClassDecl.Spelled ⟨modifiers, annotations, name, superclass, interfaces, members, span⟩
        ⟨modifiers, annotations, name, superclass', interfaces', members', span⟩

variable {σ}

/-! ## What stays the same -/

mutual

theorem TypeRef.Spelled.dataType : ∀ {t u : TypeRef}, t.Spelled σ u →
    t.dataType.Spelled σ u.dataType
  | ⟨_, _, _⟩, ⟨_, _, _⟩, .intro hi hs => .intro hi.name (TypeRef.Spelled.dataTypes hs)

theorem TypeRef.Spelled.dataTypes : ∀ {ts us : List TypeRef},
    List.Forall₂ (TypeRef.Spelled σ) ts us →
    List.Forall₂ (DataType.Spelled σ) (TypeRef.dataTypes ts) (TypeRef.dataTypes us)
  | [], [], _ => .nil
  | _ :: _, _ :: _, .cons h hs =>
    .cons (TypeRef.Spelled.dataType h) (TypeRef.Spelled.dataTypes hs)

end

theorem TypeRef.Spelled.span {t u : TypeRef} (h : t.Spelled σ u) : t.span = u.span := by
  cases h
  rfl

theorem Expr.Spelled.span {e e' : Expr} (h : e.Spelled σ e') : e.span = e'.span := by
  cases h <;> first | rfl | exact Ident.Spelled.span ‹_›

theorem Expr.Spelled.isAssignable {e e' : Expr} (h : e.Spelled σ e') :
    e.isAssignable = e'.isAssignable := by
  cases h <;> rfl

/-! ## A program in its own spelling -/

theorem Ident.Spelled.refl (i : Ident) : i.Spelled σ i := ⟨σ.refl _, rfl⟩

mutual

theorem TypeRef.Spelled.refl : ∀ t : TypeRef, t.Spelled σ t
  | ⟨i, as, _⟩ => .intro (.refl i) (TypeRef.Spelled.reflAll as)

theorem TypeRef.Spelled.reflAll : ∀ ts : List TypeRef, List.Forall₂ (TypeRef.Spelled σ) ts ts
  | [] => .nil
  | t :: ts => .cons (TypeRef.Spelled.refl t) (TypeRef.Spelled.reflAll ts)

end

mutual

theorem Expr.Spelled.refl : ∀ e : Expr, e.Spelled σ e
  | .literal _ _ => .literal
  | .name i => .name (.refl i)
  | .this _ => .this
  | .member e m _ => .member (Expr.Spelled.refl e) (.refl m)
  | .call m es _ => .call (.refl m) (Expr.Spelled.reflAll es)
  | .callOn e m es _ => .callOn (Expr.Spelled.refl e) (.refl m) (Expr.Spelled.reflAll es)
  | .create t es _ => .create (.refl t) (Expr.Spelled.reflAll es)
  | .index e k _ => .index (Expr.Spelled.refl e) (Expr.Spelled.refl k)
  | .binary _ l r _ => .binary (Expr.Spelled.refl l) (Expr.Spelled.refl r)
  | .unary _ e _ => .unary (Expr.Spelled.refl e)
  | .post _ e _ => .post (Expr.Spelled.refl e)
  | .assign _ t v _ => .assign (Expr.Spelled.refl t) (Expr.Spelled.refl v)
  | .conditional c y n _ =>
    .conditional (Expr.Spelled.refl c) (Expr.Spelled.refl y) (Expr.Spelled.refl n)
  | .query _ _ => .query

theorem Expr.Spelled.reflAll : ∀ es : List Expr, List.Forall₂ (Expr.Spelled σ) es es
  | [] => .nil
  | e :: es => .cons (Expr.Spelled.refl e) (Expr.Spelled.reflAll es)

end

theorem Declarator.Spelled.refl (v : Declarator) : v.Spelled σ v :=
  ⟨rfl, rel_refl Expr.Spelled.refl _, rfl⟩

theorem VarDecl.Spelled.refl (d : VarDecl) : d.Spelled σ d :=
  ⟨.refl _, List.forall₂_same.2 fun v _ => .refl v, rfl⟩

theorem ForInit.Spelled.refl : ∀ init : ForInit, init.Spelled σ init
  | .declare d => .declare (.refl d)
  | .exprs es => .exprs (Expr.Spelled.reflAll es)

mutual

theorem Stmt.Spelled.refl : ∀ s : Stmt, s.Spelled σ s
  | .expr e _ => .expr (.refl e)
  | .declare d => .declare (.refl d)
  | .block ss _ => .block (Stmt.Spelled.reflAll ss)
  | .ifElse c y none _ => .ifElse (.refl c) (Stmt.Spelled.refl y) .none
  | .ifElse c y (some n) _ =>
    .ifElse (.refl c) (Stmt.Spelled.refl y) (.some (Stmt.Spelled.refl n))
  | .whileLoop c b _ => .whileLoop (.refl c) (Stmt.Spelled.refl b)
  | .doWhile b c _ => .doWhile (Stmt.Spelled.refl b) (.refl c)
  | .forLoop init c us b _ => .forLoop (rel_refl ForInit.Spelled.refl init)
      (rel_refl Expr.Spelled.refl c) (Expr.Spelled.reflAll us) (Stmt.Spelled.refl b)
  | .foreach t _ e b _ => .foreach (.refl t) (.refl e) (Stmt.Spelled.refl b)
  | .ret e _ => .ret (rel_refl Expr.Spelled.refl e)
  | .brk _ => .brk
  | .cont _ => .cont

theorem Stmt.Spelled.reflAll : ∀ ss : List Stmt, List.Forall₂ (Stmt.Spelled σ) ss ss
  | [] => .nil
  | s :: ss => .cons (Stmt.Spelled.refl s) (Stmt.Spelled.reflAll ss)

end

end ClassScript
