import ClassScript.Proofs.Machine.Passage
import ClassScript.Proofs.Resolution.Names
import ClassScript.Proofs.Typing.Visits

/-!
# Names along the walk of checking

What the walk of checking (`Typing.Visits`) says about the names that are declared, for one kind of
expression or statement at a time. An expression is checked with everything that it evaluates and
with the name that it tests (`Typing.Walk.evaluated`, `Typing.Walk.tested`). The parts of a
statement are collected in `ExprIn`, `StmtIn` and `LoopIn`: code that is checked where certain names
are declared. Only the names matter, so two scopes with the same names are as good as one.
-/

namespace ClassScript

open Typing (Code Stacked)

/-! ## Tests of names -/

/-- The name that resolving a target tests for a local variable. -/
def Expr.placeTest? : Expr → Option Ident
  | .name i => some i
  | .member object _ _ => object.root?
  | _ => none

/-- The name that evaluating an expression tests for a local variable before it evaluates anything:
a bare name that is read or written, or the one that a receiver starts with. -/
def Expr.tested? : Expr → Option Ident
  | .assign _ target _ _ | .post _ target _ => target.placeTest?
  | .unary op operand _ => if op.mutates then operand.placeTest? else none
  | .callOn receiver _ _ _ => receiver.root?
  | e => e.placeTest?

/-! ## Names that are declared -/

namespace LocalScope

/-- The names that a scope declares are those of another. -/
def SameNames (s s' : LocalScope) : Prop := ∀ name, s.isDeclared name = s'.isDeclared name

theorem SameNames.of_eq {s s' : LocalScope} (h : s = s') : s.SameNames s' := fun _ => by rw [h]

theorem isDeclared_congr (s : LocalScope) {n n' : String} (h : sameName n n' = true) :
    s.isDeclared n = s.isDeclared n' := by
  unfold isDeclared lookup?
  rw [NameTable.get?_congr _ h]

/-- A declaration is refused only if the name is declared already. -/
theorem isDeclared_of_declare_error {s : LocalScope} {name : String} {type : Option DataType}
    {span : Span} {e : CheckError} (h : s.declare name type span = .error e) :
    s.isDeclared name = true := by
  unfold declare at h
  dsimp only at h
  split at h
  · cases h
  · rename_i var hv
    simp [isDeclared, hv]

end LocalScope

/-- A name is declared after a declaration, refused or not. -/
theorem Check.isDeclared_declare (name : String) (type : Option DataType) (span : Span)
    (s : CheckState) (n : String) :
    (Check.declare name type span s).2.scope.isDeclared n =
      (sameName name n || s.scope.isDeclared n) := by
  rw [Check.declare_run]
  cases hd : s.scope.declare name type span with
  | ok scope =>
    simp only [LocalScope.isDeclared, LocalScope.lookup?_declare hd]
    by_cases hn : sameName name n <;> simp [hn]
  | error e =>
    dsimp only
    by_cases hn : sameName name n
    · rw [← s.scope.isDeclared_congr hn, LocalScope.isDeclared_of_declare_error hd, hn]
      rfl
    · simp [hn]

namespace Typing

/-- After the parameters of a method they are declared, besides what was declared before. -/
theorem isDeclared_declareParams (cx : CheckContext) (span : Span) (name : String) :
    ∀ (params : List ParamInfo) (s : CheckState),
      (declareParams cx params span s).2.scope.isDeclared name =
        (params.any (fun p => sameName p.name name) || s.scope.isDeclared name)
  | [], s => rfl
  | p :: params, s => by
    have hstep : (declareParams cx (p :: params) span s).2 = (declareParams cx params span
        (Check.declare p.name (cx.resolveType p.type span s).1 span
          (cx.resolveType p.type span s).2).2).2 := rfl
    rw [hstep, isDeclared_declareParams cx span name params, Check.isDeclared_declare,
      (resolveType_quiet cx p.type span).scope, List.any_cons, Bool.or_left_comm, Bool.or_assoc]

/-- What is checked in blocks of its own declares nothing that is left. -/
theorem Stacked.restores {α : Type} {x : Check α} {s : CheckState} (h : Stacked s)
    (hx : Check.Restores x) : (x s).2.scope.SameNames s.scope := by
  obtain ⟨b, bs, hm⟩ := h
  intro name
  unfold LocalScope.isDeclared
  rw [hx.lookup hm]

theorem bodyStart_stacked (t : ClassTable) (c : ClassInfo) (k : MethodInfo) (s : CheckState) :
    Stacked (bodyStart t c k s) := by
  refine Stacked.after ?_ (declareParams_nested _ _ _)
  exact (stacked_memberStart _).of_scope ((declaredResult_quiet _).scope _)

end Typing

variable {cx : CheckContext} {V : Code → CheckState → Prop} {scope : LocalScope}

/-! ## Expressions on the walk -/

/-- The expression is checked where the names of `scope` are declared. -/
def ExprIn (V : Code → CheckState → Prop) (scope : LocalScope) (e : Expr) : Prop :=
  ∃ role s, V (.expr role e) s ∧ s.scope.SameNames scope

namespace Typing.Walk

variable {role : Role} {e p : Expr} {s : CheckState}

/-- Everything that an expression evaluates in turn is checked with it. -/
theorem evaluated (hV : Walk cx V) (h : V (.expr role e) s) (hp : p ∈ e.evaluated) :
    ∃ role' s', V (.expr role' p) s' ∧ s'.scope = s.scope := by
  -- a target is not evaluated itself, but what its place is computed from is
  have placed : ∀ {x : Expr}, x ∈ e.operands → (∀ op target value span,
      e = .assign op target value span → target.isAssignable = true ∨ x = value) →
      p ∈ x.placed → x.isAssignable = true →
      ∃ role' s', V (.expr role' p) s' ∧ s'.scope = s.scope := by
    intro x hx ht hpx ha
    obtain ⟨role₁, s₁, h₁, hs₁⟩ := hV.operand h hx ht
    rw [Expr.placed, if_pos ha] at hpx
    obtain ⟨role₂, s₂, h₂, hs₂⟩ := hV.operand h₁ hpx (by rintro _ _ _ _ rfl; cases ha)
    exact ⟨role₂, s₂, h₂, hs₂.trans hs₁⟩
  have assignable : ∀ {x : Expr}, p ∈ x.placed → x.isAssignable = true := by
    intro x hx
    unfold Expr.placed at hx
    split at hx
    · assumption
    · cases hx
  cases e with
  | assign op target value span =>
    rcases List.mem_append.1 hp with hp | hp
    · have ha := assignable hp
      refine placed List.mem_cons_self (fun _ _ _ _ he => ?_) hp ha
      cases he
      exact .inl ha
    · obtain rfl := List.mem_singleton.1 hp
      refine hV.operand h (List.mem_cons_of_mem _ List.mem_cons_self) fun _ _ _ _ he => ?_
      cases he
      exact .inr rfl
  | unary op operand span =>
    simp only [Expr.evaluated] at hp
    split at hp
    · exact placed List.mem_cons_self (by simp) hp (assignable hp)
    · exact hV.operand h hp (by simp)
  | post op operand span => exact placed List.mem_cons_self (by simp) hp (assignable hp)
  | _ => exact hV.operand h hp (by simp)

/-- The name that a path starts with is checked with the path. -/
theorem root (hV : Walk cx V) : ∀ {e : Expr} {role : Role} {s : CheckState} {i : Ident},
    V (.expr role e) s → e.root? = some i →
    ∃ role' s', V (.expr role' (.name i)) s' ∧ s'.scope = s.scope
  | .name i, role, s, j, h, hi => by
    cases hi
    exact ⟨role, s, h, rfl⟩
  | .member object m span, role, s, j, h, hi => by
    obtain ⟨role', s', h', hs'⟩ := hV.operand h (p := object) List.mem_cons_self (by simp)
    obtain ⟨role'', s'', h'', hs''⟩ := root hV h' hi
    exact ⟨role'', s'', h'', hs''.trans hs'⟩

theorem placeTest (hV : Walk cx V) {i : Ident} (h : V (.expr role e) s)
    (hi : e.placeTest? = some i) : ∃ role' s', V (.expr role' (.name i)) s' ∧ s'.scope = s.scope := by
  cases e with
  | name j => exact hV.root h hi
  | member object m span => exact hV.root (e := .member object m span) h hi
  | _ => cases hi

/-- The name that an expression tests is checked with it. -/
theorem tested (hV : Walk cx V) {i : Ident} (h : V (.expr role e) s) (hi : e.tested? = some i) :
    ∃ role' s', V (.expr role' (.name i)) s' ∧ s'.scope = s.scope := by
  have target : ∀ {x : Expr}, x ∈ e.operands → (∀ op target value span,
      e = .assign op target value span → target.isAssignable = true ∨ x = value) →
      x.placeTest? = some i → ∃ role' s', V (.expr role' (.name i)) s' ∧ s'.scope = s.scope := by
    intro x hx ht hi
    obtain ⟨role₁, s₁, h₁, hs₁⟩ := hV.operand h hx ht
    obtain ⟨role₂, s₂, h₂, hs₂⟩ := hV.placeTest h₁ hi
    exact ⟨role₂, s₂, h₂, hs₂.trans hs₁⟩
  cases e with
  | assign op x value span =>
    refine target List.mem_cons_self (fun _ _ _ _ he => ?_) hi
    cases he
    cases x <;> first | exact .inl rfl | cases hi
  | post op x span => exact target List.mem_cons_self (by simp) hi
  | unary op x span =>
    simp only [Expr.tested?] at hi
    split at hi
    · exact target List.mem_cons_self (by simp) hi
    · cases hi
  | callOn receiver method args span =>
    obtain ⟨role₁, s₁, h₁, hs₁⟩ := hV.operand h (p := receiver) List.mem_cons_self (by simp)
    obtain ⟨role₂, s₂, h₂, hs₂⟩ := hV.root h₁ hi
    exact ⟨role₂, s₂, h₂, hs₂.trans hs₁⟩
  | name j => exact hV.placeTest h hi
  | member object m span => exact hV.placeTest (e := .member object m span) h hi
  | _ => cases hi

end Typing.Walk

/-! ## Statements on the walk -/

/-- The statement is checked where the names of `scope` are declared. -/
def StmtIn (V : Code → CheckState → Prop) (scope : LocalScope) (b : Stmt) : Prop :=
  ∃ s, V (.stmt b) s ∧ s.scope.SameNames scope

/-- The parts of a loop are checked where the names of `scope` are declared. -/
structure LoopIn (V : Code → CheckState → Prop) (scope : LocalScope) (l : Loop) : Prop where
  condition : ∀ e, l.condition = some e → ExprIn V scope e
  body : StmtIn V scope l.body
  update : ∀ e ∈ l.update, ExprIn V scope e

namespace Typing.Walk

variable {s : CheckState}

theorem exprIn (hV : Walk cx V) {x : Code} {s' : CheckState} {e : Expr} (h : V x s)
    (hy : (Code.expr .value e, s') ∈ x.checkedParts cx s) (hs : s'.scope.SameNames scope) :
    ExprIn V scope e :=
  ⟨.value, s', hV.part h hy, hs⟩

theorem stmtIn (hV : Walk cx V) {x : Code} {s' : CheckState} {b : Stmt} (h : V x s)
    (hy : (Code.stmt b, branchStart b s') ∈ x.checkedParts cx s) (hs : s'.scope.SameNames scope) :
    StmtIn V scope b := by
  refine ⟨_, hV.part h hy, fun name => ?_⟩
  rw [← hs name, LocalScope.isDeclared, lookup?_branchStart]
  rfl

/-! ### Conditions -/

theorem ifElse (hV : Walk cx V) {condition : Expr} {yes : Stmt} {no : Option Stmt} {span : Span}
    (h : V (.stmt (.ifElse condition yes no span)) s) :
    ExprIn V s.scope condition ∧ StmtIn V s.scope yes ∧
      ∀ b, no = some b → StmtIn V s.scope b := by
  have hq := checkCondition_quiet cx condition
  refine ⟨hV.exprIn h List.mem_cons_self fun _ => rfl,
    hV.stmtIn h (List.mem_cons_of_mem _ List.mem_cons_self) (.of_eq (hq.scope s)), ?_⟩
  rintro b rfl
  have hy : (Code.stmt b, branchStart b
      (inBranch yes (checkStmt cx yes) (checkCondition cx condition s).2).2) ∈
      Code.checkedParts cx (.stmt (.ifElse condition yes (some b) span)) s := by
    simp [Code.checkedParts, Code.parts, stmtParts]
  exact hV.stmtIn h hy
    ((hV.stacked h).restores (hq.restores.bind fun _ => inBranch_restores cx yes))

/-! ### Loops -/

theorem whileLoop (hV : Walk cx V) {condition : Expr} {body : Stmt} {span : Span}
    (h : V (.stmt (.whileLoop condition body span)) s) :
    LoopIn V s.scope ⟨some condition, body, []⟩ := by
  refine ⟨fun e he => ?_, ?_, by simp⟩
  · cases he
    exact hV.exprIn h List.mem_cons_self fun _ => rfl
  · exact hV.stmtIn h (List.mem_cons_of_mem _ List.mem_cons_self)
      (.of_eq ((checkCondition_quiet cx condition).scope s))

theorem doWhile (hV : Walk cx V) {condition : Expr} {body : Stmt} {span : Span}
    (h : V (.stmt (.doWhile body condition span)) s) :
    LoopIn V s.scope ⟨some condition, body, []⟩ := by
  refine ⟨fun e he => ?_, ?_, by simp⟩
  · cases he
    exact hV.exprIn h (List.mem_cons_of_mem _ List.mem_cons_self)
      ((hV.stacked h).restores (inBranch_restores cx body).inLoop)
  · exact hV.stmtIn h List.mem_cons_self fun _ => rfl

/-- The clauses of a `for` loop are checked where the variables of its first clause are declared. -/
theorem forLoop (hV : Walk cx V) {init : Option ForInit} {condition : Option Expr}
    {update : List Expr} {body : Stmt} {span : Span}
    (h : V (.stmt (.forLoop init condition update body span)) s) :
    LoopIn V (checkForInit cx init (pushed s)).2.scope ⟨condition, body, update⟩ := by
  have hc := checkForCondition_quiet cx condition
  have hu := Check.Quiet.forM (checkExpr_quiet cx) update
  have parts : Code.checkedParts cx (.stmt (.forLoop init condition update body span)) s =
      stmtParts cx (.forLoop init condition update body span) s := rfl
  refine ⟨fun e he => ?_, ?_, fun e he => ?_⟩
  · dsimp only at he
    subst he
    exact hV.exprIn h (by simp [parts, stmtParts]) fun _ => rfl
  · exact hV.stmtIn h (List.mem_append_right _ List.mem_cons_self)
      (.of_eq ((hc.bind fun _ => hu).scope _))
  · obtain ⟨s', hs'⟩ := mem_valueParts cx
      (checkForCondition cx condition (checkForInit cx init (pushed s)).2).2 he
    refine hV.exprIn h (List.mem_append_left _ (List.mem_append_right _ hs')) (.of_eq ?_)
    rw [valueParts_scope hs', hc.scope]

/-- The body of a `foreach` loop is checked where its variable is declared too. -/
theorem foreach (hV : Walk cx V) {type : TypeRef} {var : Ident} {iterable : Expr} {body : Stmt}
    {span : Span} (h : V (.stmt (.foreach type var iterable body span)) s) :
    ExprIn V s.scope iterable ∧ ∃ scope : LocalScope,
      (∀ name, scope.isDeclared name = (sameName var.name name || s.scope.isDeclared name)) ∧
        StmtIn V scope body := by
  have hr := resolveType_quiet cx type.dataType type.span
  refine ⟨hV.exprIn h List.mem_cons_self (.of_eq (hr.scope s)), ?_⟩
  have hstart : (foreachStart cx type iterable span s).2.scope.SameNames s.scope := by
    have hall := hr.bind fun declared => (infer_quiet cx iterable).bind fun collection =>
      requireElements_quiet collection declared iterable.span span
    intro name
    exact LocalScope.SameNames.of_eq (hall.scope s) name
  refine ⟨_, fun name => ?_, hV.stmtIn h (List.mem_cons_of_mem _ List.mem_cons_self) fun _ => rfl⟩
  show (Check.declare var.name _ var.span _).2.scope.isDeclared name = _
  rw [Check.isDeclared_declare, hstart]

end Typing.Walk

end ClassScript
