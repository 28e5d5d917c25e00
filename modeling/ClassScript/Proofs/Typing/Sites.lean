import ClassScript.Proofs.Class.Inheritance
import ClassScript.Proofs.Typing.CheckRun

/-!
# Where checking comes to

Checking a class table walks through the code of its classes. `Code.parts` lists what checking a
piece of code checks in turn, each part with the state it is checked from, and `Checks t cx x s`
says that the walk through the classes of `t` comes to the code `x`: in the context `cx`, which
holds the class the code is written in, and from the state `s`, which holds the local variables
visible there. The walk starts at the field initializers and the method bodies that are checked
without an error, so everything it comes to is checked without an error (`Checks.clean`).

In a table without errors every member is such a start (`exists_clean_field`,
`exists_clean_method`).
-/

namespace ClassScript

open Check (Blind Quiet Restores Nested Clean)

namespace ClassInfo

/-- All fields that a class declares itself. -/
def ownFields (c : ClassInfo) : List FieldInfo := c.instanceFields.values ++ c.staticFields.values

/-- All methods and constructors that a class declares itself. -/
def ownMethods (c : ClassInfo) : List MethodInfo :=
  c.constructors ++ c.instanceMethods.all ++ c.staticMethods.all

end ClassInfo

namespace Typing

/-- A piece of code that is checked on its own. -/
inductive Code where
  | expr (role : Role) (e : Expr)
  /-- Variables of a declaration, with the type that they share. -/
  | vars (declared : Option DataType) (vs : List Declarator)
  | stmt (s : Stmt)
  | stmts (ss : List Stmt)

/-- How a piece of code is checked. -/
def Code.check (cx : CheckContext) : Code → Check Unit
  | .expr role e => do
    let _ ← denote cx role e
  | .vars declared vs => vs.forM (checkDeclarator cx declared)
  | .stmt s => checkStmt cx s
  | .stmts ss => checkStmts cx ss

/-! ## Parts -/

/-- The state in a block of its own. -/
def pushed (s : CheckState) : CheckState := { s with scope := s.scope.push }

/-- The state in the body of a loop. -/
def looped (s : CheckState) : CheckState := { s with loopDepth := s.loopDepth + 1 }

/-- The state that a branch is checked from. -/
def branchStart (b : Stmt) (s : CheckState) : CheckState :=
  match b with
  | .block .. => s
  | _ => pushed s

variable (cx : CheckContext)

/-- Values that are checked from left to right. -/
def valueParts : List Expr → CheckState → List (Code × CheckState)
  | [], _ => []
  | e :: es, s => (.expr .value e, s) :: valueParts es (denote cx .value e s).2

/-- What checking an expression checks in turn. -/
def exprParts : Expr → CheckState → List (Code × CheckState)
  | .member object _ _, s => [(.expr .receiver object, s)]
  | .call method args span, s => valueParts cx args (implicitTarget cx method.name span s).2
  | .callOn receiver _ args _, s =>
    (.expr .receiver receiver, s) :: valueParts cx args (denote cx .receiver receiver s).2
  | .create type args _, s => valueParts cx args (cx.resolveType type.dataType type.span s).2
  | .index object key _, s => valueParts cx [object, key] s
  | .binary _ left right _, s => valueParts cx [left, right] s
  | .unary _ operand _, s => valueParts cx [operand] s
  | .post _ operand _, s => valueParts cx [operand] s
  | .assign _ target value _, s => valueParts cx [target, value] s
  | .conditional condition yes no _, s =>
    (.expr .value condition, s) :: valueParts cx [yes, no] (checkCondition cx condition s).2
  | .literal .., _ | .name _, _ | .this _, _ | .query .., _ => []

/-- The condition of a `for` loop, if it has one. -/
def checkForCondition : Option Expr → Check Unit
  | some e => checkCondition cx e
  | none => pure ()

/-- What checking the first clause of a `for` loop checks in turn. -/
def forInitParts : Option ForInit → CheckState → List (Code × CheckState)
  | some (.declare d), s =>
    let declared := cx.resolveType d.type.dataType d.type.span s
    [(.vars declared.1 d.vars, declared.2)]
  | some (.exprs es), s => valueParts cx es s
  | none, _ => []

/-- The state that the loop variable of a `foreach` is declared in. -/
def foreachStart (type : TypeRef) (iterable : Expr) (span : Span) (s : CheckState) :
    Option DataType × CheckState :=
  let declared := cx.resolveType type.dataType type.span s
  let collection := infer cx iterable declared.2
  (declared.1,
    pushed (requireElements collection.1 declared.1 iterable.span span collection.2).2)

/-- What checking a statement checks in turn. -/
def stmtParts : Stmt → CheckState → List (Code × CheckState)
  | .expr e _, s => [(.expr .value e, s)]
  | .declare d, s => forInitParts cx (some (.declare d)) s
  | .block ss _, s => [(.stmts ss, pushed s)]
  | .ifElse condition yes no _, s =>
    let s₁ := (checkCondition cx condition s).2
    let s₂ := (inBranch yes (checkStmt cx yes) s₁).2
    (.expr .value condition, s) :: (.stmt yes, branchStart yes s₁) ::
      no.toList.map fun b => (.stmt b, branchStart b s₂)
  | .whileLoop condition body _, s =>
    [(.expr .value condition, s),
      (.stmt body, branchStart body (looped (checkCondition cx condition s).2))]
  | .doWhile body condition _, s =>
    [(.stmt body, branchStart body (looped s)),
      (.expr .value condition, (Check.inLoop (inBranch body (checkStmt cx body)) s).2)]
  | .forLoop init condition update body _, s =>
    let s₁ := (checkForInit cx init (pushed s)).2
    let s₂ := (checkForCondition cx condition s₁).2
    let s₃ := (update.forM (checkExpr cx) s₂).2
    forInitParts cx init (pushed s) ++
      (condition.toList.map fun e => (.expr .value e, s₁)) ++ valueParts cx update s₂ ++
      [(.stmt body, branchStart body (looped s₃))]
  | .foreach type var iterable body span, s =>
    let start := foreachStart cx type iterable span s
    [(.expr .value iterable, (cx.resolveType type.dataType type.span s).2),
      (.stmt body, branchStart body (looped (Check.declare var.name start.1 var.span start.2).2))]
  | .ret value _, s => value.toList.map fun e => (.expr .value e, s)
  | .brk _, _ | .cont _, _ => []

/-- What checking a piece of code checks in turn (module doc). -/
def Code.parts : Code → CheckState → List (Code × CheckState)
  | .expr _ e, s => exprParts cx e s
  | .vars _ [], _ => []
  | .vars declared (v :: vs), s =>
    (v.init.toList.map fun e => (.expr .value e, s)) ++
      [(.vars declared vs, (checkDeclarator cx declared v s).2)]
  | .stmt b, s => stmtParts cx b s
  | .stmts [], _ => []
  | .stmts (b :: bs), s => [(.stmt b, s), (.stmts bs, (checkStmt cx b s).2)]

/-! ## The walk -/

/-- The state at the start of a member. -/
def memberStart (s : CheckState) : CheckState := { s with scope := .empty, loopDepth := 0 }

/-- The context of a field initializer. -/
def fieldContext (t : ClassTable) (c : ClassInfo) (f : FieldInfo) : CheckContext :=
  ⟨t, c, some .void, f.isStatic⟩

/-- The state that a field initializer is checked from. -/
def fieldStart (t : ClassTable) (c : ClassInfo) (f : FieldInfo) (s : CheckState) : CheckState :=
  ((fieldContext t c f).resolveType f.type f.span (memberStart s)).2

/-- The context of the statements of a method. -/
def bodyContext (t : ClassTable) (c : ClassInfo) (k : MethodInfo) (s : CheckState) : CheckContext :=
  ⟨t, c, (declaredResult (.ofClass t c) k (memberStart s)).1, k.isStatic⟩

/-- The state that the statements of a method are checked from. -/
def bodyStart (t : ClassTable) (c : ClassInfo) (k : MethodInfo) (s : CheckState) : CheckState :=
  (declareParams (bodyContext t c k s) k.params k.span
    (declaredResult (.ofClass t c) k (memberStart s)).2).2

/-- Checking the classes of `t` comes to a piece of code (module doc). -/
inductive Checks (t : ClassTable) : CheckContext → Code → CheckState → Prop
  | initializer {c : ClassInfo} {f : FieldInfo} {e : Expr} {s : CheckState} :
    t.Has c → f ∈ c.ownFields → f.init = some e → Clean (checkField t c f) s →
      Checks t (fieldContext t c f) (.expr .value e) (fieldStart t c f s)
  | body {c : ClassInfo} {k : MethodInfo} {stmts : List Stmt} {s : CheckState} :
    t.Has c → k ∈ c.ownMethods → k.body = .script stmts → Clean (checkMethod t c k) s →
      Checks t (bodyContext t c k s) (.stmts stmts) (bodyStart t c k s)
  | part {cx : CheckContext} {x y : Code} {s s' : CheckState} :
    Checks t cx x s → (y, s') ∈ x.parts cx s → Checks t cx y s'

/-! ## Parts are checked without an error -/

variable (cx : CheckContext)

/-- Values that are checked without an error, one after the other. -/
def ValuesClean : List Expr → CheckState → Prop
  | [], _ => True
  | e :: es, s => Clean (denote cx .value e) s ∧ ValuesClean es (denote cx .value e s).2

variable {cx} {s s' : CheckState} {y : Code}

theorem ValuesClean.parts : ∀ {es : List Expr} {s : CheckState}, ValuesClean cx es s →
    (y, s') ∈ valueParts cx es s → Clean (y.check cx) s'
  | e :: es, s, h, hy => by
    rcases List.mem_cons.1 hy with hy | hy
    · cases hy
      exact h.1
    · exact ValuesClean.parts h.2 hy

theorem valuesClean_of_inferAll : ∀ {es : List Expr} {s : CheckState},
    Clean (inferAll cx es) s → ValuesClean cx es s
  | [], _, _ => trivial
  | e :: es, s, h => by
    unfold inferAll at h
    obtain ⟨he, hs⟩ := h.seq (denote_quiet cx .value e) fun _ =>
      (inferAll_quiet cx es).bind fun _ => Quiet.pure _
    exact ⟨he, valuesClean_of_inferAll (hs.left (inferAll_quiet cx es) fun _ => Quiet.pure _)⟩

theorem valuesClean_of_forM : ∀ {es : List Expr} {s : CheckState},
    Clean (es.forM (checkExpr cx)) s → ValuesClean cx es s
  | [], _, _ => trivial
  | e :: es, s, h => by
    obtain ⟨he, hs⟩ := Clean.seq (x := checkExpr cx e) (f := fun _ => es.forM (checkExpr cx)) h
      (checkExpr_quiet cx e) fun _ => Quiet.forM (checkExpr_quiet cx) es
    exact ⟨he, valuesClean_of_forM hs⟩

section

variable {role : Role} {receiver : Expr} {method : Ident} {type : TypeRef} {args : List Expr}
  {span : Span}

/-- No step of checking a call without an error reports one. -/
theorem call_clean (h : Clean (denote cx role (.call method args span)) s) :
    let target := implicitTarget cx method.name span s
    let types := inferAll cx args target.2
    Clean (implicitTarget cx method.name span) s ∧ Clean (inferAll cx args) target.2 ∧
      Clean (callType cx target.1 method types.1 span) types.2 := by
  unfold denote at h
  have last : ∀ target types, Quiet (do
      return .ofType? (← callType cx target method types span) : Check Denotation) :=
    fun _ _ => (callType_quiet cx _ _ _ _).bind fun _ => Quiet.pure _
  obtain ⟨ht, h⟩ := h.seq (implicitTarget_quiet cx _ _) fun target =>
    (inferAll_quiet cx args).bind (last target)
  obtain ⟨ha, h⟩ := h.seq (inferAll_quiet cx args) (last _)
  exact ⟨ht, ha, h.left (callType_quiet cx _ _ _ _) fun _ => Quiet.pure _⟩

/-- No step of checking a call on a receiver without an error reports one. -/
theorem callOn_clean (h : Clean (denote cx role (.callOn receiver method args span)) s) :
    let outer := denote cx .receiver receiver s
    let types := inferAll cx args outer.2
    Clean (denote cx .receiver receiver) s ∧ Clean (inferAll cx args) outer.2 ∧
      Clean (callType cx (explicitTarget cx outer.1 method.name) method types.1 span) types.2 := by
  unfold denote at h
  have last : ∀ target types, Quiet (do
      return .ofType? (← callType cx target method types span) : Check Denotation) :=
    fun _ _ => (callType_quiet cx _ _ _ _).bind fun _ => Quiet.pure _
  obtain ⟨hr, h⟩ := h.seq (denote_quiet cx .receiver receiver) fun outer =>
    (inferAll_quiet cx args).bind (last (explicitTarget cx outer method.name))
  obtain ⟨ha, h⟩ := h.seq (inferAll_quiet cx args) (last _)
  exact ⟨hr, ha, h.left (callType_quiet cx _ _ _ _) fun _ => Quiet.pure _⟩

/-- No step of checking a `new` without an error reports one. -/
theorem create_clean (h : Clean (denote cx role (.create type args span)) s) :
    let created := cx.resolveType type.dataType type.span s
    let types := inferAll cx args created.2
    Clean (cx.resolveType type.dataType type.span) s ∧ Clean (inferAll cx args) created.2 ∧
      Clean (createType cx created.1 types.1 span) types.2 := by
  unfold denote at h
  have last : ∀ created types, Quiet (do
      return .ofType? (← createType cx created types span) : Check Denotation) :=
    fun _ _ => (createType_quiet cx _ _ _).bind fun _ => Quiet.pure _
  obtain ⟨ht, h⟩ := h.seq (resolveType_quiet cx _ _) fun created =>
    (inferAll_quiet cx args).bind (last created)
  obtain ⟨ha, h⟩ := h.seq (inferAll_quiet cx args) (last _)
  exact ⟨ht, ha, h.left (createType_quiet cx _ _ _) fun _ => Quiet.pure _⟩

end

/-- The parts of a conditional expression without an error: the second and the third operand are
checked after the condition. -/
theorem conditional_clean {role : Role} {condition yes no : Expr} {span : Span}
    (h : Clean (denote cx role (.conditional condition yes no span)) s) :
    let s₁ := (checkCondition cx condition s).2
    Clean (denote cx .value condition) s ∧ Clean (denote cx .value yes) s₁ ∧
      Clean (denote cx .value no) (denote cx .value yes s₁).2 := by
  unfold denote at h
  have last : ∀ y n : Denotation, Quiet (do
      return .ofType? (← conditionalType cx y.type? n.type? no.span) : Check Denotation) :=
    fun _ _ => (conditionalType_quiet cx _ _ _).bind fun _ => Quiet.pure _
  have arms : Quiet (do
      let y ← denote cx .value yes
      let n ← denote cx .value no
      return .ofType? (← conditionalType cx y.type? n.type? no.span) : Check Denotation) :=
    (denote_quiet cx .value yes).bind fun y => (denote_quiet cx .value no).bind (last y)
  obtain ⟨hc, hb⟩ := h.seq (denote_quiet cx .value condition) fun c =>
    (requireCondition_quiet c.type? condition.span).bind fun _ => arms
  obtain ⟨-, hb⟩ := hb.seq (requireCondition_quiet _ _) fun _ => arms
  exact ⟨hc, hb.both (denote_quiet cx .value yes) (denote_quiet cx .value no) last⟩

/-- The operands of an expression without an error are checked without an error. -/
theorem exprParts_clean (role : Role) : ∀ {e : Expr}, Clean (denote cx role e) s →
    (y, s') ∈ exprParts cx e s → Clean (y.check cx) s'
  | .member object m span, h, hy => by
    unfold denote at h
    obtain ⟨rfl, rfl⟩ := Prod.mk.inj (List.mem_singleton.1 hy)
    exact h.left (denote_quiet cx _ _) fun _ => denoteMember_quiet cx _ _ _
  | .call method args span, h, hy => by
    obtain ⟨-, ha, -⟩ := call_clean h
    exact (valuesClean_of_inferAll ha).parts hy
  | .callOn receiver method args span, h, hy => by
    obtain ⟨hr, ha, -⟩ := callOn_clean h
    rcases List.mem_cons.1 hy with hy | hy
    · cases hy
      exact hr
    · exact (valuesClean_of_inferAll ha).parts hy
  | .create type args span, h, hy => by
    obtain ⟨-, ha, -⟩ := create_clean h
    exact (valuesClean_of_inferAll ha).parts hy
  | .index object key span, h, hy => by
    unfold denote at h
    obtain ⟨ho, hk⟩ := h.both (denote_quiet cx .value object) (denote_quiet cx .value key)
      fun _ _ => (indexType_quiet _ _ _ _).bind fun _ => Quiet.pure _
    have hv : ValuesClean cx [object, key] s := ⟨ho, hk, trivial⟩
    exact hv.parts hy
  | .binary op left right span, h, hy => by
    unfold denote at h
    obtain ⟨hl, hr⟩ := h.both (denote_quiet cx .value left) (denote_quiet cx .value right)
      fun _ _ => (binaryType_quiet _ _ _ _).bind fun _ => Quiet.pure _
    have hv : ValuesClean cx [left, right] s := ⟨hl, hr, trivial⟩
    exact hv.parts hy
  | .unary op operand span, h, hy => by
    unfold denote at h
    have ho : Clean (denote cx .value operand) s := by
      refine h.left (denote_quiet cx .value operand) fun t => ?_
      split
      · exact (stepType_quiet _ _ _).bind fun _ => Quiet.pure _
      · exact (unaryType_quiet _ _ _).bind fun _ => Quiet.pure _
    have hv : ValuesClean cx [operand] s := ⟨ho, trivial⟩
    exact hv.parts hy
  | .post op operand span, h, hy => by
    unfold denote at h
    have ho := h.left (denote_quiet cx .value operand) fun _ =>
      (stepType_quiet _ _ _).bind fun _ => Quiet.pure _
    have hv : ValuesClean cx [operand] s := ⟨ho, trivial⟩
    exact hv.parts hy
  | .assign op target value span, h, hy => by
    unfold denote at h
    split at h
    · have hv : ValuesClean cx [target, value] s := by
        obtain ⟨ht, hv⟩ := h.both (denote_quiet cx .value target) (denote_quiet cx .value value)
          fun t v => by
            split
            · exact (requireFits_quiet _ _ _).bind fun _ => Quiet.pure _
            · exact (compoundType_quiet _ _ _ _).bind fun _ => Quiet.pure _
        exact ⟨ht, hv, trivial⟩
      exact hv.parts hy
    · exact (h.report_bind fun _ => (denote_quiet cx .value value).bind fun _ => Quiet.pure _).elim
  | .conditional condition yes no span, h, hy => by
    obtain ⟨hc, hyes, hno⟩ := conditional_clean h
    have hv : ValuesClean cx [yes, no] (checkCondition cx condition s).2 := ⟨hyes, hno, trivial⟩
    rcases List.mem_cons.1 hy with hy | hy
    · cases hy
      exact hc
    · exact hv.parts hy

theorem clean_inBranch {b : Stmt} :
    Clean (inBranch b (checkStmt cx b)) s ↔ Clean (checkStmt cx b) (branchStart b s) := by
  cases b <;> exact Iff.rfl

theorem clean_inLoop {x : Check Unit} : Clean (Check.inLoop x) s ↔ Clean x (looped s) := Iff.rfl

theorem forInitParts_clean (init : Option ForInit) (h : Clean (checkForInit cx init) s)
    (hy : (y, s') ∈ forInitParts cx init s) : Clean (y.check cx) s' := by
  match init with
  | some (.declare d) =>
    obtain ⟨rfl, rfl⟩ := Prod.mk.inj (List.mem_singleton.1 hy)
    exact (Clean.bind (x := cx.resolveType d.type.dataType d.type.span) h
      (resolveType_quiet cx _ _).errors fun declared =>
        (Nested.forM (checkDeclarator_nested cx declared) d.vars).errors).2
  | some (.exprs es) => exact (valuesClean_of_forM h).parts hy
  | none => cases hy

theorem checkForCondition_quiet (cx : CheckContext) (condition : Option Expr) :
    Quiet (checkForCondition cx condition) := by
  cases condition with
  | some e => exact checkCondition_quiet cx e
  | none => exact Quiet.pure _

/-- The parts of a `foreach` loop without an error. -/
theorem foreach_clean {type : TypeRef} {var : Ident} {iterable : Expr} {body : Stmt} {span : Span}
    (h : Clean (checkStmt cx (.foreach type var iterable body span)) s) :
    let start := foreachStart cx type iterable span s
    Clean (infer cx iterable) (cx.resolveType type.dataType type.span s).2 ∧
      Clean (Check.declare var.name start.1 var.span) start.2 ∧
      Clean (Check.inLoop (inBranch body (checkStmt cx body)))
        (Check.declare var.name start.1 var.span start.2).2 := by
  unfold checkStmt at h
  have loop : ∀ declared, Restores (Check.inBlock do
      Check.declare var.name declared var.span
      Check.inLoop (inBranch body (checkStmt cx body))) := fun declared =>
    ((Nested.declare _ _ _).bind fun _ => (inBranch_restores cx body).inLoop.nested).inBlock
  obtain ⟨-, h⟩ := h.bind (resolveType_quiet cx _ _).errors fun declared =>
    ((infer_quiet cx iterable).restores.bind fun _ =>
      (requireElements_quiet _ _ _ _).restores.bind fun _ => loop declared).errors
  obtain ⟨hi, h⟩ := h.bind (infer_quiet cx iterable).errors fun _ =>
    ((requireElements_quiet _ _ _ _).restores.bind fun _ => loop _).errors
  obtain ⟨-, h⟩ := h.bind (requireElements_quiet _ _ _ _).errors fun _ => (loop _).errors
  exact ⟨hi, Clean.bind (Check.clean_inBlock.1 h) (Nested.declare _ _ _).errors fun _ =>
    (inBranch_restores cx body).inLoop.errors⟩

/-- The parts of a `for` loop without an error. -/
theorem forLoop_clean {init : Option ForInit} {condition : Option Expr} {update : List Expr}
    {body : Stmt} {span : Span}
    (h : Clean (checkStmt cx (.forLoop init condition update body span)) s) :
    let s₁ := (checkForInit cx init (pushed s)).2
    let s₂ := (checkForCondition cx condition s₁).2
    Clean (checkForInit cx init) (pushed s) ∧ Clean (checkForCondition cx condition) s₁ ∧
      Clean (update.forM (checkExpr cx)) s₂ ∧
      Clean (Check.inLoop (inBranch body (checkStmt cx body)))
        (update.forM (checkExpr cx) s₂).2 := by
  unfold checkStmt at h
  have h : Clean (do
      checkForInit cx init
      checkForCondition cx condition
      update.forM (checkExpr cx)
      Check.inLoop (inBranch body (checkStmt cx body))) (pushed s) := by
    cases condition <;> exact h
  have loop := (inBranch_restores cx body).inLoop.nested
  have updates := (Quiet.forM (checkExpr_quiet cx) update).nested
  have test := (checkForCondition_quiet cx condition).nested
  obtain ⟨hi, h⟩ := h.bind (checkForInit_nested cx init).errors fun _ =>
    (test.bind fun _ => updates.bind fun _ => loop).errors
  obtain ⟨hc, h⟩ := h.bind test.errors fun _ => (updates.bind fun _ => loop).errors
  exact ⟨hi, hc, h.bind updates.errors fun _ => loop.errors⟩

/-- A value that is returned without an error is checked without an error, also where the result
type is unknown. -/
theorem checkReturn_clean {e : Expr} {span : Span} (h : Clean (checkReturn cx (some e) span) s) :
    Clean (denote cx .value e) s := by
  unfold checkReturn at h
  cases hr : cx.returnType with
  | none =>
    rw [hr] at h
    exact h
  | some declared =>
    rw [hr] at h
    refine (h.left (infer_quiet cx e) fun t => ?_).left (denote_quiet cx .value e) fun _ =>
      Quiet.pure _
    split
    · exact Quiet.pure _
    · split
      · exact Quiet.pure _
      · exact Quiet.report _ _

/-- The parts of a statement without an error are checked without an error. -/
theorem stmtParts_clean : ∀ {b : Stmt}, Clean (checkStmt cx b) s →
    (y, s') ∈ stmtParts cx b s → Clean (y.check cx) s'
  | .expr e span, h, hy => by
    unfold checkStmt at h
    obtain ⟨rfl, rfl⟩ := Prod.mk.inj (List.mem_singleton.1 hy)
    exact h
  | .declare d, h, hy => by
    unfold checkStmt at h
    exact forInitParts_clean (some (.declare d)) h hy
  | .block ss span, h, hy => by
    unfold checkStmt at h
    obtain ⟨rfl, rfl⟩ := Prod.mk.inj (List.mem_singleton.1 hy)
    exact h
  | .ifElse condition yes no span, h, hy => by
    unfold checkStmt at h
    obtain ⟨hc, hb⟩ := h.bind (checkCondition_quiet cx condition).errors fun _ =>
      ((inBranch_restores cx yes).bind fun _ => checkElse_restores cx no).errors
    obtain ⟨hyes, hno⟩ := hb.bind (inBranch_restores cx yes).errors fun _ =>
      (checkElse_restores cx no).errors
    simp only [stmtParts, List.mem_cons, List.mem_map, Prod.mk.injEq] at hy
    rcases hy with ⟨rfl, rfl⟩ | ⟨rfl, rfl⟩ | ⟨b, hb, rfl, rfl⟩
    · exact hc.left (infer_quiet cx condition) fun _ => requireCondition_quiet _ _
    · exact clean_inBranch.1 hyes
    · obtain rfl := Option.mem_toList.1 hb
      unfold checkElse at hno
      exact clean_inBranch.1 hno
  | .whileLoop condition body span, h, hy => by
    unfold checkStmt at h
    obtain ⟨hc, hb⟩ := h.bind (checkCondition_quiet cx condition).errors fun _ =>
      (inBranch_restores cx body).inLoop.errors
    simp only [stmtParts, List.mem_cons, List.not_mem_nil, or_false, Prod.mk.injEq] at hy
    rcases hy with ⟨rfl, rfl⟩ | ⟨rfl, rfl⟩
    · exact hc.left (infer_quiet cx condition) fun _ => requireCondition_quiet _ _
    · exact clean_inBranch.1 (clean_inLoop.1 hb)
  | .doWhile body condition span, h, hy => by
    unfold checkStmt at h
    obtain ⟨hb, hc⟩ := h.bind (inBranch_restores cx body).inLoop.errors fun _ =>
      (checkCondition_quiet cx condition).errors
    simp only [stmtParts, List.mem_cons, List.not_mem_nil, or_false, Prod.mk.injEq] at hy
    rcases hy with ⟨rfl, rfl⟩ | ⟨rfl, rfl⟩
    · exact clean_inBranch.1 (clean_inLoop.1 hb)
    · exact hc.left (infer_quiet cx condition) fun _ => requireCondition_quiet _ _
  | .forLoop init condition update body span, h, hy => by
    obtain ⟨hi, hc, hu, hb⟩ := forLoop_clean h
    simp only [stmtParts, List.mem_append, List.mem_map, List.mem_singleton, Prod.mk.injEq,
      Option.mem_toList] at hy
    rcases hy with ((hy | ⟨e, rfl, rfl, rfl⟩) | hy) | ⟨rfl, rfl⟩
    · exact forInitParts_clean init hi hy
    · exact hc.left (infer_quiet cx e) fun _ => requireCondition_quiet _ _
    · exact (valuesClean_of_forM hu).parts hy
    · exact clean_inBranch.1 (clean_inLoop.1 hb)
  | .foreach type var iterable body span, h, hy => by
    obtain ⟨hi, -, hb⟩ := foreach_clean h
    simp only [stmtParts, List.mem_cons, List.not_mem_nil, or_false, Prod.mk.injEq] at hy
    rcases hy with ⟨rfl, rfl⟩ | ⟨rfl, rfl⟩
    · exact hi.left (denote_quiet cx .value iterable) fun _ => Quiet.pure _
    · exact clean_inBranch.1 (clean_inLoop.1 hb)
  | .ret value span, h, hy => by
    unfold checkStmt at h
    simp only [stmtParts, List.mem_map, Option.mem_toList, Prod.mk.injEq] at hy
    obtain ⟨e, rfl, rfl, rfl⟩ := hy
    exact checkReturn_clean h

/-- The parts of code without an error are checked without an error. -/
theorem Code.parts_clean {x : Code} (h : Clean (x.check cx) s) (hy : (y, s') ∈ x.parts cx s) :
    Clean (y.check cx) s' := by
  match x with
  | .expr role e => exact exprParts_clean role h hy
  | .vars declared [] => cases hy
  | .vars declared (v :: vs) =>
    obtain ⟨hv, hvs⟩ := Clean.bind (x := checkDeclarator cx declared v)
      (f := fun _ => vs.forM (checkDeclarator cx declared)) h
      (checkDeclarator_nested cx declared v).errors
      fun _ => (Nested.forM (checkDeclarator_nested cx declared) vs).errors
    simp only [Code.parts, List.mem_append, List.mem_map, Option.mem_toList, List.mem_singleton,
      Prod.mk.injEq] at hy
    rcases hy with ⟨e, he, rfl, rfl⟩ | ⟨rfl, rfl⟩
    · unfold checkDeclarator at hv
      rw [he] at hv
      have hs := (hv.bind (checkStored_quiet cx e declared).errors fun _ =>
        (Nested.declare _ _ _).errors).1
      exact (hs.left (infer_quiet cx e) fun _ => requireFits_quiet _ _ _).left
        (denote_quiet cx .value e) fun _ => Quiet.pure _
    · exact hvs
  | .stmt b => exact stmtParts_clean h hy
  | .stmts [] => cases hy
  | .stmts (b :: bs) =>
    have h : Clean (checkStmts cx (b :: bs)) s := h
    unfold checkStmts at h
    obtain ⟨hb, hbs⟩ := h.bind (checkStmt_nested cx b).errors fun _ =>
      (checkStmts_nested cx bs).errors
    simp only [Code.parts, List.mem_cons, List.not_mem_nil, or_false, Prod.mk.injEq] at hy
    rcases hy with ⟨rfl, rfl⟩ | ⟨rfl, rfl⟩
    · exact hb
    · exact hbs

/-! ## Local variables of parts -/

theorem valueParts_scope : ∀ {es : List Expr} {s : CheckState}, (y, s') ∈ valueParts cx es s →
    s'.scope = s.scope
  | e :: es, s, hy => by
    rcases List.mem_cons.1 hy with hy | hy
    · cases hy
      rfl
    · exact (valueParts_scope hy).trans ((denote_quiet cx .value e).scope s)

/-- Operands are checked with the local variables of the whole expression. -/
theorem exprParts_scope {e : Expr} (hy : (y, s') ∈ exprParts cx e s) : s'.scope = s.scope := by
  match e with
  | .member object m span =>
    obtain ⟨rfl, rfl⟩ := Prod.mk.inj (List.mem_singleton.1 hy)
    rfl
  | .call method args span =>
    exact (valueParts_scope hy).trans ((implicitTarget_quiet cx _ _).scope s)
  | .callOn receiver method args span =>
    rcases List.mem_cons.1 hy with hy | hy
    · cases hy
      rfl
    · exact (valueParts_scope hy).trans ((denote_quiet cx .receiver receiver).scope s)
  | .create type args span =>
    exact (valueParts_scope hy).trans ((resolveType_quiet cx _ _).scope s)
  | .index .. => exact valueParts_scope hy
  | .binary .. => exact valueParts_scope hy
  | .unary .. => exact valueParts_scope hy
  | .post .. => exact valueParts_scope hy
  | .assign .. => exact valueParts_scope hy
  | .conditional condition yes no span =>
    rcases List.mem_cons.1 hy with hy | hy
    · cases hy
      rfl
    · exact (valueParts_scope hy).trans ((checkCondition_quiet cx condition).scope s)
  | .literal .. | .name _ | .this _ | .query .. => cases hy

/-- The local variables are a stack of blocks with at least one block. -/
def Stacked (s : CheckState) : Prop := ∃ b bs, s.scope.Models (b :: bs)

theorem Stacked.of_scope (h : Stacked s) (hs : s'.scope = s.scope) : Stacked s' := by
  unfold Stacked
  rwa [hs]

theorem Stacked.after {α : Type} {x : Check α} (h : Stacked s) (hx : Nested x) :
    Stacked (x s).2 := by
  obtain ⟨b, bs, hm⟩ := h
  obtain ⟨b', hb'⟩ := hx.scope s b bs hm
  exact ⟨b', bs, hb'⟩

theorem stacked_memberStart (s : CheckState) : Stacked (memberStart s) :=
  ⟨_, _, LocalScope.models_empty⟩

theorem Stacked.pushed (h : Stacked s) : Stacked (pushed s) := by
  obtain ⟨b, bs, hm⟩ := h
  exact ⟨_, _, hm.push⟩

theorem Stacked.looped (h : Stacked s) : Stacked (looped s) := h

theorem Stacked.branchStart (h : Stacked s) (b : Stmt) : Stacked (branchStart b s) := by
  unfold Typing.branchStart
  split
  · exact h
  · exact h.pushed

theorem forInitParts_stacked (init : Option ForInit) (h : Stacked s)
    (hy : (y, s') ∈ forInitParts cx init s) : Stacked s' := by
  match init with
  | some (.declare d) =>
    obtain ⟨rfl, rfl⟩ := Prod.mk.inj (List.mem_singleton.1 hy)
    exact h.after (resolveType_quiet cx _ _).nested
  | some (.exprs es) => exact h.of_scope (valueParts_scope hy)
  | none => cases hy

theorem stmtParts_stacked {b : Stmt} (h : Stacked s) (hy : (y, s') ∈ stmtParts cx b s) :
    Stacked s' := by
  match b with
  | .expr e span =>
    obtain ⟨rfl, rfl⟩ := Prod.mk.inj (List.mem_singleton.1 hy)
    exact h
  | .declare d => exact forInitParts_stacked (some (.declare d)) h hy
  | .block ss span =>
    obtain ⟨rfl, rfl⟩ := Prod.mk.inj (List.mem_singleton.1 hy)
    exact h.pushed
  | .ifElse condition yes no span =>
    have h₁ := h.after (checkCondition_quiet cx condition).nested
    simp only [stmtParts, List.mem_cons, List.mem_map, Prod.mk.injEq] at hy
    rcases hy with ⟨rfl, rfl⟩ | ⟨rfl, rfl⟩ | ⟨b, hb, rfl, rfl⟩
    · exact h
    · exact h₁.branchStart yes
    · exact (h₁.after (inBranch_restores cx yes).nested).branchStart b
  | .whileLoop condition body span =>
    simp only [stmtParts, List.mem_cons, List.not_mem_nil, or_false, Prod.mk.injEq] at hy
    rcases hy with ⟨rfl, rfl⟩ | ⟨rfl, rfl⟩
    · exact h
    · exact (h.after (checkCondition_quiet cx condition).nested).looped.branchStart body
  | .doWhile body condition span =>
    simp only [stmtParts, List.mem_cons, List.not_mem_nil, or_false, Prod.mk.injEq] at hy
    rcases hy with ⟨rfl, rfl⟩ | ⟨rfl, rfl⟩
    · exact h.looped.branchStart body
    · exact h.after (inBranch_restores cx body).inLoop.nested
  | .forLoop init condition update body span =>
    have h₁ := h.pushed.after (checkForInit_nested cx init)
    have h₂ := h₁.after (checkForCondition_quiet cx condition).nested
    simp only [stmtParts, List.mem_append, List.mem_map, List.mem_singleton, Prod.mk.injEq] at hy
    rcases hy with ((hy | ⟨e, he, rfl, rfl⟩) | hy) | ⟨rfl, rfl⟩
    · exact forInitParts_stacked init h.pushed hy
    · exact h₁
    · exact h₂.of_scope (valueParts_scope hy)
    · exact (h₂.after (Quiet.forM (checkExpr_quiet cx) update).nested).looped.branchStart body
  | .foreach type var iterable body span =>
    have h₁ := h.after (resolveType_quiet cx type.dataType type.span).nested
    have h₂ := (h₁.after (infer_quiet cx iterable).nested).after
      (requireElements_quiet (infer cx iterable (cx.resolveType type.dataType type.span s).2).1
        (cx.resolveType type.dataType type.span s).1 iterable.span span).nested
    simp only [stmtParts, List.mem_cons, List.not_mem_nil, or_false, Prod.mk.injEq] at hy
    rcases hy with ⟨rfl, rfl⟩ | ⟨rfl, rfl⟩
    · exact h₁
    · exact (h₂.pushed.after (Nested.declare _ _ _)).looped.branchStart body
  | .ret value span =>
    simp only [stmtParts, List.mem_map, Prod.mk.injEq] at hy
    obtain ⟨e, -, rfl, rfl⟩ := hy
    exact h
  | .brk span | .cont span => cases hy

theorem Code.parts_stacked {x : Code} (h : Stacked s) (hy : (y, s') ∈ x.parts cx s) :
    Stacked s' := by
  match x with
  | .expr role e => exact h.of_scope (exprParts_scope hy)
  | .vars declared [] => cases hy
  | .vars declared (v :: vs) =>
    simp only [Code.parts, List.mem_append, List.mem_map, List.mem_singleton, Prod.mk.injEq] at hy
    rcases hy with ⟨e, -, rfl, rfl⟩ | ⟨rfl, rfl⟩
    · exact h
    · exact h.after (checkDeclarator_nested cx declared v)
  | .stmt b => exact stmtParts_stacked h hy
  | .stmts [] => cases hy
  | .stmts (b :: bs) =>
    simp only [Code.parts, List.mem_cons, List.not_mem_nil, or_false, Prod.mk.injEq] at hy
    rcases hy with ⟨rfl, rfl⟩ | ⟨rfl, rfl⟩
    · exact h
    · exact h.after (checkStmt_nested cx b)

/-! ## Everything on the walk -/

variable {t : ClassTable} {x : Code}

theorem declaredResult_quiet (k : MethodInfo) : Quiet (declaredResult cx k) := by
  unfold declaredResult
  split
  · exact resolveType_quiet cx _ _
  · exact Quiet.pure _

/-- The parameters and the statements of a method are checked in the context of the method. -/
def checkBody (t : ClassTable) (c : ClassInfo) (k : MethodInfo) (stmts : List Stmt) : Check Unit := do
  let result ← declaredResult (.ofClass t c) k
  declareParams ⟨t, c, result, k.isStatic⟩ k.params k.span
  checkStmts ⟨t, c, result, k.isStatic⟩ stmts

/-- The parameters and the statements of a method without an error. -/
theorem body_clean {c : ClassInfo} {k : MethodInfo} {stmts : List Stmt} (hb : k.body = .script stmts)
    (h : Clean (checkMethod t c k) s) :
    Clean (declareParams (bodyContext t c k s) k.params k.span)
        (declaredResult (.ofClass t c) k (memberStart s)).2 ∧
      Clean (checkStmts (bodyContext t c k s) stmts) (bodyStart t c k s) := by
  unfold checkMethod at h
  rw [hb] at h
  have h : Clean (checkBody t c k stmts) (memberStart s) := h
  obtain ⟨-, h⟩ := h.bind (declaredResult_quiet k).errors fun _ =>
    ((declareParams_nested _ _ _).bind fun _ => checkStmts_nested _ _).errors
  exact h.bind (declareParams_nested _ _ _).errors fun _ => (checkStmts_nested _ _).errors

namespace Checks

theorem classes (h : Checks t cx x s) : cx.classes = t := by
  induction h with
  | initializer | body => rfl
  | part _ _ ih => exact ih

/-- The code belongs to a class of the table. -/
theorem has (h : Checks t cx x s) : t.Has cx.cls := by
  induction h with
  | initializer hc | body hc => exact hc
  | part _ _ ih => exact ih

/-- Everything that checking comes to is checked without an error. -/
theorem clean (h : Checks t cx x s) : Clean (x.check cx) s := by
  induction h with
  | @initializer c f e s hc hf hi hs =>
    unfold checkField Check.inMethod at hs
    have hs : Clean (do
        let declared ← (fieldContext t c f).resolveType f.type f.span
        checkStored (fieldContext t c f) e declared) (memberStart s) := by
      rw [hi] at hs
      exact hs
    have he := (hs.seq (resolveType_quiet _ _ _) fun _ => checkStored_quiet _ _ _).2
    exact (he.left (infer_quiet _ _) fun _ => requireFits_quiet _ _ _).left (denote_quiet _ _ _)
      fun _ => Quiet.pure _
  | body hc hk hb hs => exact (body_clean hb hs).2
  | part _ hy ih => exact Code.parts_clean ih hy

/-- The class of a `new` that checking comes to is `void` or known. -/
theorem create_known {role : Role} {type : TypeRef} {args : List Expr} {span : Span}
    (h : Checks t cx (.expr role (.create type args span)) s) :
    sameName type.dataType.name "void" = true ∨
      (cx.lookupClass? type.dataType.name).isSome = true := by
  have hs : Clean (denote cx role (.create type args span)) s := h.clean
  obtain ⟨hr, -⟩ := create_clean hs
  unfold CheckContext.resolveType at hr
  cases hu : cx.firstUnknown? type.dataType with
  | some name =>
    rw [hu] at hr
    exact (hr.report_bind fun _ => Quiet.pure _).elim
  | none =>
    generalize type.dataType = d at hu ⊢
    obtain ⟨name, types⟩ := d
    rw [CheckContext.firstUnknown?] at hu
    split at hu
    · cases hu
    · rename_i hk
      cases hv : sameName name "void" with
      | true => exact .inl rfl
      | false =>
        refine .inr (Option.isSome_iff_ne_none.2 fun hn => hk ?_)
        simp [hv, hn]

theorem stacked (h : Checks t cx x s) : Stacked s := by
  induction h with
  | initializer => exact (stacked_memberStart _).of_scope ((resolveType_quiet _ _ _).scope _)
  | body =>
    refine Stacked.after ?_ (declareParams_nested _ _ _)
    exact (stacked_memberStart _).of_scope ((declaredResult_quiet _).scope _)
  | part _ hy ih => exact Code.parts_stacked ih hy

end Checks

/-! ## A table without errors -/

/-- A list that is checked without an error has none in any item. -/
theorem exists_clean_of_forM {α : Type} {f : α → Check PUnit} (hf : ∀ a, Blind (f a)) :
    ∀ {as : List α} {s : CheckState}, Clean (as.forM f) s → ∀ a ∈ as, ∃ s', Clean (f a) s'
  | b :: bs, s, h, a, ha => by
    obtain ⟨hb, hbs⟩ := Clean.split (x := f b) (f := fun _ => bs.forM f) h (hf b) fun _ =>
      Blind.forM hf bs
    rcases List.mem_cons.1 ha with rfl | ha
    · exact ⟨s, hb⟩
    · exact exists_clean_of_forM hf hbs a ha

theorem checkField_blind (t : ClassTable) (c : ClassInfo) (f : FieldInfo) :
    Blind (checkField t c f) := by
  refine Blind.inMethod (x := do
      let declared ← (fieldContext t c f).resolveType f.type f.span
      match f.init with
      | some e => checkStored (fieldContext t c f) e declared
      | none => pure ()) ((resolveType_quiet _ _ _).blind.bind fun declared => ?_)
  split
  · exact (checkStored_quiet _ _ _).blind
  · exact Blind.pure _

theorem checkBody_blind (t : ClassTable) (c : ClassInfo) (k : MethodInfo) (stmts : List Stmt) :
    Blind (checkBody t c k stmts) :=
  (declaredResult_quiet k).blind.bind fun result =>
    (declareParams_nested ⟨t, c, result, k.isStatic⟩ k.params k.span).blind.bind fun _ =>
      (checkStmts_nested _ stmts).blind

/-- What is logged about a method does not matter. -/
theorem checkSignatureAndBody_run (t : ClassTable) (c : ClassInfo) (k : MethodInfo)
    (stmts : List Stmt) (s : CheckState) : ∃ log, checkSignatureAndBody t c k stmts s =
      ((), { (Check.inMethod (checkBody t c k stmts) s).2 with log }) :=
  ⟨_, rfl⟩

theorem checkMethod_blind (t : ClassTable) (c : ClassInfo) (k : MethodInfo) :
    Blind (checkMethod t c k) := by
  have body : ∀ stmts, Blind (checkSignatureAndBody t c k stmts) := by
    intro stmts
    have h := (checkBody_blind t c k stmts).inMethod
    refine ⟨fun _ => rfl, fun {s s'} hl => ?_, fun {s s'} hl => ?_⟩ <;>
      obtain ⟨log, hs⟩ := checkSignatureAndBody_run t c k stmts s <;>
      obtain ⟨log', hs'⟩ := checkSignatureAndBody_run t c k stmts s' <;> rw [hs, hs']
    · exact ⟨(h.like hl).scope, (h.like hl).loopDepth⟩
    · exact h.adds hl
  unfold checkMethod
  split
  · exact body _
  · exact body _
  · exact Blind.pure _

/-- The members of a class and its inner classes are checked in order. -/
theorem checkClass_eq (t : ClassTable) (c : ClassInfo) : checkClass t c = (do
    c.instanceFields.values.forM (checkField t c)
    c.staticFields.values.forM (checkField t c)
    c.constructors.forM (checkMethod t c)
    c.instanceMethods.all.forM (checkMethod t c)
    c.staticMethods.all.forM (checkMethod t c)
    checkClasses t c.inner) := by
  cases c
  rw [checkClass]

mutual

theorem checkClass_blind (t : ClassTable) : ∀ c : ClassInfo, Blind (checkClass t c)
  | ⟨name, outer, modifiers, annotations, superclass, interfaces, typeParams, instanceFields,
      staticFields, instanceMethods, staticMethods, constructors, inner, span⟩ => by
    rw [checkClass]
    exact (Blind.forM (checkField_blind t _) _).bind fun _ =>
      (Blind.forM (checkField_blind t _) _).bind fun _ =>
        (Blind.forM (checkMethod_blind t _) _).bind fun _ =>
          (Blind.forM (checkMethod_blind t _) _).bind fun _ =>
            (Blind.forM (checkMethod_blind t _) _).bind fun _ => checkClasses_blind t inner

theorem checkClasses_blind (t : ClassTable) : ∀ cs : List ClassInfo, Blind (checkClasses t cs)
  | [] => by rw [checkClasses]; exact Blind.pure _
  | c :: cs => by
    rw [checkClasses]
    exact (checkClass_blind t c).bind fun _ => checkClasses_blind t cs

end

theorem exists_clean_of_checkClasses : ∀ {cs : List ClassInfo} {s : CheckState},
    Clean (checkClasses t cs) s → ∀ c ∈ cs, ∃ s', Clean (checkClass t c) s'
  | d :: ds, s, h, c, hc => by
    rw [checkClasses] at h
    obtain ⟨hd, hds⟩ := h.split (checkClass_blind t d) fun _ => checkClasses_blind t ds
    rcases List.mem_cons.1 hc with rfl | hc
    · exact ⟨s, hd⟩
    · exact exists_clean_of_checkClasses hds c hc

/-- A class that is checked without an error has none in any member and inner class. -/
theorem clean_members {c : ClassInfo} (h : Clean (checkClass t c) s) :
    (∀ f ∈ c.ownFields, ∃ s', Clean (checkField t c f) s') ∧
    (∀ k ∈ c.ownMethods, ∃ s', Clean (checkMethod t c k) s') ∧
    ∃ s', Clean (checkClasses t c.inner) s' := by
  have fields := Blind.forM (checkField_blind t c)
  have methods := Blind.forM (checkMethod_blind t c)
  have inner := checkClasses_blind t c.inner
  rw [checkClass_eq] at h
  obtain ⟨h₁, h⟩ := h.split (fields _) fun _ => (fields _).bind fun _ => (methods _).bind fun _ =>
    (methods _).bind fun _ => (methods _).bind fun _ => inner
  obtain ⟨h₂, h⟩ := h.split (fields _) fun _ => (methods _).bind fun _ => (methods _).bind fun _ =>
    (methods _).bind fun _ => inner
  obtain ⟨h₃, h⟩ := h.split (methods _) fun _ => (methods _).bind fun _ => (methods _).bind fun _ =>
    inner
  obtain ⟨h₄, h⟩ := h.split (methods _) fun _ => (methods _).bind fun _ => inner
  obtain ⟨h₅, h₆⟩ := h.split (methods _) fun _ => inner
  refine ⟨fun f hf => ?_, fun k hk => ?_, _, h₆⟩
  · rcases List.mem_append.1 hf with hf | hf
    · exact exists_clean_of_forM (checkField_blind t c) h₁ f hf
    · exact exists_clean_of_forM (checkField_blind t c) h₂ f hf
  · rcases List.mem_append.1 hk with hk | hk
    · rcases List.mem_append.1 hk with hk | hk
      · exact exists_clean_of_forM (checkMethod_blind t c) h₃ k hk
      · exact exists_clean_of_forM (checkMethod_blind t c) h₄ k hk
    · exact exists_clean_of_forM (checkMethod_blind t c) h₅ k hk

/-- Every class of a table without errors is checked without an error. -/
theorem exists_clean_class (h : (checkTable t).1 = []) {c : ClassInfo} (hc : t.Has c) :
    ∃ s, Clean (checkClass t c) s := by
  induction hc with
  | top hc => exact exists_clean_of_checkClasses (s := {}) h _ hc
  | inner _ hd ih =>
    obtain ⟨s, hs⟩ := ih
    obtain ⟨-, -, s', hi⟩ := clean_members hs
    exact exists_clean_of_checkClasses hi _ hd

/-- Every field of a table without errors is checked without an error. -/
theorem exists_clean_field (h : (checkTable t).1 = []) {c : ClassInfo} (hc : t.Has c)
    {f : FieldInfo} (hf : f ∈ c.ownFields) : ∃ s, Clean (checkField t c f) s := by
  obtain ⟨s, hs⟩ := exists_clean_class h hc
  exact (clean_members hs).1 f hf

/-- Every method of a table without errors is checked without an error. -/
theorem exists_clean_method (h : (checkTable t).1 = []) {c : ClassInfo} (hc : t.Has c)
    {k : MethodInfo} (hk : k ∈ c.ownMethods) : ∃ s, Clean (checkMethod t c k) s := by
  obtain ⟨s, hs⟩ := exists_clean_class h hc
  exact (clean_members hs).2.1 k hk

end Typing

end ClassScript
