import ClassScript.Proofs.Machine.Objects
import ClassScript.Proofs.Machine.Probe
import ClassScript.Proofs.Typing.Sites

/-!
# A machine at a place of checked code

`Machine.At t cx scope m`: the running frame of `m` executes code that was checked in the context
`cx`, at a place where checking saw the local variables `scope`. The running class is the class that
the code is written in or one below it; the receiver, if there is one, is an instance of the running
class; and the names bound in the frame are the names of `scope`. This is what checking and running
have in common at every point, and it is kept by everything that keeps the frame
(`Machine.At.keeps`).

`ExprAt`, `LoopAt` collect the code that may run at such a place.
-/

namespace ClassScript

open Typing (Checks Code)

/-! ## Names of a frame -/

namespace Frame

theorem isLocal_eq (f : Frame) (name : String) :
    f.isLocal name = (f.blocks.map NameTable.names).any fun ns => ns.any (sameName · name) := by
  unfold isLocal lookup?
  induction f.blocks with
  | nil => rfl
  | cons b bs ih =>
    have hb : (b.get? name).isSome = b.names.any (sameName · name) := by
      rw [← NameTable.contains_eq, NameTable.contains_eq_any]
    rw [List.findSome?_cons, List.map_cons, List.any_cons, ← hb, ← ih]
    cases b.get? name <;> simp

/-- A frame that is kept binds the same names. -/
theorem Keeps.isLocal {f g : Frame} (h : f.Keeps [] g) (name : String) :
    g.isLocal name = f.isLocal name := by
  obtain ⟨new, hn, hv⟩ := h.block
  have hnew : new = [] := List.eq_nil_iff_forall_not_mem.2 fun x hx => by cases hv x hx
  rw [hnew, List.append_nil] at hn
  rw [isLocal_eq, isLocal_eq]
  simp only [blocks, List.map_cons, hn, h.outer]

@[simp] theorem isLocal_push (f : Frame) (name : String) : f.push.isLocal name = f.isLocal name := by
  rw [isLocal_eq, isLocal_eq]
  simp [push, blocks, NameTable.names, NameTable.empty]

theorem isLocal_declare (f : Frame) (name : String) (v : Value) (n : String) :
    (f.declare name v).isLocal n = (sameName name n || f.isLocal n) := by
  unfold isLocal lookup? blocks declare
  rw [List.findSome?_cons, List.findSome?_cons, NameTable.get?_insert]
  by_cases h : sameName name n <;> simp [h]

@[simp] theorem isLocal_make (c : ClassInfo) (this : Option ObjectId) (name : String) :
    (Frame.make c this).isLocal name = false := rfl

/-- Parameters are bound by name. -/
theorem isLocal_declareParams : ∀ (params : List ParamInfo) (args : List Value) (f : Frame)
    (name : String), args.length = params.length →
    (f.declareParams params args).isLocal name =
      (params.any (fun p => sameName p.name name) || f.isLocal name)
  | [], args, f, name, _ => by simp [declareParams]
  | p :: params, [], f, name, h => by cases h
  | p :: params, v :: args, f, name, h => by
    have ih := isLocal_declareParams params args (f.declare p.name v) name (by simpa using h)
    have hf : f.declareParams (p :: params) (v :: args) =
        (f.declare p.name v).declareParams params args := rfl
    rw [hf, ih, isLocal_declare, List.any_cons]
    cases sameName p.name name <;> simp

end Frame

/-! ## The running frame and the scope -/

/-- The frame executes checked code (module doc). -/
structure Frame.Runs (t : ClassTable) (h : Heap) (cx : CheckContext) (scope : LocalScope)
    (f : Frame) : Prop where
  cls : t.Has f.cls
  code : cx.cls ∈ f.cls.chain t
  receiver : ∀ id, f.this = some id →
    id < h.objects.size ∧ (h.get id).cls = f.cls ∧ (h.get id).Tidy t
  locals : ∀ name, f.isLocal name = scope.isDeclared name

theorem Frame.Runs.keeps {t : ClassTable} {h h' : Heap} {cx : CheckContext} {scope : LocalScope}
    {f g : Frame} (r : f.Runs t h cx scope) (k : f.Keeps [] g) (e : h.Evolves t h') :
    g.Runs t h' cx scope := by
  refine ⟨k.cls ▸ r.cls, k.cls ▸ r.code, fun id hid => ?_, fun name => ?_⟩
  · obtain ⟨lt, hc, ht⟩ := r.receiver id (k.this ▸ hid)
    exact ⟨Nat.lt_of_lt_of_le lt e.size, by rw [e.cls id lt, hc, k.cls], (e.tidy id lt).2 ht⟩
  · rw [k.isLocal, r.locals]

namespace Machine

/-- The machine executes checked code (module doc). -/
structure At (t : ClassTable) (cx : CheckContext) (scope : LocalScope) (m : Machine) : Prop where
  heap : m.world.heap.Belongs t
  frame : ∃ f fs, m.frames = f :: fs ∧ f.Runs t m.world.heap cx scope

variable {t : ClassTable} {cx : CheckContext} {scope scope' : LocalScope} {m m' : Machine}

/-- The running frame is the one that executes the code. -/
theorem At.runs (h : m.At t cx scope) {f : Frame} {fs : List Frame} (hm : m.frames = f :: fs) :
    f.Runs t m.world.heap cx scope := by
  obtain ⟨f', fs', hm', hr⟩ := h.frame
  rw [hm] at hm'
  obtain ⟨rfl, rfl⟩ := List.cons.inj hm'
  exact hr

/-- A class without a superclass runs only its own code. -/
theorem At.cls_eq (h : m.At t cx scope) {f : Frame} {fs : List Frame} (hm : m.frames = f :: fs)
    (hs : f.cls.superclass = none) : cx.cls = f.cls := by
  have hcode := (h.runs hm).code
  rwa [ClassInfo.chain_of_no_superclass hs, List.mem_singleton] at hcode

/-- What keeps the frame keeps the place. -/
theorem At.keeps (h : m.At t cx scope) (hf : KeepsFrames [] m.frames m'.frames)
    (hb : m'.world.heap.Belongs t) (he : m.world.heap.Evolves t m'.world.heap) :
    m'.At t cx scope := by
  obtain ⟨f, fs, hm, hr⟩ := h.frame
  rw [hm] at hf
  generalize hm' : m'.frames = frames' at hf
  cases hf with
  | running hk => exact ⟨hb, _, _, hm', hr.keeps hk he⟩

/-- Only the names of a scope matter. -/
theorem At.of_lookup (h : m.At t cx scope)
    (hs : ∀ name, scope'.lookup? name = scope.lookup? name) : m.At t cx scope' := by
  obtain ⟨f, fs, hm, hr⟩ := h.frame
  refine ⟨h.heap, f, fs, hm, hr.cls, hr.code, hr.receiver, fun name => ?_⟩
  rw [hr.locals, LocalScope.isDeclared, LocalScope.isDeclared, hs]

/-- An empty block changes nothing. -/
theorem At.push (h : m.At t cx scope) {f : Frame} {fs : List Frame} (hm : m.frames = f :: fs) :
    At t cx scope { m with frames := f.push :: fs } := by
  have hr := h.runs hm
  exact ⟨h.heap, f.push, fs, rfl, hr.cls, hr.code, hr.receiver, fun name => by
    rw [Frame.isLocal_push, hr.locals]⟩

/-- A variable that both sides declare. -/
theorem At.declare (h : m.At t cx scope) {f : Frame} {fs : List Frame} (hm : m.frames = f :: fs)
    {name : String} {type : Option DataType} {span : Span} (v : Value)
    (hd : scope.declare name type span = .ok scope') :
    At t cx scope' { m with frames := f.declare name v :: fs } := by
  have hr := h.runs hm
  refine ⟨h.heap, f.declare name v, fs, rfl, hr.cls, hr.code, hr.receiver, fun n => ?_⟩
  rw [Frame.isLocal_declare, hr.locals, LocalScope.isDeclared, LocalScope.isDeclared,
    LocalScope.lookup?_declare hd]
  by_cases hn : sameName name n <;> simp [hn]

end Machine

/-! ## Code at a place -/

/-- The expressions that an expression is made of. -/
def Expr.operands : Expr → List Expr
  | .member object _ _ => [object]
  | .call _ args _ => args
  | .callOn receiver _ args _ => receiver :: args
  | .create _ args _ => args
  | .index object key _ => [object, key]
  | .binary _ left right _ => [left, right]
  | .unary _ operand _ => [operand]
  | .post _ operand _ => [operand]
  | .assign _ target value _ => [target, value]
  | .conditional condition yes no _ => [condition, yes, no]
  | .literal .. | .name _ | .this _ | .query .. => []

/-- `p` is part of `e`. -/
inductive Expr.HasPart (e : Expr) : Expr → Prop
  | self : HasPart e e
  | operand {x p : Expr} : HasPart e x → p ∈ x.operands → HasPart e p

namespace Typing

theorem mem_valueParts (cx : CheckContext) {e : Expr} : ∀ {es : List Expr} (s : CheckState), e ∈ es →
    ∃ s', (Code.expr .value e, s') ∈ valueParts cx es s
  | a :: es, s, he => by
    rcases List.mem_cons.1 he with rfl | he
    · exact ⟨s, List.mem_cons_self⟩
    · obtain ⟨s', hs'⟩ := mem_valueParts cx (denote cx .value a s).2 he
      exact ⟨s', List.mem_cons_of_mem _ hs'⟩

/-- Checking an expression checks all its operands. -/
theorem mem_exprParts (cx : CheckContext) {e p : Expr} (s : CheckState) (hp : p ∈ e.operands) :
    ∃ role s', (Code.expr role p, s') ∈ exprParts cx e s := by
  have values : ∀ {es : List Expr} (s : CheckState), p ∈ es →
      ∃ role s', (Code.expr role p, s') ∈ valueParts cx es s :=
    fun s hp => ⟨.value, mem_valueParts cx s hp⟩
  match e with
  | .member object m span => exact ⟨.receiver, s, by simp_all [Expr.operands, exprParts]⟩
  | .call method args span => exact values _ hp
  | .callOn receiver method args span =>
    rcases List.mem_cons.1 hp with rfl | hp
    · exact ⟨.receiver, s, List.mem_cons_self⟩
    · obtain ⟨role, s', hs'⟩ := values (denote cx .receiver receiver s).2 hp
      exact ⟨role, s', List.mem_cons_of_mem _ hs'⟩
  | .create type args span => exact values _ hp
  | .index .. | .binary .. | .unary .. | .post .. | .assign .. => exact values s hp
  | .conditional condition yes no span =>
    rcases List.mem_cons.1 hp with rfl | hp
    · exact ⟨.value, s, List.mem_cons_self⟩
    · obtain ⟨role, s', hs'⟩ := values (checkCondition cx condition s).2 hp
      exact ⟨role, s', List.mem_cons_of_mem _ hs'⟩
  | .literal .. | .name _ | .this _ | .query .. => cases hp

end Typing

variable {t : ClassTable} {cx : CheckContext} {scope scope' : LocalScope}

/-- Checking comes to the expression in the context `cx`, with the local variables `scope`. -/
def ExprAt (t : ClassTable) (cx : CheckContext) (scope : LocalScope) (e : Expr) : Prop :=
  ∃ role s, Checks t cx (.expr role e) s ∧ ∀ name, s.scope.lookup? name = scope.lookup? name

theorem ExprAt.operand {e p : Expr} (h : ExprAt t cx scope e) (hp : p ∈ e.operands) :
    ExprAt t cx scope p := by
  obtain ⟨role, s, hc, hs⟩ := h
  obtain ⟨role', s', hy⟩ := Typing.mem_exprParts cx s hp
  refine ⟨role', s', .part hc hy, fun name => ?_⟩
  rw [Typing.exprParts_scope hy, hs]

/-- A part of checked code that is a value. -/
theorem exprAt_part {x : Code} {s s' : CheckState} {e : Expr} (h : Checks t cx x s)
    (hy : (Code.expr .value e, s') ∈ x.parts cx s)
    (hs : ∀ name, s'.scope.lookup? name = scope.lookup? name) : ExprAt t cx scope e :=
  ⟨.value, s', .part h hy, hs⟩

/-- Checking comes to the statement with local variables of the names in `scope`. -/
def StmtAt (t : ClassTable) (cx : CheckContext) (scope : LocalScope) (b : Stmt) : Prop :=
  ∃ s, Checks t cx (.stmt b) s ∧ ∀ name, s.scope.lookup? name = scope.lookup? name

/-- Checking comes to the parts of a loop. -/
structure LoopAt (t : ClassTable) (cx : CheckContext) (scope : LocalScope) (l : Loop) : Prop where
  condition : ∀ e, l.condition = some e → ExprAt t cx scope e
  body : StmtAt t cx scope l.body
  update : ∀ e ∈ l.update, ExprAt t cx scope e

namespace Typing

variable {s : CheckState}

@[simp] theorem lookup?_branchStart (b : Stmt) (s : CheckState) (name : String) :
    (branchStart b s).scope.lookup? name = s.scope.lookup? name := by
  unfold branchStart
  split <;> rfl

/-- A branch of a statement, from a state with the variables of `scope`. -/
theorem stmtAt_part {x : Code} {s' : CheckState} {b : Stmt} (h : Checks t cx x s)
    (hy : (Code.stmt b, branchStart b s') ∈ x.parts cx s)
    (hs : ∀ name, s'.scope.lookup? name = scope.lookup? name) : StmtAt t cx scope b :=
  ⟨_, .part h hy, fun name => by rw [lookup?_branchStart, hs]⟩

theorem lookup?_of_quiet {α : Type} {x : Check α} (hx : Check.Quiet x) (s : CheckState)
    (name : String) : (x s).2.scope.lookup? name = s.scope.lookup? name := by
  rw [hx.scope]

theorem Checks.lookup?_restores {α : Type} {x : Check α} {y : Code} (h : Checks t cx y s)
    (hx : Check.Restores x) (name : String) :
    (x s).2.scope.lookup? name = s.scope.lookup? name := by
  obtain ⟨b, bs, hm⟩ := h.stacked
  exact hx.lookup hm name

/-! ### Conditions -/

theorem Checks.ifElse {condition : Expr} {yes : Stmt} {no : Option Stmt} {span : Span}
    (h : Checks t cx (.stmt (.ifElse condition yes no span)) s) :
    ExprAt t cx s.scope condition ∧ StmtAt t cx s.scope yes ∧
      ∀ b, no = some b → StmtAt t cx s.scope b := by
  have hq := checkCondition_quiet cx condition
  refine ⟨exprAt_part h (by simp [Code.parts, stmtParts]) fun _ => rfl,
    stmtAt_part h (List.mem_cons_of_mem _ List.mem_cons_self) (lookup?_of_quiet hq s), ?_⟩
  rintro b rfl
  have hy : (Code.stmt b, branchStart b
      (inBranch yes (checkStmt cx yes) (checkCondition cx condition s).2).2) ∈
      Code.parts cx (.stmt (.ifElse condition yes (some b) span)) s := by
    simp [Code.parts, stmtParts]
  exact stmtAt_part h hy
    (h.lookup?_restores (hq.restores.bind fun _ => inBranch_restores cx yes))

/-! ### Loops -/

theorem Checks.whileLoop {condition : Expr} {body : Stmt} {span : Span}
    (h : Checks t cx (.stmt (.whileLoop condition body span)) s) :
    LoopAt t cx s.scope ⟨some condition, body, []⟩ := by
  refine ⟨fun e he => ?_, ?_, by simp⟩
  · cases he
    exact exprAt_part h List.mem_cons_self fun _ => rfl
  · exact stmtAt_part h (List.mem_cons_of_mem _ List.mem_cons_self)
      (lookup?_of_quiet (checkCondition_quiet cx condition) s)

theorem Checks.doWhile {condition : Expr} {body : Stmt} {span : Span}
    (h : Checks t cx (.stmt (.doWhile body condition span)) s) :
    LoopAt t cx s.scope ⟨some condition, body, []⟩ := by
  refine ⟨fun e he => ?_, ?_, by simp⟩
  · cases he
    exact exprAt_part h (List.mem_cons_of_mem _ List.mem_cons_self)
      (h.lookup?_restores (inBranch_restores cx body).inLoop)
  · exact stmtAt_part h List.mem_cons_self fun _ => rfl

/-- What the first clause of a `for` loop checks is checked in the block of the loop. -/
theorem Checks.forInit {init : Option ForInit} {condition : Option Expr} {update : List Expr}
    {body : Stmt} {span : Span} (h : Checks t cx (.stmt (.forLoop init condition update body span)) s)
    {y : Code} {s' : CheckState} (hy : (y, s') ∈ forInitParts cx init (pushed s)) :
    Checks t cx y s' :=
  .part h (List.mem_append_left _ (List.mem_append_left _ (List.mem_append_left _ hy)))

theorem Checks.forInit_exprs {es : List Expr} {condition : Option Expr} {update : List Expr}
    {body : Stmt} {span : Span}
    (h : Checks t cx (.stmt (.forLoop (some (.exprs es)) condition update body span)) s) :
    ∀ e ∈ es, ExprAt t cx s.scope e := by
  intro e he
  obtain ⟨s', hs'⟩ := mem_valueParts cx (pushed s) he
  exact ⟨.value, s', h.forInit hs', fun name => by rw [valueParts_scope hs']; rfl⟩

/-- The clauses of a `for` loop, with the variables that its first clause declares. -/
theorem Checks.forLoop {init : Option ForInit} {condition : Option Expr} {update : List Expr}
    {body : Stmt} {span : Span} (h : Checks t cx (.stmt (.forLoop init condition update body span)) s) :
    LoopAt t cx (checkForInit cx init (pushed s)).2.scope ⟨condition, body, update⟩ := by
  have hc := checkForCondition_quiet cx condition
  have hu := Check.Quiet.forM (checkExpr_quiet cx) update
  refine ⟨fun e he => ?_, ?_, fun e he => ?_⟩
  · dsimp only at he
    subst he
    exact exprAt_part h (by simp [Code.parts, stmtParts]) fun _ => rfl
  · exact stmtAt_part h (List.mem_append_right _ List.mem_cons_self)
      (lookup?_of_quiet (hc.bind fun _ => hu) _)
  · obtain ⟨s', hs'⟩ := mem_valueParts cx
      (checkForCondition cx condition (checkForInit cx init (pushed s)).2).2 he
    refine exprAt_part h (List.mem_append_left _ (List.mem_append_right _ hs')) fun name => ?_
    rw [valueParts_scope hs', hc.scope]

/-- The parts of a `foreach` loop. -/
theorem Checks.foreach {type : TypeRef} {var : Ident} {iterable : Expr} {body : Stmt} {span : Span}
    (h : Checks t cx (.stmt (.foreach type var iterable body span)) s) :
    ExprAt t cx s.scope iterable ∧ ∃ declared, ∃ scope scope' : LocalScope,
      (∀ name, scope.lookup? name = s.scope.lookup? name) ∧
        scope.declare var.name declared var.span = .ok scope' ∧ StmtAt t cx scope' body := by
  refine ⟨exprAt_part h List.mem_cons_self (lookup?_of_quiet (resolveType_quiet cx _ _) s), ?_⟩
  let start := foreachStart cx type iterable span s
  obtain ⟨-, hclean, -⟩ := foreach_clean h.clean
  obtain ⟨scope', hd, hrun⟩ := Check.declare_clean hclean
  refine ⟨start.1, start.2.scope, scope', fun name => ?_, hd, ?_⟩
  · have h₁ := (resolveType_quiet cx type.dataType type.span).scope s
    have h₂ := (infer_quiet cx iterable).scope (cx.resolveType type.dataType type.span s).2
    have h₃ := (requireElements_quiet
      (infer cx iterable (cx.resolveType type.dataType type.span s).2).1
      (cx.resolveType type.dataType type.span s).1 iterable.span span).scope
      (infer cx iterable (cx.resolveType type.dataType type.span s).2).2
    show (LocalScope.push _).lookup? name = _
    rw [h₃, h₂, h₁]
    rfl
  · refine stmtAt_part h (List.mem_cons_of_mem _ List.mem_cons_self) fun name => ?_
    show (Check.declare var.name start.1 var.span start.2).2.scope.lookup? name = _
    rw [hrun]

end Typing

end ClassScript
