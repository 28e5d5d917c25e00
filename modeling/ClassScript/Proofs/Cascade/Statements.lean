import ClassScript.Proofs.Cascade.Expressions

/-!
# Statements with an unknown part

A statement has no type, so a place in a statement only has to add no error for an expression of
unknown type (`valueSlot_mimics`), and a place for a statement only passes on what is reported there
(`stmtSlot_mimics`). `fill_mimics` is the result for the body of a method.
-/

namespace ClassScript

/-! ## Blocks and loops -/

namespace Check

variable {new : List CheckError} {x x' : Check Unit} {s : CheckState}

open Typing (pushed looped)

theorem Mimics.inBlock (bx : Blind x) (h : Mimics new Any x x' (pushed s)) :
    Mimics new Any (Check.inBlock x) (Check.inBlock x') s := by
  have bpop := Blind.modifyScope LocalScope.pop
  refine .after (Blind.modifyScope _) (fun _ => bx.bind fun _ => bpop) ?_
  exact Mimics.followed h bx bpop fun _ => trivial

theorem Mimics.inLoop (bx : Blind x) (h : Mimics new Any x x' (looped s)) :
    Mimics new Any (Check.inLoop x) (Check.inLoop x') s := by
  have count : ∀ f : Nat → Nat, Blind (modify fun s : CheckState =>
      { s with loopDepth := f s.loopDepth } : Check PUnit) := fun f =>
    .silent (fun h => ⟨h.scope, congrArg f h.loopDepth⟩) fun _ => rfl
  refine .after (count (· + 1)) (fun _ => bx.bind fun _ => count (· - 1)) ?_
  exact Mimics.followed h bx (count (· - 1)) fun _ => trivial

end Check

namespace Stmt

def isBlock : Stmt → Bool
  | .block .. => true
  | _ => false

theorem ValueSlot.fill_isBlock (p : ValueSlot) (e e' : Expr) :
    (p.fill e).isBlock = (p.fill e').isBlock := by
  cases p <;> rfl

theorem Slot.fill_isBlock (p : Slot) (b b' : Stmt) : (p.fill b).isBlock = (p.fill b').isBlock := by
  cases p <;> rfl

theorem plug_isBlock {b b' : Stmt} (h : b.isBlock = b'.isBlock) (ps : List Slot) :
    (plug ps b).isBlock = (plug ps b').isBlock := by
  cases ps with
  | nil => exact h
  | cons p ps => exact p.fill_isBlock _ _

end Stmt

namespace Typing

open Check (Blind Clean Quiet Mimics Any)

variable {cx : CheckContext} {s : CheckState} {new : List CheckError}

theorem inBranch_eq (b : Stmt) (x : Check Unit) :
    inBranch b x = if b.isBlock then x else Check.inBlock x := by
  cases b <;> rfl

theorem branchStart_eq (b : Stmt) (s : CheckState) :
    branchStart b s = if b.isBlock then s else pushed s := by
  cases b <;> rfl

theorem checkStmt_blind (cx : CheckContext) (b : Stmt) : Blind (checkStmt cx b) :=
  (checkStmt_nested cx b).blind

theorem checkExprs_blind (cx : CheckContext) (es : List Expr) : Blind (es.forM (checkExpr cx)) :=
  (Quiet.forM (checkExpr_quiet cx) es).blind

variable {a a' : Expr} {b b' : Stmt}

theorem inBranch_mimics (hblock : b.isBlock = b'.isBlock)
    (h : Mimics new Any (checkStmt cx b) (checkStmt cx b') (branchStart b s)) :
    Mimics new Any (inBranch b (checkStmt cx b)) (inBranch b' (checkStmt cx b')) s := by
  rw [inBranch_eq, inBranch_eq, ← hblock]
  rw [branchStart_eq] at h
  cases hb : b.isBlock with
  | true =>
    simp only [hb, ↓reduceIte] at h ⊢
    exact h
  | false =>
    simp only [hb, Bool.false_eq_true, ↓reduceIte] at h ⊢
    exact h.inBlock (checkStmt_blind cx b)

/-- The body of a loop. -/
def loopBody (cx : CheckContext) (b : Stmt) : Check Unit :=
  Check.inLoop (inBranch b (checkStmt cx b))

theorem inBranch_blind (cx : CheckContext) (b : Stmt) : Blind (inBranch b (checkStmt cx b)) :=
  (inBranch_restores cx b).blind

theorem loopBody_blind (cx : CheckContext) (b : Stmt) : Blind (loopBody cx b) :=
  (inBranch_blind cx b).inLoop

theorem loopBody_mimics (hblock : b.isBlock = b'.isBlock)
    (h : Mimics new Any (checkStmt cx b) (checkStmt cx b') (branchStart b (looped s))) :
    Mimics new Any (loopBody cx b) (loopBody cx b') s :=
  (inBranch_mimics hblock h).inLoop (inBranch_blind cx b)

/-! ## Expressions in statements -/

theorem checkExpr_mimics
    (ha : Mimics new Denotation.Weaker (denote cx .value a) (denote cx .value a') s) :
    Mimics new Any (checkExpr cx a) (checkExpr cx a') s :=
  (infer_mimics ha).seq (infer_quiet cx a).blind (fun _ => Blind.pure _) (fun _ => Blind.pure _)
    fun _ => .pure trivial

theorem checkStored_mimics {declared : Option DataType}
    (ha : Mimics new Denotation.Weaker (denote cx .value a) (denote cx .value a') s) :
    Mimics new Any (checkStored cx a declared) (checkStored cx a' declared) s :=
  (infer_mimics ha).seq (infer_quiet cx a).blind (fun _ => (requireFits_quiet _ _ _).blind)
    (fun _ => (requireFits_quiet _ _ _).blind) fun h => requireFits_mimics h (.refl _)

/-- Several items are checked in order, one of which is another one. -/
theorem forM_mimics {α : Type} {f : α → Check Unit} (bf : ∀ a, Blind (f a)) {c c' : α}
    {before after : List α} (h : Mimics new Any (f c) (f c') (before.forM f s).2) :
    Mimics new Any ((before ++ c :: after).forM f) ((before ++ c' :: after).forM f) s := by
  induction before generalizing s with
  | nil =>
    simp only [List.nil_append]
    exact Mimics.followed h (bf c) (Blind.forM bf after) fun _ => trivial
  | cons d before ih =>
    simp only [List.cons_append]
    exact .after (bf d) (fun _ => Blind.forM bf _) (ih h)

theorem checkDeclarator_mimics {declared : Option DataType} {name : Ident} {span : Span}
    (ha : Mimics new Denotation.Weaker (denote cx .value a) (denote cx .value a') s) :
    Mimics new Any (checkDeclarator cx declared ⟨name, some a, span⟩)
      (checkDeclarator cx declared ⟨name, some a', span⟩) s :=
  (checkStored_mimics ha).followed (checkStored_quiet cx a declared).blind
    (Check.Blind.declare _ _ _) fun _ => trivial

theorem checkDeclaration_mimics {p : VarDecl.Slot}
    (ha : Mimics new Denotation.Weaker (denote cx .value a) (denote cx .value a') (p.start cx s)) :
    Mimics new Any (checkDeclaration cx (p.fill a)) (checkDeclaration cx (p.fill a')) s := by
  have bd : ∀ declared v, Blind (checkDeclarator cx declared v) := fun declared v =>
    (checkDeclarator_nested cx declared v).blind
  unfold checkDeclaration
  refine .after (resolveType_quiet cx _ _).blind (fun declared => Blind.forM (bd declared) _) ?_
  exact forM_mimics (bd _) (checkDeclarator_mimics ha)

/-- The check of a result, once its type is found. -/
def checkReturned (declared : DataType) (span : Span) : Option DataType → Check Unit
  | none => pure ()
  | some actual =>
    if !declared.isVoid && actual.fitsExactly declared then pure ()
    else Check.report (.returnMismatch actual declared) span

theorem checkReturned_quiet (declared : DataType) (span : Span) (t : Option DataType) :
    Quiet (checkReturned declared span t) := by
  unfold checkReturned
  split
  · exact Quiet.pure _
  · split
    · exact Quiet.pure _
    · exact Quiet.report _ _

theorem checkReturn_of_some {declared : DataType} (h : cx.returnType = some declared) {e : Expr}
    {span : Span} :
    checkReturn cx (some e) span = infer cx e >>= checkReturned declared span := by
  unfold checkReturn
  rw [h]
  rfl

theorem checkReturn_mimics {span : Span}
    (ha : Mimics new Denotation.Weaker (denote cx .value a) (denote cx .value a') s) :
    Mimics new Any (checkReturn cx (some a) span) (checkReturn cx (some a') span) s := by
  cases hr : cx.returnType with
  | none =>
    unfold checkReturn
    simp only [hr]
    exact checkExpr_mimics ha
  | some declared =>
    rw [checkReturn_of_some hr, checkReturn_of_some hr]
    have quiet := checkReturned_quiet declared span
    refine (infer_mimics ha).seq (infer_quiet cx a).blind (fun t => (quiet t).blind)
      (fun t => (quiet t).blind) fun ht => ?_
    rcases ht with ht | ht
    · rw [ht]
      exact .same fun _ => trivial
    · rw [ht]
      exact .of_pure (quiet _) fun _ => ⟨(), rfl, trivial⟩

/-! ### Loops with clauses -/

/-- The condition and the updates of a `for` loop, and its body. -/
def forRest (cx : CheckContext) (condition : Option Expr) (update : List Expr) (body : Stmt) :
    Check Unit := do
  checkForCondition cx condition
  update.forM (checkExpr cx)
  loopBody cx body

theorem checkStmt_forLoop (cx : CheckContext) (init : Option ForInit) (condition : Option Expr)
    (update : List Expr) (body : Stmt) (span : Span) :
    checkStmt cx (.forLoop init condition update body span) = Check.inBlock (do
      checkForInit cx init
      forRest cx condition update body) := by
  conv_lhs => unfold checkStmt
  cases condition <;> rfl

theorem forUpdates_blind (cx : CheckContext) (update : List Expr) (body : Stmt) :
    Blind (do
      update.forM (checkExpr cx)
      loopBody cx body : Check Unit) :=
  (checkExprs_blind cx update).bind fun _ => loopBody_blind cx body

theorem forRest_blind (cx : CheckContext) (condition : Option Expr) (update : List Expr)
    (body : Stmt) : Blind (forRest cx condition update body) :=
  (checkForCondition_quiet cx condition).blind.bind fun _ => forUpdates_blind cx update body

theorem forInit_blind (cx : CheckContext) (init : Option ForInit) : Blind (checkForInit cx init) :=
  (checkForInit_nested cx init).blind

theorem forLoop_blind (cx : CheckContext) (init : Option ForInit) (condition : Option Expr)
    (update : List Expr) (body : Stmt) :
    Blind (do
      checkForInit cx init
      forRest cx condition update body : Check Unit) :=
  (forInit_blind cx init).bind fun _ => forRest_blind cx condition update body

/-- A loop with another first clause. -/
theorem forInit_mimics {init init' : Option ForInit} {condition : Option Expr} {update : List Expr}
    {body : Stmt} {span : Span}
    (h : Mimics new Any (checkForInit cx init) (checkForInit cx init') (pushed s)) :
    Mimics new Any (checkStmt cx (.forLoop init condition update body span))
      (checkStmt cx (.forLoop init' condition update body span)) s := by
  rw [checkStmt_forLoop, checkStmt_forLoop]
  refine Mimics.inBlock (forLoop_blind cx init condition update body) ?_
  exact h.followed (forInit_blind cx init) (forRest_blind cx condition update body) fun _ => trivial

/-- A loop with the same first clause. -/
theorem forRest_mimics {init : Option ForInit} {condition condition' : Option Expr}
    {update update' : List Expr} {body body' : Stmt} {span : Span}
    (h : Mimics new Any (forRest cx condition update body) (forRest cx condition' update' body')
      (checkForInit cx init (pushed s)).2) :
    Mimics new Any (checkStmt cx (.forLoop init condition update body span))
      (checkStmt cx (.forLoop init condition' update' body' span)) s := by
  rw [checkStmt_forLoop, checkStmt_forLoop]
  refine Mimics.inBlock (forLoop_blind cx init condition update body) ?_
  exact .after (forInit_blind cx init) (fun _ => forRest_blind cx condition update body) h

/-- The rest of a `foreach` after its collection is found. -/
def foreachRest (cx : CheckContext) (declared : Option DataType) (var : Ident)
    (iterable span : Span) (body : Stmt) (collection : Option DataType) : Check Unit := do
  requireElements collection declared iterable span
  Check.inBlock do
    Check.declare var.name declared var.span
    loopBody cx body

theorem foreachBlock_blind (cx : CheckContext) (declared : Option DataType) (var : Ident)
    (body : Stmt) :
    Blind (Check.inBlock do
      Check.declare var.name declared var.span
      loopBody cx body) :=
  ((Check.Blind.declare _ _ _).bind fun _ => loopBody_blind cx body).inBlock

theorem foreachRest_blind (cx : CheckContext) (declared : Option DataType) (var : Ident)
    (iterable span : Span) (body : Stmt) (collection : Option DataType) :
    Blind (foreachRest cx declared var iterable span body collection) :=
  (requireElements_quiet _ _ _ _).blind.bind fun _ => foreachBlock_blind cx declared var body

theorem checkStmt_foreach (cx : CheckContext) (type : TypeRef) (var : Ident) (iterable : Expr)
    (body : Stmt) (span : Span) :
    checkStmt cx (.foreach type var iterable body span) = (do
      let declared ← cx.resolveType type.dataType type.span
      let collection ← infer cx iterable
      foreachRest cx declared var iterable.span span body collection) := by
  conv_lhs => unfold checkStmt
  rfl

/-! ## Places -/

/-- An expression of unknown type adds no error to the statement that it stands in. -/
theorem valueSlot_mimics (p : Stmt.ValueSlot)
    (ha : Mimics new Denotation.Weaker (denote cx .value a) (denote cx .value a') (p.start cx s)) :
    Mimics new Any (checkStmt cx (p.fill a)) (checkStmt cx (p.fill a')) s := by
  -- `after`: the same is checked before the expression; `followed`: the same is checked behind it
  cases p with
  | expr span =>
    simp only [Stmt.ValueSlot.fill]
    unfold checkStmt
    exact checkExpr_mimics ha
  | declare decl =>
    simp only [Stmt.ValueSlot.fill]
    unfold checkStmt
    exact checkDeclaration_mimics ha
  | ifCondition yes no span =>
    simp only [Stmt.ValueSlot.fill]
    unfold checkStmt
    have brest : Blind (do
        inBranch yes (checkStmt cx yes)
        checkElse cx no : Check Unit) :=
      (inBranch_blind cx yes).bind fun _ => (checkElse_restores cx no).blind
    exact (checkCondition_mimics ha).followed (checkCondition_quiet cx a).blind brest fun _ => trivial
  | whileCondition body span =>
    simp only [Stmt.ValueSlot.fill]
    unfold checkStmt
    exact (checkCondition_mimics ha).followed (checkCondition_quiet cx a).blind
      (loopBody_blind cx body) fun _ => trivial
  | doCondition body span =>
    simp only [Stmt.ValueSlot.fill]
    unfold checkStmt
    exact .after (loopBody_blind cx body) (fun _ => (checkCondition_quiet cx a).blind)
      (checkCondition_mimics ha)
  | forDeclare decl condition update body span =>
    exact forInit_mimics (checkDeclaration_mimics ha)
  | forExpr before after condition update body span =>
    have hb := fun e => (checkExpr_quiet cx e).blind
    exact forInit_mimics (forM_mimics hb (checkExpr_mimics ha))
  | forCondition init update body span =>
    refine forRest_mimics ?_
    have hc : Mimics new Any (checkForCondition cx (some a)) (checkForCondition cx (some a'))
        (checkForInit cx init (pushed s)).2 := checkCondition_mimics ha
    exact hc.followed (checkForCondition_quiet cx _).blind (forUpdates_blind cx update body)
      fun _ => trivial
  | forUpdate init condition before after body span =>
    have hb := fun e => (checkExpr_quiet cx e).blind
    refine forRest_mimics ?_
    refine .after (checkForCondition_quiet cx condition).blind
      (fun _ => forUpdates_blind cx _ body) ?_
    exact (forM_mimics hb (checkExpr_mimics ha)).followed (checkExprs_blind cx _)
      (loopBody_blind cx body) fun _ => trivial
  | iterable type var body span =>
    simp only [Stmt.ValueSlot.fill]
    rw [checkStmt_foreach, checkStmt_foreach]
    have brest : ∀ (sp : Span) (declared collection : Option DataType),
        Blind (foreachRest cx declared var sp span body collection) :=
      fun _ _ _ => foreachRest_blind cx _ var _ span body _
    refine .after (resolveType_quiet cx _ _).blind
      (fun declared => (infer_quiet cx a).blind.bind (brest a.span declared)) ?_
    refine (infer_mimics ha).seq (infer_quiet cx a).blind (brest a.span _) (brest a'.span _)
      fun hc => ?_
    exact (requireElements_mimics hc).followed (requireElements_quiet _ _ _ _).blind
      (foreachBlock_blind cx _ var body) fun _ => trivial
  | ret span =>
    simp only [Stmt.ValueSlot.fill]
    unfold checkStmt
    exact checkReturn_mimics ha

theorem checkStmts_mimics {before after : List Stmt}
    (h : Mimics new Any (checkStmt cx b) (checkStmt cx b') (checkStmts cx before s).2) :
    Mimics new Any (checkStmts cx (before ++ b :: after)) (checkStmts cx (before ++ b' :: after)) s := by
  induction before generalizing s with
  | nil =>
    simp only [List.nil_append]
    unfold checkStmts
    exact h.followed (checkStmt_blind cx b) (checkStmts_nested cx after).blind fun _ => trivial
  | cons d before ih =>
    unfold checkStmts at h
    simp only [List.cons_append]
    unfold checkStmts
    exact .after (checkStmt_blind cx d) (fun _ => (checkStmts_nested cx _).blind) (ih h)

/-- A statement reports what a statement inside it reports. -/
theorem stmtSlot_mimics (p : Stmt.Slot) (hblock : b.isBlock = b'.isBlock)
    (hb : Mimics new Any (checkStmt cx b) (checkStmt cx b') (p.start cx b s)) :
    Mimics new Any (checkStmt cx (p.fill b)) (checkStmt cx (p.fill b')) s := by
  -- whether a branch is a block decides where it is checked, so both are blocks or neither is
  cases p with
  | block before after span =>
    simp only [Stmt.Slot.fill]
    unfold checkStmt
    exact (checkStmts_mimics hb).inBlock (checkStmts_nested cx _).blind
  | ifYes condition no span =>
    simp only [Stmt.Slot.fill]
    unfold checkStmt
    refine .after (checkCondition_quiet cx condition).blind
      (fun _ => (inBranch_blind cx b).bind fun _ => (checkElse_restores cx no).blind) ?_
    exact (inBranch_mimics hblock hb).followed (inBranch_blind cx b)
      (checkElse_restores cx no).blind fun _ => trivial
  | ifNo condition yes span =>
    simp only [Stmt.Slot.fill]
    unfold checkStmt
    refine .after (checkCondition_quiet cx condition).blind
      (fun _ => (inBranch_blind cx yes).bind fun _ => (checkElse_restores cx _).blind) ?_
    refine .after (inBranch_blind cx yes) (fun _ => (checkElse_restores cx _).blind) ?_
    unfold checkElse
    exact inBranch_mimics hblock hb
  | whileBody condition span =>
    simp only [Stmt.Slot.fill]
    unfold checkStmt
    exact .after (checkCondition_quiet cx condition).blind (fun _ => loopBody_blind cx b)
      (loopBody_mimics hblock hb)
  | doBody condition span =>
    simp only [Stmt.Slot.fill]
    unfold checkStmt
    exact (loopBody_mimics hblock hb).followed (loopBody_blind cx b)
      (checkCondition_quiet cx condition).blind fun _ => trivial
  | forBody init condition update span =>
    refine forRest_mimics ?_
    refine .after (checkForCondition_quiet cx condition).blind
      (fun _ => forUpdates_blind cx update b) ?_
    exact .after (checkExprs_blind cx update) (fun _ => loopBody_blind cx b)
      (loopBody_mimics hblock hb)
  | foreachBody type var iterable span =>
    simp only [Stmt.Slot.fill]
    rw [checkStmt_foreach, checkStmt_foreach]
    have bdeclare := Check.Blind.declare var.name
    refine .after (resolveType_quiet cx _ _).blind (fun declared => (infer_quiet cx iterable).blind.bind
      fun _ => foreachRest_blind cx declared var _ span b _) ?_
    refine .after (infer_quiet cx iterable).blind (fun _ => foreachRest_blind cx _ var _ span b _) ?_
    refine .after (requireElements_quiet _ _ _ _).blind (fun _ => foreachBlock_blind cx _ var b) ?_
    refine Mimics.inBlock ((bdeclare _ _).bind fun _ => loopBody_blind cx b) ?_
    exact .after (bdeclare _ _) (fun _ => loopBody_blind cx b) (loopBody_mimics hblock hb)

theorem stmtPlug_mimics (hblock : b.isBlock = b'.isBlock) {ps : List Stmt.Slot}
    (hb : Mimics new Any (checkStmt cx b) (checkStmt cx b') (Stmt.startAll cx b ps s)) :
    Mimics new Any (checkStmt cx (Stmt.plug ps b)) (checkStmt cx (Stmt.plug ps b')) s := by
  induction ps generalizing s with
  | nil => exact hb
  | cons p ps ih => exact stmtSlot_mimics p (Stmt.plug_isBlock hblock ps) (ih hb)

/-- The body of a method with a name that denotes nothing is checked as before, but for the one error
about the name. -/
theorem fill_mimics (cx : CheckContext) (o : Occurrence) {e : Expr} {x : Ident}
    (hx : Unresolved cx (o.start cx e s).scope x.name)
    (hchoice : ChoosesAround cx (o.start cx e s) o.inner e (.name x)) :
    Mimics [undefinedName x] Any (checkStmts cx (o.fill e)) (checkStmts cx (o.fill (.name x))) s := by
  refine checkStmts_mimics (stmtPlug_mimics (o.slot.fill_isBlock _ _) ?_)
  exact valueSlot_mimics o.slot (plug_mimics hx hchoice .value _ (.refl _))

end Typing

end ClassScript
