import ClassScript.Proofs.Cascade.Statements
import ClassScript.Proofs.Typing.Signature

/-!
# One error for a name that denotes nothing

A class is checked without an error. Then an expression in the body of one of its methods is replaced
by a bare name that denotes nothing. Checking the class reports exactly one error, about the name
(`unresolved_name_is_one_error`), unless the unknown type makes an overload be chosen that has another
result or may not be called. It does not matter that the class, and the table that it is looked up
in, hold the new body: checking looks at signatures only.

An unknown argument counts as equal to every parameter, so it may make another overload be chosen, and
then there are more errors (`unknown_argument_cascades`).
-/

namespace ClassScript

/-- The class `c'` is `c` with other statements in the method `k`. -/
structure ClassInfo.Rebodied (c c' : ClassInfo) (k : MethodInfo) (stmts : List Stmt) : Prop where
  signature : c'.signature = c.signature
  inner : c'.inner = c.inner
  methods : ∃ before after, c.ownMethods = before ++ k :: after ∧
    c'.ownMethods = before ++ { k with body := .script stmts } :: after

theorem ClassInfo.Rebodied.ownFields {c c' : ClassInfo} {k : MethodInfo} {stmts : List Stmt}
    (h : c.Rebodied c' k stmts) : c'.ownFields = c.ownFields := by
  have hi := congrArg ClassInfo.instanceFields h.signature
  have hs := congrArg ClassInfo.staticFields h.signature
  rw [signature_instanceFields, signature_instanceFields] at hi
  rw [signature_staticFields, signature_staticFields] at hs
  unfold ClassInfo.ownFields
  rw [hi, hs]

namespace Typing

open Check (Blind Clean Quiet Mimics Any)

variable {t t' : ClassTable} {c c' : ClassInfo} {cx : CheckContext} {s s' : CheckState}

/-! ## Classes -/

/-- A class is checked as its fields, its methods and its inner classes. -/
theorem checkClass_own (t : ClassTable) (c : ClassInfo) : checkClass t c = (do
    c.ownFields.forM (checkField t c)
    c.ownMethods.forM (checkMethod t c)
    checkClasses t c.inner) := by
  rw [checkClass_eq]
  unfold ClassInfo.ownFields ClassInfo.ownMethods
  simp only [List.forM_eq_forM, List.forM_append, bind_assoc]

/-! ## The state at an occurrence does not depend on what was reported -/

theorem branchStart_like (b : Stmt) (h : s.Like s') : (branchStart b s).Like (branchStart b s') := by
  rw [branchStart_eq, branchStart_eq]
  split
  · exact h
  · exact ⟨congrArg LocalScope.push h.scope, h.loopDepth⟩

theorem pushed_like (h : s.Like s') : (pushed s).Like (pushed s') :=
  ⟨congrArg LocalScope.push h.scope, h.loopDepth⟩

theorem looped_like (h : s.Like s') : (looped s).Like (looped s') :=
  ⟨h.scope, congrArg (· + 1) h.loopDepth⟩

theorem clausesEnd_like (init : Option ForInit) (condition : Option Expr) (update : List Expr)
    (h : s.Like s') :
    (Stmt.clausesEnd cx init condition update s).Like (Stmt.clausesEnd cx init condition update s') :=
  (checkExprs_blind cx update).like <| (checkForCondition_quiet cx condition).blind.like <|
    (forInit_blind cx init).like h

theorem declStart_like (p : VarDecl.Slot) (h : s.Like s') : (p.start cx s).Like (p.start cx s') := by
  have bt := (resolveType_quiet cx p.type.dataType p.type.span).blind
  have bd : ∀ declared, Blind (p.before.forM (checkDeclarator cx declared)) := fun declared =>
    Blind.forM (fun v => (checkDeclarator_nested cx declared v).blind) _
  unfold VarDecl.Slot.start
  dsimp only
  rw [bt.result h]
  exact (bd _).like (bt.like h)

theorem valueStart_like (p : Stmt.ValueSlot) (h : s.Like s') :
    (p.start cx s).Like (p.start cx s') := by
  cases p with
  | expr | ifCondition | whileCondition | ret => exact h
  | declare decl => exact declStart_like decl h
  | doCondition body span => exact (loopBody_blind cx body).like h
  | forDeclare decl condition update body span => exact declStart_like decl (pushed_like h)
  | forExpr before after condition update body span =>
    exact (checkExprs_blind cx before).like (pushed_like h)
  | forCondition init update body span => exact (forInit_blind cx init).like (pushed_like h)
  | forUpdate init condition before after body span =>
    exact clausesEnd_like init condition before (pushed_like h)
  | iterable type var body span => exact (resolveType_quiet cx _ _).blind.like h

theorem foreachStart_like (cx : CheckContext) (type : TypeRef) (iterable : Expr) (span : Span) (h : s.Like s') :
    (foreachStart cx type iterable span s').1 = (foreachStart cx type iterable span s).1 ∧
      (foreachStart cx type iterable span s).2.Like (foreachStart cx type iterable span s').2 := by
  have bt := (resolveType_quiet cx type.dataType type.span).blind
  have bi := (infer_quiet cx iterable).blind
  refine ⟨bt.result h, ?_⟩
  unfold foreachStart
  dsimp only
  rw [bt.result h, bi.result (bt.like h)]
  exact pushed_like ((requireElements_quiet _ _ _ _).blind.like (bi.like (bt.like h)))

theorem stmtStart_like (p : Stmt.Slot) (b : Stmt) (h : s.Like s') :
    (p.start cx b s).Like (p.start cx b s') := by
  have bc := fun e => (checkCondition_quiet cx e).blind
  cases p with
  | block before after span => exact (checkStmts_nested cx before).blind.like (pushed_like h)
  | ifYes condition no span => exact branchStart_like b ((bc condition).like h)
  | ifNo condition yes span =>
    exact branchStart_like b ((inBranch_blind cx yes).like ((bc condition).like h))
  | whileBody condition span => exact branchStart_like b (looped_like ((bc condition).like h))
  | doBody condition span => exact branchStart_like b (looped_like h)
  | forBody init condition update span =>
    exact branchStart_like b (looped_like (clausesEnd_like init condition update (pushed_like h)))
  | foreachBody type var iterable span =>
    obtain ⟨hdeclared, hlike⟩ := foreachStart_like cx type iterable span h
    refine branchStart_like b (looped_like ?_)
    rw [hdeclared]
    exact (Check.Blind.declare _ _ _).like hlike

theorem startAll_like (b : Stmt) : ∀ (ps : List Stmt.Slot) {s s' : CheckState}, s.Like s' →
    (Stmt.startAll cx b ps s).Like (Stmt.startAll cx b ps s')
  | [], _, _, h => h
  | p :: ps, _, _, h => startAll_like b ps (stmtStart_like p _ h)

theorem start_like (cx : CheckContext) (o : Occurrence) (e : Expr) (h : s.Like s') :
    (o.start cx e s).Like (o.start cx e s') :=
  valueStart_like o.slot (startAll_like _ o.outer ((checkStmts_nested cx o.before).blind.like h))

/-! ## Methods and classes -/

/-- Every method starts with no local variables, outside of every loop. -/
theorem memberStart_like (s s' : CheckState) : (memberStart s).Like (memberStart s') := ⟨rfl, rfl⟩

theorem bodyContext_eq (t : ClassTable) (c : ClassInfo) (k : MethodInfo) (s s' : CheckState) :
    bodyContext t c k s' = bodyContext t c k s := by
  unfold bodyContext
  rw [(declaredResult_quiet k).blind.result (memberStart_like s s')]

theorem bodyStart_like (t : ClassTable) (c : ClassInfo) (k : MethodInfo) (s s' : CheckState) :
    (bodyStart t c k s).Like (bodyStart t c k s') := by
  unfold bodyStart
  rw [bodyContext_eq t c k s s']
  exact (declareParams_nested _ _ _).blind.like <|
    (declaredResult_quiet k).blind.like (memberStart_like s s')

variable {k : MethodInfo} {o : Occurrence} {e : Expr} {x : Ident}

/-- The local variables, and the class, that checking sees at an occurrence in the body of `k`. -/
def occurrenceState (t : ClassTable) (c : ClassInfo) (k : MethodInfo) (o : Occurrence) (e : Expr) :
    CheckState :=
  o.start (bodyContext t c k {}) e (bodyStart t c k {})

theorem body_mimics (hx : Unresolved (bodyContext t c k {}) (occurrenceState t c k o e).scope x.name)
    (hchoice : ChoosesAround (bodyContext t c k {}) (occurrenceState t c k o e) o.inner e (.name x))
    (s : CheckState) :
    Mimics [undefinedName x] Any (checkBody t c k (o.fill e)) (checkBody t c k (o.fill (.name x)))
      (memberStart s) := by
  have hcx := bodyContext_eq t c k {} s
  have hlike := start_like (bodyContext t c k {}) o e (bodyStart_like t c k {} s)
  have bparams := fun result => declareParams_nested ⟨t, c, result, k.isStatic⟩ k.params k.span
  have bstmts := fun result stmts => checkStmts_nested ⟨t, c, result, k.isStatic⟩ stmts
  unfold checkBody
  refine .after (declaredResult_quiet k).blind
    (fun result => ((bparams result).bind fun _ => bstmts result _).blind) ?_
  refine .after (bparams _).blind (fun _ => (bstmts _ _).blind) ?_
  refine fill_mimics (bodyContext t c k s) o (s := bodyStart t c k s) ?_ ?_
  -- the fields and methods before may have reported, which changes no local variable
  · rw [hcx, hlike.scope]
    exact hx
  · rw [hcx]
    exact fun inner hinner => (hchoice inner hinner).like hlike

theorem method_mimics (hk : k.body = .script (o.fill e))
    (hx : Unresolved (bodyContext t c k {}) (occurrenceState t c k o e).scope x.name)
    (hchoice : ChoosesAround (bodyContext t c k {}) (occurrenceState t c k o e) o.inner e (.name x))
    (s : CheckState) :
    Mimics [undefinedName x] Any (checkMethod t c k)
      (checkMethod t c { k with body := .script (o.fill (.name x)) }) s := by
  intro hclean
  have hbody := body_mimics hx hchoice s
  unfold checkMethod at hclean ⊢
  rw [hk] at hclean ⊢
  dsimp only at hclean ⊢
  obtain ⟨log, hrun⟩ := checkSignatureAndBody_run t c k (o.fill e) s
  obtain ⟨log', hrun'⟩ := checkSignatureAndBody_run t c
    { k with body := .script (o.fill (.name x)) } (o.fill (.name x)) s
  unfold Clean at hclean
  rw [hrun] at hclean ⊢
  rw [hrun']
  obtain ⟨-, hlike, herrors⟩ := hbody hclean
  exact ⟨trivial, ⟨hlike.scope, hlike.loopDepth⟩, herrors⟩

theorem checkClass_mimics (ht : t'.signature = t.signature) (hk : k.body = .script (o.fill e))
    (hc : c.Rebodied c' k (o.fill (.name x)))
    (hx : Unresolved (bodyContext t c k {}) (occurrenceState t c k o e).scope x.name)
    (hchoice : ChoosesAround (bodyContext t c k {}) (occurrenceState t c k o e) o.inner e (.name x))
    (s : CheckState) : Mimics [undefinedName x] Any (checkClass t c) (checkClass t' c') s := by
  obtain ⟨before, after, hown, hown'⟩ := hc.methods
  have bfields := Blind.forM (checkField_blind t c) c.ownFields
  have bmethods := Blind.forM (checkMethod_blind t c)
  have binner := checkClasses_blind t c.inner
  have hmethods : Mimics [undefinedName x] Any (c.ownMethods.forM (checkMethod t c))
      (c'.ownMethods.forM (checkMethod t c)) (c.ownFields.forM (checkField t c) s).2 := by
    rw [hown, hown']
    exact forM_mimics (checkMethod_blind t c) (method_mimics hk hx hchoice _)
  have tables := ClassTable.like_of_signature ht
  have classes := ClassInfo.like_of_signature hc.signature
  rw [checkClass_own, checkClass_own, funext (checkField_outlined tables classes),
    funext (checkMethod_outlined tables classes), hc.ownFields, hc.inner,
    checkClasses_outlined tables]
  refine .after bfields (fun _ => (bmethods _).bind fun _ => binner) ?_
  exact hmethods.followed (bmethods _) binner fun _ => trivial

end Typing

open Typing

/-- A class is checked without an error. With an expression in the body of a method replaced by a name
that denotes nothing, exactly one error is reported, about the name; provided that the overloads
chosen around the occurrence have the same result or an unknown one, and may be called. -/
theorem unresolved_name_is_one_error {t t' : ClassTable} {c c' : ClassInfo} {k : MethodInfo}
    {o : Occurrence} {e : Expr} {x : Ident} {s : CheckState} (ht : t'.signature = t.signature)
    (hk : k.body = .script (o.fill e)) (hc : c.Rebodied c' k (o.fill (.name x)))
    (hclean : Check.Clean (checkClass t c) s)
    (hx : Unresolved (bodyContext t c k {}) (occurrenceState t c k o e).scope x.name)
    (hchoice : ChoosesAround (bodyContext t c k {}) (occurrenceState t c k o e) o.inner e (.name x)) :
    ∃ error : CheckError, (checkClass t' c' s).2.errors = s.errors ++ [error] ∧
      error.message = "variable " ++ x.name ++ " is not defined" ∧ error.span = x.span := by
  obtain ⟨-, -, herrors⟩ := checkClass_mimics ht hk hc hx hchoice s hclean
  exact ⟨undefinedName x, herrors, undefinedName_message x, rfl⟩

/-! ### An overloaded call with an unknown argument -/

/-- The target of an assignment, an increment or a decrement. -/
def Expr.Slot.isTarget : Expr.Slot → Bool
  | .target .. | .stepped .. => true
  | .operand op _ => op.mutates
  | _ => false

/-- A method `pick`, with a parameter and a result of one type. -/
def pick (type : DataType) (result : Literal) : MethodInfo :=
  ⟨"pick", .static, some type, [⟨"p", type⟩], .script [.ret (some (.literal result .unknown)) .unknown],
    .unknown⟩

def pickInteger : MethodInfo := pick .integer (.integer 0)

def pickString : MethodInfo := pick .string (.string "")

/-- `while (true) Integer n = pick(□) + 2;` -/
def pickArgument : Occurrence where
  before := []
  outer := [.whileBody (.literal (.boolean true) .unknown) .unknown]
  slot := .declare ⟨⟨⟨"Integer", .unknown⟩, [], .unknown⟩, [], ⟨"n", .unknown⟩, .unknown, [], .unknown⟩
  inner := [.left .add (.literal (.integer 2) .unknown) .unknown,
    .argument ⟨"pick", .unknown⟩ [] [] .unknown]
  after := []

/-- The method with the expression as the argument. -/
def pickingMethod (e : Expr) : MethodInfo :=
  ⟨"run", .static, none, [], .script (pickArgument.fill e), .unknown⟩

/-- A class with the overloads, in this order, and the method. -/
def pickingClass (picks : List MethodInfo) (e : Expr) : ClassInfo :=
  { ClassInfo.blank "Main" .none with
    staticMethods := NameTable.insert (.insert .empty "pick" picks) "run" [pickingMethod e] }

def pickingTable (picks : List MethodInfo) (e : Expr) : ClassTable :=
  ClassTable.initial.add (pickingClass picks e)

theorem pickingTable_signature (picks : List MethodInfo) (e e' : Expr) :
    (pickingTable picks e').signature = (pickingTable picks e).signature := by
  have hclass : (pickingClass picks e').signature = (pickingClass picks e).signature := rfl
  simp only [pickingTable, ClassTable.signature, ClassTable.add, List.map_append, List.map_cons, hclass]

theorem pickingClass_rebodied (picks : List MethodInfo) (e e' : Expr) :
    (pickingClass picks e).Rebodied (pickingClass picks e') (pickingMethod e) (pickArgument.fill e') :=
  ⟨rfl, rfl, picks, [], rfl, rfl⟩

/-- The expression that is replaced. -/
def one : Expr := .literal (.integer 1) .unknown

/-- A name that denotes nothing in the class. -/
def nothing : Ident := ⟨"nothing", .unknown⟩

/-- Where the method is checked, and what is declared at the argument. -/
def pickingContext (picks : List MethodInfo) : CheckContext :=
  bodyContext (pickingTable picks one) (pickingClass picks one) (pickingMethod one) {}

def pickingState (picks : List MethodInfo) : CheckState :=
  occurrenceState (pickingTable picks one) (pickingClass picks one) (pickingMethod one) pickArgument one

theorem nothing_unresolved {picks : List MethodInfo}
    (hlocal : (pickingState picks).scope.isDeclared nothing.name = false)
    (hclass : ((pickingTable picks one).resolve? nothing.name).isNone = true) :
    Unresolved (pickingContext picks) (pickingState picks).scope nothing.name where
  isLocal := hlocal
  instanceField := rfl
  staticField := rfl
  isClass := Option.isNone_iff_eq_none.1 hclass

/-- Whether the overload that is chosen has the result Integer. -/
def choosesInteger (picks : List MethodInfo) (e : Expr) : Bool :=
  ((selection? (pickingContext picks) e (pickingState picks)).bind fun sel =>
    (sel.method? (pickingTable picks one)).bind sel.type).any
      fun d => d.name == "Integer" && d.args.isEmpty

theorem type_of_choosesInteger {picks : List MethodInfo} {e : Expr} (h : choosesInteger picks e = true)
    {sel : Selection} {k : MethodInfo}
    (hsel : selection? (pickingContext picks) e (pickingState picks) = some sel)
    (hk : sel.method? (pickingTable picks one) = some k) : sel.type k = some .integer := by
  unfold choosesInteger at h
  rw [hsel, Option.bind_some, hk, Option.bind_some] at h
  obtain ⟨⟨name, args⟩, htype, hd⟩ := (Option.any_eq_true _ _).1 h
  simp only [Bool.and_eq_true, beq_iff_eq, List.isEmpty_iff] at hd
  obtain ⟨rfl, rfl⟩ := hd
  exact htype

/-- With the Integer overload first, `pick(nothing)` has the type of `pick(1)`, and there is one
error. -/
theorem unresolved_argument_is_one_error :
    ∃ error : CheckError, (checkClass (pickingTable [pickInteger, pickString] (.name nothing))
        (pickingClass [pickInteger, pickString] (.name nothing)) {}).2.errors = [] ++ [error] ∧
      error.message = "variable " ++ "nothing" ++ " is not defined" ∧ error.span = .unknown := by
  refine unresolved_name_is_one_error (o := pickArgument) (e := one) (x := nothing)
    (pickingTable_signature _ one _) rfl (pickingClass_rebodied _ one (.name nothing))
    (List.isEmpty_iff.1 (by decide +kernel))
    (nothing_unresolved (by decide +kernel) (by decide +kernel)) ?_
  intro inner hinner sel k sel' k' hsel hk hsel' hk'
  simp only [pickArgument, List.suffix_cons_iff, List.suffix_nil] at hinner
  rcases hinner with rfl | rfl | rfl
  · cases hsel
  · have htype := type_of_choosesInteger (by decide +kernel) hsel hk
    have htype' := type_of_choosesInteger (by decide +kernel) hsel' hk'
    exact ⟨.inl (htype'.trans htype.symm), trivial⟩
  · cases hsel

/-- The choice of overloads matters. With the String overload first, `pick(nothing)` is a String, and
the initializer is reported as well. -/
theorem unknown_argument_cascades :
    ¬ ∀ (t t' : ClassTable) (c c' : ClassInfo) (k : MethodInfo) (o : Occurrence) (e : Expr)
        (x : Ident), t'.signature = t.signature → k.body = .script (o.fill e) →
      c.Rebodied c' k (o.fill (.name x)) → Check.Clean (checkClass t c) {} →
      Unresolved (bodyContext t c k {}) (occurrenceState t c k o e).scope x.name →
      (∀ p, o.inner.getLast? = some p → p.isTarget = false) →
      ∃ error : CheckError, (checkClass t' c' {}).2.errors = [error] ∧
        error.message = "variable " ++ x.name ++ " is not defined" ∧ error.span = x.span := by
  intro h
  obtain ⟨error, herrors, -⟩ := h _ _ _ _ _ pickArgument one nothing
    (pickingTable_signature [pickString, pickInteger] one _) rfl
    (pickingClass_rebodied _ _ _) (List.isEmpty_iff.1 (by decide +kernel))
    (nothing_unresolved (by decide +kernel) (by decide +kernel)) (by rintro _ ⟨⟩; rfl)
  have htwo : (checkClass (pickingTable [pickString, pickInteger] (.name nothing))
      (pickingClass [pickString, pickInteger] (.name nothing)) {}).2.errors.length = 2 := by
    decide +kernel
  rw [herrors] at htwo
  cases htwo

end ClassScript
