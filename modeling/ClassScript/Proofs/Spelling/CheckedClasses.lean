import ClassScript.Proofs.Spelling.Checking
import Mathlib.Data.List.Flatten

/-!
# Checking classes in other spellings

Statements and classes are checked alike in both spellings. A class is compared in two ways: what
look-ups read of it, as of every class (`ClassInfo.Like ρ`), and its own bodies and initializers,
which have to be the same up to spelling (`Likeness.spelled`).

Main statements: `Typing.checkClass_like` for a class and `Typing.checkTable_like` for a table. For
equal names (`Likeness.outlined`) both checks are one computation (`Typing.checkClass_outlined`).
-/

namespace ClassScript

/-- What runs, in two spellings. -/
inductive MethodBody.Spelled (σ : Spelling) : MethodBody → MethodBody → Prop
  | script {ss ss' : List Stmt} : List.Forall₂ (Stmt.Spelled σ) ss ss' →
      MethodBody.Spelled σ (.script ss) (.script ss')
  | native (method : NativeMethod) : MethodBody.Spelled σ (.native method) (.native method)
  | abstract : MethodBody.Spelled σ .abstract .abstract

/-- Classes that are the same up to spelling, also inside bodies and initializers. -/
def Likeness.spelled (σ : Spelling) : Likeness :=
  ⟨σ, MethodBody.Spelled σ, Option.Rel (Expr.Spelled σ)⟩

/-- Classes with the same names and types; bodies and initializers are not compared. -/
def Likeness.outlined : Likeness := ⟨.exact, fun _ _ => True, fun _ _ => True⟩

theorem MethodBody.Spelled.refl {σ : Spelling} : ∀ b : MethodBody, b.Spelled σ b
  | .script ss => .script (Stmt.Spelled.reflAll ss)
  | .native method => .native method
  | .abstract => .abstract

theorem MethodInfo.Like.spelled_refl {σ : Spelling} (m : MethodInfo) : m.Like (.spelled σ) m :=
  .refl MethodBody.Spelled.refl m

theorem FieldInfo.Like.spelled_refl {σ : Spelling} (f : FieldInfo) : f.Like (.spelled σ) f :=
  .refl (rel_refl Expr.Spelled.refl) f

theorem ClassInfo.Like.spelled_refl {σ : Spelling} (c : ClassInfo) : c.Like (.spelled σ) c :=
  .refl MethodBody.Spelled.refl (rel_refl Expr.Spelled.refl) c

theorem ClassInfo.Like.outlined_refl (c : ClassInfo) : c.Like .outlined c :=
  .refl (fun _ => trivial) (fun _ => trivial) c

namespace Typing

open Check (Like)

variable {ρ : Likeness} {cx cx' : CheckContext}

/-! ## Statements -/

section

variable (h : cx.Like ρ cx')
include h

theorem checkCondition_like {e e' : Expr} (he : e.Spelled ρ.spelling e') :
    Like ρ.spelling (fun _ _ => True) (checkCondition cx e) (checkCondition cx' e') := by
  unfold checkCondition
  rw [he.span]
  exact (infer_like h he).bind fun _ _ ht => requireCondition_like ht _

theorem checkStored_like {e e' : Expr} (he : e.Spelled ρ.spelling e') {d d' : Option DataType}
    (hd : DataType.SpelledOrUnknown ρ d d') :
    Like ρ.spelling (fun _ _ => True) (checkStored cx e d) (checkStored cx' e' d') := by
  unfold checkStored
  rw [he.span]
  exact (infer_like h he).bind fun _ _ ht => requireFits_like ht hd _

theorem checkExpr_like {e e' : Expr} (he : e.Spelled ρ.spelling e') :
    Like ρ.spelling (fun _ _ => True) (checkExpr cx e) (checkExpr cx' e') :=
  (infer_like h he).bind fun _ _ _ => .pure trivial

theorem checkExprs_like {es es' : List Expr} (hes : List.Forall₂ (Expr.Spelled ρ.spelling) es es') :
    Like ρ.spelling (fun _ _ => True) (es.forM (checkExpr cx)) (es'.forM (checkExpr cx')) :=
  .forM hes fun he => checkExpr_like h he

theorem checkDeclarator_like {d d' : Option DataType} (hd : DataType.SpelledOrUnknown ρ d d')
    {v w : Declarator} (hv : v.Spelled ρ.spelling w) :
    Like ρ.spelling (fun _ _ => True) (checkDeclarator cx d v) (checkDeclarator cx' d' w) := by
  obtain ⟨name, init, span⟩ := v
  obtain ⟨name', init', span'⟩ := w
  obtain ⟨rfl, hinit, rfl⟩ := hv
  unfold checkDeclarator
  cases hinit with
  | none => exact .declare _ hd _
  | some he => exact .seq (checkStored_like h he hd) (.declare _ hd _)

theorem checkDeclaration_like {d d' : VarDecl} (hd : d.Spelled ρ.spelling d') :
    Like ρ.spelling (fun _ _ => True) (checkDeclaration cx d) (checkDeclaration cx' d') := by
  unfold checkDeclaration
  rw [hd.type.span]
  exact (h.resolveType hd.type.dataType _).bind fun _ _ ht =>
    .forM hd.vars fun hv => checkDeclarator_like h ht hv

theorem checkForInit_like {init init' : Option ForInit}
    (hinit : Option.Rel (ForInit.Spelled ρ.spelling) init init') :
    Like ρ.spelling (fun _ _ => True) (checkForInit cx init) (checkForInit cx' init') := by
  unfold checkForInit
  cases hinit with
  | none => exact .pure trivial
  | some hinit =>
    cases hinit with
    | declare hd => exact checkDeclaration_like h hd
    | exprs hes => exact checkExprs_like h hes

omit h in
theorem requireElements_like {c c' d d' : Option DataType} (hc : DataType.SpelledOrUnknown ρ c c')
    (hd : DataType.SpelledOrUnknown ρ d d') (iterable span : Span) :
    Like ρ.spelling (fun _ _ => True) (requireElements c d iterable span)
      (requireElements c' d' iterable span) := by
  unfold requireElements
  cases hc with
  | none => exact .pure trivial
  | some hc =>
    dsimp only
    rw [hc.isList, List.head?_eq_getElem?, List.head?_eq_getElem?]
    split
    · exact requireFits_like (getElem?_paired hc.args 0) hd span
    · exact .report (.notIterable hc) _

theorem checkReturn_like {e e' : Option Expr} (he : Option.Rel (Expr.Spelled ρ.spelling) e e')
    (span : Span) :
    Like ρ.spelling (fun _ _ => True) (checkReturn cx e span) (checkReturn cx' e' span) := by
  unfold checkReturn
  have hr := h.returnType
  generalize cx.returnType = r, cx'.returnType = r' at hr
  cases hr with
  | none =>
    cases he with
    | none => exact .pure trivial
    | some he => exact checkExpr_like h he
  | some hr =>
    cases he with
    | none =>
      dsimp only
      rw [hr.isVoid]
      split
      · exact .pure trivial
      · exact .report (.returnMismatch (.refl _) hr) span
    | some he =>
      refine (infer_like h he).bind fun x y ht => ?_
      cases ht with
      | none => exact .pure trivial
      | some ht =>
        dsimp only
        rw [hr.isVoid, ht.fitsExactly hr]
        split
        · exact .pure trivial
        · exact .report (.returnMismatch ht hr) span

omit h in
theorem requireLoop_like {v : Violation} (hv : v.Spelled ρ.spelling v) (span : Span) :
    Like ρ.spelling (fun _ _ => True) (requireLoop v span) (requireLoop v span) := by
  unfold requireLoop
  refine .bind .get fun s s' hs => ?_
  rw [hs.loopDepth]
  split
  · exact .report hv span
  · exact .pure trivial

omit h in
theorem inBranch_like {s s' : Stmt} (hs : s.Spelled ρ.spelling s') {x y : Check Unit}
    (hxy : Like ρ.spelling (fun _ _ => True) x y) :
    Like ρ.spelling (fun _ _ => True) (inBranch s x) (inBranch s' y) := by
  cases hs with
  | block _ => exact hxy
  | _ => exact hxy.inBlock

omit h in
mutual

/-- A statement in two spellings is checked alike. -/
theorem checkStmt_like (h : cx.Like ρ cx') : ∀ {s s' : Stmt}, s.Spelled ρ.spelling s' →
    Like ρ.spelling (fun _ _ => True) (checkStmt cx s) (checkStmt cx' s')
  | .expr e _, _, .expr he => by
    unfold checkStmt
    exact checkExpr_like h he
  | .declare d, _, .declare hd => by
    unfold checkStmt
    exact checkDeclaration_like h hd
  | .block ss _, _, .block hss => by
    unfold checkStmt
    exact (checkStmts_like h hss).inBlock
  | .ifElse c y n _, _, .ifElse hc hy hn => by
    unfold checkStmt
    exact .seq (checkCondition_like h hc) (.seq (inBranch_like hy (checkStmt_like h hy))
      (checkElse_like h hn))
  | .whileLoop c b _, _, .whileLoop hc hb => by
    unfold checkStmt
    exact .seq (checkCondition_like h hc) (inBranch_like hb (checkStmt_like h hb)).inLoop
  | .doWhile b c _, _, .doWhile hb hc => by
    unfold checkStmt
    exact .seq (inBranch_like hb (checkStmt_like h hb)).inLoop (checkCondition_like h hc)
  | .forLoop init c us b _, _, .forLoop hinit hc hus hb => by
    have rest := Like.seq (checkExprs_like h hus) (inBranch_like hb (checkStmt_like h hb)).inLoop
    unfold checkStmt
    refine (Like.seq (checkForInit_like h hinit) ?_).inBlock
    cases hc with
    | none => exact rest
    | some hc => exact .seq (checkCondition_like h hc) rest
  | .foreach t var e b span, .foreach t' _ e' b' _, .foreach ht he hb => by
    unfold checkStmt
    rw [ht.span, he.span]
    refine (h.resolveType ht.dataType _).bind fun d d' hd => (infer_like h he).bind
      fun c c' hc => .seq (requireElements_like hc hd _ _) (Like.inBlock ?_)
    exact .seq (.declare _ hd _) (inBranch_like hb (checkStmt_like h hb)).inLoop
  | .ret e span, _, .ret he => by
    unfold checkStmt
    exact checkReturn_like h he span
  | .brk span, _, .brk => by
    unfold checkStmt
    exact requireLoop_like .breakOutsideLoop span
  | .cont span, _, .cont => by
    unfold checkStmt
    exact requireLoop_like .continueOutsideLoop span

theorem checkElse_like (h : cx.Like ρ cx') : ∀ {s s' : Option Stmt},
    Option.Rel (Stmt.Spelled ρ.spelling) s s' →
      Like ρ.spelling (fun _ _ => True) (checkElse cx s) (checkElse cx' s')
  | none, _, .none => by
    unfold checkElse
    exact .pure trivial
  | some s, _, .some hs => by
    unfold checkElse
    exact inBranch_like hs (checkStmt_like h hs)

theorem checkStmts_like (h : cx.Like ρ cx') : ∀ {ss ss' : List Stmt},
    List.Forall₂ (Stmt.Spelled ρ.spelling) ss ss' →
      Like ρ.spelling (fun _ _ => True) (checkStmts cx ss) (checkStmts cx' ss')
  | [], [], _ => by
    unfold checkStmts
    exact .pure trivial
  | s :: ss, s' :: ss', .cons hs hss => by
    unfold checkStmts
    exact .seq (checkStmt_like h hs) (checkStmts_like h hss)

end

end

/-! ## Members -/

variable {t t' : ClassTable} {c d : ClassInfo}

section

variable (ht : t.Like ρ t') (hc : c.Like ρ d)
include ht hc

theorem checkField_like {f g : FieldInfo} (hf : f.Like (.spelled ρ.spelling) g) :
    Like ρ.spelling (fun _ _ => True) (checkField t c f) (checkField t' d g) := by
  have hcx : CheckContext.Like ρ ⟨t, c, some .void, f.isStatic⟩ ⟨t', d, some .void, g.isStatic⟩ :=
    ⟨ht, hc, .some (.refl _), hf.isStatic⟩
  obtain ⟨_, htype, _, hinit, hspan⟩ := hf
  unfold checkField
  dsimp only at hcx ⊢
  rw [hspan]
  refine Like.inMethod ((hcx.resolveType htype _).bind fun x y hd => ?_)
  generalize f.init = e, g.init = e' at hinit
  cases hinit with
  | none => exact .pure trivial
  | some he => exact checkStored_like hcx he hd

theorem declaredResult_like {m n : MethodInfo} (hm : m.Like (.spelled ρ.spelling) n) :
    Like ρ.spelling (DataType.SpelledOrUnknown ρ) (declaredResult (.ofClass t c) m)
      (declaredResult (.ofClass t' d) n) := by
  have hcx : CheckContext.Like ρ (.ofClass t c) (.ofClass t' d) :=
    ⟨ht, hc, .some (.refl _), rfl⟩
  obtain ⟨_, _, hr, _, _, hspan⟩ := hm
  unfold declaredResult
  rw [hspan]
  generalize m.returnType = r, n.returnType = r' at hr
  cases hr with
  | none => exact .pure (.some (.refl _))
  | some hr => exact hcx.resolveType hr _

omit ht hc in
theorem declareParams_like (h : cx.Like ρ cx') {ps qs : List ParamInfo}
    (hps : List.Forall₂ (ParamInfo.Like (.spelled ρ.spelling)) ps qs) (span : Span) :
    Like ρ.spelling (fun _ _ => True) (declareParams cx ps span) (declareParams cx' qs span) := by
  refine .forM hps fun {p q} hp => ?_
  rw [hp.name]
  exact (h.resolveType hp.type span).bind fun _ _ ht => .declare _ ht span

theorem checkSignatureAndBody_like {m n : MethodInfo} (hm : m.Like (.spelled ρ.spelling) n)
    {ss ss' : List Stmt} (hss : List.Forall₂ (Stmt.Spelled ρ.spelling) ss ss') :
    Like ρ.spelling (fun _ _ => True) (checkSignatureAndBody t c m ss)
      (checkSignatureAndBody t' d n ss') := by
  unfold checkSignatureAndBody
  refine .bind .get fun s s' hs => .seq (Like.inMethod ?_) (.bind .get fun u u' hu => ?_)
  · refine (declaredResult_like ht hc hm).bind fun r r' hr => ?_
    have hcx : CheckContext.Like ρ ⟨t, c, r, m.isStatic⟩ ⟨t', d, r', n.isStatic⟩ :=
      ⟨ht, hc, hr, hm.isStatic⟩
    dsimp only
    rw [hm.span]
    exact .seq (declareParams_like hcx hm.params _) (checkStmts_like hcx hss)
  · rw [hc.name, hm.name, hu.errors.length_eq, hs.errors.length_eq]
    exact .log (.refl _)

theorem checkMethod_like {m n : MethodInfo} (hm : m.Like (.spelled ρ.spelling) n) :
    Like ρ.spelling (fun _ _ => True) (checkMethod t c m) (checkMethod t' d n) := by
  unfold checkMethod
  have hb : MethodBody.Spelled ρ.spelling m.body n.body := hm.body
  generalize m.body = b, n.body = b' at hb
  cases hb with
  | script hss => exact checkSignatureAndBody_like ht hc hm hss
  | native _ => exact .pure trivial
  | abstract => exact checkSignatureAndBody_like ht hc hm .nil

end

/-! ## Classes -/

mutual

/-- A class in two spellings is checked alike, in tables that look alike (module doc). -/
theorem checkClass_like (ht : t.Like ρ t') : ∀ {c d : ClassInfo}, c.Like ρ d →
    c.Like (.spelled ρ.spelling) d →
      Like ρ.spelling (fun _ _ => True) (checkClass t c) (checkClass t' d)
  | ⟨_, _, _, _, _, _, _, _, _, _, _, _, _, _⟩, ⟨_, _, _, _, _, _, _, _, _, _, _, _, _, _⟩,
      hc, hs => by
    have own := hs.own
    unfold checkClass
    dsimp only
    exact .seq (.forM own.instanceFields.values fun hf => checkField_like ht hc hf)
      (.seq (.forM own.staticFields.values fun hf => checkField_like ht hc hf)
        (.seq (.forM own.constructors fun hm => checkMethod_like ht hc hm)
          (.seq (.forM (List.rel_flatten own.instanceMethods.values) fun hm =>
              checkMethod_like ht hc hm)
            (.seq (.forM (List.rel_flatten own.staticMethods.values) fun hm =>
                checkMethod_like ht hc hm)
              (checkClasses_like ht hc.inner hs.inner)))))

theorem checkClasses_like (ht : t.Like ρ t') : ∀ {cs ds : List ClassInfo},
    List.Forall₂ (ClassInfo.Like ρ) cs ds →
    List.Forall₂ (ClassInfo.Like (.spelled ρ.spelling)) cs ds →
      Like ρ.spelling (fun _ _ => True) (checkClasses t cs) (checkClasses t' ds)
  | [], [], _, _ => by
    unfold checkClasses
    exact .pure trivial
  | c :: cs, d :: ds, .cons hc hcs, .cons hs hss => by
    unfold checkClasses
    exact .seq (checkClass_like ht hc hs) (checkClasses_like ht hcs hss)

end

/-- Tables of the same classes in two spellings report alike. -/
theorem checkTable_like {σ : Spelling}
    (h : List.Forall₂ (ClassInfo.Like (.spelled σ)) t.classes t'.classes) :
    List.Forall₂ (CheckError.Spelled σ) (checkTable t).1 (checkTable t').1 :=
  (checkClasses_like (ρ := .spelled σ) (.of_classes h) h h _ _ (.refl _)).2.errors

/-! ## Tables with the same names and types -/

section

variable (ht : t.Like .outlined t')
include ht

theorem checkField_outlined (hc : c.Like .outlined d) (f : FieldInfo) :
    checkField t c f = checkField t' d f :=
  (checkField_like ht hc (.spelled_refl f)).eq fun _ => rfl

theorem checkMethod_outlined (hc : c.Like .outlined d) (m : MethodInfo) :
    checkMethod t c m = checkMethod t' d m :=
  (checkMethod_like ht hc (.spelled_refl m)).eq fun _ => rfl

theorem checkClass_outlined (c : ClassInfo) : checkClass t c = checkClass t' c :=
  (checkClass_like ht (.outlined_refl c) (.spelled_refl c)).eq fun _ => rfl

theorem checkClasses_outlined (cs : List ClassInfo) : checkClasses t cs = checkClasses t' cs :=
  (checkClasses_like ht (List.forall₂_same.2 fun c _ => .outlined_refl c)
    (List.forall₂_same.2 fun c _ => .spelled_refl c)).eq fun _ => rfl

end

end Typing

end ClassScript
