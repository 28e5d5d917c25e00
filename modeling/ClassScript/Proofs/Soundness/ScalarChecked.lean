import ClassScript.Proofs.Soundness.ScalarTyping
import ClassScript.Proofs.Typing.CheckRun

/-!
# Checked scalar code obeys the typing rules

What checks a part of a program and reports nothing finds a derivation of the typing rules for it.
An operator rule leaves the state of the check as it is (`Check.Gives`); a statement relates the
scope of the check to the blocks of the rules (`View`), which may have empty blocks in between.
The results are `checkStmts_typed` for a body and `declareParams_typed` for its parameters.
-/

namespace ClassScript

open Typing (comparison? arithmetic)

/-! ## Checked operators obey the rules -/

namespace Typing

open Check (Clean Gives Quiet)

variable {s : CheckState} {a b t : DataType} {span : Span}

theorem arithmeticType_gives {op : BinaryOp} (h : Clean (arithmeticType op a b span) s) :
    ∃ t, arithmetic op a b = .ok t ∧ Gives (arithmeticType op a b span) s (some t) := by
  unfold arithmeticType at h ⊢
  split at h
  · rename_i t ht
    exact ⟨t, ht, rfl⟩
  · exact (h.report_bind fun _ => Quiet.pure _).elim

theorem requireLogical_gives (h : Clean (requireLogical (some a) (some b) span) s) :
    a.isBoolean = true ∧ b.isBoolean = true ∧
      Gives (requireLogical (some a) (some b) span) s () := by
  unfold requireLogical at h ⊢
  split at h
  · exact (Check.clean_report h).elim
  · rename_i hf
    have hab : a.isBoolean = true ∧ b.isBoolean = true := by
      simpa [Option.filter] using hf
    exact ⟨hab.1, hab.2, rfl⟩

theorem binaryType_gives {op : BinaryOp} (h : Clean (binaryType op (some a) (some b) span) s) :
    ∃ t, BinaryRule op a b t ∧ Gives (binaryType op (some a) (some b) span) s (some t) := by
  unfold binaryType at h ⊢
  by_cases he : op.isEquality = true
  · rw [if_pos he]
    exact ⟨_, .equality he, rfl⟩
  rw [if_neg he] at h ⊢
  by_cases hl : op.isLogical = true
  · rw [if_pos hl] at h ⊢
    obtain ⟨ha, hb, hg⟩ := requireLogical_gives
      (h.left (requireLogical_quiet _ _ _) fun _ => Quiet.pure _)
    exact ⟨_, .logical hl ha hb, hg.bind rfl⟩
  rw [if_neg hl] at h ⊢
  dsimp only at h ⊢
  by_cases hr : op.isRelational = true
  · rw [if_pos hr] at h ⊢
    cases hc : comparison? a b with
    | none => exact ⟨_, .relational hr hc, rfl⟩
    | some v =>
      rw [hc] at h
      exact (h.report_bind fun _ => Quiet.pure _).elim
  · rw [if_neg hr] at h ⊢
    obtain ⟨t, ht, hg⟩ := arithmeticType_gives h
    exact ⟨t, .arithmetic ⟨by simpa using he, by simpa using hl, by simpa using hr⟩ ht, hg⟩

theorem unaryType_gives {op : UnaryOp} (ho : op.mutates = false)
    (h : Clean (unaryType op (some t) span) s) :
    UnaryRule op t ∧ Gives (unaryType op (some t) span) s (some t) := by
  unfold unaryType at h ⊢
  cases op with
  | inc | dec => cases ho
  | not | plus | neg =>
    dsimp only at h ⊢
    split at h
    · rename_i ht
      rw [if_pos ht]
      exact ⟨by constructor; exact ht, rfl⟩
    · exact (h.report_bind fun _ => Quiet.pure _).elim

theorem stepType_gives {e : Expr} (h : Clean (stepType e (some t) span) s) :
    t.isInteger = true ∧ e.isAssignable = true ∧ Gives (stepType e (some t) span) s (some t) := by
  unfold stepType at h ⊢
  dsimp only at h ⊢
  split at h
  · exact (h.report_bind fun _ => Quiet.pure _).elim
  rename_i ht
  split at h
  · exact (h.report_bind fun _ => Quiet.pure _).elim
  rename_i ha
  rw [if_neg ht, if_neg ha]
  exact ⟨by simpa using ht, by simpa using ha, rfl⟩

theorem requireFits_gives (h : Clean (requireFits (some a) (some b) span) s) :
    a.fitsExactly b = true ∧ Gives (requireFits (some a) (some b) span) s () := by
  unfold requireFits at h ⊢
  dsimp only at h ⊢
  split at h
  · rename_i hf
    rw [if_pos hf]
    exact ⟨hf, rfl⟩
  · exact (Check.clean_report h).elim

theorem requireCondition_gives (h : Clean (requireCondition (some t) span) s) :
    t.isBoolean = true ∧ Gives (requireCondition (some t) span) s () := by
  unfold requireCondition at h ⊢
  dsimp only at h ⊢
  split at h
  · rename_i ht
    rw [if_pos ht]
    exact ⟨ht, rfl⟩
  · exact (Check.clean_report h).elim

theorem compoundType_gives {op : BinaryOp} (h : Clean (compoundType op (some t) (some a) span) s) :
    ∃ r, arithmetic op t a = .ok r ∧ r.fitsExactly t = true ∧
      Gives (compoundType op (some t) (some a) span) s (some t) := by
  unfold compoundType at h ⊢
  dsimp only at h ⊢
  have ha : Clean (arithmeticType op t a span) s := by
    refine h.left (arithmeticType_quiet _ _ _ _) fun result => ?_
    split
    · exact Quiet.pure _
    · split
      · exact Quiet.pure _
      · exact (Quiet.report _ _).bind fun _ => Quiet.pure _
  obtain ⟨r, hr, hg⟩ := arithmeticType_gives ha
  have h := hg.clean h
  dsimp only at h
  split at h
  · rename_i hf
    refine ⟨r, hr, hf, hg.bind ?_⟩
    dsimp only
    rw [if_pos hf]
    rfl
  · exact (h.report_bind fun _ => Quiet.pure _).elim

theorem conditionalType_gives (cx : CheckContext)
    (h : Clean (conditionalType cx (some a) (some b) span) s) :
    ∃ t, JoinRule cx.classes a b t ∧ Gives (conditionalType cx (some a) (some b) span) s (some t) := by
  unfold conditionalType at h ⊢
  dsimp only at h ⊢
  split at h
  · rename_i hf
    rw [if_pos hf]
    exact ⟨_, .first hf, rfl⟩
  rename_i hf
  split at h
  · rename_i hs
    rw [if_neg hf, if_pos hs]
    exact ⟨_, .second hs, rfl⟩
  · exact (h.report_bind fun _ => Quiet.pure _).elim

theorem resolveType_gives {cx : CheckContext} (h : Clean (cx.resolveType t span) s) :
    Gives (cx.resolveType t span) s (some t) := by
  unfold CheckContext.resolveType at h ⊢
  split at h
  · exact (h.report_bind fun _ => Quiet.pure _).elim
  · rfl

/-! ## Checked expressions obey the rules -/

/-- Seen from the scope, the blocks `bs` are visible: all their types are known, and `vars` are
among their variables. -/
structure View (scope : LocalScope) (vars : List String) (bs : BlockStack) : Prop where
  lookup : ∀ name, scope.lookup? name = bs.find? name
  known : ∀ name var, bs.find? name = some var → ∃ t, var.type = some t
  covers : ∀ x ∈ vars, (bs.find? x).isSome = true

variable {cx : CheckContext} {vars : List String} {bs : BlockStack}

/-- A name among the variables denotes a local of known type. -/
theorem denoteName_gives (cx : CheckContext) {i : Ident} (hv : View s.scope vars bs)
    (hi : (vars.any fun x => sameName x i.name) = true) :
    ∃ t, ExprTyped cx.classes bs (.name i) t ∧
      Gives (denote cx .value (.name i)) s (.value t) := by
  obtain ⟨x, hx, hxi⟩ := List.any_eq_true.1 hi
  obtain ⟨var, hvar⟩ := Option.isSome_iff_exists.1 (hv.covers x hx)
  rw [BlockStack.find?_congr bs hxi] at hvar
  obtain ⟨t, ht⟩ := hv.known _ _ hvar
  refine ⟨t, .name hvar ht, ?_⟩
  have hfound : Gives (valueOfName cx i) s (some (.value t)) := by
    unfold valueOfName
    refine Gives.bind (a := s) rfl ?_
    rw [hv.lookup i.name, hvar]
    dsimp only
    rw [ht]
    rfl
  unfold denote denoteName
  exact hfound.bind rfl

theorem Expr.isAssignable_scalar {e : Expr} (ha : e.isAssignable = true)
    (hs : e.isScalar vars = true) :
    ∃ i, e = .name i ∧ (vars.any fun x => sameName x i.name) = true := by
  cases e with
  | name i => exact ⟨i, rfl, hs⟩
  | member | index => cases hs
  | _ => cases ha

/-- An assignment, if its right-hand side has a type by the rules. -/
theorem assign_gives (hv : View s.scope vars bs) {op : AssignOp} {target value : Expr}
    (hs : target.isScalar vars = true)
    (ih : Clean (denote cx .value value) s →
      ∃ t, ExprTyped cx.classes bs value t ∧ Gives (denote cx .value value) s (.value t))
    (h : Clean (denote cx .value (.assign op target value span)) s) :
    ∃ t, ExprTyped cx.classes bs (.assign op target value span) t ∧
      Gives (denote cx .value (.assign op target value span)) s (.value t) := by
  unfold denote at h ⊢
  by_cases ha : target.isAssignable = true
  · rw [if_pos ha] at h ⊢
    obtain ⟨i, rfl, hi⟩ := Expr.isAssignable_scalar ha hs
    obtain ⟨t, ht, hgt⟩ := denoteName_gives cx hv hi
    have h := hgt.clean h
    obtain ⟨a, hta, hga⟩ := ih (h.left (denote_quiet cx .value value) fun v => by
      split
      · exact (requireFits_quiet _ _ _).bind fun _ => Quiet.pure _
      · exact (compoundType_quiet _ _ _ _).bind fun _ => Quiet.pure _)
    have h := hga.clean h
    cases ho : op.binary? with
    | none =>
      rw [ho] at h
      obtain ⟨hf, hg⟩ := requireFits_gives
        (h.left (requireFits_quiet _ _ _) fun _ => Quiet.pure _)
      exact ⟨t, .assign ho ht hta hf, hgt.bind (hga.bind (hg.bind rfl))⟩
    | some o =>
      rw [ho] at h
      obtain ⟨r, hr, hf, hg⟩ := compoundType_gives
        (h.left (compoundType_quiet _ _ _ _) fun _ => Quiet.pure _)
      exact ⟨t, .compound ho ht hta hr hf, hgt.bind (hga.bind (hg.bind rfl))⟩
  · rw [if_neg ha] at h
    exact (h.report_bind fun _ => (denote_quiet cx .value value).bind fun _ => Quiet.pure _).elim

/-- A conditional expression, if its three parts have types by the rules. -/
theorem conditional_gives {c yes no : Expr}
    (ihc : Clean (denote cx .value c) s →
      ∃ t, ExprTyped cx.classes bs c t ∧ Gives (denote cx .value c) s (.value t))
    (ihy : Clean (denote cx .value yes) s →
      ∃ t, ExprTyped cx.classes bs yes t ∧ Gives (denote cx .value yes) s (.value t))
    (ihn : Clean (denote cx .value no) s →
      ∃ t, ExprTyped cx.classes bs no t ∧ Gives (denote cx .value no) s (.value t))
    (h : Clean (denote cx .value (.conditional c yes no span)) s) :
    ∃ t, ExprTyped cx.classes bs (.conditional c yes no span) t ∧
      Gives (denote cx .value (.conditional c yes no span)) s (.value t) := by
  have last : ∀ y n : Denotation, Quiet (do
      return .ofType? (← conditionalType cx y.type? n.type? no.span) : Check Denotation) :=
    fun y n => (conditionalType_quiet cx _ _ _).bind fun _ => Quiet.pure _
  have arms : Quiet (do
      let y ← denote cx .value yes
      let n ← denote cx .value no
      return .ofType? (← conditionalType cx y.type? n.type? no.span) : Check Denotation) :=
    (denote_quiet cx .value yes).bind fun y => (denote_quiet cx .value no).bind (last y)
  unfold denote at h ⊢
  obtain ⟨k, hk, hgk⟩ := ihc (h.left (denote_quiet cx .value c) fun c' =>
    (requireCondition_quiet _ _).bind fun _ => arms)
  have h := hgk.clean h
  obtain ⟨hb, hgb⟩ := requireCondition_gives (h.left (requireCondition_quiet _ _) fun _ => arms)
  have h := hgb.clean h
  obtain ⟨y, hy, hgy⟩ := ihy (h.left (denote_quiet cx .value yes) fun y =>
    (denote_quiet cx .value no).bind (last y))
  have h := hgy.clean h
  obtain ⟨n, hn, hgn⟩ := ihn (h.left (denote_quiet cx .value no) (last _))
  have h := hgn.clean h
  obtain ⟨t, rule, hg⟩ := conditionalType_gives cx
    (h.left (conditionalType_quiet cx _ _ _) fun _ => Quiet.pure _)
  exact ⟨t, .conditional hk hb hy hn rule,
    hgk.bind (hgb.bind (hgy.bind (hgn.bind (hg.bind rfl))))⟩

/-- A scalar expression that is checked without an error has a type by the rules. -/
theorem denote_gives (hv : View s.scope vars bs) : ∀ e : Expr, e.isScalar vars = true →
    Clean (denote cx .value e) s →
    ∃ t, ExprTyped cx.classes bs e t ∧ Gives (denote cx .value e) s (.value t)
  | .literal l _, _, _ => ⟨_, .literal, by unfold denote; rfl⟩
  | .name i, hs, _ => denoteName_gives cx hv hs
  | .binary op left right _, hs, h => by
    rw [Expr.isScalar, Bool.and_eq_true] at hs
    unfold denote at h ⊢
    -- what has a type leaves the state alone, so the next operand is checked from `s` again
    obtain ⟨a, ha, hga⟩ := denote_gives hv left hs.1 (h.left (denote_quiet cx .value left)
      fun l => (denote_quiet cx .value right).bind fun r =>
        (binaryType_quiet _ _ _ _).bind fun _ => Quiet.pure _)
    have h := hga.clean h
    obtain ⟨b, hb, hgb⟩ := denote_gives hv right hs.2 (h.left (denote_quiet cx .value right)
      fun r => (binaryType_quiet _ _ _ _).bind fun _ => Quiet.pure _)
    have h := hgb.clean h
    obtain ⟨t, rule, hg⟩ := binaryType_gives
      (h.left (binaryType_quiet _ _ _ _) fun _ => Quiet.pure _)
    exact ⟨t, .binary ha hb rule, hga.bind (hgb.bind (hg.bind rfl))⟩
  | .unary op e _, hs, h => by
    unfold denote at h ⊢
    obtain ⟨t, ht, hgt⟩ := denote_gives hv e hs (h.left (denote_quiet cx .value e) fun t => by
      split
      · exact (stepType_quiet _ _ _).bind fun _ => Quiet.pure _
      · exact (unaryType_quiet _ _ _).bind fun _ => Quiet.pure _)
    have h := hgt.clean h
    by_cases ho : op.mutates = true
    · rw [if_pos ho] at h
      obtain ⟨hi, ha, hg⟩ := stepType_gives
        (h.left (stepType_quiet _ _ _) fun _ => Quiet.pure _)
      obtain ⟨i, rfl, -⟩ := Expr.isAssignable_scalar ha hs
      refine ⟨t, .step ho ht hi, hgt.bind ?_⟩
      rw [if_pos ho]
      exact hg.bind rfl
    · rw [if_neg ho] at h
      obtain ⟨rule, hg⟩ := unaryType_gives (by simpa using ho)
        (h.left (unaryType_quiet _ _ _) fun _ => Quiet.pure _)
      refine ⟨t, .unary ht rule, hgt.bind ?_⟩
      rw [if_neg ho]
      exact hg.bind rfl
  | .post op e _, hs, h => by
    unfold denote at h ⊢
    obtain ⟨t, ht, hgt⟩ := denote_gives hv e hs (h.left (denote_quiet cx .value e)
      fun t => (stepType_quiet _ _ _).bind fun _ => Quiet.pure _)
    have h := hgt.clean h
    obtain ⟨hi, ha, hg⟩ := stepType_gives
      (h.left (stepType_quiet _ _ _) fun _ => Quiet.pure _)
    obtain ⟨i, rfl, -⟩ := Expr.isAssignable_scalar ha hs
    exact ⟨t, .post ht hi, hgt.bind (hg.bind rfl)⟩
  | .assign op target value _, hs, h => by
    rw [Expr.isScalar, Bool.and_eq_true] at hs
    exact assign_gives hv hs.1 (denote_gives hv value hs.2) h
  | .conditional c yes no _, hs, h => by
    simp only [Expr.isScalar, Bool.and_eq_true] at hs
    obtain ⟨⟨hsc, hsy⟩, hsn⟩ := hs
    exact conditional_gives (denote_gives hv c hsc) (denote_gives hv yes hsy)
      (denote_gives hv no hsn) h

theorem infer_gives (hv : View s.scope vars bs) {e : Expr} (hs : e.isScalar vars = true)
    (h : Clean (infer cx e) s) :
    ∃ t, ExprTyped cx.classes bs e t ∧ Gives (infer cx e) s (some t) := by
  obtain ⟨t, ht, hg⟩ := denote_gives hv e hs
    (h.left (denote_quiet cx .value e) fun _ => Quiet.pure _)
  exact ⟨t, ht, hg.bind rfl⟩

/-! ## Checked statements obey the rules -/

namespace View

variable {scope : LocalScope}

/-- A block without variables changes nothing of what is visible. -/
theorem block (hv : View scope vars bs) : View scope vars (.empty :: bs) where
  lookup name := by rw [BlockStack.find?_empty_cons]; exact hv.lookup name
  known name var := by rw [BlockStack.find?_empty_cons]; exact hv.known name var
  covers x hx := by rw [BlockStack.find?_empty_cons]; exact hv.covers x hx

theorem push (hv : View scope vars bs) : View scope.push vars (.empty :: bs) :=
  ⟨hv.block.lookup, hv.block.known, hv.block.covers⟩

theorem sub {vars' : List String} (hv : View scope vars bs) (h : ∀ x ∈ vars', x ∈ vars) :
    View scope vars' bs :=
  ⟨hv.lookup, hv.known, fun x hx => hv.covers x (h x hx)⟩

theorem congr {scope' : LocalScope} (hv : View scope vars bs)
    (h : ∀ name, scope'.lookup? name = scope.lookup? name) : View scope' vars bs :=
  ⟨fun name => (h name).trans (hv.lookup name), hv.known, hv.covers⟩

theorem declare {scope' : LocalScope} {b : NameTable LocalVar} {name : String} {span : Span}
    (hv : View scope vars (b :: bs)) (hd : scope.declare name (some t) span = .ok scope') :
    View scope' (name :: vars) (b.insert name ⟨name, some t, scope.depth, span⟩ :: bs) where
  lookup n := by
    rw [BlockStack.find?_insert, ← hv.lookup, LocalScope.lookup?_declare hd]
  known n var := by
    rw [BlockStack.find?_insert]
    split
    · intro hn
      cases hn
      exact ⟨t, rfl⟩
    · exact hv.known n var
  covers x hx := by
    rw [BlockStack.find?_insert]
    split
    · rfl
    · rename_i hne
      rcases List.mem_cons.1 hx with rfl | hx
      · exact absurd (sameName_self x) hne
      · exact hv.covers x hx

end View

theorem checkExpr_gives (hv : View s.scope vars bs) {e : Expr} (hs : e.isScalar vars = true)
    (h : Clean (checkExpr cx e) s) :
    (∃ t, ExprTyped cx.classes bs e t) ∧ Gives (checkExpr cx e) s () := by
  obtain ⟨t, ht, hg⟩ := infer_gives hv hs (h.left (infer_quiet cx e) fun _ => Quiet.pure _)
  exact ⟨⟨t, ht⟩, hg.bind rfl⟩

theorem checkCondition_gives (hv : View s.scope vars bs) {e : Expr} (hs : e.isScalar vars = true)
    (h : Clean (checkCondition cx e) s) :
    ConditionTyped cx.classes bs e ∧ Gives (checkCondition cx e) s () := by
  obtain ⟨t, ht, hg⟩ := infer_gives hv hs
    (h.left (infer_quiet cx e) fun _ => requireCondition_quiet _ _)
  obtain ⟨hb, hgb⟩ := requireCondition_gives (hg.clean h)
  exact ⟨⟨t, ht, hb⟩, hg.bind hgb⟩

theorem checkStored_gives (hv : View s.scope vars bs) {e : Expr} (hs : e.isScalar vars = true)
    (h : Clean (checkStored cx e (some t)) s) :
    (∃ a, ExprTyped cx.classes bs e a ∧ a.fitsExactly t = true) ∧
      Gives (checkStored cx e (some t)) s () := by
  obtain ⟨a, ha, hg⟩ := infer_gives hv hs
    (h.left (infer_quiet cx e) fun _ => requireFits_quiet _ _ _)
  obtain ⟨hf, hgf⟩ := requireFits_gives (hg.clean h)
  exact ⟨⟨a, ha, hf⟩, hg.bind hgf⟩

theorem checkExprs_gives (hv : View s.scope vars bs) : ∀ es : List Expr,
    es.all (·.isScalar vars) = true → Clean (es.forM (checkExpr cx)) s →
    (∀ e ∈ es, ∃ t, ExprTyped cx.classes bs e t) ∧ Gives (es.forM (checkExpr cx)) s ()
  | [], _, _ => ⟨by simp, rfl⟩
  | e :: es, hs, h => by
    rw [List.all_cons, Bool.and_eq_true] at hs
    obtain ⟨he, hg⟩ := checkExpr_gives hv hs.1
      (h.left (checkExpr_quiet cx e) fun _ => Quiet.forM (checkExpr_quiet cx) es)
    obtain ⟨hes, hgs⟩ := checkExprs_gives hv es hs.2 (hg.clean h)
    exact ⟨List.forall_mem_cons.2 ⟨he, hes⟩, hg.bind hgs⟩

theorem checkDeclarator_typed {b : NameTable LocalVar} {v : Declarator}
    (hv : View s.scope vars (b :: bs)) (hs : v.init.all (·.isScalar vars) = true)
    (h : Clean (checkDeclarator cx (some t) v) s) :
    (∀ e, v.init = some e → ∃ a, ExprTyped cx.classes (b :: bs) e a ∧ a.fitsExactly t = true) ∧
      ∃ var : LocalVar, var.type = some t ∧ View (checkDeclarator cx (some t) v s).2.scope
        (v.name.name :: vars) (b.insert v.name.name var :: bs) := by
  have declared : ∀ {s : CheckState}, View s.scope vars (b :: bs) →
      Clean (Check.declare v.name.name (some t) v.name.span) s →
      ∃ var : LocalVar, var.type = some t ∧
        View (Check.declare v.name.name (some t) v.name.span s).2.scope (v.name.name :: vars)
          (b.insert v.name.name var :: bs) := by
    intro s hv h
    obtain ⟨scope, hd, hs⟩ := Check.declare_clean h
    exact ⟨_, rfl, by rw [hs]; exact hv.declare hd⟩
  unfold checkDeclarator at h ⊢
  cases hi : v.init with
  | none =>
    rw [hi] at h
    exact ⟨by simp, declared hv h⟩
  | some e =>
    rw [hi] at h hs
    obtain ⟨he, hg⟩ := checkStored_gives hv hs (h.bind (checkStored_quiet cx e (some t)).errors
      fun _ => (Check.Nested.declare _ _ _).errors).1
    refine ⟨fun e' he' => Option.some.inj he' ▸ he, ?_⟩
    dsimp only
    rw [hg.bind_eq]
    exact declared hv (hg.clean h)

theorem checkVars_typed : ∀ vs : List Declarator,
    ∀ {s : CheckState} {vars : List String} {b : NameTable LocalVar},
    Declarator.allScalar vars vs = true → View s.scope vars (b :: bs) →
    Clean (vs.forM (checkDeclarator cx (some t))) s →
    ∃ b', VarsTyped cx.classes t bs b vs b' ∧
      View (vs.forM (checkDeclarator cx (some t)) s).2.scope
        ((vs.map fun v => v.name.name).reverse ++ vars) (b' :: bs)
  | [], s, vars, b, _, hv, _ => ⟨b, .nil, hv⟩
  | v :: vs, s, vars, b, hs, hv, h => by
    rw [Declarator.allScalar, Bool.and_eq_true] at hs
    have hc := h.bind (checkDeclarator_nested cx (some t) v).errors
      fun _ => (Check.Nested.forM (checkDeclarator_nested cx (some t)) vs).errors
    obtain ⟨hi, var, hvar, hv'⟩ := checkDeclarator_typed hv hs.1 hc.1
    obtain ⟨b', hb', hv''⟩ := checkVars_typed vs hs.2 hv' hc.2
    refine ⟨b', .cons hi hvar hb', ?_⟩
    rw [List.map_cons, List.reverse_cons, List.append_assoc]
    exact hv''

theorem checkDeclaration_typed {d : VarDecl} {b : NameTable LocalVar}
    (hs : Declarator.allScalar vars d.vars = true) (hv : View s.scope vars (b :: bs))
    (h : Clean (checkDeclaration cx d) s) :
    ∃ b', VarsTyped cx.classes d.type.dataType bs b d.vars b' ∧
      View (checkDeclaration cx d s).2.scope
        ((d.vars.map fun v => v.name.name).reverse ++ vars) (b' :: bs) := by
  unfold checkDeclaration at h ⊢
  have hg := resolveType_gives (h.bind (resolveType_quiet cx _ _).errors fun declared =>
    (Check.Nested.forM (checkDeclarator_nested cx declared) d.vars).errors).1
  rw [hg.bind_eq]
  exact checkVars_typed d.vars hs hv (hg.clean h)

theorem checkForInit_typed {init : Option ForInit} {b : NameTable LocalVar}
    (hs : ForInit.isScalar vars init = true) (hv : View s.scope vars (b :: bs))
    (h : Clean (checkForInit cx init) s) :
    ∃ b', InitTyped cx.classes bs b init b' ∧
      View (checkForInit cx init s).2.scope (ForInit.declared init ++ vars) (b' :: bs) := by
  match init with
  | none => exact ⟨b, .none, hv⟩
  | some (.declare d) =>
    obtain ⟨b', hd, hv'⟩ := checkDeclaration_typed hs hv h
    exact ⟨b', .declare hd, hv'⟩
  | some (.exprs es) =>
    obtain ⟨he, hg⟩ := checkExprs_gives hv es hs h
    refine ⟨b, .exprs he, ?_⟩
    show View (es.forM (checkExpr cx) s).2.scope vars (b :: bs)
    rw [show es.forM (checkExpr cx) s = ((), s) from hg]
    exact hv

theorem checkReturn_typed {value : Option Expr} {loop : Bool} {b : NameTable LocalVar}
    (hs : value.all (·.isScalar vars) = true) (hv : View s.scope vars (b :: bs))
    (h : Clean (checkReturn cx value span) s) :
    StmtTyped cx.classes cx.returnType loop bs b (.ret value span) b := by
  unfold checkReturn at h
  split at h
  · rename_i hr
    exact .retVoid fun d hd => by simp [hr] at hd
  · rename_i e hr
    obtain ⟨⟨t, ht⟩, -⟩ := checkExpr_gives hv hs h
    exact .ret ht fun d hd => by simp [hr] at hd
  · rename_i declared hr
    refine .retVoid fun d hd => ?_
    obtain rfl := Option.some.inj (hr.symm.trans hd)
    split at h
    · assumption
    · exact (Check.clean_report h).elim
  · rename_i declared e hr
    obtain ⟨t, ht, hg⟩ := infer_gives hv hs (h.left (infer_quiet cx e) fun found => by
      split
      · exact Quiet.pure _
      · split
        · exact Quiet.pure _
        · exact Quiet.report _ _)
    refine .ret ht fun d hd => ?_
    obtain rfl := Option.some.inj (hr.symm.trans hd)
    have h := hg.clean h
    dsimp only at h
    split at h
    · rename_i hf
      simpa using hf
    · exact (Check.clean_report h).elim

/-- What `checkStmt_typed` says of one statement. -/
def CheckedTyped (cx : CheckContext) (st : Stmt) : Prop :=
  ∀ ⦃s : CheckState⦄ ⦃vars : List String⦄ ⦃bs cs : BlockStack⦄ ⦃b c : NameTable LocalVar⦄,
    st.isScalar vars = true → View s.scope vars (b :: bs) → s.scope.Models (c :: cs) →
    Clean (checkStmt cx st) s →
    ∃ b', StmtTyped cx.classes cx.returnType (0 < s.loopDepth) bs b st b' ∧
      View (checkStmt cx st s).2.scope (st.extend vars) (b' :: bs)

/-- A branch is typed in a block of its own, whether it has braces or not. -/
theorem inBranch_typed {st : Stmt} (ih : CheckedTyped cx st) {c : NameTable LocalVar}
    {cs : BlockStack} (hs : st.isScalar vars = true) (hv : View s.scope vars bs)
    (hm : s.scope.Models (c :: cs)) (h : Clean (inBranch st (checkStmt cx st)) s) :
    ∃ b', StmtTyped cx.classes cx.returnType (0 < s.loopDepth) bs .empty st b' := by
  unfold inBranch at h
  split at h
  · obtain ⟨b', hb', -⟩ := ih hs hv.block hm h
    exact ⟨b', hb'⟩
  · obtain ⟨b', hb', -⟩ := ih hs hv.push hm.push (Check.clean_inBlock.1 h)
    exact ⟨b', hb'⟩

/-- A loop body is typed as a branch inside a loop. -/
theorem inLoop_typed {st : Stmt} (ih : CheckedTyped cx st) {c : NameTable LocalVar}
    {cs : BlockStack} (hs : st.isScalar vars = true) (hv : View s.scope vars bs)
    (hm : s.scope.Models (c :: cs))
    (h : Clean (Check.inLoop (inBranch st (checkStmt cx st))) s) :
    ∃ b', StmtTyped cx.classes cx.returnType true bs .empty st b' := by
  obtain ⟨b', hb'⟩ :=
    inBranch_typed (s := { s with loopDepth := s.loopDepth + 1 }) ih hs hv hm h
  exact ⟨b', by simpa using hb'⟩

theorem requireLoop_clean {v : Violation} (h : Clean (requireLoop v span) s) :
    decide (0 < s.loopDepth) = true := by
  by_cases hl : s.loopDepth = 0
  · unfold requireLoop at h
    have hr : Clean (Check.report v span) s := by
      unfold Clean at h ⊢
      simpa [bind, StateT.bind, get, getThe, MonadStateOf.get, StateT.get, pure, hl] using h
    exact (Check.clean_report hr).elim
  · exact decide_eq_true (Nat.pos_of_ne_zero hl)

/-- A `for` loop is typed in a block of its own for the variables of its first clause. -/
theorem forClauses_typed {init : Option ForInit} {condition : Option Expr} {update : List Expr}
    {body : Stmt} (ih : CheckedTyped cx body) {c : NameTable LocalVar} {cs : BlockStack} {loop : Bool}
    {b : NameTable LocalVar} (hs : (Stmt.forLoop init condition update body span).isScalar vars = true)
    (hv : View s.scope vars (b :: bs)) (hm : s.scope.Models (c :: cs))
    (h : Clean (checkStmt cx (.forLoop init condition update body span)) s) :
    StmtTyped cx.classes cx.returnType loop bs b (.forLoop init condition update body span) b := by
  simp only [Stmt.isScalar, Bool.and_eq_true] at hs
  obtain ⟨⟨⟨hsi, hsc⟩, hsu⟩, hsb⟩ := hs
  -- updates and body see what the first clause declares
  have rest : ∀ {s : CheckState} {bs cs : BlockStack} {c : NameTable LocalVar},
      View s.scope (ForInit.declared init ++ vars) bs → s.scope.Models (c :: cs) →
      Clean (do
        update.forM (checkExpr cx)
        Check.inLoop (inBranch body (checkStmt cx body)) : Check Unit) s →
      (∀ e ∈ update, ∃ t, ExprTyped cx.classes bs e t) ∧
        ∃ b', StmtTyped cx.classes cx.returnType true bs .empty body b' := by
    intro s bs cs c hv hm h
    obtain ⟨hu, hg⟩ := checkExprs_gives hv update hsu
      (h.bind (Quiet.forM (checkExpr_quiet cx) update).errors
        fun _ => (inBranch_restores cx body).inLoop.errors).1
    exact ⟨hu, inLoop_typed ih hsb hv hm (hg.clean h)⟩
  unfold checkStmt at h
  rw [Check.clean_inBlock] at h
  have restNested : Check.Nested (do
      update.forM (checkExpr cx)
      Check.inLoop (inBranch body (checkStmt cx body)) : Check Unit) :=
    (Quiet.forM (checkExpr_quiet cx) update).nested.bind fun _ =>
      (inBranch_restores cx body).inLoop.nested
  obtain ⟨hci, hcr⟩ := h.bind (checkForInit_nested cx init).errors fun _ => by
    dsimp only
    split
    · exact ((checkCondition_quiet cx _).nested.bind fun _ => restNested).errors
    · exact restNested.errors
  obtain ⟨b₁, hi, hv₁⟩ := checkForInit_typed hsi hv.push hci
  obtain ⟨c₁, hm₁⟩ := (checkForInit_nested cx init).scope { s with scope := s.scope.push } _ _ hm.push
  cases condition with
  | none =>
    obtain ⟨hu, b₂, hb⟩ := rest hv₁ hm₁ hcr
    exact .forLoop hi (by simp) hu hb
  | some e =>
    obtain ⟨hc, hg⟩ := checkCondition_gives hv₁ hsc
      (hcr.bind (checkCondition_quiet cx e).errors fun _ => restNested.errors).1
    obtain ⟨hu, b₂, hb⟩ := rest hv₁ hm₁ (hg.clean hcr)
    exact .forLoop hi (fun e' he' => Option.some.inj he' ▸ hc) hu hb

mutual

/-- A scalar statement that is checked without an error is typed by the rules, and the variables
that are visible after it are those of the rules. -/
theorem checkStmt_typed (cx : CheckContext) : ∀ st : Stmt, CheckedTyped cx st
  | .declare d => by
    intro s vars bs cs b c hs hv hm h
    unfold checkStmt at h ⊢
    obtain ⟨b', hd, hv'⟩ := checkDeclaration_typed hs hv h
    exact ⟨b', .declare hd, hv'⟩
  | .expr e span => by
    intro s vars bs cs b c hs hv hm h
    -- all but declarations leave the visible variables as they were
    refine ⟨b, ?_, hv.congr ((checkStmt_restores cx (.expr e span) (by simp)).lookup hm)⟩
    unfold checkStmt at h
    obtain ⟨⟨t, ht⟩, -⟩ := checkExpr_gives hv hs h
    exact .expr ht
  | .block stmts span => by
    intro s vars bs cs b c hs hv hm h
    refine ⟨b, ?_, hv.congr ((checkStmt_restores cx (.block stmts span) (by simp)).lookup hm)⟩
    unfold checkStmt at h
    obtain ⟨b', hb', -⟩ := checkStmts_typed cx stmts hs hv.push hm.push (Check.clean_inBlock.1 h)
    exact .block hb'
  | .ifElse condition yes no span => by
    intro s vars bs cs b c hs hv hm h
    refine ⟨b, ?_, hv.congr
      ((checkStmt_restores cx (.ifElse condition yes no span) (by simp)).lookup hm)⟩
    simp only [Stmt.isScalar, Bool.and_eq_true] at hs
    obtain ⟨⟨hsc, hsy⟩, hsn⟩ := hs
    unfold checkStmt at h
    obtain ⟨hc, hg⟩ := checkCondition_gives hv hsc (h.bind (checkCondition_quiet cx _).errors
      fun _ => ((inBranch_restores cx yes).bind fun _ => checkElse_restores cx no).errors).1
    obtain ⟨hcy, hcn⟩ := (hg.clean h).bind (inBranch_restores cx yes).errors
      fun _ => (checkElse_restores cx no).errors
    obtain ⟨b₁, hy⟩ := inBranch_typed (checkStmt_typed cx yes) hsy hv hm hcy
    match no with
    | none => exact .ifThen hc hy
    | some no =>
      unfold Stmt.elseScalar at hsn
      unfold checkElse at hcn
      obtain ⟨b₂, hn⟩ := inBranch_typed (checkStmt_typed cx no) hsn
        (hv.congr ((inBranch_restores cx yes).lookup hm))
        ((inBranch_restores cx yes).scope s c cs hm) hcn
      rw [(inBranch_restores cx yes).loopDepth] at hn
      exact .ifElse hc hy hn
  | .whileLoop condition body span => by
    intro s vars bs cs b c hs hv hm h
    refine ⟨b, ?_, hv.congr
      ((checkStmt_restores cx (.whileLoop condition body span) (by simp)).lookup hm)⟩
    rw [Stmt.isScalar, Bool.and_eq_true] at hs
    unfold checkStmt at h
    obtain ⟨hc, hg⟩ := checkCondition_gives hv hs.1 (h.bind (checkCondition_quiet cx _).errors
      fun _ => (inBranch_restores cx body).inLoop.errors).1
    obtain ⟨b₁, hb⟩ := inLoop_typed (checkStmt_typed cx body) hs.2 hv hm (hg.clean h)
    exact .whileLoop hc hb
  | .doWhile body condition span => by
    intro s vars bs cs b c hs hv hm h
    refine ⟨b, ?_, hv.congr
      ((checkStmt_restores cx (.doWhile body condition span) (by simp)).lookup hm)⟩
    rw [Stmt.isScalar, Bool.and_eq_true] at hs
    unfold checkStmt at h
    obtain ⟨hcb, hcc⟩ := h.bind (inBranch_restores cx body).inLoop.errors
      fun _ => (checkCondition_quiet cx _).errors
    obtain ⟨b₁, hb⟩ := inLoop_typed (checkStmt_typed cx body) hs.1 hv hm hcb
    obtain ⟨hc, -⟩ := checkCondition_gives
      (hv.congr ((inBranch_restores cx body).inLoop.lookup hm)) hs.2 hcc
    exact .doWhile hc hb
  | .forLoop init condition update body span => by
    intro s vars bs cs b c hs hv hm h
    exact ⟨b, forClauses_typed (checkStmt_typed cx body) hs hv hm h, hv.congr
      ((checkStmt_restores cx (.forLoop init condition update body span) (by simp)).lookup hm)⟩
  | .foreach type var iterable body span => by
    intro s vars bs cs b c hs
    cases hs
  | .ret value span => by
    intro s vars bs cs b c hs hv hm h
    refine ⟨b, ?_, hv.congr ((checkStmt_restores cx (.ret value span) (by simp)).lookup hm)⟩
    unfold checkStmt at h
    exact checkReturn_typed hs hv h
  | .brk span => by
    intro s vars bs cs b c hs hv hm h
    refine ⟨b, ?_, hv.congr ((checkStmt_restores cx (.brk span) (by simp)).lookup hm)⟩
    unfold checkStmt at h
    rw [requireLoop_clean h]
    exact .brk
  | .cont span => by
    intro s vars bs cs b c hs hv hm h
    refine ⟨b, ?_, hv.congr ((checkStmt_restores cx (.cont span) (by simp)).lookup hm)⟩
    unfold checkStmt at h
    rw [requireLoop_clean h]
    exact .cont

theorem checkStmts_typed (cx : CheckContext) : ∀ ss : List Stmt, ∀ {s : CheckState}
    {vars : List String} {bs cs : BlockStack} {b c : NameTable LocalVar},
    Stmt.allScalar vars ss = true → View s.scope vars (b :: bs) → s.scope.Models (c :: cs) →
    Clean (checkStmts cx ss) s →
    ∃ b', StmtsTyped cx.classes cx.returnType (0 < s.loopDepth) bs b ss b' ∧
      ∃ vars', View (checkStmts cx ss s).2.scope vars' (b' :: bs)
  | [], s, vars, bs, cs, b, c, _, hv, _, _ => ⟨b, .nil, vars, by unfold checkStmts; exact hv⟩
  | st :: ss, s, vars, bs, cs, b, c, hs, hv, hm, h => by
    rw [Stmt.allScalar, Bool.and_eq_true] at hs
    unfold checkStmts at h ⊢
    obtain ⟨hc, hcs⟩ := h.bind (checkStmt_nested cx st).errors fun _ => (checkStmts_nested cx ss).errors
    obtain ⟨b₁, hb₁, hv₁⟩ := checkStmt_typed cx st hs.1 hv hm hc
    obtain ⟨c₁, hm₁⟩ := (checkStmt_nested cx st).scope s c cs hm
    obtain ⟨b', hb', hv'⟩ := checkStmts_typed cx ss hs.2 hv₁ hm₁ hcs
    rw [(checkStmt_nested cx st).loopDepth] at hb'
    exact ⟨b', .cons hb₁ hb', hv'⟩

end

/-! ## Parameters -/

theorem declareParams_typed (cx : CheckContext) (span : Span) : ∀ ps : List ParamInfo,
    ∀ {s : CheckState} {vars : List String} {b : NameTable LocalVar}, View s.scope vars (b :: bs) →
    Clean (declareParams cx ps span) s →
    ∃ b', ParamsTyped b ps b' ∧
      View (declareParams cx ps span s).2.scope ((ps.map ParamInfo.name).reverse ++ vars) (b' :: bs)
  | [], s, vars, b, hv, _ => ⟨b, .nil, hv⟩
  | p :: ps, s, vars, b, hv, h => by
    obtain ⟨hc, hcs⟩ := h.bind ((resolveType_quiet cx p.type span).nested.bind fun type =>
      Check.Nested.declare p.name type span).errors fun _ => (declareParams_nested cx ps span).errors
    have hg := resolveType_gives (hc.bind (resolveType_quiet cx p.type span).errors
      fun type => (Check.Nested.declare p.name type span).errors).1
    obtain ⟨scope, hd, hs⟩ := Check.declare_clean (hg.clean hc)
    -- the first parameter leaves exactly the scope in which it is declared
    have first : ((do
        let type ← cx.resolveType p.type span
        Check.declare p.name type span : Check Unit) s).2 = { s with scope } := by
      rw [hg.bind_eq, hs]
    have run : declareParams cx (p :: ps) span s = declareParams cx ps span { s with scope } :=
      congrArg (declareParams cx ps span) first
    obtain ⟨b', hb', hv'⟩ := declareParams_typed cx span ps (hv.declare hd)
      (show Clean (declareParams cx ps span) { s with scope } from first ▸ hcs)
    refine ⟨b', .cons rfl hb', ?_⟩
    rw [run, List.map_cons, List.reverse_cons, List.append_assoc]
    exact hv'

end Typing

end ClassScript
