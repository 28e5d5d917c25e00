import ClassScript.Proofs.Cascade.Mimics
import ClassScript.Proofs.Cascade.Occurrence

/-!
# Expressions with an unknown part

An expression with a part of unknown type is checked as before, but for what is reported about the
part itself: every place respects the unknown type (`slot_mimics`), and so does a nest of places
(`plug_mimics`). The condition is on the overloads that are chosen around the part. An argument of
unknown type counts as equal to every parameter, so another overload may be chosen;
`ChoosesAlike` says that its result is the same or unknown, and that it may be called.
-/

namespace ClassScript

namespace Typing

open Check (Blind Clean Quiet Mimics Any)

/-- The method may be called at a call or a `new`: it is not hidden, or not called from outside. -/
def InReach (cx : CheckContext) (s : CheckState) (k : MethodInfo) : Expr → Prop
  | .callOn receiver method _ _ => ∀ tg,
    explicitTarget cx (denote cx .receiver receiver s).1 method.name = some tg →
      tg.isExternal = true → k.visibility.isExternallyCallable = true
  | .create type _ _ => ∀ c, cx.lookupClass? type.dataType.name = some c →
    cx.isCurrent c = true ∨ k.visibility.isExternallyCallable = true
  | _ => True

/-- The overloads chosen at two expressions have the same result, or the second an unknown one, and
the second is in reach. -/
def ChoosesAlike (cx : CheckContext) (s : CheckState) (e e' : Expr) : Prop :=
  ∀ sel k sel' k', selection? cx e s = some sel → sel.method? cx.classes = some k →
    selection? cx e' s = some sel' → sel'.method? cx.classes = some k' →
      Weaker (sel.type k) (sel'.type k') ∧ InReach cx s k' e'

variable {cx : CheckContext} {s s' : CheckState}

/-! ## Choices do not depend on what was reported -/

theorem selection?_like (e : Expr) (h : s.Like s') : selection? cx e s' = selection? cx e s := by
  cases e with
  | call method args span =>
    have ht := (implicitTarget_quiet cx method.name span).blind
    simp only [selection?]
    rw [ht.result h, (inferAll_quiet cx args).blind.result (ht.like h)]
  | callOn receiver method args span =>
    have hr := (denote_quiet cx .receiver receiver).blind
    simp only [selection?]
    rw [hr.result h, (inferAll_quiet cx args).blind.result (hr.like h)]
  | create type args span =>
    have ht := (resolveType_quiet cx type.dataType type.span).blind
    simp only [selection?]
    rw [ht.result h, (inferAll_quiet cx args).blind.result (ht.like h)]
  | _ => rfl

theorem InReach.like {k : MethodInfo} {e : Expr} (h : s.Like s') (hr : InReach cx s k e) :
    InReach cx s' k e := by
  cases e with
  | callOn receiver method args span =>
    intro tg htg
    rw [(denote_quiet cx .receiver receiver).blind.result h] at htg
    exact hr tg htg
  | _ => exact hr

theorem ChoosesAlike.like {e e' : Expr} (h : s.Like s') (hc : ChoosesAlike cx s e e') :
    ChoosesAlike cx s' e e' := by
  intro sel k sel' k' hsel hk hsel' hk'
  rw [selection?_like e h] at hsel
  rw [selection?_like e' h] at hsel'
  obtain ⟨htype, hreach⟩ := hc sel k sel' k' hsel hk hsel' hk'
  exact ⟨htype, hreach.like h⟩

/-! ## Places -/

variable {new : List CheckError} {a a' : Expr}

/-- Two operands and a rule, with another left operand. -/
theorem left_mimics {right : Expr} {f f' : Denotation → Denotation → Check Denotation}
    (ha : Mimics new Denotation.Weaker (denote cx .value a) (denote cx .value a') s)
    (bf : ∀ l r, Blind (f l r)) (bf' : ∀ l r, Blind (f' l r))
    (hf : ∀ l l' r s, l.Weaker l' → Mimics [] Denotation.Weaker (f l r) (f' l' r) s) :
    Mimics new Denotation.Weaker (do
      let l ← denote cx .value a
      let r ← denote cx .value right
      f l r) (do
      let l ← denote cx .value a'
      let r ← denote cx .value right
      f' l r) s := by
  have br := (denote_quiet cx .value right).blind
  refine ha.seq (denote_quiet cx .value a).blind (fun l => br.bind (bf l))
    (fun l => br.bind (bf' l)) fun hl => ?_
  exact .after br (bf _) (hf _ _ _ _ hl)

/-- Two operands and a rule, with another right operand. -/
theorem right_mimics {left : Expr} {f f' : Denotation → Denotation → Check Denotation}
    (ha : ∀ s₁, s.Like s₁ → Mimics new Denotation.Weaker (denote cx .value a) (denote cx .value a') s₁)
    (bf : ∀ l r, Blind (f l r)) (bf' : ∀ l r, Blind (f' l r))
    (hf : ∀ l r r' s, r.Weaker r' → Mimics [] Denotation.Weaker (f l r) (f' l r') s) :
    Mimics new Denotation.Weaker (do
      let l ← denote cx .value left
      let r ← denote cx .value a
      f l r) (do
      let l ← denote cx .value left
      let r ← denote cx .value a'
      f' l r) s := by
  have bl := denote_quiet cx .value left
  have ba := (denote_quiet cx .value a).blind
  refine .after bl.blind (fun l => ba.bind (bf l)) ?_
  exact (ha _ (bl.like s)).seq ba (bf _) (bf' _) fun hr => hf _ _ _ _ hr

/-- The types of arguments, one of which is another expression. -/
theorem inferAll_mimics {before after : List Expr} (ha : ∀ s₁, s.Like s₁ →
      Mimics new Denotation.Weaker (denote cx .value a) (denote cx .value a') s₁) :
    Mimics new (fun ts ts' => ts'.length = ts.length) (inferAll cx (before ++ a :: after))
      (inferAll cx (before ++ a' :: after)) s := by
  induction before generalizing s with
  | nil =>
    simp only [List.nil_append]
    unfold inferAll
    have bafter := (inferAll_quiet cx after).blind
    refine (ha s (.refl s)).seq (denote_quiet cx .value a).blind
      (fun _ => bafter.bind fun _ => Blind.pure _) (fun _ => bafter.bind fun _ => Blind.pure _)
      fun _ => .after bafter (fun _ => Blind.pure _) (.pure rfl)
  | cons e before ih =>
    simp only [List.cons_append]
    unfold inferAll
    have be := denote_quiet cx .value e
    have brest := fun a => (inferAll_quiet cx (before ++ a :: after)).blind
    refine .after be.blind (fun _ => (brest a).bind fun _ => Blind.pure _) ?_
    have hrest := ih fun s₁ hs₁ => ha s₁ ((be.like s).trans hs₁)
    exact hrest.seq (brest a) (fun _ => Blind.pure _) (fun _ => Blind.pure _) fun hlen =>
      .pure (by simp [hlen])

/-- A call with another argument, if it chooses alike. -/
theorem callWith_mimics {target : Option CallTarget} {m : Ident} {before after : List Expr}
    {span : Span}
    (ha : ∀ s₁, s.Like s₁ → Mimics new Denotation.Weaker (denote cx .value a) (denote cx .value a') s₁)
    (hchoice : ∀ tg g k k', target = some tg → tg.group = some g →
      Overload.chosen cx.classes tg.bindings g (inferAll cx (before ++ a :: after) s).1 = some k →
      Overload.chosen cx.classes tg.bindings g (inferAll cx (before ++ a' :: after) s).1 = some k' →
      Weaker (resultType tg.bindings k) (resultType tg.bindings k') ∧
        (tg.isExternal = true → k'.visibility.isExternallyCallable = true)) :
    Mimics new Denotation.Weaker (callWith cx target m (before ++ a :: after) span)
      (callWith cx target m (before ++ a' :: after) span) s := by
  have bcall : ∀ types, Blind (do return .ofType? (← callType cx target m types span) :
      Check Denotation) := fun types =>
    (callType_quiet cx target m types span).blind.bind fun _ => Blind.pure _
  refine (inferAll_mimics ha).seq (inferAll_quiet cx _).blind bcall bcall fun hlen => ?_
  exact (callType_mimics hlen hchoice).seq (callType_quiet cx _ _ _ _).blind (fun _ => Blind.pure _)
    (fun _ => Blind.pure _) fun ht => .pure (.ofType? ht)

/-- A call on a receiver of unknown type has no type. -/
theorem callWith_unknown {target : Option CallTarget} {m : Ident} {args : List Expr} {span : Span} :
    Mimics [] Denotation.Weaker (callWith cx target m args span) (callWith cx none m args span) s := by
  have bcall : ∀ target types, Blind (do return .ofType? (← callType cx target m types span) :
      Check Denotation) := fun target types =>
    (callType_quiet cx target m types span).blind.bind fun _ => Blind.pure _
  refine .after (inferAll_quiet cx args).blind (bcall target) ?_
  exact .of_pure ((callType_quiet cx _ _ _ _).bind fun _ => Quiet.pure _) fun _ =>
    ⟨.unknown, rfl, .inr rfl⟩

theorem implicitTarget_internal {name : String} {span : Span} {target : CallTarget}
    (h : (implicitTarget cx name span s).1 = some target) : target.isExternal = false := by
  unfold implicitTarget at h
  split at h
  · split at h
    · cases h
    · cases h
      rfl
  · cases h
    rfl

/-- A call on no receiver with another argument. -/
theorem argument_mimics {m : Ident} {before after : List Expr} {span : Span}
    (ha : ∀ s₁, s.Like s₁ → Mimics new Denotation.Weaker (denote cx .value a) (denote cx .value a') s₁)
    (hchoice : ChoosesAlike cx s (.call m (before ++ a :: after) span)
      (.call m (before ++ a' :: after) span)) (role : Role) :
    Mimics new Denotation.Weaker (denote cx role (.call m (before ++ a :: after) span))
      (denote cx role (.call m (before ++ a' :: after) span)) s := by
  have bt := implicitTarget_quiet cx m.name span
  unfold denote
  refine .after bt.blind (fun target => (callWith_quiet target m _ span).blind) ?_
  refine callWith_mimics (fun s₁ h₁ => ha s₁ ((bt.like s).trans h₁)) ?_
  intro tg g k k' htg hg hk hk'
  have hsel : ∀ args, selection? cx (.call m args span) s =
      some ⟨tg.bindings, g, (inferAll cx args (implicitTarget cx m.name span s).2).1,
        resultType tg.bindings⟩ := by
    intro args
    simp only [selection?, htg, callSelection, Option.bind_some, hg, Option.map_some]
  refine ⟨(hchoice _ k _ k' (hsel _) hk (hsel _) hk').1, fun hexternal => ?_⟩
  rw [implicitTarget_internal htg] at hexternal
  cases hexternal

/-- A call on a receiver with another argument. -/
theorem argumentOn_mimics {object : Expr} {m : Ident} {before after : List Expr} {span : Span}
    (ha : ∀ s₁, s.Like s₁ → Mimics new Denotation.Weaker (denote cx .value a) (denote cx .value a') s₁)
    (hchoice : ChoosesAlike cx s (.callOn object m (before ++ a :: after) span)
      (.callOn object m (before ++ a' :: after) span)) (role : Role) :
    Mimics new Denotation.Weaker (denote cx role (.callOn object m (before ++ a :: after) span))
      (denote cx role (.callOn object m (before ++ a' :: after) span)) s := by
  have bo := denote_quiet cx .receiver object
  unfold denote
  refine .after bo.blind (fun outer =>
    (callWith_quiet (explicitTarget cx outer m.name) m _ span).blind) ?_
  refine callWith_mimics (fun s₁ h₁ => ha s₁ ((bo.like s).trans h₁)) ?_
  intro tg g k k' htg hg hk hk'
  have hsel : ∀ args, selection? cx (.callOn object m args span) s =
      some ⟨tg.bindings, g, (inferAll cx args (denote cx .receiver object s).2).1,
        resultType tg.bindings⟩ := by
    intro args
    simp only [selection?, htg, callSelection, Option.bind_some, hg, Option.map_some]
  obtain ⟨htype, hreach⟩ := hchoice _ k _ k' (hsel _) hk (hsel _) hk'
  exact ⟨htype, hreach tg htg⟩

/-- A call on another receiver. -/
theorem receiver_mimics {m : Ident} {args : List Expr} {span : Span}
    (ha : Mimics new Denotation.Weaker (denote cx .receiver a) (denote cx .receiver a') s)
    (role : Role) :
    Mimics new Denotation.Weaker (denote cx role (.callOn a m args span))
      (denote cx role (.callOn a' m args span)) s := by
  have bcall : ∀ outer, Blind (callWith cx (explicitTarget cx outer m.name) m args span) :=
    fun outer => (callWith_quiet _ m args span).blind
  unfold denote
  refine ha.seq (denote_quiet cx .receiver a).blind bcall bcall fun ho => ?_
  rcases ho with ho | ho
  · rw [ho]
    exact .same .refl
  · rw [ho]
    exact callWith_unknown

/-- A `new` with another argument. -/
theorem argumentNew_mimics {type : TypeRef} {before after : List Expr} {span : Span}
    (ha : ∀ s₁, s.Like s₁ → Mimics new Denotation.Weaker (denote cx .value a) (denote cx .value a') s₁)
    (hchoice : ChoosesAlike cx s (.create type (before ++ a :: after) span)
      (.create type (before ++ a' :: after) span)) (role : Role) :
    Mimics new Denotation.Weaker (denote cx role (.create type (before ++ a :: after) span))
      (denote cx role (.create type (before ++ a' :: after) span)) s := by
  have bt := resolveType_quiet cx type.dataType type.span
  have bnew : ∀ d types, Blind (do return .ofType? (← createType cx d types span) :
      Check Denotation) := fun d types =>
    (createType_quiet cx d types span).blind.bind fun _ => Blind.pure _
  unfold denote
  refine .after bt.blind (fun d => (inferAll_quiet cx _).blind.bind (bnew d)) ?_
  refine (inferAll_mimics fun s₁ h₁ => ha s₁ ((bt.like s).trans h₁)).seq
    (inferAll_quiet cx _).blind (bnew _) (bnew _) fun hlen => ?_
  refine (createType_mimics hlen ?_).seq (createType_quiet cx _ _ _).blind (fun _ => Blind.pure _)
    (fun _ => Blind.pure _) fun ht => .pure (.ofType? ht)
  intro d c k k' hd hc he hk hk'
  have hsel : ∀ args, selection? cx (.create type args span) s =
      some ⟨⟨c.typeParams, d.args⟩, c.constructors,
        (inferAll cx args (cx.resolveType type.dataType type.span s).2).1, fun _ => some d⟩ := by
    intro args
    simp only [selection?, hd, Option.bind_some, hc, he, Bool.false_eq_true, ↓reduceIte]
  obtain ⟨-, hreach⟩ := hchoice _ k _ k' (hsel _) hk (hsel _) hk'
  refine hreach c ?_
  have hdata : d = type.dataType := by
    unfold CheckContext.resolveType at hd
    cases hu : cx.firstUnknown? type.dataType with
    | some name =>
      rw [hu] at hd
      cases hd
    | none =>
      rw [hu] at hd
      exact (Option.some.inj hd).symm
  rw [← hdata]
  exact hc

/-- An assignment to another target. -/
theorem target_mimics {op : AssignOp} {v : Expr} {span : Span}
    (ha : Mimics new Denotation.Weaker (denote cx .value a) (denote cx .value a') s)
    (hassign : a.isAssignable = true → a'.isAssignable = true) (role : Role) :
    Mimics new Denotation.Weaker (denote cx role (.assign op a v span))
      (denote cx role (.assign op a' v span)) s := by
  have bv := (denote_quiet cx .value v).blind
  unfold denote
  by_cases hassignable : a.isAssignable
  · rw [if_pos hassignable, if_pos (hassign hassignable)]
    cases op.binary? with
    | none =>
      have brest : ∀ t v' : Denotation, Blind (do
          requireFits v'.type? t.type? v.span
          return .ofType? t.type? : Check Denotation) := fun t v' =>
        (requireFits_quiet _ _ _).blind.bind fun _ => Blind.pure _
      refine left_mimics ha brest brest fun t t' v' s₁ ht => ?_
      exact (requireFits_mimics (.refl _) ht.type?).seq (requireFits_quiet _ _ _).blind
        (fun _ => Blind.pure _) (fun _ => Blind.pure _) fun _ => .pure (.ofType? ht.type?)
    | some op =>
      have brest : ∀ t v' : Denotation, Blind (do
          return .ofType? (← compoundType op t.type? v'.type? span) : Check Denotation) := fun t v' =>
        (compoundType_quiet _ _ _ _).blind.bind fun _ => Blind.pure _
      refine left_mimics ha brest brest fun t t' v' s₁ ht => ?_
      exact (compoundType_mimics ht.type? (.refl _)).seq (compoundType_quiet _ _ _ _).blind
        (fun _ => Blind.pure _) (fun _ => Blind.pure _) fun hr => .pure (.ofType? hr)
  · rw [if_neg hassignable]
    refine fun hclean => (hclean.report_bind fun _ => ?_).elim
    exact (denote_quiet cx .value v).bind fun _ => Quiet.pure _

/-- An assignment of another value. -/
theorem value_mimics {op : AssignOp} {target : Expr} {span : Span}
    (ha : ∀ s₁, s.Like s₁ → Mimics new Denotation.Weaker (denote cx .value a) (denote cx .value a') s₁)
    (role : Role) :
    Mimics new Denotation.Weaker (denote cx role (.assign op target a span))
      (denote cx role (.assign op target a' span)) s := by
  unfold denote
  by_cases hassignable : target.isAssignable
  · rw [if_pos hassignable, if_pos hassignable]
    cases op.binary? with
    | none =>
      have brest : ∀ (sp : Span) (t v : Denotation), Blind (do
          requireFits v.type? t.type? sp
          return .ofType? t.type? : Check Denotation) := fun sp t v =>
        (requireFits_quiet _ _ _).blind.bind fun _ => Blind.pure _
      refine right_mimics ha (brest a.span) (brest a'.span) fun t v v' s₁ hv => ?_
      exact (requireFits_mimics hv.type? (.refl _)).seq (requireFits_quiet _ _ _).blind
        (fun _ => Blind.pure _) (fun _ => Blind.pure _) fun _ => .pure (.refl _)
    | some op =>
      have brest : ∀ t v : Denotation, Blind (do
          return .ofType? (← compoundType op t.type? v.type? span) : Check Denotation) := fun t v =>
        (compoundType_quiet _ _ _ _).blind.bind fun _ => Blind.pure _
      refine right_mimics ha brest brest fun t v v' s₁ hv => ?_
      exact (compoundType_mimics (.refl _) hv.type?).seq (compoundType_quiet _ _ _ _).blind
        (fun _ => Blind.pure _) (fun _ => Blind.pure _) fun hr => .pure (.ofType? hr)
  · rw [if_neg hassignable, if_neg hassignable]
    refine fun hclean => (hclean.report_bind fun _ => ?_).elim
    exact (denote_quiet cx .value a).bind fun _ => Quiet.pure _

/-- The branches of a conditional expression and the rule for its type. -/
def branches (cx : CheckContext) (yes no : Expr) : Check Denotation := do
  let y ← denote cx .value yes
  let n ← denote cx .value no
  typed (conditionalType cx y.type? n.type? no.span)

theorem branches_blind (cx : CheckContext) (yes no : Expr) : Blind (branches cx yes no) :=
  (denote_quiet cx .value yes).blind.bind fun _ => (denote_quiet cx .value no).blind.bind fun _ =>
    (typed_quiet (conditionalType_quiet cx _ _ _)).blind

theorem conditional_eq (cx : CheckContext) (role : Role) (condition yes no : Expr) (span : Span) :
    denote cx role (.conditional condition yes no span) =
      (checkCondition cx condition >>= fun _ => branches cx yes no) := by
  conv_lhs => unfold denote
  unfold checkCondition infer
  simp only [bind_assoc, pure_bind]
  rfl

theorem infer_mimics
    (ha : Mimics new Denotation.Weaker (denote cx .value a) (denote cx .value a') s) :
    Mimics new Weaker (infer cx a) (infer cx a') s :=
  ha.seq (denote_quiet cx .value a).blind (fun _ => Blind.pure _) (fun _ => Blind.pure _)
    fun h => .pure h.type?

theorem checkCondition_mimics
    (ha : Mimics new Denotation.Weaker (denote cx .value a) (denote cx .value a') s) :
    Mimics new Any (checkCondition cx a) (checkCondition cx a') s :=
  (infer_mimics ha).seq (infer_quiet cx a).blind (fun _ => (requireCondition_quiet _ _).blind)
    (fun _ => (requireCondition_quiet _ _).blind) requireCondition_mimics

theorem typed_mimics {x x' : Check (Option DataType)} (bx : Blind x) (h : Mimics new Weaker x x' s) :
    Mimics new Denotation.Weaker (typed x) (typed x') s :=
  h.seq bx (fun _ => Blind.pure _) (fun _ => Blind.pure _) fun ht => .pure (.ofType? ht)

theorem condition_mimics {yes no : Expr} {span : Span}
    (ha : Mimics new Denotation.Weaker (denote cx .value a) (denote cx .value a') s) (role : Role) :
    Mimics new Denotation.Weaker (denote cx role (.conditional a yes no span))
      (denote cx role (.conditional a' yes no span)) s := by
  rw [conditional_eq, conditional_eq]
  exact (checkCondition_mimics ha).followed (checkCondition_quiet cx a).blind
    (branches_blind cx yes no) .refl

theorem yes_mimics {condition no : Expr} {span : Span}
    (ha : ∀ s₁, s.Like s₁ → Mimics new Denotation.Weaker (denote cx .value a) (denote cx .value a') s₁)
    (role : Role) :
    Mimics new Denotation.Weaker (denote cx role (.conditional condition a no span))
      (denote cx role (.conditional condition a' no span)) s := by
  have bc := checkCondition_quiet cx condition
  have brest : ∀ y n : Denotation, Blind (typed (conditionalType cx y.type? n.type? no.span)) :=
    fun _ _ => (typed_quiet (conditionalType_quiet cx _ _ _)).blind
  rw [conditional_eq, conditional_eq]
  refine .after bc.blind (fun _ => branches_blind cx _ _) ?_
  refine left_mimics (ha _ (bc.like s)) brest brest fun y y' n s₁ hy => ?_
  exact typed_mimics (conditionalType_quiet cx _ _ _).blind (conditionalType_mimics hy.type? (.refl _))

theorem no_mimics {condition yes : Expr} {span : Span}
    (ha : ∀ s₁, s.Like s₁ → Mimics new Denotation.Weaker (denote cx .value a) (denote cx .value a') s₁)
    (role : Role) :
    Mimics new Denotation.Weaker (denote cx role (.conditional condition yes a span))
      (denote cx role (.conditional condition yes a' span)) s := by
  have bc := checkCondition_quiet cx condition
  have brest : ∀ (sp : Span) (y n : Denotation),
      Blind (typed (conditionalType cx y.type? n.type? sp)) :=
    fun _ _ _ => (typed_quiet (conditionalType_quiet cx _ _ _)).blind
  rw [conditional_eq, conditional_eq]
  refine .after bc.blind (fun _ => branches_blind cx _ _) ?_
  refine right_mimics (fun s₁ h₁ => ha s₁ ((bc.like s).trans h₁)) (brest a.span) (brest a'.span)
    fun y n n' s₁ hn => ?_
  exact typed_mimics (conditionalType_quiet cx _ _ _).blind (conditionalType_mimics (.refl _) hn.type?)

/-- An increment or another operator of one operand. -/
theorem operand_mimics {op : UnaryOp} {span : Span}
    (ha : Mimics new Denotation.Weaker (denote cx .value a) (denote cx .value a') s)
    (hassign : a.isAssignable = true → a'.isAssignable = true) (role : Role) :
    Mimics new Denotation.Weaker (denote cx role (.unary op a span))
      (denote cx role (.unary op a' span)) s := by
  have ba := (denote_quiet cx .value a).blind
  unfold denote
  cases hop : op.mutates with
  | true =>
    have brest : ∀ (e : Expr) (t : Denotation), Blind (typed (stepType e t.type? span)) :=
      fun _ _ => (typed_quiet (stepType_quiet _ _ _)).blind
    simp only [↓reduceIte]
    exact ha.seq ba (brest a) (brest a') fun ht =>
      typed_mimics (stepType_quiet _ _ _).blind (stepType_mimics ht.type? hassign)
  | false =>
    have brest : ∀ t : Denotation, Blind (typed (unaryType op t.type? span)) :=
      fun _ => (typed_quiet (unaryType_quiet _ _ _)).blind
    simp only [Bool.false_eq_true, ↓reduceIte]
    exact ha.seq ba brest brest fun ht =>
      typed_mimics (unaryType_quiet _ _ _).blind (unaryType_mimics ht.type?)

/-- Every place respects the unknown type. -/
theorem slot_mimics (p : Expr.Slot)
    (ha : ∀ s₁, s.Like s₁ → Mimics new Denotation.Weaker (denote cx p.role a) (denote cx p.role a') s₁)
    (hassign : a.isAssignable = true → a'.isAssignable = true)
    (hchoice : ChoosesAlike cx s (p.fill a) (p.fill a')) (role : Role) :
    Mimics new Denotation.Weaker (denote cx role (p.fill a)) (denote cx role (p.fill a')) s := by
  have here := ha s (.refl s)
  -- what is checked before the part adds no error: the part is checked from a state like `s`
  cases p with
  | object m span =>
    have brest : ∀ outer, Blind (denoteMember cx role outer m) := fun outer =>
      (denoteMember_quiet cx role outer m).blind
    simp only [Expr.Slot.fill]
    unfold denote
    exact here.seq (denote_quiet cx .receiver a).blind brest brest fun ho => denoteMember_mimics ho
  | argument m before after span => exact argument_mimics ha hchoice role
  | receiver m args span => exact receiver_mimics here role
  | argumentOn object m before after span => exact argumentOn_mimics ha hchoice role
  | argumentNew type before after span => exact argumentNew_mimics ha hchoice role
  | indexed key span =>
    have brest : ∀ t k : Denotation, Blind (typed (indexType t.type? k.type? key.span span)) :=
      fun _ _ => (typed_quiet (indexType_quiet _ _ _ _)).blind
    simp only [Expr.Slot.fill]
    unfold denote
    exact left_mimics here brest brest fun t t' k s₁ ht =>
      typed_mimics (indexType_quiet _ _ _ _).blind (indexType_mimics ht.type? (.refl _))
  | key object span =>
    have brest : ∀ (sp : Span) (t k : Denotation), Blind (typed (indexType t.type? k.type? sp span)) :=
      fun _ _ _ => (typed_quiet (indexType_quiet _ _ _ _)).blind
    simp only [Expr.Slot.fill]
    unfold denote
    exact right_mimics ha (brest a.span) (brest a'.span) fun t k k' s₁ hk =>
      typed_mimics (indexType_quiet _ _ _ _).blind (indexType_mimics (.refl _) hk.type?)
  | left op right span =>
    have brest : ∀ l r : Denotation, Blind (typed (binaryType op l.type? r.type? span)) :=
      fun _ _ => (typed_quiet (binaryType_quiet _ _ _ _)).blind
    simp only [Expr.Slot.fill]
    unfold denote
    exact left_mimics here brest brest fun l l' r s₁ hl =>
      typed_mimics (binaryType_quiet _ _ _ _).blind (binaryType_mimics hl.type? (.refl _))
  | right op left span =>
    have brest : ∀ l r : Denotation, Blind (typed (binaryType op l.type? r.type? span)) :=
      fun _ _ => (typed_quiet (binaryType_quiet _ _ _ _)).blind
    simp only [Expr.Slot.fill]
    unfold denote
    exact right_mimics ha brest brest fun l r r' s₁ hr =>
      typed_mimics (binaryType_quiet _ _ _ _).blind (binaryType_mimics (.refl _) hr.type?)
  | operand op span => exact operand_mimics here hassign role
  | stepped op span =>
    have brest : ∀ (e : Expr) (t : Denotation), Blind (typed (stepType e t.type? span)) :=
      fun _ _ => (typed_quiet (stepType_quiet _ _ _)).blind
    simp only [Expr.Slot.fill]
    unfold denote
    exact here.seq (denote_quiet cx .value a).blind (brest a) (brest a') fun ht =>
      typed_mimics (stepType_quiet _ _ _).blind (stepType_mimics ht.type? hassign)
  | target op value span => exact target_mimics here hassign role
  | value op target span => exact value_mimics ha role
  | condition yes no span => exact condition_mimics here role
  | yes condition no span => exact yes_mimics ha role
  | no condition yes span => exact no_mimics ha role

/-! ## Nests of places -/

/-- Around the occurrence, overloads are chosen alike. -/
def ChoosesAround (cx : CheckContext) (s : CheckState) (ps : List Expr.Slot) (e e' : Expr) : Prop :=
  ∀ inner, inner <:+ ps → ChoosesAlike cx s (Expr.plug inner e) (Expr.plug inner e')

theorem plug_isAssignable {e : Expr} {x : Ident} : ∀ ps : List Expr.Slot,
    (Expr.plug ps e).isAssignable = true → (Expr.plug ps (.name x)).isAssignable = true
  | [], _ => rfl
  | p :: ps, h => by
    rw [Expr.plug] at h ⊢
    rw [p.fill_isAssignable _ (Expr.plug ps e)]
    exact h

/-- A name that is no local variable, no field and no class. -/
structure Unresolved (cx : CheckContext) (scope : LocalScope) (name : String) : Prop where
  isLocal : scope.isDeclared name = false
  instanceField : cx.cls.instanceField? cx.classes name = none
  staticField : cx.cls.staticField? cx.classes name = none
  isClass : cx.lookupClass? name = none

/-- The error about a name that denotes nothing. -/
def undefinedName (x : Ident) : CheckError := ⟨.undefined .value x.name, x.span⟩

theorem undefinedName_message (x : Ident) :
    (undefinedName x).message = "variable " ++ x.name ++ " is not defined" := by
  have hspace : "variable " = "variable" ++ " " := rfl
  rw [hspace, String.append_assoc, String.append_assoc]
  rfl

/-- A name that denotes nothing is reported, wherever it stands, and has an unknown type. -/
theorem denote_unresolved {x : Ident} (hx : Unresolved cx s.scope x.name) (role : Role) :
    denote cx role (.name x) s = (.unknown, (Check.report (.undefined .value x.name) x.span s).2) := by
  have hlocal : s.scope.lookup? x.name = none := by
    simpa [LocalScope.isDeclared] using hx.isLocal
  have hvalue : valueOfName cx x s = (none, s) := by
    rw [valueOfName_run]
    simp only [hlocal, hx.instanceField, hx.staticField, Option.map_none]
  unfold denote denoteName
  simp only [bind, StateT.bind, hvalue, hx.isClass]
  cases role <;> rfl

theorem hole_mimics {e : Expr} {x : Ident} (hx : Unresolved cx s.scope x.name) (role : Role) :
    Mimics [undefinedName x] Denotation.Weaker (denote cx role e) (denote cx role (.name x)) s := by
  intro _
  rw [denote_unresolved hx role]
  have hlike := (denote_quiet cx role e).like s
  exact ⟨.inr rfl, ⟨hlike.symm.scope, hlike.symm.loopDepth⟩, rfl⟩

/-- An expression with a name that denotes nothing inside is checked as before, but for the one error
about the name. The induction is on the places around the name. -/
theorem plug_mimics {e : Expr} {x : Ident} {ps : List Expr.Slot}
    (hx : Unresolved cx s.scope x.name) (hchoice : ChoosesAround cx s ps e (.name x)) :
    ∀ (role : Role) (s₁ : CheckState), s.Like s₁ →
      Mimics [undefinedName x] Denotation.Weaker (denote cx role (Expr.plug ps e))
        (denote cx role (Expr.plug ps (.name x))) s₁ := by
  induction ps with
  | nil =>
    intro role s₁ hs
    rw [← hs.scope] at hx
    exact hole_mimics hx role
  | cons p ps ih =>
    intro role s₁ hs
    have hinner := ih fun inner hps => hchoice inner (hps.trans (List.suffix_cons p ps))
    exact slot_mimics p (fun s₂ hs₂ => hinner p.role s₂ (hs.trans hs₂)) (plug_isAssignable ps)
      ((hchoice (p :: ps) List.suffix_rfl).like hs) role

end Typing

end ClassScript
