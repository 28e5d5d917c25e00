import ClassScript.Proofs.Typing.Unknown

/-!
# Checking with a type that is not known

`Check.Mimics new R x x' s`: if `x` reports nothing from `s`, then `x'` reports exactly `new`, leaves
the same local variables and loops, and gives a result that is related by `R`. It is closed under
sequencing (`Mimics.bind`), because checking does not see what was reported before.

`Weaker` relates a type to itself and to the unknown type. Every rule respects it: where a rule
reports nothing, it reports nothing if some of its inputs are unknown either, and its result is the
same or unknown (the lemmas `_mimics`). The choice of an overload is the exception, so the lemmas about
calls assume what they need of it.
-/

namespace ClassScript

/-- The same type, or the unknown one. -/
def Weaker (t t' : Option DataType) : Prop := t' = t ∨ t' = none

/-- The same denotation, or the unknown one. -/
def Denotation.Weaker (d d' : Denotation) : Prop := d' = d ∨ d' = .unknown

theorem Weaker.refl (t : Option DataType) : Weaker t t := .inl rfl

theorem Weaker.none (t : Option DataType) : Weaker t none := .inr rfl

namespace Denotation.Weaker

variable {d d' : Denotation} {t t' : Option DataType}

theorem refl (d : Denotation) : d.Weaker d := .inl rfl

theorem type? (h : d.Weaker d') : ClassScript.Weaker d.type? d'.type? := by
  rcases h with rfl | rfl
  · exact .inl rfl
  · exact .inr rfl

theorem ofType? (h : ClassScript.Weaker t t') :
    (ClassScript.Denotation.ofType? t).Weaker (.ofType? t') := by
  rcases h with rfl | rfl
  · exact .inl rfl
  · exact .inr rfl

end Denotation.Weaker

namespace Check

variable {α β γ δ : Type} {new more : List CheckError} {R : α → β → Prop} {Q : γ → δ → Prop}
  {x : Check α} {x' : Check β} {f : α → Check γ} {f' : β → Check δ} {s : CheckState}

/-- `x'` reports exactly `new` where `x` reports nothing (module doc). -/
def Mimics (new : List CheckError) (R : α → β → Prop) (x : Check α) (x' : Check β)
    (s : CheckState) : Prop :=
  Clean x s → R (x s).1 (x' s).1 ∧ (x s).2.Like (x' s).2 ∧ (x' s).2.errors = s.errors ++ new

/-- Results about which nothing is said. -/
def Any (_ : α) (_ : β) : Prop := True

theorem Mimics.same {R : α → α → Prop} (hr : ∀ a, R a a) : Mimics [] R x x s := by
  intro hx
  exact ⟨hr _, .refl _, by rw [List.append_nil]; exact hx⟩

/-- Both go on, from states that differ in what was reported. -/
theorem Mimics.bind (hx : Mimics new R x x' s) (bx : Blind x) (bf : ∀ a, Blind (f a))
    (bf' : ∀ b, Blind (f' b))
    (hf : R (x s).1 (x' s).1 → Mimics more Q (f (x s).1) (f' (x' s).1) (x s).2) :
    Mimics (new ++ more) Q (x >>= f) (x' >>= f') s := by
  intro h
  obtain ⟨hclean, hrest⟩ := h.split bx bf
  obtain ⟨hr, hlike, herrors⟩ := hx hclean
  obtain ⟨hq, hlike', herrors'⟩ := hf hr hrest
  have hb := bf' (x' s).1
  obtain ⟨added, hadded, hadded'⟩ := hb.adds hlike
  have hnew : added = more := by
    rw [herrors', hclean] at hadded
    exact (List.append_cancel_left hadded).symm
  refine ⟨?_, hlike'.trans (hb.like hlike), ?_⟩
  · show Q (f (x s).1 (x s).2).1 (f' (x' s).1 (x' s).2).1
    rw [hb.result hlike]
    exact hq
  · show (f' (x' s).1 (x' s).2).2.errors = s.errors ++ (new ++ more)
    rw [hadded', herrors, hnew, List.append_assoc]

/-- Both go on, and nothing more is reported. -/
theorem Mimics.seq (hx : Mimics new R x x' s) (bx : Blind x) (bf : ∀ a, Blind (f a))
    (bf' : ∀ b, Blind (f' b))
    (hf : R (x s).1 (x' s).1 → Mimics [] Q (f (x s).1) (f' (x' s).1) (x s).2) :
    Mimics new Q (x >>= f) (x' >>= f') s := by
  have h := hx.bind bx bf bf' hf
  rwa [List.append_nil] at h

/-- Both go on in the same way. -/
theorem Mimics.followed {f : Unit → Check γ} {Q : γ → γ → Prop} {x x' : Check Unit}
    (hx : Mimics new Any x x' s) (bx : Blind x) (bf : Blind (f ())) (hq : ∀ c, Q c c) :
    Mimics new Q (x >>= f) (x' >>= f) s :=
  hx.seq bx (fun _ => bf) (fun _ => bf) fun _ => .same hq

/-- What comes before is the same. -/
theorem Mimics.after {f' : α → Check δ} (bx : Blind x) (bf : ∀ a, Blind (f a))
    (hf : Mimics new Q (f (x s).1) (f' (x s).1) (x s).2) :
    Mimics new Q (x >>= f) (x >>= f') s := by
  intro h
  obtain ⟨hclean, hrest⟩ := h.split bx bf
  obtain ⟨hq, hlike, herrors⟩ := hf hrest
  have hx : (x s).2.errors = s.errors := hclean
  rw [hx] at herrors
  exact ⟨hq, hlike, herrors⟩

/-- A rule that gives a result at once where the other reports nothing. -/
theorem Mimics.of_pure (bx : Quiet x) (h : Clean x s → ∃ b, x' = pure b ∧ R (x s).1 b) :
    Mimics [] R x x' s := by
  intro hx
  obtain ⟨b, rfl, hr⟩ := h hx
  exact ⟨hr, (bx.like s).symm, (List.append_nil _).symm⟩

theorem Mimics.pure {a : α} {b : β} (h : R a b) :
    Mimics [] R (Pure.pure a : Check α) (Pure.pure b) s :=
  .of_pure (Quiet.pure a) fun _ => ⟨b, rfl, h⟩

end Check

namespace Typing

open Check (Blind Clean Quiet Mimics Any)

variable {cx : CheckContext} {s : CheckState}

/-! ## Requirements -/

theorem requireCondition_mimics {t t' : Option DataType} {span span' : Span} (h : Weaker t t') :
    Mimics [] Any (requireCondition t span) (requireCondition t' span') s := by
  refine .of_pure (requireCondition_quiet _ _) fun hclean => ⟨(), ?_, trivial⟩
  rcases h with rfl | rfl
  · unfold requireCondition at hclean ⊢
    cases t' with
    | none => rfl
    | some t =>
      by_cases hb : t.isBoolean
      · simp only [hb, ↓reduceIte]
      · simp only [hb] at hclean
        exact (Check.clean_report hclean).elim
  · rfl

theorem requireFits_mimics {a a' d d' : Option DataType} {span span' : Span} (ha : Weaker a a')
    (hd : Weaker d d') : Mimics [] Any (requireFits a d span) (requireFits a' d' span') s := by
  refine .of_pure (requireFits_quiet _ _ _) fun hclean => ⟨(), ?_, trivial⟩
  have absent : ∀ t sp, requireFits t none sp = pure () := by
    intro t sp
    cases t <;> rfl
  rcases ha with rfl | rfl
  · rcases hd with rfl | rfl
    · unfold requireFits at hclean ⊢
      cases a' with
      | none => rfl
      | some a =>
        cases d' with
        | none => rfl
        | some d =>
          by_cases hf : a.fitsExactly d
          · simp only [hf, ↓reduceIte]
          · simp only [hf] at hclean
            exact (Check.clean_report hclean).elim
    · exact absent _ _
  · rfl

theorem requireElements_mimics {t t' declared : Option DataType} {iterable iterable' span : Span}
    (h : Weaker t t') : Mimics [] Any (requireElements t declared iterable span)
      (requireElements t' declared iterable' span) s := by
  rcases h with rfl | rfl
  · unfold requireElements
    cases t' with
    | none => exact .same fun _ => trivial
    | some t =>
      by_cases hl : t.isList
      · simp only [hl, ↓reduceIte]
        exact .same fun _ => trivial
      · simp only [hl]
        exact fun hclean => (Check.clean_report hclean).elim
  · exact .of_pure (requireElements_quiet _ _ _ _) fun _ => ⟨(), rfl, trivial⟩

/-! ## Operators -/

/-- An operand that is not Boolean is reported, whichever it is. -/
theorem requireLogical_clean {l r : Option DataType} {span : Span}
    (h : Clean (requireLogical l r span) s) :
    l.filter (fun t => !t.isBoolean) = none ∧ r.filter (fun t => !t.isBoolean) = none := by
  unfold requireLogical at h
  split at h
  · exact (Check.clean_report h).elim
  · rename_i hn
    simpa only [List.findSome?_eq_none_iff, List.mem_cons, List.not_mem_nil, or_false,
      forall_eq_or_imp, forall_eq] using hn

theorem requireLogical_weaker {l l' r r' : Option DataType} {span : Span} (hl : Weaker l l')
    (hr : Weaker r r') (h : Clean (requireLogical l r span) s) :
    requireLogical l' r' span = pure () := by
  obtain ⟨hl₀, hr₀⟩ := requireLogical_clean h
  have hl₁ : l'.filter (fun t => !t.isBoolean) = none := by
    rcases hl with rfl | rfl
    · exact hl₀
    · rfl
  have hr₁ : r'.filter (fun t => !t.isBoolean) = none := by
    rcases hr with rfl | rfl
    · exact hr₀
    · rfl
  unfold requireLogical
  simp only [List.findSome?_cons, hl₁, hr₁, List.findSome?_nil]

theorem binaryType_mimics {op : BinaryOp} {l l' r r' : Option DataType} {span : Span}
    (hl : Weaker l l') (hr : Weaker r r') :
    Mimics [] Weaker (binaryType op l r span) (binaryType op l' r' span) s := by
  cases he : op.isEquality with
  | true =>
    unfold binaryType
    simp only [he, ↓reduceIte]
    exact .pure (.refl _)
  | false =>
    cases hlog : op.isLogical with
    | true =>
      unfold binaryType
      simp only [he, hlog, Bool.false_eq_true, ↓reduceIte]
      have hrequire : Mimics [] Any (requireLogical l r span) (requireLogical l' r' span) s :=
        .of_pure (requireLogical_quiet _ _ _) fun hclean =>
          ⟨(), requireLogical_weaker hl hr hclean, trivial⟩
      exact hrequire.seq (requireLogical_quiet _ _ _).blind (fun _ => Blind.pure _)
        (fun _ => Blind.pure _) fun _ => .pure (.refl _)
    | false =>
      have unknown : l' = none ∨ r' = none →
          Mimics [] Weaker (binaryType op l r span) (binaryType op l' r' span) s := by
        intro h
        exact .of_pure (binaryType_quiet _ _ _ _) fun _ =>
          ⟨none, binaryType_unknown he hlog h, .none _⟩
      rcases hl with rfl | rfl
      · rcases hr with rfl | rfl
        · exact .same .refl
        · exact unknown (.inr rfl)
      · exact unknown (.inl rfl)

theorem unaryType_mimics {op : UnaryOp} {t t' : Option DataType} {span : Span} (h : Weaker t t') :
    Mimics [] Weaker (unaryType op t span) (unaryType op t' span) s := by
  rcases h with rfl | rfl
  · exact .same .refl
  · exact .of_pure (unaryType_quiet _ _ _) fun _ => ⟨none, rfl, .none _⟩

/-- What may be assigned to may be assigned to with another expression inside. -/
theorem stepType_mimics {e e' : Expr} {t t' : Option DataType} {span : Span} (h : Weaker t t')
    (ha : e.isAssignable = true → e'.isAssignable = true) :
    Mimics [] Weaker (stepType e t span) (stepType e' t' span) s := by
  refine .of_pure (stepType_quiet _ _ _) fun hclean => ?_
  rcases h with rfl | rfl
  · cases t' with
    | none => exact ⟨none, rfl, .none _⟩
    | some t =>
      unfold stepType at hclean ⊢
      cases ht : t.isInteger with
      | false =>
        simp only [ht, Bool.not_false, ↓reduceIte] at hclean
        exact (report_unclean hclean).elim
      | true =>
        cases he : e.isAssignable with
        | false =>
          simp only [ht, he, Bool.not_true, Bool.not_false, Bool.false_eq_true, ↓reduceIte]
            at hclean
          exact (report_unclean hclean).elim
        | true =>
          simp only [ht, ha he, Bool.not_true, Bool.false_eq_true, ↓reduceIte]
          exact ⟨some t, rfl, .refl _⟩
  · exact ⟨none, rfl, .none _⟩

theorem compoundType_mimics {op : BinaryOp} {t t' v v' : Option DataType} {span : Span}
    (ht : Weaker t t') (hv : Weaker v v') :
    Mimics [] Weaker (compoundType op t v span) (compoundType op t' v' span) s := by
  have unknown : t' = none ∨ v' = none →
      Mimics [] Weaker (compoundType op t v span) (compoundType op t' v' span) s := by
    intro h
    refine .of_pure (compoundType_quiet _ _ _ _) fun _ => ⟨none, ?_, .none _⟩
    rcases h with rfl | rfl
    · rfl
    · cases t' <;> rfl
  rcases ht with rfl | rfl
  · rcases hv with rfl | rfl
    · exact .same .refl
    · exact unknown (.inr rfl)
  · exact unknown (.inl rfl)

theorem conditionalType_mimics {y y' n n' : Option DataType} {span span' : Span}
    (hy : Weaker y y') (hn : Weaker n n') :
    Mimics [] Weaker (conditionalType cx y n span) (conditionalType cx y' n' span') s := by
  refine .of_pure (conditionalType_quiet cx _ _ _) fun hclean => ?_
  have unknown : y' = none ∨ n' = none → ∃ b, conditionalType cx y' n' span' = pure b ∧
      Weaker (conditionalType cx y n span s).1 b := by
    intro h
    refine ⟨none, ?_, .none _⟩
    rcases h with rfl | rfl
    · rfl
    · cases y' <;> rfl
  rcases hy with rfl | rfl
  · rcases hn with rfl | rfl
    · cases y' with
      | none => exact unknown (.inl rfl)
      | some y =>
        cases n' with
        | none => exact unknown (.inr rfl)
        | some n =>
          unfold conditionalType at hclean ⊢
          by_cases h₁ : n.isAssignable cx.classes y
          · simp only [h₁, ↓reduceIte]
            exact ⟨_, rfl, .refl _⟩
          · by_cases h₂ : y.isAssignable cx.classes n
            · simp only [h₁, h₂, Bool.false_eq_true, ↓reduceIte]
              exact ⟨_, rfl, .refl _⟩
            · simp only [h₁, h₂, Bool.false_eq_true, ↓reduceIte] at hclean
              exact (report_unclean hclean).elim
    · exact unknown (.inr rfl)
  · exact unknown (.inl rfl)

/-- A key that is not reported is an Integer or a String, if its type is known, and the element has
the same type for a key of unknown type. -/
theorem indexType_settled {object key : Option DataType} {keySpan span : Span}
    (h : Clean (indexType object key keySpan span) s) :
    key.filter (fun k => !(k.isInteger || k.isString)) = none ∧
      ∃ t, ∀ keySpan', indexType object key keySpan' span = pure t ∧
        indexType object none keySpan' span = pure t := by
  unfold indexType at h ⊢
  cases hm : object.filter DataType.isMap with
  | some m =>
    simp only [hm] at h ⊢
    cases hk : key.filter fun k => !k.isString with
    | some k =>
      simp only [hk] at h
      exact (report_unclean h).elim
    | none =>
      refine ⟨?_, _, fun _ => ⟨rfl, rfl⟩⟩
      rw [Option.filter_eq_none_iff] at hk ⊢
      intro k hkey
      have hstring := hk k hkey
      simp_all
  | none =>
    simp only [hm] at h ⊢
    cases hk : key.filter fun k => !(k.isInteger || k.isString) with
    | some k =>
      simp only [hk] at h
      exact (report_unclean h).elim
    | none =>
      simp only [hk] at h ⊢
      refine ⟨trivial, ?_⟩
      cases object with
      | none => exact ⟨_, fun _ => ⟨rfl, rfl⟩⟩
      | some t =>
        by_cases hl : t.isList
        · simp only [hl, Option.filter_none, ↓reduceIte]
          exact ⟨_, fun _ => ⟨rfl, rfl⟩⟩
        · simp only [hl] at h
          exact (report_unclean h).elim

theorem indexType_mimics {o o' k k' : Option DataType} {keySpan keySpan' span : Span}
    (ho : Weaker o o') (hk : Weaker k k') :
    Mimics [] Weaker (indexType o k keySpan span) (indexType o' k' keySpan' span) s := by
  refine .of_pure (indexType_quiet _ _ _ _) fun hclean => ?_
  obtain ⟨hkey, t, ht⟩ := indexType_settled hclean
  rcases ho with rfl | rfl
  · rw [(ht keySpan).1]
    rcases hk with rfl | rfl
    · exact ⟨t, (ht keySpan').1, .refl t⟩
    · exact ⟨t, (ht keySpan').2, .refl t⟩
  · -- what is looked into is unknown: whatever the key is, so is the element
    have hkey' : k'.filter (fun k => !(k.isInteger || k.isString)) = none := by
      rcases hk with rfl | rfl
      · exact hkey
      · rfl
    refine ⟨none, ?_, .none _⟩
    unfold indexType
    simp only [Option.filter_none, hkey']

/-! ## Members and calls -/

theorem denoteMember_mimics {role : Role} {outer outer' : Denotation} {m : Ident}
    (h : outer.Weaker outer') :
    Mimics [] Denotation.Weaker (denoteMember cx role outer m) (denoteMember cx role outer' m) s := by
  rcases h with rfl | rfl
  · exact .same .refl
  · refine .of_pure (denoteMember_quiet cx _ _ _) fun _ => ⟨.unknown, ?_, .inr rfl⟩
    cases role <;> rfl

/-- A choice with the right number of parameters is not reported. -/
theorem select_unreported {name : String} {b : TypeBindings} {g : List MethodInfo}
    {types : List (Option DataType)} {span : Span} {k : MethodInfo}
    (hk : Overload.chosen cx.classes b g types = some k) (ha : k.arity = types.length) :
    Clean (select cx name b g types span) s := by
  obtain ⟨found, hfound, rfl⟩ := Option.map_eq_some_iff.1 hk
  have haccepts : found.acceptsArity types.length = true := decide_eq_true ha
  unfold select
  rw [hfound]
  dsimp only
  by_cases hf : found.isFallback
  · rw [if_pos hf]
    simp only [haccepts, ↓reduceIte]
    rfl
  · rw [if_neg hf]
    rfl

/-- With as many arguments, a choice that is not reported is not reported for other types. -/
theorem select_mimics {name : String} {b : TypeBindings} {g : List MethodInfo}
    {types types' : List (Option DataType)} {span : Span} (hlen : types'.length = types.length) :
    Mimics [] (fun k k' => k = Overload.chosen cx.classes b g types ∧
        k' = Overload.chosen cx.classes b g types')
      (select cx name b g types span) (select cx name b g types' span) s := by
  intro hclean
  rcases Overload.chosen_both cx.classes b g types types' with rfl | ⟨k, k', hk, hk'⟩
  · exact ⟨⟨rfl, rfl⟩, .refl s, (List.append_nil _).symm⟩
  · obtain ⟨harity, hrun⟩ := select_clean hk hclean
    -- a candidate has the right number of parameters, so the other choice has it as well
    have harity' : k'.arity = types'.length :=
      Overload.chosen_arity hk' (Overload.chosen_mem hk) (harity.trans hlen.symm)
    have hclean' : Clean (select cx name b g types' span) s := select_unreported hk' harity'
    have hquiet := select_quiet cx name b g types span
    have hquiet' := select_quiet cx name b g types' span
    rw [hk, hk']
    refine ⟨⟨hrun, (select_clean hk' hclean').2⟩, ?_, ?_⟩
    · exact (hquiet.like s).symm.trans (hquiet'.like s)
    · rw [List.append_nil]
      exact hclean'

theorem reachable_mimics {b : TypeBindings} {isExternal : Bool} {span : Span} {k k' : MethodInfo}
    (hresult : Weaker (resultType b k) (resultType b k'))
    (hreach : isExternal = true → k'.visibility.isExternallyCallable = true) :
    Mimics [] Weaker (reachable b isExternal span (some k)) (reachable b isExternal span (some k')) s := by
  have hopen : ¬(isExternal && !k'.visibility.isExternallyCallable) = true := by
    intro hhidden
    rw [Bool.and_eq_true, Bool.not_eq_true'] at hhidden
    rw [hreach hhidden.1] at hhidden
    cases hhidden.2
  refine .of_pure (reachable_quiet b isExternal span _) fun hclean => ⟨resultType b k', if_neg hopen, ?_⟩
  unfold reachable at hclean ⊢
  dsimp only at hclean ⊢
  split at hclean
  · exact (report_unclean hclean).elim
  · rename_i hv
    rw [if_neg hv]
    exact hresult

/-- The type of a call does not change if the choice for the other types has the same result and is in
reach. -/
theorem callType_mimics {target : Option CallTarget} {m : Ident} {types types' : List (Option DataType)}
    {span : Span} (hlen : types'.length = types.length)
    (hchoice : ∀ tg g k k', target = some tg → tg.group = some g →
      Overload.chosen cx.classes tg.bindings g types = some k →
      Overload.chosen cx.classes tg.bindings g types' = some k' →
      Weaker (resultType tg.bindings k) (resultType tg.bindings k') ∧
        (tg.isExternal = true → k'.visibility.isExternallyCallable = true)) :
    Mimics [] Weaker (callType cx target m types span) (callType cx target m types' span) s := by
  match target with
  | none => exact .pure (.refl none)
  | some ⟨none, b, isExternal⟩ => exact fun hclean => (report_unclean hclean).elim
  | some ⟨some g, b, isExternal⟩ =>
    have breach := fun found => (reachable_quiet b isExternal span found).blind
    rw [callType_eq, callType_eq]
    refine (select_mimics hlen).seq (select_quiet cx _ _ _ _ _).blind breach breach
      fun ⟨hk, hk'⟩ => ?_
    rw [hk, hk']
    rcases Overload.chosen_both cx.classes b g types types' with rfl | ⟨k, k', hk, hk'⟩
    · exact .pure (.refl none)
    · obtain ⟨hresult, hreach⟩ := hchoice _ g k k' rfl rfl hk hk'
      rw [hk, hk']
      exact reachable_mimics hresult hreach

theorem creatable_mimics {d : DataType} {c : ClassInfo} {span : Span} {k k' : MethodInfo}
    (hreach : cx.isCurrent c = true ∨ k'.visibility.isExternallyCallable = true) :
    Mimics [] Weaker (creatable cx d c span (some k)) (creatable cx d c span (some k')) s := by
  have hopen : ¬(!k'.visibility.isExternallyCallable && !cx.isCurrent c) = true := by
    intro hhidden
    rw [Bool.and_eq_true, Bool.not_eq_true', Bool.not_eq_true'] at hhidden
    rcases hreach with hr | hr
    · rw [hr] at hhidden
      cases hhidden.2
    · rw [hr] at hhidden
      cases hhidden.1
  refine .of_pure (creatable_quiet cx d c span _) fun _ => ⟨some d, if_neg hopen, .inl ?_⟩
  unfold creatable
  dsimp only
  split <;> rfl

/-- The type of a `new` does not change if the choice for the other types is in reach. -/
theorem createType_mimics {type : Option DataType} {types types' : List (Option DataType)} {span : Span}
    (hlen : types'.length = types.length)
    (hchoice : ∀ d c k k', type = some d → cx.lookupClass? d.name = some c →
      c.constructors.isEmpty = false →
      Overload.chosen cx.classes ⟨c.typeParams, d.args⟩ c.constructors types = some k →
      Overload.chosen cx.classes ⟨c.typeParams, d.args⟩ c.constructors types' = some k' →
        cx.isCurrent c = true ∨ k'.visibility.isExternallyCallable = true) :
    Mimics [] Weaker (createType cx type types span) (createType cx type types' span) s := by
  match type with
  | none => exact .pure (.refl none)
  | some d =>
    cases hc : cx.lookupClass? d.name with
    | none =>
      unfold createType
      simp only [hc]
      exact .pure (.refl none)
    | some c =>
      cases he : c.constructors.isEmpty with
      | true =>
        -- without a declared constructor only the number of arguments is looked at
        have hempty : types'.isEmpty = types.isEmpty := by
          cases types <;> cases types' <;> simp_all
        unfold createType
        simp only [hc, he, hempty, hlen, ↓reduceIte]
        exact .same .refl
      | false =>
        have breach := fun found => (creatable_quiet cx d c span found).blind
        rw [createType_eq hc he, createType_eq hc he]
        refine (select_mimics hlen).seq (select_quiet cx _ _ _ _ _).blind breach breach
          fun ⟨hk, hk'⟩ => ?_
        rw [hk, hk']
        rcases Overload.chosen_both cx.classes ⟨c.typeParams, d.args⟩ c.constructors types types' with
          hnone | ⟨k, k', hk, hk'⟩
        · rw [hnone] at he
          cases he
        · rw [hk, hk']
          exact creatable_mimics (hchoice d c k k' rfl hc he hk hk')

end Typing

end ClassScript
