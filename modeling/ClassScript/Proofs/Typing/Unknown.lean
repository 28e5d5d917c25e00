import ClassScript.Proofs.Resolution.Names
import ClassScript.Proofs.Typing.Selection
import ClassScript.Proofs.Typing.Visits

/-!
# Where types are unknown

An expression that is checked without an error may still have no type, for one of the reasons in
`Typing.Untyped`: a local variable of unknown type, an element or a result that the generic
arguments of a container leave open, a receiver of a type that names no class, or an instance of
`void`. Each rule that needs no recursion has no result only if it reports something, if one of its
inputs has no type, or for such a reason (the lemmas `_none`); so an expression without a type is
reported, or checking comes to a reason inside it.

Main statement: `no_type_is_explained`.
-/

namespace ClassScript

/-- The type of the elements of a container, if its type says it. -/
def DataType.element? (t : DataType) : Option DataType :=
  if t.isMap then t.args[1]? else t.args.head?

namespace Typing

open Check (Clean Quiet)

/-- Why an expression without an error may have no type (module doc). -/
inductive Untyped (cx : CheckContext) : Expr → CheckState → Prop
  /-- A local variable whose declared type is unknown. -/
  | variable {i : Ident} {s : CheckState} {var : LocalVar} :
    s.scope.lookup? i.name = some var → var.type = none → Untyped cx (.name i) s
  /-- An element of a container whose type does not say what the elements are. -/
  | element {object key : Expr} {span : Span} {s : CheckState} {t : DataType} :
    (denote cx .value object s).1 = .value t → (t.isMap || t.isList) = true →
      t.element? = none → Untyped cx (.index object key span) s
  /-- A result that is a generic parameter, which the type of the receiver leaves open. -/
  | result {e : Expr} {s : CheckState} {sel : Selection} {k : MethodInfo} :
    selection? cx e s = some sel → sel.method? cx.classes = some k →
      sel.bindings.isUnbound (sel.bindings.substitute k.resultType) = true → Untyped cx e s
  /-- A member or a method of a value whose type names no class. -/
  | receiver {e object : Expr} {s : CheckState} {t : DataType} : e.receiver? = some object →
      (denote cx .receiver object s).1 = .value t → cx.lookupClass? t.name = none → Untyped cx e s
  /-- An instance of `void`. -/
  | created {type : TypeRef} {args : List Expr} {span : Span} {s : CheckState} :
    sameName type.dataType.name "void" = true → cx.lookupClass? type.dataType.name = none →
      Untyped cx (.create type args span) s

variable {cx : CheckContext} {s : CheckState}

/-! ## Rules without a result -/

theorem ofType?_unknown {t : Option DataType} (h : .ofType? t = Denotation.unknown) : t = none := by
  cases t with
  | none => rfl
  | some _ => cases h

theorem report_unclean {α : Type} {v : Violation} {span : Span} {a : α} :
    ¬ Clean (do Check.report v span; return a : Check α) s :=
  fun h => h.report_bind fun _ => Quiet.pure _

theorem memberType_none {outer : Denotation} {m : Ident} (h : Clean (memberType cx outer m) s)
    (hn : (memberType cx outer m s).1 = none) :
    outer = .unknown ∨ ∃ t, outer = .value t ∧ cx.lookupClass? t.name = none := by
  cases outer with
  | unknown => exact .inl rfl
  | value t =>
    cases hc : cx.lookupClass? t.name with
    | none => exact .inr ⟨t, rfl, hc⟩
    | some c =>
      simp only [memberType, hc] at h hn
      cases hi : c.instanceField? cx.classes m.name with
      | some f =>
        simp only [hi] at hn
        cases hn
      | none =>
        cases hs : c.staticField? cx.classes m.name with
        | some p =>
          simp only [hi, hs] at hn
          cases hn
        | none =>
          simp only [hi, hs] at h
          exact (report_unclean h).elim
  | this =>
    simp only [memberType] at h hn
    cases hi : cx.cls.instanceField? cx.classes m.name with
    | some f =>
      simp only [hi] at hn
      cases hn
    | none =>
      simp only [hi] at h
      exact (report_unclean h).elim
  | cls c =>
    simp only [memberType] at h hn
    cases hs : c.staticField? cx.classes m.name with
    | some p =>
      simp only [hs] at hn
      cases hn
    | none =>
      simp only [hs] at h
      split at h <;> exact (report_unclean h).elim

theorem arithmeticType_clean {op : BinaryOp} {l r : DataType} {span : Span}
    (h : Clean (arithmeticType op l r span) s) :
    ∃ t, arithmeticType op l r span = pure (some t) := by
  unfold arithmeticType at h ⊢
  cases ha : arithmetic op l r with
  | ok t => exact ⟨t, rfl⟩
  | error v =>
    rw [ha] at h
    exact (report_unclean h).elim

theorem binaryType_none {op : BinaryOp} {left right : Option DataType} {span : Span}
    (h : Clean (binaryType op left right span) s)
    (hn : (binaryType op left right span s).1 = none) : left = none ∨ right = none := by
  cases left with
  | none => exact .inl rfl
  | some l =>
    cases right with
    | none => exact .inr rfl
    | some r =>
      unfold binaryType at h hn
      cases he : op.isEquality with
      | true =>
        simp only [he, ↓reduceIte] at hn
        cases hn
      | false =>
        cases hl : op.isLogical with
        | true =>
          simp only [he, hl, Bool.false_eq_true, ↓reduceIte] at hn
          cases hn
        | false =>
          cases hr : op.isRelational with
          | true =>
            simp only [he, hl, hr, Bool.false_eq_true, ↓reduceIte] at hn
            cases hc : comparison? l r <;> simp only [hc] at hn <;> cases hn
          | false =>
            simp only [he, hl, hr, Bool.false_eq_true, ↓reduceIte] at h hn
            obtain ⟨t, ht⟩ := arithmeticType_clean h
            rw [ht] at hn
            cases hn

theorem unaryType_none {op : UnaryOp} {operand : Option DataType} {span : Span}
    (h : Clean (unaryType op operand span) s) (hn : (unaryType op operand span s).1 = none) :
    operand = none := by
  cases operand with
  | none => rfl
  | some t =>
    unfold unaryType at h hn
    cases op with
    | not =>
      by_cases ht : t.isBoolean
      · simp only [ht, ↓reduceIte] at hn
        cases hn
      · simp only [ht] at h
        exact (report_unclean h).elim
    | plus | neg =>
      by_cases ht : t.isInteger
      · simp only [ht, ↓reduceIte] at hn
        cases hn
      · simp only [ht] at h
        exact (report_unclean h).elim
    | inc | dec => cases hn

/-- A step that is not reported has no type, or it steps something that can be assigned. -/
theorem stepType_clean {operand : Expr} {type : Option DataType} {span : Span}
    (h : Clean (stepType operand type span) s) :
    type = none ∨
      operand.isAssignable = true ∧ ∃ t, stepType operand type span = pure (some t) := by
  cases type with
  | none => exact .inl rfl
  | some t =>
    refine .inr ?_
    unfold stepType at h ⊢
    cases ht : t.isInteger with
    | false =>
      simp only [ht, Bool.not_false, ↓reduceIte] at h
      exact (report_unclean h).elim
    | true =>
      cases ha : operand.isAssignable with
      | false =>
        simp only [ht, ha, Bool.not_true, Bool.not_false, Bool.false_eq_true, ↓reduceIte] at h
        exact (report_unclean h).elim
      | true => exact ⟨rfl, t, by simp [ht]⟩

theorem stepType_none {operand : Expr} {type : Option DataType} {span : Span}
    (h : Clean (stepType operand type span) s) (hn : (stepType operand type span s).1 = none) :
    type = none := by
  rcases stepType_clean h with htype | ⟨-, t, ht⟩
  · exact htype
  · rw [ht] at hn
    cases hn

theorem compoundType_none {op : BinaryOp} {target value : Option DataType} {span : Span}
    (h : Clean (compoundType op target value span) s)
    (hn : (compoundType op target value span s).1 = none) : target = none ∨ value = none := by
  cases target with
  | none => exact .inl rfl
  | some t =>
    cases value with
    | none => exact .inr rfl
    | some v =>
      unfold compoundType at h hn
      dsimp only at h hn
      have ha := h.left (arithmeticType_quiet op t v span) fun result => by
        split
        · exact Quiet.pure _
        · split
          · exact Quiet.pure _
          · exact (Quiet.report _ _).bind fun _ => Quiet.pure _
      obtain ⟨result, hresult⟩ := arithmeticType_clean ha
      rw [hresult, pure_bind] at hn
      dsimp only at hn
      split at hn <;> cases hn

theorem conditionalType_none {yes no : Option DataType} {span : Span}
    (h : Clean (conditionalType cx yes no span) s)
    (hn : (conditionalType cx yes no span s).1 = none) : yes = none ∨ no = none := by
  cases yes with
  | none => exact .inl rfl
  | some y =>
    cases no with
    | none => exact .inr rfl
    | some n =>
      unfold conditionalType at h hn
      by_cases hy : n.isAssignable cx.classes y
      · simp only [hy, ↓reduceIte] at hn
        cases hn
      · by_cases hno : y.isAssignable cx.classes n
        · simp only [hy, hno, Bool.false_eq_true, ↓reduceIte] at hn
          cases hn
        · simp only [hy, hno, Bool.false_eq_true, ↓reduceIte] at h
          exact (report_unclean h).elim

theorem indexType_none {object key : Option DataType} {keySpan span : Span}
    (h : Clean (indexType object key keySpan span) s)
    (hn : (indexType object key keySpan span s).1 = none) :
    object = none ∨ ∃ t, object = some t ∧ (t.isMap || t.isList) = true ∧ t.element? = none := by
  cases object with
  | none => exact .inl rfl
  | some t =>
    refine .inr ⟨t, rfl, ?_⟩
    unfold indexType at h hn
    cases hm : t.isMap with
    | true =>
      simp only [Option.filter_some, hm, ↓reduceIte] at h hn
      split at h
      · exact (report_unclean h).elim
      · rename_i hk
        simp only [hk] at hn
        exact ⟨rfl, by rwa [DataType.element?, if_pos hm]⟩
    | false =>
      simp only [Option.filter_some, hm, Bool.false_eq_true, ↓reduceIte] at h hn
      split at h
      · exact (report_unclean h).elim
      · rename_i hk
        simp only [hk] at hn
        cases hl : t.isList with
        | true =>
          simp only [hl, ↓reduceIte] at hn
          exact ⟨rfl, by rwa [DataType.element?, if_neg (by simp [hm])]⟩
        | false =>
          simp only [hl, Bool.false_eq_true, ↓reduceIte] at h
          exact (report_unclean h).elim

/-! ### Calls -/

/-- The methods of a name, if there are any, are at least one. -/
def CallTarget.Offers (target : CallTarget) : Prop := target.group ≠ some []

theorem callType_none {target : CallTarget} (ho : target.Offers) {method : Ident}
    {types : List (Option DataType)} {span : Span}
    (h : Clean (callType cx (some target) method types span) s)
    (hn : (callType cx (some target) method types span s).1 = none) :
    ∃ sel k, callSelection (some target) types = some sel ∧ sel.method? cx.classes = some k ∧
      sel.bindings.isUnbound (sel.bindings.substitute k.resultType) = true := by
  obtain ⟨group, b, isExternal⟩ := target
  cases group with
  | none => exact (report_unclean h).elim
  | some g =>
    cases hk : Overload.chosen cx.classes b g types with
    | none => exact (ho (congrArg some (Overload.chosen_eq_none hk))).elim
    | some k =>
      refine ⟨_, k, rfl, hk, ?_⟩
      have hsel : callSelection (some ⟨some g, b, isExternal⟩) types =
          some ⟨b, g, types, resultType b⟩ := rfl
      obtain ⟨-, htype⟩ := callType_clean hsel hk h
      rw [hn] at htype
      change none = resultType b k at htype
      by_contra hb
      rw [resultType, if_neg hb] at htype
      cases htype

/-- The class of a name is one of the table. -/
theorem has_of_lookupClass? {name : String} {c : ClassInfo} (hc : cx.classes.Has cx.cls)
    (h : cx.lookupClass? name = some c) : cx.classes.Has c := by
  unfold CheckContext.lookupClass? at h
  cases hi : cx.cls.inner? name with
  | some d =>
    rw [hi] at h
    cases h
    exact hc.of_inner? hi
  | none =>
    rw [hi] at h
    exact .of_resolve? h

/-- A class of the table that an expression denotes. -/
theorem has_of_denote_cls (hc : cx.classes.Has cx.cls) : ∀ {e : Expr} {s : CheckState}
    {c : ClassInfo}, (denote cx .receiver e s).1 = .cls c → cx.classes.Has c
  | .name i, s, c, h => has_of_lookupClass? hc (denote_name_cls h).2.2.2
  | .member object i span, s, c, h => by
    rcases denote_cls h with ⟨_, he⟩ | ⟨object', i', span', d, he, hd, hi⟩
    · cases he
    · cases he
      exact (has_of_denote_cls hc hd).of_inner? hi
  | .literal .., s, c, h | .this _, s, c, h | .call .., s, c, h | .callOn .., s, c, h
  | .create .., s, c, h | .index .., s, c, h | .binary .., s, c, h | .unary .., s, c, h
  | .post .., s, c, h | .assign .., s, c, h | .conditional .., s, c, h | .query .., s, c, h => by
    rcases denote_cls h with ⟨_, he⟩ | ⟨_, _, _, _, he, -⟩ <;> cases he

section

variable (hg : ∀ c, cx.classes.Has c → c.Grouped)
include hg

theorem instanceMethods?_offers {c : ClassInfo} (h : cx.classes.Has c) (name : String) :
    c.instanceMethods? cx.classes name ≠ some [] := by
  intro hn
  obtain ⟨d, hd, hn⟩ := List.exists_of_findSome?_eq_some hn
  exact (hg d (h.of_chain hd)).instances name hn

theorem staticMethods?_offers {c : ClassInfo} (h : cx.classes.Has c) (name : String) :
    c.staticMethods? cx.classes name ≠ some [] := by
  intro hn
  obtain ⟨d, hd, hn⟩ := List.exists_of_findSome?_eq_some hn
  exact (hg d (h.of_chain hd)).statics name hn

variable (hc : cx.classes.Has cx.cls)
include hc

/-- A call without a receiver that is not reported has candidates. -/
theorem implicitTarget_offers {name : String} {span : Span}
    (h : Clean (implicitTarget cx name span) s) :
    ∃ target, (implicitTarget cx name span s).1 = some target ∧ target.Offers := by
  have hi := instanceMethods?_offers hg hc name
  have hs := staticMethods?_offers hg hc name
  unfold implicitTarget at h ⊢
  dsimp only at h ⊢
  by_cases hstatic : cx.isStatic
  · rw [if_pos hstatic] at h ⊢
    by_cases hnone : (cx.cls.staticMethods? cx.classes name).isNone &&
        (cx.cls.instanceMethods? cx.classes name).isSome
    · rw [if_pos hnone] at h
      exact (report_unclean h).elim
    · rw [if_neg hnone]
      exact ⟨_, rfl, hs⟩
  · rw [if_neg hstatic]
    refine ⟨_, rfl, ?_⟩
    cases hm : cx.cls.instanceMethods? cx.classes name with
    | none => exact hs
    | some g => exact fun he => hi (hm.trans he)

/-- The candidates on what a receiver denotes. -/
theorem explicitTarget_offers {object : Expr} {name : String} {target : CallTarget}
    (h : explicitTarget cx (denote cx .receiver object s).1 name = some target) :
    target.Offers := by
  unfold explicitTarget at h
  cases hd : (denote cx .receiver object s).1 with
  | this =>
    rw [hd] at h
    cases h
    exact instanceMethods?_offers hg hc name
  | cls c =>
    rw [hd] at h
    cases h
    exact staticMethods?_offers hg (has_of_denote_cls hc hd) name
  | value t =>
    rw [hd] at h
    dsimp only at h
    cases hl : cx.lookupClass? t.name with
    | none =>
      rw [hl] at h
      cases h
    | some c =>
      rw [hl] at h
      cases h
      exact instanceMethods?_offers hg (has_of_lookupClass? hc hl) name
  | unknown =>
    rw [hd] at h
    cases h

end

theorem explicitTarget_none {outer : Denotation} {name : String}
    (h : explicitTarget cx outer name = none) :
    outer = .unknown ∨ ∃ t, outer = .value t ∧ cx.lookupClass? t.name = none := by
  cases outer with
  | unknown => exact .inl rfl
  | this | cls _ => cases h
  | value t =>
    cases hl : cx.lookupClass? t.name with
    | none => exact .inr ⟨t, rfl, hl⟩
    | some c =>
      rw [explicitTarget, hl] at h
      cases h

/-- A `new` of a class has the type that is written. -/
theorem createType_none {d : DataType} {types : List (Option DataType)} {span : Span}
    (h : Clean (createType cx (some d) types span) s)
    (hn : (createType cx (some d) types span s).1 = none) : cx.lookupClass? d.name = none := by
  cases hc : cx.lookupClass? d.name with
  | none => rfl
  | some c =>
    cases he : c.constructors.isEmpty with
    | true =>
      unfold createType at hn
      simp only [hc, he, ↓reduceIte] at hn
      split at hn <;> cases hn
    | false =>
      cases hk : Overload.chosen cx.classes ⟨c.typeParams, d.args⟩ c.constructors types with
      | none =>
        rw [Overload.chosen_eq_none hk] at he
        cases he
      | some k =>
        have htype := (createType_clean hc he hk h).2
        rw [hn] at htype
        cases htype

/-- A type that is not reported names a class, or is `void`. -/
theorem resolveType_clean {d : DataType} {span : Span} (h : Clean (cx.resolveType d span) s) :
    (cx.resolveType d span s).1 = some d ∧
      (cx.lookupClass? d.name = none → sameName d.name "void" = true) := by
  unfold CheckContext.resolveType at h ⊢
  cases hu : cx.firstUnknown? d with
  | some name =>
    rw [hu] at h
    exact (report_unclean h).elim
  | none =>
    refine ⟨rfl, fun hl => ?_⟩
    obtain ⟨name, args⟩ := d
    by_contra hv
    rw [CheckContext.firstUnknown?] at hu
    simp [hv, show cx.lookupClass? name = none from hl] at hu

/-! ## Expressions without a type -/

theorem valueOfName_value {i : Ident} {d : Denotation} (h : (valueOfName cx i s).1 = some d) :
    ∃ t, d = .ofType? t := by
  rw [valueOfName_fst] at h
  cases hl : s.scope.lookup? i.name with
  | some var =>
    rw [hl] at h
    exact ⟨var.type, (Option.some.inj h).symm⟩
  | none =>
    cases hi : cx.cls.instanceField? cx.classes i.name with
    | some f =>
      rw [hl, hi] at h
      refine ⟨if cx.isStatic then none else some f.type, (Option.some.inj h).symm.trans ?_⟩
      cases cx.isStatic <;> rfl
    | none =>
      rw [hl, hi] at h
      obtain ⟨p, -, rfl⟩ := Option.map_eq_some_iff.1 h
      exact ⟨some p.2.type, rfl⟩

/-- As a value, an expression denotes no class, and `this` is a value as any other. -/
theorem denote_value (cx : CheckContext) (e : Expr) (s : CheckState) :
    ∃ t, (denote cx .value e s).1 = .ofType? t := by
  match e with
  | .name i =>
    unfold denote denoteName
    simp only [bind, StateT.bind]
    have hv : ∀ d, (valueOfName cx i s).1 = some d → ∃ t, d = .ofType? t :=
      fun _ => valueOfName_value
    generalize valueOfName cx i s = found at hv
    obtain ⟨_ | d, s'⟩ := found
    · exact ⟨none, rfl⟩
    · exact hv d rfl
  | .this span =>
    unfold denote denoteThis
    by_cases hs : cx.isStatic
    · rw [if_pos hs]
      exact ⟨none, rfl⟩
    · rw [if_neg hs]
      exact ⟨some cx.cls.dataType, rfl⟩
  | .assign op target value span =>
    unfold denote
    by_cases ha : target.isAssignable
    · rw [if_pos ha]
      cases hop : op.binary? with
      | none => exact ⟨(denote cx .value target s).1.type?, rfl⟩
      | some op => exact ⟨_, rfl⟩
    · rw [if_neg ha]
      exact ⟨none, rfl⟩
  | .unary op operand span =>
    unfold denote
    cases hm : op.mutates <;> exact ⟨_, rfl⟩
  | .literal v span =>
    unfold denote
    exact ⟨some v.dataType, rfl⟩
  | .query text span =>
    unfold denote
    exact ⟨some Builtin.recordList, rfl⟩
  | .member .. | .call .. | .callOn .. | .create .. | .index .. | .binary .. | .post ..
  | .conditional .. =>
    unfold denote
    exact ⟨_, rfl⟩

theorem denote_value_none {e : Expr} (h : (denote cx .value e s).1.type? = none) :
    (denote cx .value e s).1 = .unknown := by
  obtain ⟨t, ht⟩ := denote_value cx e s
  rw [ht, Denotation.type?_ofType?] at h
  rw [ht, h]
  rfl

/-- What a rule for types denotes. -/
def typed (x : Check (Option DataType)) : Check Denotation := do
  return .ofType? (← x)

/-- The expression denotes nothing known although nothing is reported. -/
structure Unexplained (x : Check Denotation) (s : CheckState) : Prop where
  clean : Clean x s
  unknown : (x s).1 = .unknown

theorem Unexplained.seq {α : Type} {x : Check α} {f : α → Check Denotation}
    (h : Unexplained (x >>= f) s) (hx : Quiet x) (hf : ∀ a, Quiet (f a)) :
    Clean x s ∧ Unexplained (f (x s).1) (x s).2 :=
  ⟨(h.clean.seq hx hf).1, (h.clean.seq hx hf).2, h.unknown⟩

theorem Unexplained.none {x : Check (Option DataType)} (h : Unexplained (typed x) s)
    (hx : Quiet x) : Clean x s ∧ (x s).1 = .none :=
  ⟨h.clean.left hx fun _ => Quiet.pure _, ofType?_unknown h.unknown⟩

/-- Two values are computed before the rule that leaves the type open. -/
theorem Unexplained.operands {left right : Expr} {f : Denotation → Denotation → Check Denotation}
    (h : Unexplained (do
      let l ← denote cx .value left
      let r ← denote cx .value right
      f l r) s) (hf : ∀ l r, Quiet (f l r)) :
    Unexplained (f (denote cx .value left s).1
        (denote cx .value right (denote cx .value left s).2).1)
      (denote cx .value right (denote cx .value left s).2).2 := by
  obtain ⟨-, hr⟩ := h.seq (denote_quiet cx .value left) fun l =>
    (denote_quiet cx .value right).bind (hf l)
  exact (hr.seq (denote_quiet cx .value right) (hf _)).2

/-- An operand of `e` denotes nothing known. -/
def UnknownPart (cx : CheckContext) (e : Expr) (s : CheckState) : Prop :=
  ∃ role p s', (.expr role p, s') ∈ exprParts cx e s ∧ (denote cx role p s').1 = .unknown

theorem denoteName_unexplained {role : Role} {i : Ident}
    (h : Unexplained (denoteName cx role i) s) : Untyped cx (.name i) s := by
  obtain ⟨hclean, hn⟩ := h
  unfold denoteName Clean at hclean
  unfold denoteName at hn
  simp only [bind, StateT.bind, valueOfName_run] at hclean hn
  -- of what a name can stand for, only a local variable can lack a type
  cases hl : s.scope.lookup? i.name with
  | some var =>
    simp only [hl] at hn
    exact .variable hl (ofType?_unknown hn)
  | none =>
    cases hi : cx.cls.instanceField? cx.classes i.name with
    | some f =>
      cases hs : cx.isStatic with
      | true =>
        simp only [hl, hi, hs, ↓reduceIte] at hclean
        exact (Check.clean_report hclean).elim
      | false =>
        simp only [hl, hi, hs, Bool.false_eq_true, ↓reduceIte] at hn
        cases hn
    | none =>
      cases hf : cx.cls.staticField? cx.classes i.name with
      | some p =>
        simp only [hl, hi, hf] at hn
        cases hn
      | none =>
        simp only [hl, hi, hf, Option.map_none] at hclean hn
        cases role with
        | value => exact (Check.clean_report hclean).elim
        | receiver =>
          cases hc : cx.lookupClass? i.name with
          | none =>
            simp only [hc] at hclean
            exact (Check.clean_report hclean).elim
          | some c =>
            simp only [hc] at hn
            cases hn

theorem denoteThis_unexplained {role : Role} {span : Span}
    (h : Unexplained (denoteThis cx role span) s) : False := by
  obtain ⟨hclean, hn⟩ := h
  unfold denoteThis at hclean hn
  by_cases hs : cx.isStatic
  · rw [if_pos hs] at hclean
    exact report_unclean hclean
  · rw [if_neg hs] at hn
    cases role <;> cases hn

theorem denoteMember_unexplained {role : Role} {outer : Denotation} {m : Ident}
    (h : Unexplained (denoteMember cx role outer m) s) :
    outer = .unknown ∨ ∃ t, outer = .value t ∧ cx.lookupClass? t.name = none := by
  have plain : ∀ {o : Denotation}, Unexplained (typed (memberType cx o m)) s →
      o = .unknown ∨ ∃ t, o = .value t ∧ cx.lookupClass? t.name = none := by
    intro o ho
    obtain ⟨hm, hn⟩ := ho.none (memberType_quiet cx o m)
    exact memberType_none hm hn
  unfold denoteMember at h
  split at h
  · rename_i c
    split at h
    · cases h.unknown
    · exact plain h
  · exact plain h

/-- A call that is not explained by its target has a result that is left open. -/
theorem callWith_unexplained {target : CallTarget} (ho : target.Offers) {method : Ident}
    {args : List Expr} {span : Span}
    (h : Unexplained (callWith cx (some target) method args span) s) :
    ∃ sel k, callSelection (some target) (inferAll cx args s).1 = some sel ∧
      sel.method? cx.classes = some k ∧
      sel.bindings.isUnbound (sel.bindings.substitute k.resultType) = true := by
  obtain ⟨-, hcall⟩ := Unexplained.seq
    (f := fun types => typed (callType cx (some target) method types span)) h
    (inferAll_quiet cx args) fun types => typed_quiet (callType_quiet cx _ _ types _)
  obtain ⟨hclean, hn⟩ := hcall.none (callType_quiet cx _ _ _ _)
  exact callType_none ho hclean hn

theorem create_unexplained {role : Role} {type : TypeRef} {args : List Expr} {span : Span}
    (h : Unexplained (denote cx role (.create type args span)) s) :
    Untyped cx (.create type args span) s := by
  unfold denote at h
  obtain ⟨ht, hnew⟩ := h.seq (resolveType_quiet cx _ _) fun t =>
    (inferAll_quiet cx args).bind fun types => typed_quiet (createType_quiet cx t types span)
  obtain ⟨ht, hvoid⟩ := resolveType_clean ht
  rw [ht] at hnew
  obtain ⟨-, hnew⟩ := Unexplained.seq
    (f := fun types => typed (createType cx (some type.dataType) types span)) hnew
    (inferAll_quiet cx args) fun types => typed_quiet (createType_quiet cx _ types span)
  obtain ⟨hclean, hn⟩ := hnew.none (createType_quiet cx _ _ _)
  have hl := createType_none hclean hn
  exact .created (hvoid hl) hl

theorem index_unexplained {role : Role} {object key : Expr} {span : Span}
    (h : Unexplained (denote cx role (.index object key span)) s) :
    Untyped cx (.index object key span) s ∨ UnknownPart cx (.index object key span) s := by
  unfold denote at h
  have hlast := h.operands (f := fun t k => typed (indexType t.type? k.type? key.span span))
    fun _ _ => typed_quiet (indexType_quiet _ _ _ _)
  obtain ⟨hclean, hn⟩ := hlast.none (indexType_quiet _ _ _ _)
  rcases indexType_none hclean hn with ho | ⟨t, ht, hcontainer, he⟩
  · exact .inr ⟨.value, object, s, List.mem_cons_self, denote_value_none ho⟩
  · refine .inl (.element (t := t) ?_ hcontainer he)
    obtain ⟨t', ht'⟩ := denote_value cx object s
    rw [ht', Denotation.type?_ofType?] at ht
    rw [ht', ht]
    rfl

theorem binary_unexplained {role : Role} {op : BinaryOp} {left right : Expr} {span : Span}
    (h : Unexplained (denote cx role (.binary op left right span)) s) :
    UnknownPart cx (.binary op left right span) s := by
  unfold denote at h
  have hlast := h.operands (f := fun l r => typed (binaryType op l.type? r.type? span))
    fun _ _ => typed_quiet (binaryType_quiet _ _ _ _)
  obtain ⟨hclean, hn⟩ := hlast.none (binaryType_quiet _ _ _ _)
  rcases binaryType_none hclean hn with hl | hr
  · exact ⟨.value, left, s, List.mem_cons_self, denote_value_none hl⟩
  · exact ⟨.value, right, _, by simp [exprParts, valueParts], denote_value_none hr⟩

theorem unary_unexplained {role : Role} {op : UnaryOp} {operand : Expr} {span : Span}
    (h : Unexplained (denote cx role (.unary op operand span)) s) :
    UnknownPart cx (.unary op operand span) s := by
  unfold denote at h
  obtain ⟨-, ho⟩ := h.seq (denote_quiet cx .value operand) fun t => by
    split
    · exact typed_quiet (stepType_quiet _ _ _)
    · exact typed_quiet (unaryType_quiet _ _ _)
  refine ⟨.value, operand, s, List.mem_singleton.2 rfl, denote_value_none ?_⟩
  split at ho
  · obtain ⟨hclean, hn⟩ := Unexplained.none ho (stepType_quiet _ _ _)
    exact stepType_none hclean hn
  · obtain ⟨hclean, hn⟩ := Unexplained.none ho (unaryType_quiet _ _ _)
    exact unaryType_none hclean hn

theorem post_unexplained {role : Role} {op : PostOp} {operand : Expr} {span : Span}
    (h : Unexplained (denote cx role (.post op operand span)) s) :
    UnknownPart cx (.post op operand span) s := by
  unfold denote at h
  obtain ⟨-, ho⟩ := h.seq (denote_quiet cx .value operand) fun t =>
    typed_quiet (stepType_quiet _ _ _)
  obtain ⟨hclean, hn⟩ := Unexplained.none ho (stepType_quiet _ _ _)
  exact ⟨.value, operand, s, List.mem_singleton.2 rfl, denote_value_none (stepType_none hclean hn)⟩

/-- An assignment has the type of its target, or the type that its operator gives. -/
theorem assign_unexplained {role : Role} {op : AssignOp} {target value : Expr} {span : Span}
    (h : Unexplained (denote cx role (.assign op target value span)) s) :
    UnknownPart cx (.assign op target value span) s := by
  unfold denote at h
  by_cases ha : target.isAssignable
  · rw [if_pos ha] at h
    cases hop : op.binary? with
    | none =>
      simp only [hop] at h
      have hlast := h.operands (f := fun t v => do
          requireFits v.type? t.type? value.span
          return .ofType? t.type?) fun _ _ => (requireFits_quiet _ _ _).bind fun _ => Quiet.pure _
      have ht := ofType?_unknown hlast.unknown
      exact ⟨.value, target, s, List.mem_cons_self, denote_value_none ht⟩
    | some op =>
      simp only [hop] at h
      have hlast := h.operands (f := fun t v => typed (compoundType op t.type? v.type? span))
        fun _ _ => typed_quiet (compoundType_quiet _ _ _ _)
      obtain ⟨hclean, hn⟩ := hlast.none (compoundType_quiet _ _ _ _)
      rcases compoundType_none hclean hn with ht | hv
      · exact ⟨.value, target, s, List.mem_cons_self, denote_value_none ht⟩
      · exact ⟨.value, value, _, by simp [exprParts, valueParts], denote_value_none hv⟩
  · -- what is no target is reported
    rw [if_neg ha] at h
    refine (h.clean.report_bind fun _ => ?_).elim
    exact (denote_quiet cx .value value).bind fun _ => Quiet.pure _

theorem conditional_unexplained {role : Role} {condition yes no : Expr} {span : Span}
    (h : Unexplained (denote cx role (.conditional condition yes no span)) s) :
    UnknownPart cx (.conditional condition yes no span) s := by
  unfold denote at h
  have last : ∀ y n : Denotation, Quiet (typed (conditionalType cx y.type? n.type? no.span)) :=
    fun _ _ => typed_quiet (conditionalType_quiet cx _ _ _)
  have arms : Quiet (do
      let y ← denote cx .value yes
      let n ← denote cx .value no
      typed (conditionalType cx y.type? n.type? no.span)) :=
    (denote_quiet cx .value yes).bind fun y => (denote_quiet cx .value no).bind (last y)
  obtain ⟨-, h⟩ := h.seq (denote_quiet cx .value condition) fun c =>
    (requireCondition_quiet c.type? condition.span).bind fun _ => arms
  obtain ⟨-, h⟩ := h.seq (requireCondition_quiet _ _) fun _ => arms
  have hlast := h.operands (f := fun y n => typed (conditionalType cx y.type? n.type? no.span)) last
  obtain ⟨hclean, hn⟩ := hlast.none (conditionalType_quiet cx _ _ _)
  rcases conditionalType_none hclean hn with hy | hno
  · exact ⟨.value, yes, (checkCondition cx condition s).2, by simp [exprParts, valueParts],
      denote_value_none hy⟩
  · exact ⟨.value, no, _, .tail _ (.tail _ (.head _)), denote_value_none hno⟩

theorem member_unexplained {role : Role} {object : Expr} {m : Ident} {span : Span}
    (h : Unexplained (denote cx role (.member object m span)) s) :
    Untyped cx (.member object m span) s ∨ UnknownPart cx (.member object m span) s := by
  unfold denote at h
  obtain ⟨-, hm⟩ := h.seq (denote_quiet cx .receiver object) fun outer =>
    denoteMember_quiet cx role outer m
  rcases denoteMember_unexplained hm with hu | ⟨t, ht, hl⟩
  · exact .inr ⟨.receiver, object, s, List.mem_singleton.2 rfl, hu⟩
  · exact .inl (.receiver rfl ht hl)

section

variable (hg : ∀ c, cx.classes.Has c → c.Grouped) (hc : cx.classes.Has cx.cls)
include hg hc

theorem call_unexplained {role : Role} {method : Ident} {args : List Expr} {span : Span}
    (h : Unexplained (denote cx role (.call method args span)) s) :
    Untyped cx (.call method args span) s := by
  unfold denote at h
  obtain ⟨ht, hcall⟩ := h.seq (implicitTarget_quiet cx _ _) fun target =>
    callWith_quiet target method args span
  obtain ⟨target, htarget, ho⟩ := implicitTarget_offers hg hc ht
  rw [htarget] at hcall
  obtain ⟨sel, k, hsel, hk, hb⟩ := callWith_unexplained ho hcall
  have hcall : selection? cx (.call method args span) s = some sel := by
    rw [selection?, htarget]
    exact hsel
  exact .result hcall hk hb

theorem callOn_unexplained {role : Role} {receiver : Expr} {method : Ident} {args : List Expr}
    {span : Span} (h : Unexplained (denote cx role (.callOn receiver method args span)) s) :
    Untyped cx (.callOn receiver method args span) s ∨
      UnknownPart cx (.callOn receiver method args span) s := by
  unfold denote at h
  obtain ⟨-, hcall⟩ := h.seq (denote_quiet cx .receiver receiver) fun outer =>
    callWith_quiet (explicitTarget cx outer method.name) method args span
  cases ht : explicitTarget cx (denote cx .receiver receiver s).1 method.name with
  | none =>
    rcases explicitTarget_none ht with hu | ⟨t, ht, hl⟩
    · exact .inr ⟨.receiver, receiver, s, List.mem_cons_self, hu⟩
    · exact .inl (.receiver rfl ht hl)
  | some target =>
    rw [ht] at hcall
    obtain ⟨sel, k, hsel, hk, hb⟩ := callWith_unexplained (explicitTarget_offers hg hc ht) hcall
    have hcall : selection? cx (.callOn receiver method args span) s = some sel := by
      rw [selection?, ht]
      exact hsel
    exact .inl (.result hcall hk hb)

/-- An expression without a type that is not reported has a reason for it, or a part without a
type. -/
theorem denote_unexplained {role : Role} : ∀ {e : Expr}, Unexplained (denote cx role e) s →
    Untyped cx e s ∨ UnknownPart cx e s
  | .literal v span, h => by
    unfold denote at h
    cases h.unknown
  | .query text span, h => by
    unfold denote at h
    cases h.unknown
  | .name i, h => by
    unfold denote at h
    exact .inl (denoteName_unexplained h)
  | .this span, h => by
    unfold denote at h
    exact (denoteThis_unexplained h).elim
  | .member .., h => member_unexplained h
  | .call .., h => .inl (call_unexplained hg hc h)
  | .callOn .., h => callOn_unexplained hg hc h
  | .create .., h => .inl (create_unexplained h)
  | .index .., h => index_unexplained h
  | .binary .., h => .inr (binary_unexplained h)
  | .unary .., h => .inr (unary_unexplained h)
  | .post .., h => .inr (post_unexplained h)
  | .assign .., h => .inr (assign_unexplained h)
  | .conditional .., h => .inr (conditional_unexplained h)

end

/-! ## The walk to the reason -/

theorem valueParts_mem {y : Code} {s' : CheckState} : ∀ {es : List Expr} {s : CheckState},
    (y, s') ∈ valueParts cx es s → ∃ p ∈ es, y = .expr .value p
  | e :: es, s, h => by
    rcases List.mem_cons.1 h with h | h
    · cases h
      exact ⟨e, List.mem_cons_self, rfl⟩
    · obtain ⟨p, hp, hy⟩ := valueParts_mem h
      exact ⟨p, List.mem_cons_of_mem _ hp, hy⟩

/-- What checking an expression checks in turn are its operands. -/
theorem exprParts_mem {e : Expr} {y : Code} {s s' : CheckState} (h : (y, s') ∈ exprParts cx e s) :
    ∃ role, ∃ p ∈ e.operands, y = .expr role p := by
  have values : ∀ {es : List Expr} {s : CheckState}, (y, s') ∈ valueParts cx es s →
      ∃ role, ∃ p ∈ es, y = .expr role p := fun h => ⟨.value, valueParts_mem h⟩
  match e with
  | .member object m span =>
    obtain ⟨rfl, -⟩ := Prod.mk.inj (List.mem_singleton.1 h)
    exact ⟨.receiver, object, List.mem_cons_self, rfl⟩
  | .callOn receiver method args span =>
    rcases List.mem_cons.1 h with h | h
    · cases h
      exact ⟨.receiver, receiver, List.mem_cons_self, rfl⟩
    · obtain ⟨role, p, hp, hy⟩ := values h
      exact ⟨role, p, List.mem_cons_of_mem _ hp, hy⟩
  | .conditional condition yes no span =>
    rcases List.mem_cons.1 h with h | h
    · cases h
      exact ⟨.value, condition, List.mem_cons_self, rfl⟩
    · obtain ⟨role, p, hp, hy⟩ := values h
      exact ⟨role, p, List.mem_cons_of_mem _ hp, hy⟩
  | .call .. | .create .. | .index .. | .binary .. | .unary .. | .post .. | .assign .. =>
    exact values h
  | .literal .. | .name _ | .this _ | .query .. => cases h

theorem operand_smaller {e p : Expr} (h : p ∈ e.operands) : sizeOf p < sizeOf e := by
  cases e <;> simp only [Expr.operands, List.mem_cons, List.not_mem_nil, or_false] at h
  case call | create =>
    have := List.sizeOf_lt_of_mem h
    simp +arith
    omega
  case callOn =>
    rcases h with rfl | h
    · simp +arith
    · have := List.sizeOf_lt_of_mem h
      simp +arith
      omega
  case conditional => rcases h with rfl | rfl | rfl <;> simp +arith
  case index | binary | assign => rcases h with rfl | rfl <;> simp +arith
  case member | unary | post =>
    subst h
    simp +arith

/-- An expression that is not reported is checked with all its operands. -/
theorem checkedParts_clean {role : Role} {e : Expr} (h : Clean (denote cx role e) s) :
    (Code.expr role e).checkedParts cx s = exprParts cx e s := by
  cases e with
  | assign op target value span =>
    by_cases ha : target.isAssignable
    · exact if_pos ha
    · unfold denote at h
      rw [if_neg ha] at h
      refine (h.report_bind fun _ => ?_).elim
      exact (denote_quiet cx .value value).bind fun _ => Quiet.pure _
  | _ => rfl

theorem checkedParts_expr {role : Role} {e : Expr} {y : Code} {s' : CheckState}
    (h : (y, s') ∈ (Code.expr role e).checkedParts cx s) :
    s'.scope = s.scope ∧ ∃ role' x, y = .expr role' x := by
  have parts : ∀ {s : CheckState}, (y, s') ∈ exprParts cx e s →
      s'.scope = s.scope ∧ ∃ role' x, y = .expr role' x := by
    intro s hy
    obtain ⟨role', p, -, rfl⟩ := exprParts_mem hy
    exact ⟨exprParts_scope hy, role', p, rfl⟩
  cases e with
  | assign op target value span =>
    by_cases ha : target.isAssignable
    · simp only [Code.checkedParts, ha, ↓reduceIte] at h
      exact parts h
    · simp only [Code.checkedParts, ha, Bool.false_eq_true, ↓reduceIte, List.mem_singleton] at h
      cases h
      exact ⟨rfl, .value, value, rfl⟩
  | _ => exact parts h

/-- Checking an expression comes to expressions only, with the same local variables. -/
theorem visits_expr {role : Role} {e : Expr} {y : Code} {s' : CheckState}
    (h : Visits cx (.expr role e) s y s') : s'.scope = s.scope ∧ ∃ role' x, y = .expr role' x := by
  induction h with
  | here => exact ⟨rfl, role, e, rfl⟩
  | part _ hz ih =>
    obtain ⟨hscope, role', x, rfl⟩ := ih
    obtain ⟨hscope', hy⟩ := checkedParts_expr hz
    exact ⟨hscope'.trans hscope, hy⟩

/-- Checking an expression comes to a reason for a type that is not known. -/
def Reaches (cx : CheckContext) (role : Role) (e : Expr) (s : CheckState) : Prop :=
  ∃ role' x s', Visits cx (.expr role e) s (.expr role' x) s' ∧ Untyped cx x s'

/-- An expression that is not reported has a type, or checking comes to a reason inside it. The
induction is on the expression: a part without a type is not reported either. -/
theorem reaches_of_unexplained (hg : ∀ c, cx.classes.Has c → c.Grouped)
    (hc : cx.classes.Has cx.cls) {role : Role} {e : Expr} {s : CheckState}
    (h : Unexplained (denote cx role e) s) : Reaches cx role e s := by
  rcases denote_unexplained hg hc h with hu | ⟨role', p, s', hp, hn⟩
  · exact ⟨role, e, s, .here, hu⟩
  · obtain ⟨_, _, hmem, heq⟩ := exprParts_mem hp
    cases heq
    have hsmaller := operand_smaller hmem
    have hpart : Unexplained (denote cx role' p) s' := ⟨exprParts_clean role h.clean hp, hn⟩
    obtain ⟨role'', x, s'', hv, hu⟩ := reaches_of_unexplained hg hc hpart
    rw [← checkedParts_clean h.clean] at hp
    exact ⟨role'', x, s'', hv.head hp, hu⟩
termination_by sizeOf e

end Typing

open Typing

/-- An expression without a type is reported, or checking comes to a reason inside it: a local
variable of unknown type, an element or a result that the type of a container leaves open, a member
or a method of a value whose type names no class, or an instance of `void`. No group of overloads in
the table may be empty; in a registered one, none is (`ClassTable.Has.grouped`). -/
theorem no_type_is_explained {cx : CheckContext} (hg : ∀ c, cx.classes.Has c → c.Grouped)
    (hc : cx.classes.Has cx.cls) (e : Expr) (s : CheckState) (h : (infer cx e s).1 = none) :
    s.errors.length < (infer cx e s).2.errors.length ∨
      ∃ role x s', Visits cx (.expr .value e) s (.expr role x) s' ∧ s'.scope = s.scope ∧
        Untyped cx x s' := by
  by_cases hclean : Check.Clean (denote cx .value e) s
  · obtain ⟨role, x, s', hv, hu⟩ := reaches_of_unexplained hg hc ⟨hclean, denote_value_none h⟩
    exact .inr ⟨role, x, s', hv, (visits_expr hv).1, hu⟩
  · refine .inl ?_
    have hadds : s.errors <+: (denote cx .value e s).2.errors := (denote_quiet cx .value e).errors s
    refine Nat.lt_of_le_of_ne hadds.length_le fun hlen => hclean ?_
    exact (hadds.eq_of_length hlen).symm

/-! ### An element of a container without generic arguments -/

/-- `new List().get(0)` -/
def rawElement : Expr :=
  .callOn (.create ⟨⟨"List", .unknown⟩, [], .unknown⟩ [] .unknown) ⟨"get", .unknown⟩
    [.literal (.integer 0) .unknown] .unknown

/-- A class without members. -/
def emptyMain : ClassDecl := ⟨.none, [], ⟨"Main", .unknown⟩, none, [], [], .unknown⟩

/-- The element has no type, and nothing is reported. -/
theorem rawElement_unknown : ∃ cx : CheckContext,
    cx.classes = (Registration.registerAll .initial [emptyMain]).table ∧
      cx.classes.Has cx.cls ∧ (infer cx rawElement {}).1 = none ∧
      (infer cx rawElement {}).2.errors = [] := by
  have hrun : (let t := (Registration.registerAll .initial [emptyMain]).table
      (t.get? "Main").map fun c => (infer (.ofClass t c) rawElement {}).1.isNone &&
        (infer (.ofClass t c) rawElement {}).2.errors.isEmpty) = some true := by
    decide +kernel
  obtain ⟨c, hc, hrun⟩ := Option.map_eq_some_iff.1 hrun
  rw [Bool.and_eq_true, Option.isNone_iff_eq_none, List.isEmpty_iff] at hrun
  exact ⟨.ofClass _ c, rfl, .of_get? hc, hrun⟩

/-- A name that denotes a local variable of unknown type. -/
def UntypedLocal (s : CheckState) (x : Expr) : Prop :=
  ∃ i var, x = .name i ∧ s.scope.lookup? i.name = some var ∧ var.type = none

/-- An expression without a type may be neither reported nor hold a local variable of unknown
type. -/
theorem unreported_without_type : ¬ ∀ (decls : List ClassDecl) (cx : CheckContext) (e : Expr)
    (s : CheckState), cx.classes = (Registration.registerAll .initial decls).table →
    cx.classes.Has cx.cls → (infer cx e s).1 = none →
    s.errors.length < (infer cx e s).2.errors.length ∨ ∃ x, e.HasPart x ∧ UntypedLocal s x := by
  intro h
  obtain ⟨cx, ht, hc, hn, herrors⟩ := rawElement_unknown
  rcases h [emptyMain] cx rawElement {} ht hc hn with hlen | ⟨x, -, i, var, -, hvar, -⟩
  · rw [herrors] at hlen
    cases hlen
  · cases hvar

/-- The reason is inside: nothing is reported, so checking comes to a place that leaves the type
open. -/
theorem no_type_is_explained_element : ∃ (cx : CheckContext) (role : Role) (x : Expr)
    (s : CheckState), (infer cx rawElement {}).1 = none ∧
      Visits cx (.expr .value rawElement) {} (.expr role x) s ∧ Untyped cx x s := by
  obtain ⟨cx, ht, hc, hn, herrors⟩ := rawElement_unknown
  have hg : ∀ c, cx.classes.Has c → c.Grouped := by
    rw [ht]
    exact fun c hc => hc.grouped
  rcases no_type_is_explained hg hc rawElement {} hn with hlen | ⟨role, x, s, hv, -, hu⟩
  · rw [herrors] at hlen
    cases hlen
  · exact ⟨cx, role, x, s, hn, hv, hu⟩

end ClassScript
