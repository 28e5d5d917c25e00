import ClassScript.Proofs.Spelling.CheckStates
import ClassScript.Proofs.Spelling.Programs
import ClassScript.Typing.Program

/-!
# Checking in other spellings

Checking a program over a table, and the same program in another spelling over a table that looks
alike, reports alike: `Typing.denote_like` for expressions, `Typing.checkStmt_like` for statements
and `Typing.checkClass_like` for classes. The bodies and the initializers of the class that is
checked have to be the same up to spelling; those of all other classes are never looked at.
-/

namespace ClassScript

variable {ρ : Likeness}

/-! ## Contexts -/

/-- The contexts of two classes that look alike, in tables that look alike. -/
structure CheckContext.Like (ρ : Likeness) (cx cx' : CheckContext) : Prop where
  classes : cx.classes.Like ρ cx'.classes
  cls : cx.cls.Like ρ cx'.cls
  returnType : Option.Rel (DataType.Spelled ρ.spelling) cx.returnType cx'.returnType
  isStatic : cx.isStatic = cx'.isStatic

/-- Expressions that denote things that look alike. -/
inductive Denotation.Like (ρ : Likeness) : Denotation → Denotation → Prop
  | cls {c d : ClassInfo} : c.Like ρ d → Denotation.Like ρ (.cls c) (.cls d)
  | this : Denotation.Like ρ .this .this
  | value {t u : DataType} : t.Spelled ρ.spelling u → Denotation.Like ρ (.value t) (.value u)
  | unknown : Denotation.Like ρ .unknown .unknown

/-- Types in two spellings, or both unknown. -/
abbrev DataType.SpelledOrUnknown (ρ : Likeness) : Option DataType → Option DataType → Prop :=
  Option.Rel (DataType.Spelled ρ.spelling)

theorem Denotation.Like.ofType? {t u : Option DataType} (h : DataType.SpelledOrUnknown ρ t u) :
    Denotation.Like ρ (.ofType? t) (.ofType? u) := by
  cases h with
  | none => exact .unknown
  | some h => exact .value h

theorem Denotation.Like.type? {d d' : Denotation} (h : d.Like ρ d') :
    DataType.SpelledOrUnknown ρ d.type? d'.type? := by
  cases h with
  | value h => exact .some h
  | cls _ | this | unknown => exact .none

variable {cx cx' : CheckContext}

namespace CheckContext.Like

variable (h : cx.Like ρ cx')
include h

theorem lookupClass? {n n' : String} (hn : sameName n n' = true) :
    Option.Rel (ClassInfo.Like ρ) (cx.lookupClass? n) (cx'.lookupClass? n') := by
  unfold CheckContext.lookupClass?
  have hi := h.cls.inner? hn
  generalize cx.cls.inner? n = x, cx'.cls.inner? n' = y at hi
  cases hi with
  | some hc => exact .some hc
  | none => exact ClassTable.resolve?_like h.classes hn

theorem isCurrent {c d : ClassInfo} (hc : c.Like ρ d) : cx.isCurrent c = cx'.isCurrent d := by
  unfold CheckContext.isCurrent
  rw [hc.name, h.cls.name]

omit h in
mutual

theorem firstUnknown? (h : cx.Like ρ cx') : ∀ {t u : DataType}, t.Spelled ρ.spelling u →
    Option.Rel ρ.spelling.rel (cx.firstUnknown? t) (cx'.firstUnknown? u)
  | ⟨n, as⟩, ⟨m, bs⟩, .intro hn hs => by
    unfold CheckContext.firstUnknown?
    rw [sameName_congr_left (ρ.spelling.same hn),
      isNone_paired (h.lookupClass? (ρ.spelling.same hn))]
    split
    · exact .some hn
    · exact firstUnknownOf? h hs

theorem firstUnknownOf? (h : cx.Like ρ cx') : ∀ {ts us : List DataType},
    List.Forall₂ (DataType.Spelled ρ.spelling) ts us →
      Option.Rel ρ.spelling.rel (cx.firstUnknownOf? ts) (cx'.firstUnknownOf? us)
  | [], [], _ => by
    unfold CheckContext.firstUnknownOf?
    exact .none
  | t :: ts, u :: us, .cons ht hs => by
    unfold CheckContext.firstUnknownOf?
    have hu := firstUnknown? h ht
    generalize cx.firstUnknown? t = x, cx'.firstUnknown? u = y at hu
    cases hu with
    | some hn => exact .some hn
    | none => exact firstUnknownOf? h hs

end

theorem resolveType {t u : DataType} (ht : t.Spelled ρ.spelling u) (span : Span) :
    Check.Like ρ.spelling (DataType.SpelledOrUnknown ρ) (cx.resolveType t span)
      (cx'.resolveType u span) := by
  unfold CheckContext.resolveType
  have hu := h.firstUnknown? ht
  generalize cx.firstUnknown? t = x, cx'.firstUnknown? u = y at hu
  cases hu with
  | some hn => exact (Check.Like.report (.undefined .type hn) span).bind fun _ _ _ => .pure .none
  | none => exact .pure (.some ht)

end CheckContext.Like

namespace Typing

open Check (Like)

/-! ## Requirements -/

theorem requireCondition_like {t u : Option DataType} (h : DataType.SpelledOrUnknown ρ t u)
    (span : Span) :
    Like ρ.spelling (fun _ _ => True) (requireCondition t span) (requireCondition u span) := by
  cases h with
  | none => exact .pure trivial
  | some h =>
    unfold requireCondition
    dsimp only
    rw [h.isBoolean]
    split
    · exact .pure trivial
    · exact .report (.conditionNotBoolean h) span

theorem requireFits_like {a a' d d' : Option DataType} (ha : DataType.SpelledOrUnknown ρ a a')
    (hd : DataType.SpelledOrUnknown ρ d d') (span : Span) :
    Like ρ.spelling (fun _ _ => True) (requireFits a d span) (requireFits a' d' span) := by
  cases ha with
  | none => exact .pure trivial
  | some ha =>
    cases hd with
    | none => exact .pure trivial
    | some hd =>
      unfold requireFits
      dsimp only
      rw [ha.fitsExactly hd]
      split
      · exact .pure trivial
      · exact .report (.typeMismatch ha hd) span

section

variable (h : cx.Like ρ cx')
include h

/-! ## Names and members -/

theorem valueOfName_like {i j : Ident} (hi : i.Spelled ρ.spelling j) :
    Like ρ.spelling (Option.Rel (ClassScript.Denotation.Like ρ)) (valueOfName cx i)
      (valueOfName cx' j) := by
  have hn := ρ.spelling.same hi.name
  unfold valueOfName
  refine .bind .get fun s s' hs => ?_
  have hl := hs.scope.lookup? hn
  generalize s.scope.lookup? i.name = x, s'.scope.lookup? j.name = y at hl
  cases hl with
  | some hv => exact .pure (.some (.ofType? hv.type))
  | none =>
    dsimp only
    have hf := ClassInfo.instanceField?_like h.classes hn h.cls
    generalize cx.cls.instanceField? cx.classes i.name = x,
      cx'.cls.instanceField? cx'.classes j.name = y at hf
    cases hf with
    | some hf =>
      dsimp only
      rw [h.isStatic, hi.span]
      split
      · exact .seq (.report (.staticContext hi.name) _) (.pure (.some .unknown))
      · exact .pure (.some (.value hf.type))
    | none =>
      dsimp only
      have hf := ClassInfo.staticField?_like h.classes hn h.cls
      generalize cx.cls.staticField? cx.classes i.name = x,
        cx'.cls.staticField? cx'.classes j.name = y at hf
      cases hf with
      | some hf => exact .pure (.some (.value hf.2.type))
      | none => exact .pure .none

theorem denoteName_like (role : Role) {i j : Ident} (hi : i.Spelled ρ.spelling j) :
    Like ρ.spelling (ClassScript.Denotation.Like ρ) (denoteName cx role i)
      (denoteName cx' role j) := by
  unfold denoteName
  refine (valueOfName_like h hi).bind fun x y hv => ?_
  cases hv with
  | some hd => exact .pure hd
  | none =>
    have hc := h.lookupClass? (ρ.spelling.same hi.name)
    have undefined : Like ρ.spelling (ClassScript.Denotation.Like ρ)
        (do Check.report (.undefined .value i.name) i.span; return .unknown)
        (do Check.report (.undefined .value j.name) j.span; return .unknown) := by
      rw [hi.span]
      exact .seq (.report (.undefined .value hi.name) _) (.pure .unknown)
    generalize cx.lookupClass? i.name = x, cx'.lookupClass? j.name = y at hc
    cases role with
    | value => cases hc <;> exact undefined
    | receiver =>
      cases hc with
      | none => exact undefined
      | some hc => exact .pure (.cls hc)

theorem denoteThis_like (role : Role) (span : Span) :
    Like ρ.spelling (ClassScript.Denotation.Like ρ) (denoteThis cx role span)
      (denoteThis cx' role span) := by
  unfold denoteThis
  rw [h.isStatic, h.cls.dataType]
  split
  · exact .seq (.report (.staticContext (ρ.spelling.refl _)) _) (.pure .unknown)
  · cases role with
    | value => exact .pure (.value (.refl _))
    | receiver => exact .pure .this

omit h in
theorem undefinedField_like {m m' : Ident} (hm : m.Spelled ρ.spelling m') :
    Like ρ.spelling (DataType.SpelledOrUnknown ρ) (undefinedField m) (undefinedField m') := by
  unfold undefinedField
  rw [hm.span]
  exact .seq (.report (.undefined .field hm.name) _) (.pure .none)

theorem memberType_like {d d' : Denotation} (hd : d.Like ρ d') {m m' : Ident}
    (hm : m.Spelled ρ.spelling m') :
    Like ρ.spelling (DataType.SpelledOrUnknown ρ) (memberType cx d m) (memberType cx' d' m') := by
  have hn := ρ.spelling.same hm.name
  unfold memberType
  cases hd with
  | unknown => exact .pure .none
  | this =>
    dsimp only
    have hf := ClassInfo.instanceField?_like h.classes hn h.cls
    generalize cx.cls.instanceField? cx.classes m.name = x,
      cx'.cls.instanceField? cx'.classes m'.name = y at hf
    cases hf with
    | some hf => exact .pure (.some hf.type)
    | none => exact undefinedField_like hm
  | @cls c c' hc =>
    dsimp only
    have hs := ClassInfo.staticField?_like h.classes hn hc
    generalize c.staticField? cx.classes m.name = x, c'.staticField? cx'.classes m'.name = y at hs
    cases hs with
    | some hs => exact .pure (.some hs.2.type)
    | none =>
      dsimp only
      have hf := ClassInfo.instanceField?_like h.classes hn hc
      generalize c.instanceField? cx.classes m.name = x,
        c'.instanceField? cx'.classes m'.name = y at hf
      cases hf with
      | some hf =>
        dsimp only
        rw [hm.span]
        exact .seq (.report (.staticContext hm.name) _) (.pure .none)
      | none => exact undefinedField_like hm
  | @value t u ht =>
    dsimp only
    have hl := h.lookupClass? ht.sameName
    generalize cx.lookupClass? t.name = x, cx'.lookupClass? u.name = y at hl
    cases hl with
    | none => exact .pure .none
    | @some c c' hc =>
      dsimp only
      have hf := ClassInfo.instanceField?_like h.classes hn hc
      generalize c.instanceField? cx.classes m.name = x,
        c'.instanceField? cx'.classes m'.name = y at hf
      cases hf with
      | some hf => exact .pure (.some hf.type)
      | none =>
        dsimp only
        have hs := ClassInfo.staticField?_like h.classes hn hc
        generalize c.staticField? cx.classes m.name = x,
          c'.staticField? cx'.classes m'.name = y at hs
        cases hs with
        | some hs => exact .pure (.some hs.2.type)
        | none => exact undefinedField_like hm

theorem denoteMember_like (role : Role) {d d' : Denotation} (hd : d.Like ρ d') {m m' : Ident}
    (hm : m.Spelled ρ.spelling m') :
    Like ρ.spelling (ClassScript.Denotation.Like ρ) (denoteMember cx role d m)
      (denoteMember cx' role d' m') := by
  have typed : Like ρ.spelling (ClassScript.Denotation.Like ρ)
      (do return .ofType? (← memberType cx d m)) (do return .ofType? (← memberType cx' d' m')) :=
    (memberType_like h hd hm).bind fun _ _ ht => .pure (.ofType? ht)
  cases role with
  | value => exact typed
  | receiver =>
    cases hd with
    | @cls c c' hc =>
      unfold denoteMember
      have hi := hc.inner? (ρ.spelling.same hm.name)
      dsimp only
      generalize c.inner? m.name = x, c'.inner? m'.name = y at hi
      cases hi with
      | some hi => exact .pure (.cls hi)
      | none => exact typed
    | this | value _ | unknown => exact typed

/-! ## Calls -/

omit h in
/-- Targets with overloads that look alike. -/
structure CallTarget.Like (ρ : Likeness) (a b : CallTarget) : Prop where
  group : Option.Rel (MethodInfo.LikeAll ρ) a.group b.group
  bindings : a.bindings.Spelled ρ.spelling b.bindings
  isExternal : a.isExternal = b.isExternal

theorem implicitTarget_like {n n' : String} (hn : ρ.spelling.rel n n') (span : Span) :
    Like ρ.spelling (Option.Rel (CallTarget.Like ρ)) (implicitTarget cx n span)
      (implicitTarget cx' n' span) := by
  have hi := ClassInfo.instanceMethods?_like h.classes (ρ.spelling.same hn) h.cls
  have hs := ClassInfo.staticMethods?_like h.classes (ρ.spelling.same hn) h.cls
  unfold implicitTarget
  dsimp only
  generalize cx.cls.instanceMethods? cx.classes n = x,
    cx'.cls.instanceMethods? cx'.classes n' = y at hi
  generalize cx.cls.staticMethods? cx.classes n = z,
    cx'.cls.staticMethods? cx'.classes n' = w at hs
  rw [h.isStatic, isNone_paired hs, isSome_paired hi]
  split
  · split
    · exact .seq (.report (.staticContext hn) _) (.pure .none)
    · exact .pure (.some ⟨hs, .none, rfl⟩)
  · refine .pure (.some ⟨?_, .none, rfl⟩)
    cases hi with
    | none => exact hs
    | some hi => exact .some hi

theorem explicitTarget_like {d d' : Denotation} (hd : d.Like ρ d') {n n' : String}
    (hn : sameName n n' = true) :
    Option.Rel (CallTarget.Like ρ) (explicitTarget cx d n) (explicitTarget cx' d' n') := by
  unfold explicitTarget
  cases hd with
  | unknown => exact .none
  | this => exact .some ⟨ClassInfo.instanceMethods?_like h.classes hn h.cls, .none, rfl⟩
  | cls hc =>
    refine .some ⟨ClassInfo.staticMethods?_like h.classes hn hc, .none, ?_⟩
    dsimp only
    rw [h.isCurrent hc]
  | @value t u ht =>
    dsimp only
    have hl := h.lookupClass? ht.sameName
    generalize cx.lookupClass? t.name = x, cx'.lookupClass? u.name = y at hl
    cases hl with
    | none => exact .none
    | some hc =>
      exact .some ⟨ClassInfo.instanceMethods?_like h.classes hn hc, ⟨hc.own.typeParams, ht.args⟩,
        rfl⟩

theorem select_like {n n' : String} (hn : ρ.spelling.rel n n') {b b' : TypeBindings}
    (hb : b.Spelled ρ.spelling b') {g g' : List MethodInfo} (hg : MethodInfo.LikeAll ρ g g')
    {args args' : List (Option DataType)} (hargs : Overload.SpelledArgs ρ.spelling args args')
    (span : Span) : Like ρ.spelling (Option.Rel (MethodInfo.Like ρ)) (select cx n b g args span)
      (select cx' n' b' g' args' span) := by
  unfold select
  have hr := Overload.resolve_like h.classes hb hg hargs
  generalize Overload.resolve cx.classes b g args = x,
    Overload.resolve cx'.classes b' g' args' = y at hr
  cases hr with
  | none => exact .pure .none
  | @some m m' hm =>
    have hfallback : m.isFallback = m'.isFallback := by
      rw [OverloadMatch.isFallback, OverloadMatch.isFallback, hm.kind]
    have harity : m.acceptsArity args.length = m'.acceptsArity args'.length := by
      rw [OverloadMatch.acceptsArity, OverloadMatch.acceptsArity, hm.method.arity,
        hargs.length_eq]
    dsimp only
    rw [hfallback, harity, hm.method.arity, hargs.length_eq]
    split
    · refine .seq (.log (.overloadFallback _ hn)) ?_
      split
      · exact .pure (.some hm.method)
      · exact .seq (.report (.wrongArity _ _ hn) _) (.pure (.some hm.method))
    · exact .pure (.some hm.method)

theorem callType_like {a b : Option CallTarget} (ht : Option.Rel (CallTarget.Like ρ) a b)
    {m m' : Ident} (hm : m.Spelled ρ.spelling m') {args args' : List (Option DataType)}
    (hargs : Overload.SpelledArgs ρ.spelling args args') (span : Span) :
    Like ρ.spelling (DataType.SpelledOrUnknown ρ) (callType cx a m args span)
      (callType cx' b m' args' span) := by
  unfold callType
  cases ht with
  | none => exact .pure .none
  | @some a b hab =>
    obtain ⟨g, bs, external⟩ := a
    obtain ⟨g', bs', external'⟩ := b
    obtain ⟨hg, hb, rfl⟩ := hab
    cases hg with
    | none =>
      dsimp only
      rw [hm.span]
      exact .seq (.report (.undefined .method hm.name) _) (.pure .none)
    | some hg =>
      refine (select_like h hm.name hb hg hargs span).bind fun x y hk => ?_
      cases hk with
      | none => exact .pure .none
      | @some k k' hk =>
        have hresult := hb.substitute hk.resultType
        dsimp only
        rw [hk.visibility, hb.isUnbound hresult]
        split
        · exact .seq (.report (.methodNotPublic _) _) (.pure .none)
        · refine .pure ?_
          split
          · exact .none
          · exact .some hresult

theorem createType_like {t u : Option DataType} (ht : DataType.SpelledOrUnknown ρ t u)
    {args args' : List (Option DataType)} (hargs : Overload.SpelledArgs ρ.spelling args args')
    (span : Span) : Like ρ.spelling (DataType.SpelledOrUnknown ρ) (createType cx t args span)
      (createType cx' u args' span) := by
  unfold createType
  cases ht with
  | none => exact .pure .none
  | @some t u ht =>
    dsimp only
    have hl := h.lookupClass? ht.sameName
    generalize cx.lookupClass? t.name = x, cx'.lookupClass? u.name = y at hl
    cases hl with
    | none => exact .pure .none
    | @some c d hc =>
      have hks := hc.own.constructors
      have hb : (TypeBindings.mk c.typeParams t.args).Spelled ρ.spelling ⟨d.typeParams, u.args⟩ :=
        ⟨hc.own.typeParams, ht.args⟩
      dsimp only
      rw [isEmpty_paired hks, isEmpty_paired hargs, hc.name, hargs.length_eq]
      split
      · split
        · exact .pure (.some ht)
        · exact .seq (.report (.wrongArity _ _ (ρ.spelling.refl _)) _) (.pure (.some ht))
      · refine (select_like h (ρ.spelling.refl _) hb hks hargs span).bind fun x y hk => ?_
        cases hk with
        | none => exact .pure .none
        | @some k k' hk =>
          dsimp only
          rw [hk.visibility, h.isCurrent hc]
          split
          · exact .seq (.report (.methodNotPublic _) _) (.pure (.some ht))
          · exact .pure (.some ht)

end

/-! ## Operators -/

theorem isAddable_like {t u : DataType} (h : t.Spelled ρ.spelling u) :
    isAddable t = isAddable u := by
  rw [isAddable, isAddable, h.isNumeric, h.isString]

theorem comparison?_like {l l' r r' : DataType} (hl : l.Spelled ρ.spelling l')
    (hr : r.Spelled ρ.spelling r') :
    Option.Rel (Violation.Spelled ρ.spelling) (comparison? l r) (comparison? l' r') := by
  unfold comparison?
  rw [isAddable_like hl, isAddable_like hr, hl.isString, hr.isString]
  split
  · exact .some (.mustBeAddable hl)
  · split
    · exact .some (.mustBeAddable hr)
    · split
      · exact .some (.typeMismatch hl hr)
      · exact .none

theorem numericType_like {l l' r r' : DataType} (hl : l.Spelled ρ.spelling l')
    (hr : r.Spelled ρ.spelling r') : numericType l r = numericType l' r' := by
  rw [numericType, numericType, hl.isDouble, hr.isDouble]

theorem arithmeticType_like (op : BinaryOp) {l l' r r' : DataType} (hl : l.Spelled ρ.spelling l')
    (hr : r.Spelled ρ.spelling r') (span : Span) :
    Like ρ.spelling (DataType.SpelledOrUnknown ρ) (arithmeticType op l r span)
      (arithmeticType op l' r' span) := by
  -- All operators but addition have the rule of subtraction.
  have numbers : Like ρ.spelling (DataType.SpelledOrUnknown ρ) (arithmeticType .sub l r span)
      (arithmeticType .sub l' r' span) := by
    unfold arithmeticType arithmetic
    dsimp only
    rw [hl.isNumeric, hr.isNumeric, numericType_like hl hr]
    cases l'.isNumeric with
    | false => exact .seq (.report (.mustBeNumeric hl) _) (.pure .none)
    | true =>
      cases r'.isNumeric with
      | false => exact .seq (.report (.mustBeNumeric hr) _) (.pure .none)
      | true => exact .pure (.some (.refl _))
  unfold arithmeticType arithmetic
  cases op with
  | add =>
    dsimp only
    rw [hl.isString, numericType_like hl hr]
    have hc := comparison?_like hl hr
    generalize comparison? l r = x, comparison? l' r' = y at hc
    cases hc with
    | none => exact .pure (.some (.refl _))
    | some hv => exact .seq (.report hv _) (.pure .none)
  | sub | mul | div | rem | equal | notEqual | less | lessEqual | greater | greaterEqual | and
  | or => exact numbers

theorem requireLogical_like {l l' r r' : Option DataType} (hl : DataType.SpelledOrUnknown ρ l l')
    (hr : DataType.SpelledOrUnknown ρ r r') (span : Span) :
    Like ρ.spelling (fun _ _ => True) (requireLogical l r span) (requireLogical l' r' span) := by
  unfold requireLogical
  have hf := findSome?_paired (.cons hl (.cons hr .nil))
    (f := fun t : Option DataType => t.filter fun t => !t.isBoolean)
    (g := fun t : Option DataType => t.filter fun t => !t.isBoolean)
    fun ht => optionFilter_paired ht fun ht => by rw [ht.isBoolean]
  generalize [l, r].findSome? _ = x, [l', r'].findSome? _ = y at hf
  cases hf with
  | none => exact .pure trivial
  | some ht => exact .report (.mustBeBoolean ht) span

theorem binaryType_like (op : BinaryOp) {l l' r r' : Option DataType}
    (hl : DataType.SpelledOrUnknown ρ l l') (hr : DataType.SpelledOrUnknown ρ r r') (span : Span) :
    Like ρ.spelling (DataType.SpelledOrUnknown ρ) (binaryType op l r span)
      (binaryType op l' r' span) := by
  unfold binaryType
  split
  · exact .pure (.some (.refl _))
  · split
    · exact .seq (requireLogical_like hl hr span) (.pure (.some (.refl _)))
    · cases hl with
      | none => exact .pure .none
      | @some l l' hl =>
        cases hr with
        | none => exact .pure .none
        | @some r r' hr =>
          dsimp only
          split
          · have hc := comparison?_like hl hr
            generalize comparison? l r = x, comparison? l' r' = y at hc
            cases hc with
            | none => exact .pure (.some (.refl _))
            | some hv => exact .seq (.report hv _) (.pure (.some (.refl _)))
          · exact arithmeticType_like op hl hr span

theorem unaryType_like (op : UnaryOp) {t u : Option DataType} (h : DataType.SpelledOrUnknown ρ t u)
    (span : Span) : Like ρ.spelling (DataType.SpelledOrUnknown ρ) (unaryType op t span)
      (unaryType op u span) := by
  unfold unaryType
  cases h with
  | none => exact .pure .none
  | some h =>
    cases op with
    | not =>
      dsimp only
      rw [h.isBoolean]
      split
      · exact .pure (.some h)
      · exact .seq (.report (.mustBeBoolean h) _) (.pure .none)
    | plus | neg =>
      dsimp only
      rw [h.isInteger]
      split
      · exact .pure (.some h)
      · exact .seq (.report (.mustBeInteger h) _) (.pure .none)
    | inc | dec => exact .pure (.some h)

theorem stepType_like {e e' : Expr} (he : e.isAssignable = e'.isAssignable) {t u : Option DataType}
    (h : DataType.SpelledOrUnknown ρ t u) (span : Span) :
    Like ρ.spelling (DataType.SpelledOrUnknown ρ) (stepType e t span) (stepType e' u span) := by
  unfold stepType
  cases h with
  | none => exact .pure .none
  | some h =>
    dsimp only
    rw [h.isInteger, he]
    split
    · exact .seq (.report (.mustBeInteger h) _) (.pure .none)
    · split
      · exact .seq (.report .notAssignable _) (.pure .none)
      · exact .pure (.some h)

theorem compoundType_like (op : BinaryOp) {t t' v v' : Option DataType}
    (ht : DataType.SpelledOrUnknown ρ t t') (hv : DataType.SpelledOrUnknown ρ v v') (span : Span) :
    Like ρ.spelling (DataType.SpelledOrUnknown ρ) (compoundType op t v span)
      (compoundType op t' v' span) := by
  unfold compoundType
  cases ht with
  | none => exact .pure .none
  | some ht =>
    cases hv with
    | none => exact .pure .none
    | some hv =>
      refine (arithmeticType_like op ht hv span).bind fun x y hr => ?_
      cases hr with
      | none => exact .pure .none
      | some hr =>
        dsimp only
        rw [hr.fitsExactly ht]
        split
        · exact .pure (.some ht)
        · exact .seq (.report (.typeMismatch hr ht) _) (.pure (.some ht))

theorem conditionalType_like (h : cx.Like ρ cx') {y y' n n' : Option DataType}
    (hy : DataType.SpelledOrUnknown ρ y y') (hn : DataType.SpelledOrUnknown ρ n n') (span : Span) :
    Like ρ.spelling (DataType.SpelledOrUnknown ρ) (conditionalType cx y n span)
      (conditionalType cx' y' n' span) := by
  unfold conditionalType
  cases hy with
  | none => exact .pure .none
  | some hy =>
    cases hn with
    | none => exact .pure .none
    | some hn =>
      dsimp only
      rw [DataType.isAssignable_like h.classes hn hy, DataType.isAssignable_like h.classes hy hn,
        hy.isNull]
      split
      · refine .pure (.some ?_)
        split
        · exact hn
        · exact hy
      · split
        · exact .pure (.some hn)
        · exact .seq (.report (.typeMismatch hn hy) _) (.pure .none)

theorem indexType_like {o o' k k' : Option DataType} (ho : DataType.SpelledOrUnknown ρ o o')
    (hk : DataType.SpelledOrUnknown ρ k k') (keySpan span : Span) :
    Like ρ.spelling (DataType.SpelledOrUnknown ρ) (indexType o k keySpan span)
      (indexType o' k' keySpan span) := by
  have hmap := optionFilter_paired ho (p := DataType.isMap) (q := DataType.isMap)
    fun ht => ht.isMap
  have hkey := optionFilter_paired hk (p := fun k => !k.isString) (q := fun k => !k.isString)
    fun ht => by rw [ht.isString]
  have hposition := optionFilter_paired hk (p := fun k => !(k.isInteger || k.isString))
    (q := fun k => !(k.isInteger || k.isString)) fun ht => by rw [ht.isInteger, ht.isString]
  unfold indexType
  generalize o.filter DataType.isMap = x, o'.filter DataType.isMap = y at hmap
  cases hmap with
  | some hm =>
    dsimp only
    generalize k.filter _ = x, k'.filter _ = y at hkey
    cases hkey with
    | some hk => exact .seq (.report (.mapKey hk) _) (.pure .none)
    | none => exact .pure (getElem?_paired hm.args 1)
  | none =>
    dsimp only
    generalize k.filter _ = x, k'.filter _ = y at hposition
    cases hposition with
    | some hk => exact .seq (.report (.listKey hk) _) (.pure .none)
    | none =>
      cases ho with
      | none => exact .pure .none
      | some ho =>
        dsimp only
        rw [ho.isList, List.head?_eq_getElem?, List.head?_eq_getElem?]
        split
        · exact .pure (getElem?_paired ho.args 0)
        · exact .seq (.report (.notIndexable ho) _) (.pure .none)

/-! ## Expressions -/

mutual

/-- An expression in two spellings denotes things that look alike, and is reported alike. -/
theorem denote_like (h : cx.Like ρ cx') (role : Role) : ∀ {e e' : Expr}, e.Spelled ρ.spelling e' →
    Like ρ.spelling (ClassScript.Denotation.Like ρ) (denote cx role e) (denote cx' role e')
  | .literal value span, _, .literal => by
    unfold denote
    exact .pure (.value (.refl _))
  | .name i, _, .name hi => by
    unfold denote
    exact denoteName_like h role hi
  | .this span, _, .this => by
    unfold denote
    exact denoteThis_like h role span
  | .member e m span, _, .member he hm => by
    unfold denote
    exact (denote_like h .receiver he).bind fun _ _ hd => denoteMember_like h role hd hm
  | .call m es span, _, .call hm hes => by
    unfold denote
    exact (implicitTarget_like h hm.name span).bind fun _ _ ht =>
      (inferAll_like h hes).bind fun _ _ hargs =>
        (callType_like h ht hm hargs span).bind fun _ _ ht => .pure (.ofType? ht)
  | .callOn e m es span, _, .callOn he hm hes => by
    unfold denote
    exact (denote_like h .receiver he).bind fun _ _ hd =>
      (inferAll_like h hes).bind fun _ _ hargs =>
        (callType_like h (explicitTarget_like h hd (ρ.spelling.same hm.name)) hm hargs span).bind
          fun _ _ ht => .pure (.ofType? ht)
  | .create t es span, .create t' es' _, .create ht hes => by
    unfold denote
    rw [ht.span]
    exact (h.resolveType ht.dataType _).bind fun _ _ ht =>
      (inferAll_like h hes).bind fun _ _ hargs =>
        (createType_like h ht hargs span).bind fun _ _ ht => .pure (.ofType? ht)
  | .index e k span, .index e' k' _, .index he hk => by
    unfold denote
    rw [hk.span]
    exact (denote_like h .value he).bind fun _ _ ho => (denote_like h .value hk).bind fun _ _ hk =>
      (indexType_like ho.type? hk.type? _ span).bind fun _ _ ht => .pure (.ofType? ht)
  | .binary op l r span, _, .binary hl hr => by
    unfold denote
    exact (denote_like h .value hl).bind fun _ _ hl => (denote_like h .value hr).bind fun _ _ hr =>
      (binaryType_like op hl.type? hr.type? span).bind fun _ _ ht => .pure (.ofType? ht)
  | .unary op e span, _, .unary he => by
    unfold denote
    refine (denote_like h .value he).bind fun _ _ hd => ?_
    split
    · exact (stepType_like he.isAssignable hd.type? span).bind fun _ _ ht => .pure (.ofType? ht)
    · exact (unaryType_like op hd.type? span).bind fun _ _ ht => .pure (.ofType? ht)
  | .post op e span, _, .post he => by
    unfold denote
    exact (denote_like h .value he).bind fun _ _ hd =>
      (stepType_like he.isAssignable hd.type? span).bind fun _ _ ht => .pure (.ofType? ht)
  | .assign op t v span, .assign _ t' v' _, .assign ht hv => by
    unfold denote
    rw [ht.isAssignable, ht.span, hv.span]
    split
    · refine (denote_like h .value ht).bind fun _ _ ht => (denote_like h .value hv).bind
        fun _ _ hv => ?_
      cases op.binary? with
      | none => exact .seq (requireFits_like hv.type? ht.type? _) (.pure (.ofType? ht.type?))
      | some op =>
        exact (compoundType_like op ht.type? hv.type? span).bind fun _ _ ht => .pure (.ofType? ht)
    · exact .seq (.report .notAssignable _) ((denote_like h .value hv).bind fun _ _ _ =>
        .pure .unknown)
  | .conditional c y n span, .conditional c' y' n' _, .conditional hc hy hn => by
    unfold denote
    rw [hc.span, hn.span]
    exact (denote_like h .value hc).bind fun _ _ hc => .seq (requireCondition_like hc.type? _)
      ((denote_like h .value hy).bind fun _ _ hy => (denote_like h .value hn).bind fun _ _ hn =>
        (conditionalType_like h hy.type? hn.type? _).bind fun _ _ ht => .pure (.ofType? ht))
  | .query text span, _, .query => by
    unfold denote
    exact .pure (.value (.refl _))
termination_by structural e => e

theorem inferAll_like (h : cx.Like ρ cx') : ∀ {es es' : List Expr},
    List.Forall₂ (Expr.Spelled ρ.spelling) es es' →
      Like ρ.spelling (Overload.SpelledArgs ρ.spelling) (inferAll cx es) (inferAll cx' es')
  | [], [], _ => by
    unfold inferAll
    exact .pure .nil
  | e :: es, e' :: es', .cons he hes => by
    unfold inferAll
    exact (denote_like h .value he).bind fun _ _ hd => (inferAll_like h hes).bind fun _ _ hts =>
      .pure (.cons hd.type? hts)
termination_by structural es => es

end

theorem infer_like (h : cx.Like ρ cx') {e e' : Expr} (he : e.Spelled ρ.spelling e') :
    Like ρ.spelling (DataType.SpelledOrUnknown ρ) (infer cx e) (infer cx' e') :=
  (denote_like h .value he).bind fun _ _ hd => .pure hd.type?

end Typing

end ClassScript
