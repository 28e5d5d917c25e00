import ClassScript.Proofs.Class.Registered
import ClassScript.Proofs.Typing.OverloadChoice
import ClassScript.Proofs.Typing.Sites

/-!
# The overload that checking selects

`Typing.selection?` is the choice that checking makes at a call or a `new`: the candidates, the
bindings and the argument types. If checking reports nothing there, the selected method takes as
many parameters as there are arguments, and its declared result is the type of the call
(`Typing.Checks.selected`).
-/

namespace ClassScript

/-! ## Classes with generic parameters leave no choice -/

namespace ClassInfo.Regular

open Overload (Plain)

variable {t : ClassTable} {c : ClassInfo} {name : String} {g : List MethodInfo}

/-- A class without generic parameters, or a container, whose methods are not overloaded. -/
theorem plain_instanceMethods (h : c.Regular) (hg : c.instanceMethods? t name = some g)
    (types : List DataType) : Plain ⟨c.typeParams, types⟩ g := by
  have single : ∀ {d : ClassInfo}, d.superclass = none →
      d.instanceMethods.entries.all (fun e => decide (e.2.length ≤ 1)) = true →
      d.instanceMethods? t name = some g → g.length ≤ 1 := by
    intro d hd hall hg
    unfold ClassInfo.instanceMethods? at hg
    rw [chain_of_no_superclass hd] at hg
    obtain ⟨e, he, hg⟩ := List.exists_of_findSome?_eq_some hg
    rw [List.mem_singleton.1 he] at hg
    obtain ⟨key, -, hmem⟩ := NameTable.sameName_of_get? hg
    exact of_decide_eq_true (List.all_eq_true.1 hall _ hmem)
  rcases h.generic with hp | rfl | rfl
  · exact .inl hp
  · exact .inr (single rfl (by decide +kernel) hg)
  · exact .inr (single rfl (by decide +kernel) hg)

theorem plain_constructors (h : c.Regular) (types : List DataType) :
    Plain ⟨c.typeParams, types⟩ c.constructors := by
  rcases h.generic with hp | rfl | rfl
  · exact .inl hp
  · exact .inr (by decide +kernel)
  · exact .inr (by decide +kernel)

end ClassInfo.Regular

namespace Typing

open Check (Clean Quiet)

/-! ## Selections -/

/-- What checking chooses from at a call or a `new`, and the type it gives to the expression once a
method is chosen. -/
structure Selection where
  bindings : TypeBindings
  group : List MethodInfo
  types : List (Option DataType)
  type : MethodInfo → Option DataType

/-- The selected method. -/
def Selection.method? (t : ClassTable) (sel : Selection) : Option MethodInfo :=
  Overload.chosen t sel.bindings sel.group sel.types

/-- The declared result of a method, for a receiver with these bindings; unknown if it is a generic
parameter without an argument. -/
def resultType (b : TypeBindings) (k : MethodInfo) : Option DataType :=
  if b.isUnbound (b.substitute k.resultType) then none else some (b.substitute k.resultType)

/-- The selection at a call of a target with arguments of these types. -/
def callSelection (target : Option CallTarget) (types : List (Option DataType)) :
    Option Selection :=
  target.bind fun tg => tg.group.map fun g => ⟨tg.bindings, g, types, resultType tg.bindings⟩

/-- The selection that checking makes at an expression. -/
def selection? (cx : CheckContext) : Expr → CheckState → Option Selection
  | .call method args span, s =>
    let target := implicitTarget cx method.name span s
    callSelection target.1 (inferAll cx args target.2).1
  | .callOn receiver method args _, s =>
    let outer := denote cx .receiver receiver s
    callSelection (explicitTarget cx outer.1 method.name) (inferAll cx args outer.2).1
  | .create type args _, s =>
    let type := cx.resolveType type.dataType type.span s
    type.1.bind fun d => (cx.lookupClass? d.name).bind fun c =>
      if c.constructors.isEmpty then none
      else some
        ⟨⟨c.typeParams, d.args⟩, c.constructors, (inferAll cx args type.2).1, fun _ => some d⟩
  | _, _ => none

variable {cx : CheckContext} {s : CheckState}

theorem inferAll_length (cx : CheckContext) : ∀ (es : List Expr) (s : CheckState),
    (inferAll cx es s).1.length = es.length
  | [], s => by rw [inferAll]; rfl
  | e :: es, s => by
    rw [inferAll]
    exact congrArg (· + 1) (inferAll_length cx es _)

/-- A selection that is not reported has the right number of parameters. -/
theorem select_clean {name : String} {b : TypeBindings} {g : List MethodInfo}
    {types : List (Option DataType)} {span : Span} {k : MethodInfo}
    (hk : Overload.chosen cx.classes b g types = some k)
    (h : Clean (select cx name b g types span) s) :
    k.arity = types.length ∧ (select cx name b g types span s).1 = some k := by
  obtain ⟨found, hfound, rfl⟩ := Option.map_eq_some_iff.1 hk
  unfold select at h ⊢
  rw [hfound] at h ⊢
  dsimp only at h ⊢
  split at h
  · rename_i hf
    rw [if_pos hf]
    cases ha : found.acceptsArity types.length with
    | true =>
      simp only [↓reduceIte]
      exact ⟨of_decide_eq_true ha, rfl⟩
    | false =>
      rw [ha] at h
      have hr := (h.seq (Quiet.log _) fun _ => (Quiet.report _ _).bind fun _ => Quiet.pure _).2
      exact (hr.report_bind fun _ => Quiet.pure _).elim
  · rename_i hf
    rw [if_neg hf]
    exact ⟨Overload.resolve_arity hfound (by simpa using hf), rfl⟩

/-- The type of a call once an overload is selected; a hidden method is out of reach from outside. -/
def reachable (b : TypeBindings) (isExternal : Bool) (span : Span) :
    Option MethodInfo → Check (Option DataType)
  | none => return none
  | some m =>
    if isExternal && !m.visibility.isExternallyCallable then do
      Check.report (.methodNotPublic m.visibility) span
      return none
    else return resultType b m

theorem callType_eq (b : TypeBindings) (g : List MethodInfo) (isExternal : Bool) (method : Ident)
    (types : List (Option DataType)) (span : Span) :
    callType cx (some ⟨some g, b, isExternal⟩) method types span =
      select cx method.name b g types span >>= reachable b isExternal span := by
  unfold callType
  refine bind_congr fun found => ?_
  cases found <;> rfl

theorem reachable_quiet (b : TypeBindings) (isExternal : Bool) (span : Span)
    (found : Option MethodInfo) : Quiet (reachable b isExternal span found) := by
  unfold reachable
  split
  · exact Quiet.pure _
  · split
    · exact (Quiet.report _ _).bind fun _ => Quiet.pure _
    · exact Quiet.pure _

/-- A call that is not reported has the type of the selected method's result. -/
theorem callType_clean {target : Option CallTarget} {method : Ident}
    {types : List (Option DataType)} {span : Span} {sel : Selection} {k : MethodInfo}
    (hsel : callSelection target types = some sel) (hk : sel.method? cx.classes = some k)
    (h : Clean (callType cx target method types span) s) :
    k.arity = sel.types.length ∧ (callType cx target method types span s).1 = sel.type k := by
  obtain ⟨⟨group, b, isExternal⟩, rfl, hsel⟩ := Option.bind_eq_some_iff.1 hsel
  obtain ⟨g, rfl, rfl⟩ := Option.map_eq_some_iff.1 hsel
  rw [callType_eq] at h ⊢
  obtain ⟨hs, hr⟩ := h.seq (select_quiet cx _ _ _ _ _) (reachable_quiet b isExternal span)
  obtain ⟨harity, hfound⟩ := select_clean hk hs
  refine ⟨harity, ?_⟩
  show (reachable b isExternal span (select cx method.name b g types span s).1
    (select cx method.name b g types span s).2).1 = resultType b k
  rw [hfound] at hr ⊢
  unfold reachable at hr ⊢
  dsimp only at hr ⊢
  split at hr
  · exact (hr.report_bind fun _ => Quiet.pure _).elim
  · rename_i hv
    rw [if_neg hv]
    rfl

/-- The type of a `new` once a constructor is selected; a hidden one is out of reach from outside. -/
def creatable (cx : CheckContext) (d : DataType) (c : ClassInfo) (span : Span) :
    Option MethodInfo → Check (Option DataType)
  | none => return none
  | some m =>
    if !m.visibility.isExternallyCallable && !cx.isCurrent c then do
      Check.report (.methodNotPublic m.visibility) span
      return some d
    else return some d

theorem createType_eq {d : DataType} {c : ClassInfo} (hc : cx.lookupClass? d.name = some c)
    (hne : c.constructors.isEmpty = false) (types : List (Option DataType)) (span : Span) :
    createType cx (some d) types span =
      select cx c.name ⟨c.typeParams, d.args⟩ c.constructors types span >>=
        creatable cx d c span := by
  unfold createType
  simp only [hc, hne, Bool.false_eq_true, ↓reduceIte]
  refine bind_congr fun found => ?_
  cases found <;> rfl

theorem creatable_quiet (cx : CheckContext) (d : DataType) (c : ClassInfo) (span : Span)
    (found : Option MethodInfo) : Quiet (creatable cx d c span found) := by
  unfold creatable
  split
  · exact Quiet.pure _
  · split
    · exact (Quiet.report _ _).bind fun _ => Quiet.pure _
    · exact Quiet.pure _

/-- A `new` that is not reported has the type that is written. -/
theorem createType_clean {d : DataType} {c : ClassInfo} {types : List (Option DataType)}
    {span : Span} {k : MethodInfo} (hc : cx.lookupClass? d.name = some c)
    (hne : c.constructors.isEmpty = false)
    (hk : Overload.chosen cx.classes ⟨c.typeParams, d.args⟩ c.constructors types = some k)
    (h : Clean (createType cx (some d) types span) s) :
    k.arity = types.length ∧ (createType cx (some d) types span s).1 = some d := by
  rw [createType_eq hc hne] at h ⊢
  obtain ⟨hs, -⟩ := h.seq (select_quiet cx _ _ _ _ _) (creatable_quiet cx d c span)
  obtain ⟨harity, hfound⟩ := select_clean hk hs
  refine ⟨harity, ?_⟩
  show (creatable cx d c span (select cx c.name ⟨c.typeParams, d.args⟩ c.constructors types span s).1
    (select cx c.name ⟨c.typeParams, d.args⟩ c.constructors types span s).2).1 = some d
  rw [hfound]
  unfold creatable
  dsimp only
  split <;> rfl

/-! ## Selections of checked code -/

variable {t : ClassTable} {role : Role} {e : Expr} {sel : Selection} {k : MethodInfo}

/-- The arguments and the type of a call. -/
def callWith (cx : CheckContext) (target : Option CallTarget) (method : Ident) (args : List Expr)
    (span : Span) : Check Denotation := do
  let types ← inferAll cx args
  return .ofType? (← callType cx target method types span)

theorem callWith_quiet (target : Option CallTarget) (method : Ident) (args : List Expr)
    (span : Span) : Quiet (callWith cx target method args span) :=
  (inferAll_quiet cx args).bind fun _ => (callType_quiet cx _ _ _ _).bind fun _ => Quiet.pure _

theorem selection?_create {type : TypeRef} {args : List Expr} {span : Span}
    (h : selection? cx (.create type args span) s = some sel) :
    ∃ d c, (cx.resolveType type.dataType type.span s).1 = some d ∧
      cx.lookupClass? d.name = some c ∧ c.constructors.isEmpty = false ∧
      sel = ⟨⟨c.typeParams, d.args⟩, c.constructors,
        (inferAll cx args (cx.resolveType type.dataType type.span s).2).1, fun _ => some d⟩ := by
  obtain ⟨d, hd, h⟩ := Option.bind_eq_some_iff.1 h
  obtain ⟨c, hc, h⟩ := Option.bind_eq_some_iff.1 h
  split at h
  · cases h
  · rename_i hne
    exact ⟨d, c, hd, hc, by simpa using hne, (Option.some.inj h).symm⟩

/-- The selected method of a place that checking comes to takes as many parameters as there are
arguments, and decides the type of the expression. -/
theorem Checks.selected (h : Checks t cx (.expr role e) s) (hsel : selection? cx e s = some sel)
    (hk : sel.method? t = some k) :
    k.arity = sel.types.length ∧ (denote cx role e s).1 = .ofType? (sel.type k) := by
  have hclean : Clean (denote cx role e) s := h.clean
  rw [← h.classes] at hk
  match e with
  | .call method args span =>
    obtain ⟨-, -, hc⟩ := call_clean hclean
    obtain ⟨harity, htype⟩ := callType_clean hsel hk hc
    refine ⟨harity, ?_⟩
    unfold denote
    exact congrArg Denotation.ofType? htype
  | .callOn receiver method args span =>
    obtain ⟨-, -, hc⟩ := callOn_clean hclean
    obtain ⟨harity, htype⟩ := callType_clean hsel hk hc
    refine ⟨harity, ?_⟩
    unfold denote
    exact congrArg Denotation.ofType? htype
  | .create type args span =>
    obtain ⟨d, c, hd, hcls, hne, rfl⟩ := selection?_create hsel
    obtain ⟨-, -, hc⟩ := create_clean hclean
    rw [hd] at hc
    obtain ⟨harity, htype⟩ := createType_clean hcls hne hk hc
    refine ⟨harity, ?_⟩
    show Denotation.ofType? (createType cx (cx.resolveType type.dataType type.span s).1
      (inferAll cx args (cx.resolveType type.dataType type.span s).2).1 span
      (inferAll cx args (cx.resolveType type.dataType type.span s).2).2).1 = _
    rw [hd, htype]

theorem implicitTarget_bindings {name : String} {span : Span} {target : CallTarget}
    (h : (implicitTarget cx name span s).1 = some target) : target.bindings = .none := by
  unfold implicitTarget at h
  split at h
  · split at h
    · cases h
    · cases h
      rfl
  · cases h
    rfl

/-- A call of a name that has only static methods selects among these. -/
theorem selection?_static {method : Ident} {args : List Expr} {span : Span} {g : List MethodInfo}
    (hi : cx.cls.instanceMethods? cx.classes method.name = none)
    (hg : cx.cls.staticMethods? cx.classes method.name = some g) :
    selection? cx (.call method args span) s =
      some ⟨.none, g, (inferAll cx args s).1, resultType .none⟩ := by
  have htarget : implicitTarget cx method.name span s = (some ⟨some g, .none, false⟩, s) := by
    unfold implicitTarget
    rw [hi, hg]
    cases cx.isStatic <;> rfl
  simp only [selection?, htarget]
  rfl

/-- Bindings do not matter for a selection. -/
theorem Checks.selection_plain (h : Checks t cx (.expr role e) s)
    (hr : ∀ c, t.Has c → c.Regular) (hsel : selection? cx e s = some sel) :
    Overload.Plain sel.bindings sel.group := by
  have lookup : ∀ {name c}, cx.lookupClass? name = some c → c.Regular := by
    intro name c hc
    unfold CheckContext.lookupClass? at hc
    rw [h.classes] at hc
    split at hc
    · rename_i d hd
      cases hc
      exact hr _ (h.has.of_inner? hd)
    · exact hr _ (.of_resolve? hc)
  match e with
  | .call method args span =>
    obtain ⟨tg, htg, hsel⟩ := Option.bind_eq_some_iff.1 hsel
    obtain ⟨g, -, rfl⟩ := Option.map_eq_some_iff.1 hsel
    exact .inl (by rw [implicitTarget_bindings htg]; rfl)
  | .callOn receiver method args span =>
    obtain ⟨tg, htg, hsel⟩ := Option.bind_eq_some_iff.1 hsel
    obtain ⟨g, hg, rfl⟩ := Option.map_eq_some_iff.1 hsel
    unfold explicitTarget at htg
    split at htg
    · cases htg
      exact .inl rfl
    · cases htg
      exact .inl rfl
    · split at htg
      · rename_i c hc
        cases htg
        exact (lookup hc).plain_instanceMethods hg _
      · cases htg
    · cases htg
  | .create type args span =>
    obtain ⟨d, c, -, hcls, -, rfl⟩ := selection?_create hsel
    exact (lookup hcls).plain_constructors d.args

end Typing

end ClassScript
