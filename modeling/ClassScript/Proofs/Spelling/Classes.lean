import ClassScript.Proofs.Class.Lookup
import ClassScript.Proofs.Spelling.Names
import ClassScript.Typing.Overload

/-!
# Classes that look alike

`ClassInfo.Like ρ c d`: both classes declare the same members, up to the spelling of the types in
them. How far bodies of methods and initializers of fields may differ is left to `ρ`, because no
look-up reads them. In tables whose look-ups lead to such classes (`ClassTable.Like`), everything
that is searched along the superclasses finds such members, types are assignable in both or in
neither, and a call means such overloads (`Overload.resolve_like`).
-/

namespace ClassScript

/-- How far two classes may differ (module doc). -/
structure Likeness where
  spelling : Spelling
  body : MethodBody → MethodBody → Prop
  init : Option Expr → Option Expr → Prop

variable {ρ : Likeness}

section

variable (ρ)

/-! ## Members -/

structure ParamInfo.Like (p q : ParamInfo) : Prop where
  name : p.name = q.name
  type : p.type.Spelled ρ.spelling q.type

structure MethodInfo.Like (m n : MethodInfo) : Prop where
  name : m.name = n.name
  modifiers : m.modifiers = n.modifiers
  returnType : Option.Rel (DataType.Spelled ρ.spelling) m.returnType n.returnType
  params : List.Forall₂ (ParamInfo.Like ρ) m.params n.params
  body : ρ.body m.body n.body
  span : m.span = n.span

structure FieldInfo.Like (f g : FieldInfo) : Prop where
  name : f.name = g.name
  type : f.type.Spelled ρ.spelling g.type
  modifiers : f.modifiers = g.modifiers
  init : ρ.init f.init g.init
  span : f.span = g.span

/-- Two groups of overloads. -/
abbrev MethodInfo.LikeAll : List MethodInfo → List MethodInfo → Prop :=
  List.Forall₂ (MethodInfo.Like ρ)

/-! ## Classes -/

/-- What the classes declare themselves, besides their inner classes, looks alike. -/
structure ClassInfo.LikeOwn (c d : ClassInfo) : Prop where
  name : c.name = d.name
  outer : c.outer = d.outer
  modifiers : c.modifiers = d.modifiers
  annotations : c.annotations = d.annotations
  superclass : Option.Rel (DataType.Spelled ρ.spelling) c.superclass d.superclass
  interfaces : List.Forall₂ (DataType.Spelled ρ.spelling) c.interfaces d.interfaces
  typeParams : c.typeParams = d.typeParams
  instanceFields : c.instanceFields.Paired ρ.spelling (FieldInfo.Like ρ) d.instanceFields
  staticFields : c.staticFields.Paired ρ.spelling (FieldInfo.Like ρ) d.staticFields
  instanceMethods : c.instanceMethods.Paired ρ.spelling (MethodInfo.LikeAll ρ) d.instanceMethods
  staticMethods : c.staticMethods.Paired ρ.spelling (MethodInfo.LikeAll ρ) d.staticMethods
  constructors : MethodInfo.LikeAll ρ c.constructors d.constructors
  span : c.span = d.span

/-- The classes look alike, and so do those inside them (module doc). -/
inductive ClassInfo.Like : ClassInfo → ClassInfo → Prop
  | intro {c d : ClassInfo} : c.LikeOwn ρ d → List.Forall₂ ClassInfo.Like c.inner d.inner →
      ClassInfo.Like c d

/-- Every name leads to classes that look alike, and both tables are of one size. -/
structure ClassTable.Like (t t' : ClassTable) : Prop where
  get? : ∀ {n n'}, sameName n n' = true → Option.Rel (ClassInfo.Like ρ) (t.get? n) (t'.get? n')
  size : t.size = t'.size

end

namespace MethodInfo.Like

variable {m n : MethodInfo} (h : m.Like ρ n)
include h

theorem arity : m.arity = n.arity := h.params.length_eq

theorem paramTypes : List.Forall₂ (DataType.Spelled ρ.spelling) m.paramTypes n.paramTypes :=
  List.rel_map (fun _ _ hp => ParamInfo.Like.type hp) h.params

theorem isStatic : m.isStatic = n.isStatic := by rw [MethodInfo.isStatic, h.modifiers]; rfl

theorem visibility : m.visibility = n.visibility := by rw [MethodInfo.visibility, h.modifiers]; rfl

theorem resultType : m.resultType.Spelled ρ.spelling n.resultType := by
  unfold MethodInfo.resultType
  have hr := h.returnType
  generalize m.returnType = r, n.returnType = r' at hr
  cases hr with
  | none => exact .refl _
  | some ht => exact ht

end MethodInfo.Like

theorem FieldInfo.Like.isStatic {f g : FieldInfo} (h : f.Like ρ g) : f.isStatic = g.isStatic := by
  rw [FieldInfo.isStatic, h.modifiers]; rfl

namespace ClassInfo.Like

variable {c d : ClassInfo}

theorem own (h : c.Like ρ d) : c.LikeOwn ρ d := by
  cases h with
  | intro ho _ => exact ho

theorem inner (h : c.Like ρ d) : List.Forall₂ (ClassInfo.Like ρ) c.inner d.inner := by
  cases h with
  | intro _ hi => exact hi

theorem name (h : c.Like ρ d) : c.name = d.name := h.own.name

theorem path (h : c.Like ρ d) : c.path = d.path := by
  rw [ClassInfo.path, ClassInfo.path, h.own.outer, h.name]

theorem dataType (h : c.Like ρ d) : c.dataType = d.dataType := by
  rw [ClassInfo.dataType, ClassInfo.dataType, h.name]

theorem inner? (h : c.Like ρ d) {n n' : String} (hn : sameName n n' = true) :
    Option.Rel (ClassInfo.Like ρ) (c.inner? n) (d.inner? n') := by
  refine find?_paired h.inner fun hc => ?_
  rw [hc.name]
  exact sameName_congr_right hn _

end ClassInfo.Like

/-! ## A class looks like itself -/

theorem FieldInfo.Like.refl (hi : ∀ e, ρ.init e e) (f : FieldInfo) : f.Like ρ f :=
  ⟨rfl, .refl _, rfl, hi _, rfl⟩

section

variable (hb : ∀ b, ρ.body b b) (hi : ∀ e, ρ.init e e)
include hb

theorem MethodInfo.Like.refl (m : MethodInfo) : m.Like ρ m where
  name := rfl
  modifiers := rfl
  returnType := rel_refl DataType.Spelled.refl _
  params := List.forall₂_same.2 fun _ _ => ⟨rfl, .refl _⟩
  body := hb _
  span := rfl

theorem MethodInfo.Like.reflAll (ms : List MethodInfo) : MethodInfo.LikeAll ρ ms ms :=
  List.forall₂_same.2 fun m _ => .refl hb m

include hi

theorem ClassInfo.LikeOwn.refl (c : ClassInfo) : c.LikeOwn ρ c where
  name := rfl
  outer := rfl
  modifiers := rfl
  annotations := rfl
  superclass := rel_refl DataType.Spelled.refl _
  interfaces := DataType.Spelled.reflAll _
  typeParams := rfl
  instanceFields := .refl (FieldInfo.Like.refl hi) _
  staticFields := .refl (FieldInfo.Like.refl hi) _
  instanceMethods := .refl (MethodInfo.Like.reflAll hb) _
  staticMethods := .refl (MethodInfo.Like.reflAll hb) _
  constructors := MethodInfo.Like.reflAll hb _
  span := rfl

omit hb hi in
mutual

theorem ClassInfo.Like.refl (hb : ∀ b, ρ.body b b) (hi : ∀ e, ρ.init e e) :
    ∀ c : ClassInfo, c.Like ρ c
  | ⟨_, _, _, _, _, _, _, _, _, _, _, _, inner, _⟩ =>
    .intro (.refl hb hi _) (ClassInfo.Like.reflAll hb hi inner)

theorem ClassInfo.Like.reflAll (hb : ∀ b, ρ.body b b) (hi : ∀ e, ρ.init e e) :
    ∀ cs : List ClassInfo, List.Forall₂ (ClassInfo.Like ρ) cs cs
  | [] => .nil
  | c :: cs => .cons (ClassInfo.Like.refl hb hi c) (ClassInfo.Like.reflAll hb hi cs)

end

end

/-! ## Look-ups -/

namespace ClassTable.Like

variable {t t' : ClassTable}

/-- Tables of classes that look alike one by one look alike. -/
theorem of_classes (h : List.Forall₂ (ClassInfo.Like ρ) t.classes t'.classes) : t.Like ρ t' where
  get? hn := find?_paired h fun hc => by
    rw [hc.name]
    exact sameName_congr_right hn _
  size := h.length_eq

theorem contains (h : t.Like ρ t') {n n' : String} (hn : sameName n n' = true) :
    t.contains n = t'.contains n' :=
  isSome_paired (h.get? hn)

end ClassTable.Like

theorem ClassTable.descend_like {ns ns' : List String}
    (hs : List.Forall₂ (fun a b => sameName a b = true) ns ns') : ∀ {c d : ClassInfo},
    c.Like ρ d → Option.Rel (ClassInfo.Like ρ) (descend c ns) (descend d ns') := by
  induction hs with
  | nil => exact fun h => .some h
  | cons hn _ ih =>
    intro c d h
    unfold descend
    have hi := h.inner? hn
    generalize c.inner? _ = x, d.inner? _ = y at hi
    cases hi with
    | none => exact .none
    | some h => exact ih h

section

variable {t t' : ClassTable} (ht : t.Like ρ t') {n n' : String} (hn : sameName n n' = true)
include ht

include hn in
theorem ClassTable.resolve?_like :
    Option.Rel (ClassInfo.Like ρ) (t.resolve? n) (t'.resolve? n') := by
  have hs := splitDots_same (p := []) (q := []) rfl (sameName_iff.1 hn)
  unfold resolve?
  generalize splitDots [] n.toList = parts, splitDots [] n'.toList = parts' at hs
  cases hs with
  | nil => exact .none
  | cons hf hr =>
    have hg := ht.get? hf
    dsimp only
    generalize t.get? _ = x, t'.get? _ = y at hg
    cases hg with
    | none => exact .none
    | some h => exact descend_like hr h

namespace ClassInfo

theorem parent?_like {c d : ClassInfo} (h : c.Like ρ d) :
    Option.Rel (ClassInfo.Like ρ) (c.parent? t) (d.parent? t') := by
  unfold parent?
  have hs := h.own.superclass
  generalize c.superclass = x, d.superclass = y at hs
  cases hs with
  | none => exact .none
  | some hs => exact ClassTable.resolve?_like ht hs.sameName

theorem chainUpTo_like : ∀ (k : Nat) {c d : ClassInfo}, c.Like ρ d →
    List.Forall₂ (ClassInfo.Like ρ) (chainUpTo t k c) (chainUpTo t' k d)
  | 0, _, _, _ => .nil
  | k + 1, c, d, h => by
    unfold chainUpTo
    refine .cons h ?_
    have hp := parent?_like ht h
    generalize c.parent? t = x, d.parent? t' = y at hp
    cases hp with
    | none => exact .nil
    | some hp => exact chainUpTo_like k hp

variable {c d : ClassInfo} (h : c.Like ρ d)
include h

theorem chain_like : List.Forall₂ (ClassInfo.Like ρ) (c.chain t) (d.chain t') := by
  unfold chain
  rw [ht.size]
  exact chainUpTo_like ht _ h

include hn

theorem instanceMethods?_like : Option.Rel (MethodInfo.LikeAll ρ) (c.instanceMethods? t n)
    (d.instanceMethods? t' n') :=
  findSome?_paired (chain_like ht h) fun hc => hc.own.instanceMethods.get? hn

theorem staticMethods?_like : Option.Rel (MethodInfo.LikeAll ρ) (c.staticMethods? t n)
    (d.staticMethods? t' n') :=
  findSome?_paired (chain_like ht h) fun hc => hc.own.staticMethods.get? hn

theorem instanceField?_like : Option.Rel (FieldInfo.Like ρ) (c.instanceField? t n)
    (d.instanceField? t' n') :=
  findSome?_paired (chain_like ht h) fun hc => hc.own.instanceFields.get? hn

theorem staticField?_like : Option.Rel (fun p q => p.1.Like ρ q.1 ∧ p.2.Like ρ q.2)
    (c.staticField? t n) (d.staticField? t' n') :=
  findSome?_paired (chain_like ht h) fun hc =>
    map_paired (hc.own.staticFields.get? hn) fun hf => ⟨hc, hf⟩

theorem isSubclassOf_like : c.isSubclassOf t n = d.isSubclassOf t' n' := by
  unfold isSubclassOf
  congr 1
  · refine any_paired (chain_like ht h) fun hc => ?_
    rw [hc.name]
    exact sameName_congr_right hn _
  · refine any_paired h.own.interfaces fun hi => ?_
    unfold DataType.isNamed
    rw [sameName_congr_left hi.sameName, sameName_congr_right hn]

omit hn

theorem allInstanceFields_like : List.Forall₂ (FieldInfo.Like ρ) (c.allInstanceFields t)
    (d.allInstanceFields t') :=
  List.rel_flatMap (List.rel_reverse (chain_like ht h)) fun _ _ hc => hc.own.instanceFields.values

end ClassInfo

/-! ## Types and overloads -/

theorem DataType.isAssignable_like {v v' a a' : DataType} (hv : v.Spelled ρ.spelling v')
    (ha : a.Spelled ρ.spelling a') : v.isAssignable t a = v'.isAssignable t' a' := by
  unfold isAssignable
  rw [hv.fitsExactly ha, ha.isObject, hv.isEmpty_args, ha.isEmpty_args]
  split
  · rfl
  · split
    · rfl
    · have hr := ClassTable.resolve?_like ht hv.sameName
      generalize t.resolve? _ = x, t'.resolve? _ = y at hr
      cases hr with
      | none => rfl
      | some hc => exact ClassInfo.isSubclassOf_like ht ha.sameName hc

/-- A selected overload that looks alike, selected in the same way. -/
structure OverloadMatch.Like (ρ : Likeness) (m n : OverloadMatch) : Prop where
  method : m.method.Like ρ n.method
  kind : m.kind = n.kind

namespace Overload

/-- Argument types, some of which are unknown. -/
abbrev SpelledArgs (σ : Spelling) : List (Option DataType) → List (Option DataType) → Prop :=
  List.Forall₂ (Option.Rel (DataType.Spelled σ))

variable {b b' : TypeBindings} (hb : b.Spelled ρ.spelling b')
include hb

omit ht in
theorem argumentEquals_like {p p' : DataType} (hp : p.Spelled ρ.spelling p')
    {a a' : Option DataType} (ha : Option.Rel (DataType.Spelled ρ.spelling) a a') :
    argumentEquals b p a = argumentEquals b' p' a' := by
  cases ha with
  | none => rfl
  | some ha =>
    have hs := hb.substitute hp
    unfold argumentEquals
    dsimp only
    rw [hb.isUnbound hs, ha.beq_congr hs]

theorem argumentMatches_like {p p' : DataType} (hp : p.Spelled ρ.spelling p')
    {a a' : Option DataType} (ha : Option.Rel (DataType.Spelled ρ.spelling) a a') :
    argumentMatches t b p a = argumentMatches t' b' p' a' := by
  cases ha with
  | none => rfl
  | some ha =>
    have hs := hb.substitute hp
    unfold argumentMatches
    dsimp only
    rw [hb.isUnbound hs, DataType.isAssignable_like ht ha hs]

omit ht hb in
theorem allArguments_like {rel rel' : DataType → Option DataType → Bool} {m m' : MethodInfo}
    (hm : m.Like ρ m') {args args' : List (Option DataType)}
    (hargs : SpelledArgs ρ.spelling args args')
    (hrel : ∀ {p p' a a'}, p.Spelled ρ.spelling p' →
      Option.Rel (DataType.Spelled ρ.spelling) a a' → rel p a = rel' p' a') :
    allArguments rel m args = allArguments rel' m' args' := by
  unfold allArguments
  have hps := hm.paramTypes
  generalize m.paramTypes = ps, m'.paramTypes = ps' at hps
  induction hps generalizing args args' with
  | nil => rfl
  | cons hp _ ih =>
    cases hargs with
    | nil => rfl
    | cons ha hargs =>
      rw [List.zip_cons_cons, List.zip_cons_cons, List.all_cons, List.all_cons, ih hargs]
      exact congrArg (· && _) (hrel hp ha)

/-- A call means overloads that look alike. -/
theorem resolve_like {ms ms' : List MethodInfo} (hms : MethodInfo.LikeAll ρ ms ms')
    {args args' : List (Option DataType)} (hargs : SpelledArgs ρ.spelling args args') :
    Option.Rel (OverloadMatch.Like ρ) (resolve t b ms args) (resolve t' b' ms' args') := by
  cases hms with
  | nil => exact .none
  | @cons first first' rest rest' hm hrest =>
    unfold resolve
    dsimp only
    have harity : MethodInfo.LikeAll ρ
        ((first :: rest).filter fun m => decide (m.arity = args.length))
        ((first' :: rest').filter fun m => decide (m.arity = args'.length)) :=
      filter_paired (.cons hm hrest) fun hm => by rw [hm.arity, hargs.length_eq]
    generalize (first :: rest).filter _ = same, (first' :: rest').filter _ = same' at harity
    -- candidates are searched for an exact match, then for one that accepts the arguments
    have hexact := find?_paired harity (p := fun m => allArguments (argumentEquals b) m args)
      (q := fun m => allArguments (argumentEquals b') m args') fun hm =>
        allArguments_like hm hargs fun hp ha => argumentEquals_like hb hp ha
    have hcompatible := find?_paired harity
      (p := fun m => allArguments (argumentMatches t b) m args)
      (q := fun m => allArguments (argumentMatches t' b') m args') fun hm =>
        allArguments_like hm hargs fun hp ha => argumentMatches_like ht hb hp ha
    generalize same.find? (fun m => allArguments (argumentEquals b) m args) = x,
      same'.find? (fun m => allArguments (argumentEquals b') m args') = y at hexact
    cases hexact with
    | some hm => exact .some ⟨hm, rfl⟩
    | none =>
      dsimp only
      generalize same.find? _ = x, same'.find? _ = y at hcompatible
      cases hcompatible with
      | some hm => exact .some ⟨hm, rfl⟩
      | none =>
        refine .some ⟨?_, rfl⟩
        cases harity with
        | nil => exact hm
        | cons hm _ => exact hm

end Overload

end

end ClassScript
