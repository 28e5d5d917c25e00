import ClassScript.Proofs.Typing.Unknown

/-!
# Open parameters in the types of calls

A type mentions a name if the name is the type or stands anywhere in its arguments
(`DataType.Mentions`). A generic parameter of a receiver's class is open if the receiver's type has
no argument for it (`TypeBindings.Open`). Substitution leaves an open parameter where it was, and
brings in no other than those that the arguments mention themselves
(`TypeBindings.mentions_substitute`); so a result that is an open parameter as a whole has no type,
and one that holds an open parameter further inside keeps it.

Only the containers have parameters, and among their methods only `keySet` and `values` of maps have
a result with a parameter inside (`Builtin.mapResults`).

Main statement: `open_parameters_of_calls`.
-/

namespace ClassScript

/-- The name is the type, or one of the arguments of the type mentions it. -/
inductive DataType.Mentions (p : String) : DataType → Prop
  | self {name : String} : sameName name p = true → Mentions p ⟨name, []⟩
  | arg {name : String} {args : List DataType} {a : DataType} :
    a ∈ args → Mentions p a → Mentions p ⟨name, args⟩

namespace TypeBindings

open DataType (Mentions)

variable {b : TypeBindings} {p q name : String} {i : Nat} {t a : DataType}

/-- The parameter has no argument. -/
def Open (b : TypeBindings) (p : String) : Prop := b.isUnbound (.simple p) = true

/-! ## Positions -/

theorem position?_congr (h : sameName name q = true) :
    b.position? ⟨name, []⟩ = b.position? (.simple q) := by
  unfold position?
  refine congrArg (fun f => List.findIdx? f b.params) (funext fun r => ?_)
  exact sameName_congr_left h r

theorem open_iff : b.Open p ↔ ∃ i, b.position? (.simple p) = some i ∧ b.args.length ≤ i := by
  unfold Open isUnbound
  cases b.position? (.simple p) with
  | none => simp
  | some i => simp

/-- A parameter with an argument is not open. -/
theorem Open.unbound (h : b.Open p) (hi : b.position? (.simple p) = some i) :
    b.args[i]? = Option.none := by
  obtain ⟨j, hj, hle⟩ := open_iff.1 h
  cases hi.symm.trans hj
  exact List.getElem?_eq_none hle

theorem Open.length_lt (h : b.Open p) : b.args.length < b.params.length := by
  obtain ⟨i, hi, hle⟩ := open_iff.1 h
  have hlt := (List.findIdx?_eq_some_iff_findIdx_eq.1 hi).1
  exact Nat.lt_of_le_of_lt hle hlt

theorem substituteAll_eq_map (b : TypeBindings) (ts : List DataType) :
    b.substituteAll ts = ts.map b.substitute := by
  induction ts with
  | nil =>
    rw [substituteAll]
    rfl
  | cons t ts ih =>
    rw [substituteAll, ih]
    rfl

/-- A parameter becomes its argument, and stays if it has none. -/
theorem substitute_of_position? (h : b.position? t = some i) :
    b.substitute t = (b.args[i]?).getD t := by
  obtain ⟨name, args⟩ := t
  rw [substitute, h]
  exact List.getD_eq_getElem?_getD

/-- In a type that is no parameter the arguments are replaced. -/
theorem substitute_of_no_position? {args : List DataType}
    (h : b.position? ⟨name, args⟩ = Option.none) :
    b.substitute ⟨name, args⟩ = ⟨name, args.map b.substitute⟩ := by
  rw [substitute, h, substituteAll_eq_map]

/-! ## What a type mentions after substitution -/

/-- `q` is a parameter whose argument mentions `p`. -/
def Brings (b : TypeBindings) (q p : String) : Prop :=
  ∃ i a, b.position? (.simple q) = some i ∧ b.args[i]? = some a ∧ a.Mentions p

/-- What becomes of a parameter. -/
theorem mentions_of_position? (hp : b.Open p) (hpos : b.position? t = some i) :
    (b.substitute t).Mentions p ↔ t.Mentions p ∨ ∃ q, t.Mentions q ∧ b.Brings q p := by
  obtain ⟨name, args⟩ := t
  -- only a name without arguments is a parameter
  have leaf : args = [] := by
    unfold position? at hpos
    split at hpos
    · rename_i h
      exact List.isEmpty_iff.1 h
    · cases hpos
  subst leaf
  have only : ∀ q, Mentions q ⟨name, []⟩ → b.position? (.simple q) = some i := by
    intro q hq
    cases hq with
    | self h => rw [← hpos, position?_congr h]
    | arg ha _ => cases ha
  rw [substitute_of_position? hpos]
  cases harg : b.args[i]? with
  | some a =>
    constructor
    · intro ha
      exact .inr ⟨name, .self (sameName_self name), i, a, hpos, harg, ha⟩
    · rintro (h | ⟨q, hq, j, a', hj, ha', hm⟩)
      · rw [hp.unbound (only p h)] at harg
        cases harg
      · cases (only q hq).symm.trans hj
        cases harg.symm.trans ha'
        exact hm
  | none =>
    refine ⟨.inl, ?_⟩
    rintro (h | ⟨q, hq, j, a', hj, ha', hm⟩)
    · exact h
    · cases (only q hq).symm.trans hj
      rw [harg] at ha'
      cases ha'

/-- After substitution a type mentions an open parameter if it did so before, or if it mentions a
parameter that brings it in. -/
theorem mentions_substitute (hp : b.Open p) (t : DataType) :
    (b.substitute t).Mentions p ↔ t.Mentions p ∨ ∃ q, t.Mentions q ∧ b.Brings q p := by
  obtain ⟨name, args⟩ := t
  cases hpos : b.position? ⟨name, args⟩ with
  | some i => exact mentions_of_position? hp hpos
  | none =>
    have inside : ∀ a ∈ args, (b.substitute a).Mentions p ↔
        a.Mentions p ∨ ∃ q, a.Mentions q ∧ b.Brings q p := by
      intro a ha
      have := List.sizeOf_lt_of_mem ha
      exact mentions_substitute hp a
    rw [substitute_of_no_position? hpos]
    constructor
    · intro h
      generalize hts : args.map b.substitute = ts at h
      cases h with
      | self h =>
        rw [List.map_eq_nil_iff.1 hts]
        exact .inl (.self h)
      | arg ha hm =>
        rw [← hts] at ha
        obtain ⟨a, hmem, rfl⟩ := List.mem_map.1 ha
        rcases (inside a hmem).1 hm with h | ⟨q, hq, hb⟩
        · exact .inl (.arg hmem h)
        · exact .inr ⟨q, .arg hmem hq, hb⟩
    · rintro (h | ⟨q, hq, hb⟩)
      · cases h with
        | self h => exact .self h
        | arg hmem h => exact .arg (List.mem_map_of_mem hmem) ((inside _ hmem).2 (.inl h))
      · cases hq with
        | self h =>
          -- the type would be a parameter
          obtain ⟨i, -, hi, -⟩ := hb
          rw [position?_congr h, hi] at hpos
          cases hpos
        | arg hmem h =>
          exact .arg (List.mem_map_of_mem hmem) ((inside _ hmem).2 (.inr ⟨q, h, hb⟩))
termination_by sizeOf t

/-- What is no parameter brings nothing in. -/
theorem Open.not_mentions_simple (hp : b.Open p) (h : b.position? (.simple name) = Option.none) :
    ¬ (b.substitute (.simple name)).Mentions p := by
  have leaf : ∀ q, Mentions q (.simple name) → b.position? (.simple q) = Option.none := by
    intro q hq
    cases hq with
    | self hname =>
      rw [← position?_congr hname]
      exact h
    | arg ha _ => cases ha
  rw [mentions_substitute hp]
  rintro (hm | ⟨q, hq, i, a, hi, -, -⟩)
  · obtain ⟨i, hi, -⟩ := open_iff.1 hp
    cases (leaf p hm).symm.trans hi
  · cases (leaf q hq).symm.trans hi

/-- What is left of a parameter with a type is its argument. -/
theorem arg_of_bound (hi : b.position? t = some i) (h : b.isUnbound (b.substitute t) = false) :
    b.args[i]? = some (b.substitute t) := by
  rw [substitute_of_position? hi] at h ⊢
  cases harg : b.args[i]? with
  | some a => rfl
  | none =>
    rw [harg, Option.getD_none, isUnbound, hi] at h
    exact absurd (List.getElem?_eq_none_iff.1 harg) (of_decide_eq_false h)

end TypeBindings

/-! ## Results of the methods of containers -/

namespace Builtin

/-- The results of the instance methods of a class, by name. -/
def results (c : ClassInfo) : List (String × List DataType) :=
  c.instanceMethods.entries.map fun e => (e.1, e.2.map MethodInfo.resultType)

theorem listResults : results listClass =
    [("add", [.void]), ("get", [element]), ("set", [.void]), ("size", [.integer]),
      ("isEmpty", [.boolean]), ("clear", [.void]), ("contains", [.boolean])] := rfl

theorem mapResults : results mapClass =
    [("put", [value]), ("get", [value]), ("containsKey", [.boolean]), ("remove", [value]),
      ("size", [.integer]), ("isEmpty", [.boolean]), ("keySet", [.list key]),
      ("values", [.list value])] := rfl

theorem mem_results {t : ClassTable} {c : ClassInfo} {name : String} {g : List MethodInfo}
    {k : MethodInfo} (hs : c.superclass = none) (hg : c.instanceMethods? t name = some g)
    (hk : k ∈ g) :
    ∃ key types, (key, types) ∈ results c ∧ sameName key name = true ∧ k.resultType ∈ types := by
  unfold ClassInfo.instanceMethods? at hg
  rw [ClassInfo.chain_of_no_superclass hs] at hg
  obtain ⟨d, hd, hg⟩ := List.exists_of_findSome?_eq_some hg
  rw [List.mem_singleton.1 hd] at hg
  obtain ⟨key, hname, hmem⟩ := NameTable.sameName_of_get? hg
  exact ⟨key, _, List.mem_map_of_mem hmem, hname, List.mem_map_of_mem hk⟩

end Builtin

namespace Typing

variable {cx : CheckContext} {s : CheckState} {role : Role} {receiver : Expr} {method : Ident}
  {args : List Expr} {span : Span} {c : ClassInfo} {τ r : DataType}

/-! ## The type of a call on a value -/

theorem select_fst (cx : CheckContext) (name : String) (b : TypeBindings) (g : List MethodInfo)
    (types : List (Option DataType)) (span : Span) (s : CheckState) :
    (select cx name b g types span s).1 = Overload.chosen cx.classes b g types := by
  unfold select Overload.chosen
  cases Overload.resolve cx.classes b g types with
  | none => rfl
  | some found =>
    dsimp only
    split
    · cases h : found.acceptsArity types.length <;> rfl
    · rfl

/-- A result that is an open parameter has no type. -/
theorem callType_open {target : CallTarget} {types : List (Option DataType)} {g : List MethodInfo}
    {k : MethodInfo} (hg : target.group = some g)
    (hk : Overload.chosen cx.classes target.bindings g types = some k)
    (hb : target.bindings.isUnbound (target.bindings.substitute k.resultType) = true) :
    (callType cx (some target) method types span s).1 = none := by
  obtain ⟨group, b, isExternal⟩ := target
  cases hg
  rw [callType_eq]
  show (reachable b isExternal span (select cx method.name b g types span s).1
    (select cx method.name b g types span s).2).1 = none
  rw [select_fst, hk]
  unfold reachable
  dsimp only
  split
  · rfl
  · exact if_pos hb

/-- A call that has a type has the result of a method of the name. -/
theorem callType_some {target : CallTarget} {types : List (Option DataType)}
    (h : (callType cx (some target) method types span s).1 = some r) :
    ∃ g k, target.group = some g ∧ k ∈ g ∧ resultType target.bindings k = some r := by
  obtain ⟨group, b, isExternal⟩ := target
  cases group with
  | none => cases h
  | some g =>
    rw [callType_eq] at h
    have h : (reachable b isExternal span (select cx method.name b g types span s).1
      (select cx method.name b g types span s).2).1 = some r := h
    rw [select_fst] at h
    cases hk : Overload.chosen cx.classes b g types with
    | none =>
      rw [hk] at h
      cases h
    | some k =>
      rw [hk] at h
      unfold reachable at h
      dsimp only at h
      split at h
      · cases h
      · exact ⟨g, k, rfl, Overload.chosen_mem hk, h⟩

theorem denote_callOn (cx : CheckContext) (role : Role) (receiver : Expr) (method : Ident)
    (args : List Expr) (span : Span) (s : CheckState) :
    let outer := denote cx .receiver receiver s
    (denote cx role (.callOn receiver method args span) s).1 = .ofType?
      (callType cx (explicitTarget cx outer.1 method.name) method (inferAll cx args outer.2).1 span
        (inferAll cx args outer.2).2).1 := by
  rw [denote]
  rfl

/-- The call on a value has the result of an instance method of the value's class. -/
theorem callOn_result (hrecv : (denote cx .receiver receiver s).1 = .value τ)
    (hc : cx.lookupClass? τ.name = some c)
    (h : (denote cx role (.callOn receiver method args span) s).1 = .value r) :
    ∃ g k, c.instanceMethods? cx.classes method.name = some g ∧ k ∈ g ∧
      resultType ⟨c.typeParams, τ.args⟩ k = some r := by
  have target : explicitTarget cx (denote cx .receiver receiver s).1 method.name =
      some ⟨c.instanceMethods? cx.classes method.name, ⟨c.typeParams, τ.args⟩, true⟩ := by
    simp only [explicitTarget, hrecv, hc]
  rw [denote_callOn] at h
  have known := congrArg Denotation.type? h
  rw [ClassScript.Denotation.type?_ofType?, target] at known
  exact callType_some known

/-- A call that selects a method with an open parameter as its result has no type. -/
theorem callOn_open {sel : Selection} {k : MethodInfo}
    (hsel : selection? cx (.callOn receiver method args span) s = some sel)
    (hk : sel.method? cx.classes = some k)
    (hb : sel.bindings.isUnbound (sel.bindings.substitute k.resultType) = true) :
    (denote cx role (.callOn receiver method args span) s).1 = .unknown := by
  obtain ⟨target, htarget, hsel⟩ := Option.bind_eq_some_iff.1 hsel
  obtain ⟨g, hg, rfl⟩ := Option.map_eq_some_iff.1 hsel
  rw [denote_callOn, htarget, callType_open hg hk hb]
  rfl

/-! ## Which parameters remain -/

theorem resultType_eq_some {b : TypeBindings} {k : MethodInfo} :
    resultType b k = some r ↔ b.isUnbound r = false ∧ r = b.substitute k.resultType := by
  unfold resultType
  split
  · rename_i h
    constructor
    · nofun
    · rintro ⟨hr, rfl⟩
      rw [h] at hr
      cases hr
  · rename_i h
    rw [Option.some.injEq]
    constructor
    · rintro rfl
      exact ⟨by simpa using h, rfl⟩
    · exact fun hr => hr.2.symm

end Typing

namespace Builtin

open DataType (Mentions)
open TypeBindings (Open Brings open_iff)
open Typing (resultType)

variable {t : ClassTable} {p name : String} {args : List DataType} {a r : DataType}
  {g : List MethodInfo} {k : MethodInfo}

theorem mentions_simple : (DataType.simple name).Mentions p ↔ sameName name p = true := by
  constructor
  · intro h
    cases h with
    | self h => exact h
    | arg ha _ => cases ha
  · exact .self

theorem mentions_list : (DataType.list a).Mentions p ↔ a.Mentions p := by
  constructor
  · intro h
    cases h with
    | arg ha hm =>
      rw [List.mem_singleton.1 ha] at hm
      exact hm
  · exact .arg List.mem_cons_self

/-- A method of lists has an element as its result, or a type without parameters. -/
theorem list_result (hg : listClass.instanceMethods? t name = some g) (hk : k ∈ g) :
    k.resultType = element ∨ ∃ n ∈ ["void", "Integer", "Boolean"], k.resultType = .simple n := by
  obtain ⟨method, types, hmem, -, htype⟩ := mem_results rfl hg hk
  rw [listResults] at hmem
  simp only [List.mem_cons, Prod.mk.injEq, List.not_mem_nil, or_false] at hmem
  rcases hmem with ⟨-, rfl⟩ | ⟨-, rfl⟩ | ⟨-, rfl⟩ | ⟨-, rfl⟩ | ⟨-, rfl⟩ | ⟨-, rfl⟩ | ⟨-, rfl⟩ <;>
    rw [List.mem_singleton.1 htype]
  case inr.inl => exact .inl rfl
  case inr.inr.inr.inl => exact .inr ⟨"Integer", by simp, rfl⟩
  case inr.inr.inr.inr.inl | inr.inr.inr.inr.inr.inr => exact .inr ⟨"Boolean", by simp, rfl⟩
  all_goals exact .inr ⟨"void", by simp, rfl⟩

/-- A method of maps has a list of keys or values, a value, or a type without parameters. -/
theorem map_result (hg : mapClass.instanceMethods? t name = some g) (hk : k ∈ g) :
    sameName name "keySet" = true ∧ sameName name "values" = false ∧ k.resultType = .list key ∨
    sameName name "keySet" = false ∧ sameName name "values" = true ∧ k.resultType = .list value ∨
    sameName name "keySet" = false ∧ sameName name "values" = false ∧
      (k.resultType = value ∨ ∃ n ∈ ["Integer", "Boolean"], k.resultType = .simple n) := by
  obtain ⟨method, types, hmem, hname, htype⟩ := mem_results rfl hg hk
  rw [← sameName_congr_left hname, ← sameName_congr_left hname]
  rw [mapResults] at hmem
  simp only [List.mem_cons, Prod.mk.injEq, List.not_mem_nil, or_false] at hmem
  rcases hmem with ⟨rfl, rfl⟩ | ⟨rfl, rfl⟩ | ⟨rfl, rfl⟩ | ⟨rfl, rfl⟩ | ⟨rfl, rfl⟩ | ⟨rfl, rfl⟩ |
    ⟨rfl, rfl⟩ | ⟨rfl, rfl⟩ <;> rw [List.mem_singleton.1 htype]
  case inr.inr.inr.inr.inr.inr.inl => exact .inl ⟨rfl, rfl, rfl⟩
  case inr.inr.inr.inr.inr.inr.inr => exact .inr (.inl ⟨rfl, rfl, rfl⟩)
  case inl | inr.inl | inr.inr.inr.inl => exact .inr (.inr ⟨rfl, rfl, .inl rfl⟩)
  case inr.inr.inr.inr.inl => exact .inr (.inr ⟨rfl, rfl, .inr ⟨"Integer", by simp, rfl⟩⟩)
  all_goals exact .inr (.inr ⟨rfl, rfl, .inr ⟨"Boolean", by simp, rfl⟩⟩)

/-- No result of a method of lists mentions an open parameter. -/
theorem list_mentions_none (hg : listClass.instanceMethods? t name = some g) (hk : k ∈ g)
    (hr : resultType ⟨listClass.typeParams, args⟩ k = some r)
    (hp : Open ⟨listClass.typeParams, args⟩ p) : ¬ r.Mentions p := by
  obtain ⟨hbound, rfl⟩ := Typing.resultType_eq_some.1 hr
  rcases list_result hg hk with hT | ⟨n, hn, hT⟩ <;> rw [hT] at hbound ⊢
  · have harg := TypeBindings.arg_of_bound (i := 0) rfl hbound
    have hlt := (List.getElem?_eq_some_iff.1 harg).1
    have hopen := hp.length_lt
    exact absurd (Nat.lt_of_le_of_lt hlt hopen) (Nat.lt_irrefl 1)
  · refine hp.not_mentions_simple ?_
    simp only [List.mem_cons, List.not_mem_nil, or_false] at hn
    rcases hn with rfl | rfl | rfl <;> rfl

/-- The results of `keySet` and `values` on a map that lacks arguments. -/
def MapLeaves (method : String) (args : List DataType) (p : String) : Prop :=
  sameName method "keySet" = true ∧
      (args = [] ∧ sameName "K" p = true ∨ ∃ x, args = [x] ∧ x.Mentions p) ∨
    sameName method "values" = true ∧ sameName "V" p = true

/-- A parameter that has the name `K` stands first, and one that has the name `V` second. -/
theorem position?_key (h : sameName "K" name = true) :
    TypeBindings.position? ⟨mapClass.typeParams, args⟩ (.simple name) = some 0 := by
  rw [← TypeBindings.position?_congr h]
  rfl

theorem position?_value (h : sameName "V" name = true) :
    TypeBindings.position? ⟨mapClass.typeParams, args⟩ (.simple name) = some 1 := by
  rw [← TypeBindings.position?_congr h]
  rfl

/-- What the keys of a map with an open parameter mention. -/
theorem keys_mention_iff (hp : Open ⟨mapClass.typeParams, args⟩ p) :
    (TypeBindings.substitute ⟨mapClass.typeParams, args⟩ (.list key)).Mentions p ↔
      args = [] ∧ sameName "K" p = true ∨ ∃ x, args = [x] ∧ x.Mentions p := by
  have short : args.length < 2 := hp.length_lt
  rw [TypeBindings.mentions_substitute hp, mentions_list, key, mentions_simple]
  constructor
  · rintro (h | ⟨q, hq, i, a, hi, ha, hm⟩)
    · have none := hp.unbound (position?_key h)
      exact .inl ⟨List.eq_nil_of_length_eq_zero (by simpa using none), h⟩
    · rw [mentions_list, mentions_simple] at hq
      cases (position?_key hq).symm.trans hi
      obtain ⟨x, rest, rfl⟩ := List.exists_cons_of_length_pos (List.getElem?_eq_some_iff.1 ha).1
      cases ha
      cases rest with
      | nil => exact .inr ⟨a, rfl, hm⟩
      | cons y rest =>
        simp only [List.length_cons] at short
        omega
  · rintro (⟨-, h⟩ | ⟨x, rfl, hm⟩)
    · exact .inl h
    · exact .inr ⟨"K", mentions_list.2 (mentions_simple.2 (sameName_self _)), 0, x, rfl, rfl, hm⟩

/-- What the values of a map with an open parameter mention. -/
theorem values_mention_iff (hp : Open ⟨mapClass.typeParams, args⟩ p) :
    (TypeBindings.substitute ⟨mapClass.typeParams, args⟩ (.list value)).Mentions p ↔
      sameName "V" p = true := by
  have short : args.length < 2 := hp.length_lt
  rw [TypeBindings.mentions_substitute hp, mentions_list, value, mentions_simple]
  constructor
  · rintro (h | ⟨q, hq, i, a, hi, ha, -⟩)
    · exact h
    · rw [mentions_list, mentions_simple] at hq
      cases (position?_value hq).symm.trans hi
      have long : 1 < args.length := (List.getElem?_eq_some_iff.1 ha).1
      omega
  · exact .inl

/-- Among the results of the methods of maps only those of `keySet` and `values` mention open
parameters. -/
theorem map_mentions_iff (hg : mapClass.instanceMethods? t name = some g) (hk : k ∈ g)
    (hr : resultType ⟨mapClass.typeParams, args⟩ k = some r)
    (hp : Open ⟨mapClass.typeParams, args⟩ p) : r.Mentions p ↔ MapLeaves name args p := by
  obtain ⟨hbound, rfl⟩ := Typing.resultType_eq_some.1 hr
  unfold MapLeaves
  rcases map_result hg hk with ⟨h₁, h₂, hT⟩ | ⟨h₁, h₂, hT⟩ | ⟨h₁, h₂, hT | ⟨n, hn, hT⟩⟩ <;>
    rw [hT] at hbound ⊢ <;> simp only [h₁, h₂, Bool.false_eq_true, false_and, or_false, false_or,
      true_and, iff_false]
  · exact keys_mention_iff hp
  · exact values_mention_iff hp
  · have harg := TypeBindings.arg_of_bound (i := 1) rfl hbound
    have hlt := (List.getElem?_eq_some_iff.1 harg).1
    have hopen := hp.length_lt
    exact absurd (Nat.lt_of_le_of_lt hlt hopen) (Nat.lt_irrefl 2)
  · refine hp.not_mentions_simple ?_
    simp only [List.mem_cons, List.not_mem_nil, or_false] at hn
    rcases hn with rfl | rfl <;> rfl

end Builtin

open Typing

/-- **Only the keys and values of maps keep open parameters.** Take registered classes, a call on a
receiver of some type, and a generic parameter of the receiver's class for which that type has no
argument. If the call has a type, the type mentions the parameter exactly in these cases: `keySet` on
a map without arguments (the parameter `K`) or on one whose only argument mentions the parameter, and
`values` on a map with less than two arguments (the parameter `V`). A call of a method whose result
is an open parameter itself has no type. -/
theorem open_parameters_of_calls {decls : List ClassDecl} {cx : CheckContext}
    (ht : cx.classes = (Registration.registerAll .initial decls).table)
    (hc : cx.classes.Has cx.cls) (role : Role) (receiver : Expr) (method : Ident)
    (args : List Expr) (span : Span) (s : CheckState) :
    (∀ τ c r p, (denote cx .receiver receiver s).1 = .value τ → cx.lookupClass? τ.name = some c →
      (denote cx role (.callOn receiver method args span) s).1 = .value r →
      TypeBindings.Open ⟨c.typeParams, τ.args⟩ p →
      (r.Mentions p ↔ c = Builtin.mapClass ∧ Builtin.MapLeaves method.name τ.args p)) ∧
    ∀ sel k, selection? cx (.callOn receiver method args span) s = some sel →
      sel.method? cx.classes = some k →
      sel.bindings.isUnbound (sel.bindings.substitute k.resultType) = true →
      (denote cx role (.callOn receiver method args span) s).1 = .unknown := by
  refine ⟨fun τ c r p hrecv hcls hr hp => ?_, fun sel k hsel hk hb => callOn_open hsel hk hb⟩
  obtain ⟨g, k, hg, hk, hres⟩ := callOn_result hrecv hcls hr
  have regular : c.Regular := by
    have hhas := has_of_lookupClass? hc hcls
    rw [ht] at hhas
    exact hhas.regular
  rcases regular.generic with hn | rfl | rfl
  · -- a class without parameters leaves none open
    have hlt := hp.length_lt
    rw [hn] at hlt
    exact absurd hlt (Nat.not_lt_zero _)
  · refine iff_of_false (Builtin.list_mentions_none hg hk hres hp) fun h => ?_
    exact absurd (congrArg ClassInfo.name h.1) (by decide)
  · rw [Builtin.map_mentions_iff hg hk hres hp]
    exact (and_iff_right rfl).symm

/-! ### A map without arguments -/

/-- `new Map()` -/
def rawMap : Expr := .create ⟨⟨"Map", .unknown⟩, [], .unknown⟩ [] .unknown

/-- In a class without members `new Map().keySet()` is a list of `K`, and nothing is reported. -/
theorem rawMap_keySet : ∃ cx : CheckContext,
    cx.classes = (Registration.registerAll .initial [emptyMain]).table ∧ cx.classes.Has cx.cls ∧
    (denote cx .receiver rawMap {}).1 = .value (.simple "Map") ∧
    cx.lookupClass? "Map" = some Builtin.mapClass ∧
    (denote cx .value (.callOn rawMap ⟨"keySet", .unknown⟩ [] .unknown) {}).1 =
      .value (.list Builtin.key) ∧
    (denote cx .value (.callOn rawMap ⟨"keySet", .unknown⟩ [] .unknown) {}).2.errors = [] := by
  obtain ⟨c, hc⟩ : ∃ c,
      (Registration.registerAll .initial [emptyMain]).table.get? "Main" = some c := ⟨_, rfl⟩
  have main : c = _ := (Option.some.inj hc).symm
  refine ⟨.ofClass _ c, rfl, .of_get? hc, ?_, ?_, ?_, ?_⟩ <;> rw [main] <;> rfl

/-- The keys of a map without arguments do not mention the parameter of the values. -/
theorem open_parameters_of_calls_rawMap : ∃ (cx : CheckContext) (r : DataType),
    (denote cx .value (.callOn rawMap ⟨"keySet", .unknown⟩ [] .unknown) {}).1 = .value r ∧
    TypeBindings.Open ⟨Builtin.mapClass.typeParams, []⟩ "V" ∧ ¬ r.Mentions "V" := by
  obtain ⟨cx, ht, hc, hrecv, hclass, hr, -⟩ := rawMap_keySet
  refine ⟨cx, _, hr, rfl, fun h => ?_⟩
  have leaves := ((open_parameters_of_calls ht hc .value rawMap ⟨"keySet", .unknown⟩ [] .unknown
    {}).1 _ _ _ "V" hrecv hclass hr rfl).1 h
  rcases leaves.2 with ⟨-, ⟨-, hK⟩ | ⟨x, hx, -⟩⟩ | ⟨hv, -⟩
  · exact absurd hK (by decide)
  · cases hx
  · exact absurd hv (by decide)

/-- **A type may keep an open parameter.** The keys of a map without arguments are a list of `K`. -/
theorem rawMap_keys_mention_parameter : ∃ (cx : CheckContext) (r : DataType),
    cx.classes = (Registration.registerAll .initial [emptyMain]).table ∧ cx.classes.Has cx.cls ∧
    (denote cx .receiver rawMap {}).1 = .value (.simple "Map") ∧
    (denote cx .value (.callOn rawMap ⟨"keySet", .unknown⟩ [] .unknown) {}).1 = .value r ∧
    (denote cx .value (.callOn rawMap ⟨"keySet", .unknown⟩ [] .unknown) {}).2.errors = [] ∧
    TypeBindings.Open ⟨Builtin.mapClass.typeParams, []⟩ "K" ∧ r.Mentions "K" := by
  obtain ⟨cx, ht, hc, hrecv, -, hr, herrors⟩ := rawMap_keySet
  exact ⟨cx, _, ht, hc, hrecv, hr, herrors, rfl, .arg List.mem_cons_self (.self (by decide))⟩

end ClassScript
