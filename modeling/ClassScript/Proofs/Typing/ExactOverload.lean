import ClassScript.Proofs.Registration.Origin
import ClassScript.Proofs.Typing.OverloadChoice
import Mathlib.Data.List.Pairwise

/-!
# Overloads with equal types

`MethodInfo.Takes` and `MethodInfo.Accepts` say of a candidate and known argument types what the
first two tiers of overload resolution ask for, without bindings; `Overload.resolve_tier` is the
rule of resolution in these words. Registration leaves no two overloads with the same parameter
types beside each other (`Overload.Distinct`), and equality of types is an equivalence, so at most
one candidate takes given types.

Main statement: `exact_overload_unique`.
-/

namespace ClassScript

/-! ## What the tiers ask for -/

namespace MethodInfo

/-- Every parameter type equals its argument type. -/
def Takes (m : MethodInfo) (args : List DataType) : Prop :=
  List.Forall₂ (fun p a => (p == a) = true) m.paramTypes args

/-- Every parameter accepts its argument. -/
def Accepts (t : ClassTable) (m : MethodInfo) (args : List DataType) : Prop :=
  List.Forall₂ (fun p a => a.isAssignable t p = true) m.paramTypes args

variable {t : ClassTable} {m n : MethodInfo} {args : List DataType}

theorem length_paramTypes (m : MethodInfo) : m.paramTypes.length = m.arity := by
  simp [paramTypes, arity]

theorem Takes.accepts (h : m.Takes args) : m.Accepts t args := by
  refine List.Forall₂.imp (fun p a hpa => ?_) h
  have hfits : a.fitsExactly p = true := by
    rw [DataType.fitsExactly, DataType.beq_symm hpa, Bool.or_true]
  rw [DataType.isAssignable, hfits, Bool.true_or, if_pos rfl]

theorem Accepts.arity (h : m.Accepts t args) : m.arity = args.length := by
  rw [← m.length_paramTypes]
  exact List.Forall₂.length_eq h

/-- Two candidates that take the same types have the same parameter types. -/
theorem Takes.sameSignature (hm : m.Takes args) (hn : n.Takes args) :
    m.sameSignature n = true := by
  have hm := DataType.sameAll_iff.2 hm
  have hn := DataType.sameAll_iff.2 hn
  rw [DataType.sameAll_comm] at hn
  exact DataType.sameAll_trans hm hn

end MethodInfo

namespace Overload

open MethodInfo (Takes Accepts)

variable {t : ClassTable} {group : List MethodInfo} {args : List DataType} {found : OverloadMatch}

/-- A relation on known types holds at every position, and there are as many parameters as
arguments. -/
theorem allArguments_iff {rel : DataType → Option DataType → Bool} (m : MethodInfo) :
    (m.arity = args.length ∧ allArguments rel m (args.map some) = true) ↔
      List.Forall₂ (fun p a => rel p (some a) = true) m.paramTypes args := by
  rw [← m.length_paramTypes, List.forall₂_iff_zip, allArguments, List.zip_map_right, List.all_map,
    List.all_eq_true]
  refine and_congr_right fun _ => ?_
  exact ⟨fun h _ _ hmem => h _ hmem, fun h x hmem => h hmem⟩

theorem takes_iff (m : MethodInfo) : (m.arity = args.length ∧
    allArguments (argumentEquals .none) m (args.map some) = true) ↔ m.Takes args := by
  have equals : ∀ p a, argumentEquals .none p (some a) = (p == a) := fun p a => by
    rw [argumentEquals, TypeBindings.substitute_of_no_params (b := .none) rfl,
      TypeBindings.isUnbound_of_no_params (b := .none) rfl, Bool.false_or]
    exact DataType.same_comm a p
  rw [allArguments_iff]
  simp only [equals]
  rfl

theorem accepts_iff (m : MethodInfo) : (m.arity = args.length ∧
    allArguments (argumentMatches t .none) m (args.map some) = true) ↔ m.Accepts t args := by
  have accepts : ∀ p a, argumentMatches t .none p (some a) = a.isAssignable t p := fun p a => by
    rw [argumentMatches, TypeBindings.substitute_of_no_params (b := .none) rfl,
      TypeBindings.isUnbound_of_no_params (b := .none) rfl, Bool.false_or]
  rw [allArguments_iff]
  simp only [accepts]
  rfl

/-- What a resolution without bindings says of the method it selects. -/
def Tier (t : ClassTable) (group : List MethodInfo) (args : List DataType) (m : MethodInfo) :
    MatchKind → Prop
  | .exact => m.Takes args
  | .compatible => (∀ n ∈ group, ¬ n.Takes args) ∧ m.Accepts t args
  | .fallback => (∀ n ∈ group, ¬ n.Accepts t args) ∧
      (m.arity = args.length ∨ ∀ n ∈ group, n.arity ≠ args.length)

/-- The rule of resolution (module doc). -/
theorem resolve_tier (h : resolve t .none group (args.map some) = some found) :
    found.method ∈ group ∧ Tier t group args found.method found.kind := by
  unfold resolve at h
  rw [List.length_map] at h
  split at h
  · cases h
  rename_i first rest
  dsimp only at h
  have same : ∀ {m}, m ∈ (first :: rest).filter (fun m => decide (m.arity = args.length)) ↔
      m ∈ first :: rest ∧ m.arity = args.length := by simp [List.mem_filter]
  -- what a search among the candidates with the right number of parameters says of the group
  have hit : ∀ {p : MethodInfo → Bool} {m}, ((first :: rest).filter fun m =>
      decide (m.arity = args.length)).find? p = some m →
      m ∈ first :: rest ∧ m.arity = args.length ∧ p m = true := fun hm =>
    have hmem := same.1 (List.mem_of_find?_eq_some hm)
    ⟨hmem.1, hmem.2, List.find?_some hm⟩
  have missed : ∀ {p : MethodInfo → Bool}, ((first :: rest).filter fun m =>
      decide (m.arity = args.length)).find? p = none →
      ∀ n ∈ first :: rest, ¬ (n.arity = args.length ∧ p n = true) := fun hnone n hn hp =>
    List.find?_eq_none.1 hnone n (same.2 ⟨hn, hp.1⟩) hp.2
  split at h
  · rename_i m hm
    cases h
    exact ⟨(hit hm).1, (takes_iff m).1 (hit hm).2⟩
  rename_i hexact
  split at h
  · rename_i m hm
    cases h
    exact ⟨(hit hm).1, fun n hn hk => missed hexact n hn ((takes_iff n).2 hk),
      (accepts_iff m).1 (hit hm).2⟩
  · rename_i hcompatible
    cases h
    have none : ∀ n ∈ first :: rest, ¬ n.Accepts t args := fun n hn hk =>
      missed hcompatible n hn ((accepts_iff n).2 hk)
    cases hs : (first :: rest).filter (fun m => decide (m.arity = args.length)) with
    | nil =>
      refine ⟨List.mem_cons_self, none, .inr fun n hn harity => ?_⟩
      have hmem := same.2 ⟨hn, harity⟩
      rw [hs] at hmem
      cases hmem
    | cons m ms =>
      obtain ⟨hmem, harity⟩ := same.1 (hs ▸ List.mem_cons_self)
      exact ⟨hmem, none, .inl harity⟩

theorem Tier.exact_iff {m : MethodInfo} {kind : MatchKind} (hm : m ∈ group)
    (h : Tier t group args m kind) : kind = .exact ↔ ∃ n ∈ group, n.Takes args := by
  refine ⟨fun hk => ⟨m, hm, by subst hk; exact h⟩, ?_⟩
  rintro ⟨n, hn, tn⟩
  cases kind with
  | exact => rfl
  | compatible => exact absurd tn (h.1 n hn)
  | fallback => exact absurd tn.accepts (h.1 n hn)

theorem Tier.compatible_iff {m : MethodInfo} {kind : MatchKind} (hm : m ∈ group)
    (h : Tier t group args m kind) : kind = .compatible ↔
      (∀ n ∈ group, ¬ n.Takes args) ∧ ∃ n ∈ group, n.Accepts t args := by
  refine ⟨fun hk => by subst hk; exact ⟨h.1, m, hm, h.2⟩, ?_⟩
  rintro ⟨none, n, hn, an⟩
  cases kind with
  | exact => exact absurd h (none m hm)
  | compatible => rfl
  | fallback => exact absurd an (h.1 n hn)

theorem Tier.fallback_iff {m : MethodInfo} {kind : MatchKind} (hm : m ∈ group)
    (h : Tier t group args m kind) : kind = .fallback ↔ ∀ n ∈ group, ¬ n.Accepts t args := by
  refine ⟨fun hk => by subst hk; exact h.1, fun none => ?_⟩
  cases kind with
  | exact => exact absurd (MethodInfo.Takes.accepts h) (none m hm)
  | compatible => exact absurd h.2 (none m hm)
  | fallback => rfl

/-- The selected method has the right number of parameters, if any candidate has. -/
theorem Tier.arity {m n : MethodInfo} {kind : MatchKind} (h : Tier t group args m kind)
    (hn : n ∈ group) (harity : n.arity = args.length) : m.arity = args.length := by
  cases kind with
  | exact => exact (MethodInfo.Takes.accepts (t := t) h).arity
  | compatible => exact h.2.arity
  | fallback => exact h.2.resolve_right fun none => none n hn harity

theorem resolve_isSome (t : ClassTable) (b : TypeBindings) (h : group ≠ [])
    (args : List (Option DataType)) : ∃ found, resolve t b group args = some found := by
  cases hr : resolve t b group args with
  | some found => exact ⟨found, rfl⟩
  | none => exact absurd (chosen_eq_none (congrArg (Option.map OverloadMatch.method) hr)) h

/-! ## Groups of a registered class -/

/-- No two candidates have the same parameter types. -/
def Distinct (group : List MethodInfo) : Prop :=
  group.Pairwise fun m n => m.sameSignature n = false

theorem Distinct.takes (h : Distinct group) (args : List DataType) :
    group.Pairwise fun m n => ¬ (m.Takes args ∧ n.Takes args) := by
  refine h.imp fun hne ⟨hm, hn⟩ => ?_
  rw [hm.sameSignature hn] at hne
  cases hne

theorem Distinct.unique (h : Distinct group) {m n : MethodInfo} (hm : m ∈ group) (hn : n ∈ group)
    (tm : m.Takes args) (tn : n.Takes args) : m = n := by
  have symm : Std.Symm fun m n : MethodInfo => ¬ (m.Takes args ∧ n.Takes args) :=
    ⟨fun _ _ hne => fun hboth => hne hboth.symm⟩
  exact Classical.byContradiction fun hne => (h.takes args).forall hm hn hne ⟨tm, tn⟩

/-- Methods that do not clash are distinct under each name. -/
theorem distinct_of_apart {decls : List MethodDecl} (h : decls.Pairwise fun m n => ¬ m.Clashes n)
    (p : MethodDecl → Bool) (name : String) :
    Distinct (((decls.filter p).map MethodDecl.info).filter fun m => sameName m.name name) := by
  unfold Distinct
  rw [List.filter_map, List.pairwise_map, List.filter_filter]
  refine (h.filter _).imp_of_mem fun {m n} hm hn hapart => ?_
  have named : ∀ {k}, k ∈ decls.filter (fun d =>
      ((fun m => sameName m.name name) ∘ MethodDecl.info) d && p d) →
      sameName k.name.name name = true := fun hk => by
    have := (List.mem_filter.1 hk).2
    rw [Bool.and_eq_true] at this
    exact this.1
  refine Bool.eq_false_iff.2 fun hs => hapart ⟨?_, (m.sameSignature_info n).1 hs⟩
  exact sameName_trans (named hm) (sameName_symm (named hn))

end Overload

/-- The overload group: the instance methods of a name, the static ones, or the constructors. -/
inductive ClassInfo.HasGroup (c : ClassInfo) : List MethodInfo → Prop
  | instances {name : String} {group : List MethodInfo} :
      c.instanceMethods.get? name = some group → c.HasGroup group
  | statics {name : String} {group : List MethodInfo} :
      c.staticMethods.get? name = some group → c.HasGroup group
  | constructors : c.HasGroup c.constructors

/-- The overloads of a registered class differ in their parameter types. -/
theorem ClassDecl.Describes.distinct {outer : List String} {decl : ClassDecl} {c : ClassInfo}
    (hw : decl.WellFormed) (h : decl.Describes outer c) {group : List MethodInfo}
    (hg : c.HasGroup group) : Overload.Distinct group := by
  have own := h.own
  cases hw with
  | intro orderly _ _ =>
    cases hg with
    | @instances name _ hget =>
      have hgroup := own.instanceMethods.group name
      rw [hget, Option.getD_some] at hgroup
      exact hgroup ▸ Overload.distinct_of_apart orderly.methods _ name
    | @statics name _ hget =>
      have hgroup := own.staticMethods.group name
      rw [hget, Option.getD_some] at hgroup
      exact hgroup ▸ Overload.distinct_of_apart orderly.methods _ name
    | constructors =>
      rw [own.constructors]
      unfold Overload.Distinct
      rw [List.pairwise_map]
      refine orderly.constructors.imp fun {m n} hne => Bool.eq_false_iff.2 fun hs => ?_
      exact hne ((m.sameSignature_info n).1 hs)

open Overload in
/-- **The overload with equal types is unique, and does not depend on the order.** Take a group of
overloads of a registered class, any class table and any known argument types, without bindings. No
two candidates take the types, and a candidate that takes them accepts them. Resolution is exact if
and only if a candidate takes the types, compatible if and only if none takes but one accepts them,
and otherwise a fallback, with the right number of parameters if any candidate has it. An exact
resolution is the same for every order of the group. -/
theorem exact_overload_unique {outer : List String} {decl : ClassDecl} {log log' : Log}
    {c : ClassInfo} (hr : Registration.register outer decl log = .ok c log')
    {group : List MethodInfo} (hg : c.HasGroup group) (hne : group ≠ []) (t : ClassTable)
    (args : List DataType) :
    group.Pairwise (fun m n => ¬ (m.Takes args ∧ n.Takes args)) ∧
    (∀ m ∈ group, m.Takes args → m.Accepts t args) ∧
    ∃ found, resolve t .none group (args.map some) = some found ∧ found.method ∈ group ∧
      (found.kind = .exact ↔ ∃ m ∈ group, m.Takes args) ∧
      (found.kind = .compatible ↔
        (∀ m ∈ group, ¬ m.Takes args) ∧ ∃ m ∈ group, m.Accepts t args) ∧
      (found.kind = .fallback ↔ ∀ m ∈ group, ¬ m.Accepts t args) ∧
      ((∃ m ∈ group, m.arity = args.length) → found.method.arity = args.length) ∧
      Tier t group args found.method found.kind ∧
      (found.kind = .exact → ∀ group', group'.Perm group →
        resolve t .none group' (args.map some) = some found) := by
  have spec := Registration.register_spec outer decl log
  rw [hr] at spec
  have distinct := spec.2.distinct spec.1 hg
  obtain ⟨found, hfound⟩ := resolve_isSome t .none hne (args.map some)
  obtain ⟨hmem, tier⟩ := resolve_tier hfound
  refine ⟨distinct.takes args, fun m _ hm => hm.accepts, found, hfound, hmem, tier.exact_iff hmem,
    tier.compatible_iff hmem, tier.fallback_iff hmem, ?_, tier, fun hexact group' hperm => ?_⟩
  · rintro ⟨m, hm, harity⟩
    exact tier.arity hm harity
  · obtain ⟨found', hfound'⟩ := resolve_isSome t .none
      (fun hnil => hne (List.nil_perm.1 (hnil ▸ hperm))) (args.map some)
    obtain ⟨hmem', tier'⟩ := resolve_tier hfound'
    -- in the other order the resolution is exact too, and two exact matches are the same method
    have takes : found.method.Takes args := by rw [hexact] at tier; exact tier
    have hexact' := (tier'.exact_iff hmem').2 ⟨_, hperm.mem_iff.2 hmem, takes⟩
    have takes' : found'.method.Takes args := by rw [hexact'] at tier'; exact tier'
    have same := distinct.unique (hperm.mem_iff.1 hmem') hmem takes' takes
    obtain ⟨method, kind⟩ := found
    obtain ⟨method', kind'⟩ := found'
    cases hexact
    cases hexact'
    cases same
    exact hfound'

/-- A class whose first overload takes everything and whose second takes integers. -/
def wideAndNarrow : ClassDecl :=
  let ref (name : String) : TypeRef := ⟨⟨name, .unknown⟩, [], .unknown⟩
  let overload (type : String) : Member ClassDecl :=
    .method ⟨.pub, none, ⟨"put", .unknown⟩, [⟨ref type, ⟨"x", .unknown⟩, .unknown⟩], some [], .unknown⟩
  ⟨.none, [], ⟨"Sink", .unknown⟩, none, [], [overload "Object", overload "integer"], .unknown⟩

/-- An integer is put by the second overload, also if that is declared first. -/
theorem exact_overload_unique_narrow : ∃ c log wide narrow,
    Registration.register [] wideAndNarrow #[] = .ok c log ∧
    c.HasGroup [wide, narrow] ∧ [wide, narrow] ≠ [] ∧
    Overload.resolve .initial .none [wide, narrow] [some .integer] = some ⟨narrow, .exact⟩ ∧
    Overload.resolve .initial .none [narrow, wide] [some .integer] = some ⟨narrow, .exact⟩ := by
  obtain ⟨c, log, wide, narrow, hr, hg, hnarrow⟩ : ∃ c log wide narrow,
      Registration.register [] wideAndNarrow #[] = .ok c log ∧
      c.instanceMethods.get? "PUT" = some [wide, narrow] ∧
      Overload.resolve .initial .none [wide, narrow] [some .integer] = some ⟨narrow, .exact⟩ :=
    ⟨_, _, _, _, rfl, rfl, rfl⟩
  have hne : [wide, narrow] ≠ [] := List.cons_ne_nil _ _
  obtain ⟨-, -, found, hfound, -, -, -, -, -, -, any_order⟩ :=
    exact_overload_unique hr (.instances hg) hne .initial [.integer]
  obtain rfl := Option.some.inj (hnarrow.symm.trans hfound)
  exact ⟨c, log, wide, narrow, hr, .instances hg, hne, hnarrow,
    any_order rfl [narrow, wide] (.swap wide narrow [])⟩

end ClassScript
