import ClassScript.Proofs.Class.Lookup
import ClassScript.Proofs.Typing.SameType
import ClassScript.Typing.Overload

/-!
# Which overload is chosen

`Overload.chosen` is the method of a resolution, and `Overload.chosen_eq` its rule in one line. The
choice does not see how the argument types are spelled (`Overload.chosen_congr`), nor the bindings
of a class without generic parameters (`Overload.chosen_bindings`). With an argument of type `null`
nothing is equal any more, and the first candidate that accepts the other arguments is chosen
(`Overload.chosen_null`).
-/

namespace ClassScript

/-! ## Spelling of types -/

namespace DataType

variable {a b : DataType}

theorem beq_congr_left (h : (a == b) = true) (c : DataType) : (a == c) = (b == c) := by
  rw [Bool.eq_iff_iff]
  exact ⟨beq_trans (beq_symm h), beq_trans h⟩

theorem isEmpty_args_congr (h : (a == b) = true) : a.args.isEmpty = b.args.isEmpty := by
  have hargs := (beq_iff.1 h).2
  generalize a.args = as, b.args = bs at hargs
  cases as <;> cases bs <;> first | rfl | cases hargs

/-- Where a value may go does not depend on the spelling of its type. -/
theorem isAssignable_congr (t : ClassTable) (h : (a == b) = true) (target : DataType) :
    a.isAssignable t target = b.isAssignable t target := by
  unfold isAssignable fitsExactly isNull
  rw [isNamed_congr h, beq_congr_left h, isEmpty_args_congr h, t.resolve?_congr (beq_iff.1 h).1]

end DataType

/-! ## Bindings without parameters -/

namespace TypeBindings

variable {b : TypeBindings}

theorem position?_of_no_params (h : b.params = []) (t : DataType) : b.position? t = Option.none := by
  unfold position?
  rw [h]
  split <;> rfl

theorem isUnbound_of_no_params (h : b.params = []) (t : DataType) : b.isUnbound t = false := by
  unfold isUnbound
  rw [position?_of_no_params h]

mutual

theorem substitute_of_no_params (h : b.params = []) : ∀ t : DataType, b.substitute t = t
  | ⟨name, args⟩ => by
    rw [substitute, position?_of_no_params h, substituteAll_of_no_params h args]

theorem substituteAll_of_no_params (h : b.params = []) :
    ∀ ts : List DataType, b.substituteAll ts = ts
  | [] => by rw [substituteAll]
  | t :: ts => by
    rw [substituteAll, substitute_of_no_params h t, substituteAll_of_no_params h ts]

end

end TypeBindings

namespace Overload

variable {t : ClassTable} {b b' : TypeBindings} {group : List MethodInfo}
  {args args' : List (Option DataType)}

/-- The chosen method. -/
def chosen (t : ClassTable) (b : TypeBindings) (group : List MethodInfo)
    (args : List (Option DataType)) : Option MethodInfo :=
  (resolve t b group args).map OverloadMatch.method

/-- The candidates with this many parameters. -/
def ofArity (group : List MethodInfo) (n : Nat) : List MethodInfo := group.filter (·.arity = n)

/-- The first candidate that accepts the arguments, or else the first with as many parameters. -/
def firstAccepting (t : ClassTable) (b : TypeBindings) (group : List MethodInfo)
    (args : List (Option DataType)) : Option MethodInfo :=
  ((ofArity group args.length).find? fun m => allArguments (argumentMatches t b) m args).or
    (ofArity group args.length).head?

/-- The rule of the choice: equal types first. -/
theorem chosen_eq (t : ClassTable) (b : TypeBindings) (group : List MethodInfo)
    (args : List (Option DataType)) : chosen t b group args =
      (((ofArity group args.length).find? fun m => allArguments (argumentEquals b) m args).or
        (firstAccepting t b group args)).or group.head? := by
  unfold chosen resolve firstAccepting ofArity
  cases group with
  | nil => rfl
  | cons first rest =>
    dsimp only
    generalize (first :: rest).filter (fun m => decide (m.arity = args.length)) = same
    cases same.find? fun m => allArguments (argumentEquals b) m args with
    | some m => rfl
    | none =>
      cases same.find? fun m => allArguments (argumentMatches t b) m args with
      | some m => rfl
      | none => cases same <;> rfl

theorem firstAccepting_mem {k : MethodInfo} (h : firstAccepting t b group args = some k) :
    k ∈ ofArity group args.length := by
  rcases Option.or_eq_some_iff.1 h with h | ⟨-, h⟩
  · exact List.mem_of_find?_eq_some h
  · exact List.mem_of_mem_head? h

theorem chosen_mem {k : MethodInfo} (h : chosen t b group args = some k) : k ∈ group := by
  rw [chosen_eq, Option.or_eq_some_iff, Option.or_eq_some_iff] at h
  rcases h with (h | ⟨-, h⟩) | ⟨-, h⟩
  · exact List.mem_of_mem_filter (List.mem_of_find?_eq_some h)
  · exact List.mem_of_mem_filter (firstAccepting_mem h)
  · exact List.mem_of_mem_head? h

theorem chosen_eq_none (h : chosen t b group args = none) : group = [] := by
  rw [chosen_eq, Option.or_eq_none_iff] at h
  exact List.head?_eq_none_iff.1 h.2

/-- Some method is chosen, whatever the arguments, if there is a candidate. -/
theorem chosen_both (t : ClassTable) (b : TypeBindings) (group : List MethodInfo)
    (args args' : List (Option DataType)) :
    group = [] ∨ ∃ k k', chosen t b group args = some k ∧ chosen t b group args' = some k' := by
  cases hk : chosen t b group args with
  | none => exact .inl (chosen_eq_none hk)
  | some k =>
    cases hk' : chosen t b group args' with
    | none => exact .inl (chosen_eq_none hk')
    | some k' => exact .inr ⟨k, k', rfl, rfl⟩

/-- The choice is among the candidates with as many parameters as arguments, if there are any. -/
theorem chosen_arity {k m : MethodInfo} (h : chosen t b group args = some k) (hm : m ∈ group)
    (ha : m.arity = args.length) : k.arity = args.length := by
  have hmem : m ∈ ofArity group args.length := List.mem_filter.2 ⟨hm, decide_eq_true ha⟩
  have arity : k ∈ ofArity group args.length → k.arity = args.length := fun hk =>
    of_decide_eq_true (List.mem_filter.1 hk).2
  rw [chosen_eq, Option.or_eq_some_iff, Option.or_eq_some_iff] at h
  rcases h with (h | ⟨-, h⟩) | ⟨h, -⟩
  · exact arity (List.mem_of_find?_eq_some h)
  · exact arity (firstAccepting_mem h)
  · -- a candidate of the right number is accepted, if no other is
    rw [Option.or_eq_none_iff, firstAccepting, Option.or_eq_none_iff] at h
    rw [List.head?_eq_none_iff.1 h.2.2] at hmem
    cases hmem

/-- Only a fallback has another number of parameters. -/
theorem resolve_arity {found : OverloadMatch} (h : resolve t b group args = some found)
    (hf : found.isFallback = false) :
    found.method.arity = args.length := by
  unfold resolve at h
  split at h
  · cases h
  · dsimp only at h
    split at h
    · rename_i k hk
      cases h
      exact of_decide_eq_true (List.mem_filter.1 (List.mem_of_find?_eq_some hk)).2
    · split at h
      · rename_i k hk
        cases h
        exact of_decide_eq_true (List.mem_filter.1 (List.mem_of_find?_eq_some hk)).2
      · cases h
        cases hf

/-! ## Spelling and bindings -/

/-- Two known argument types, the same up to spelling. -/
def SameArgument (a a' : Option DataType) : Prop :=
  ∃ d d', a = some d ∧ a' = some d' ∧ (d == d') = true

theorem SameArgument.equals {a a' : Option DataType} (h : SameArgument a a') (b : TypeBindings)
    (p : DataType) : argumentEquals b p a = argumentEquals b p a' := by
  obtain ⟨d, d', rfl, rfl, hd⟩ := h
  simp only [argumentEquals, DataType.beq_congr_left hd]

theorem SameArgument.matches {a a' : Option DataType} (h : SameArgument a a') (t : ClassTable)
    (b : TypeBindings) (p : DataType) : argumentMatches t b p a = argumentMatches t b p a' := by
  obtain ⟨d, d', rfl, rfl, hd⟩ := h
  simp only [argumentMatches, DataType.isAssignable_congr t hd]

/-- Arguments that a relation takes for each other do so in every method. -/
theorem allArguments_congr {rel : DataType → Option DataType → Bool}
    {R : Option DataType → Option DataType → Prop} (hrel : ∀ p {a a'}, R a a' → rel p a = rel p a')
    (m : MethodInfo) (h : List.Forall₂ R args args') :
    allArguments rel m args = allArguments rel m args' := by
  unfold allArguments
  generalize m.paramTypes = ps
  induction h generalizing ps with
  | nil => rfl
  | cons ha _ ih =>
    cases ps with
    | nil => rfl
    | cons p ps =>
      simp only [List.zip_cons_cons, List.all_cons]
      rw [hrel p ha, ih]

/-- The choice does not see the spelling of argument types. -/
theorem chosen_congr (h : List.Forall₂ SameArgument args args') :
    chosen t b group args = chosen t b group args' := by
  rw [chosen_eq, chosen_eq]
  unfold firstAccepting
  rw [h.length_eq]
  simp only [fun m => allArguments_congr (fun p {a a'} (h : SameArgument a a') => h.equals b p) m h,
    fun m => allArguments_congr (fun p {a a'} (h : SameArgument a a') => h.matches t b p) m h]

/-- A group that bindings do not matter for: they have no parameters, or there is no choice. -/
def Plain (b : TypeBindings) (group : List MethodInfo) : Prop := b.params = [] ∨ group.length ≤ 1

theorem argumentEquals_of_no_params (h : b.params = []) (p : DataType) (a : Option DataType) :
    argumentEquals b p a = argumentEquals .none p a := by
  cases a with
  | none => rfl
  | some d =>
    simp only [argumentEquals, TypeBindings.substitute_of_no_params h,
      TypeBindings.isUnbound_of_no_params h,
      TypeBindings.substitute_of_no_params (b := TypeBindings.none) rfl,
      TypeBindings.isUnbound_of_no_params (b := TypeBindings.none) rfl]

theorem argumentMatches_of_no_params (t : ClassTable) (h : b.params = []) (p : DataType)
    (a : Option DataType) : argumentMatches t b p a = argumentMatches t .none p a := by
  cases a with
  | none => rfl
  | some d =>
    simp only [argumentMatches, TypeBindings.substitute_of_no_params h,
      TypeBindings.isUnbound_of_no_params h,
      TypeBindings.substitute_of_no_params (b := TypeBindings.none) rfl,
      TypeBindings.isUnbound_of_no_params (b := TypeBindings.none) rfl]

theorem chosen_of_no_params (h : b.params = []) :
    chosen t b group args = chosen t .none group args := by
  rw [chosen_eq, chosen_eq]
  unfold firstAccepting
  rw [show argumentEquals b = argumentEquals .none from
      funext fun p => funext (argumentEquals_of_no_params h p),
    show argumentMatches t b = argumentMatches t .none from
      funext fun p => funext (argumentMatches_of_no_params t h p)]

/-- Without a choice the only candidate is chosen. -/
theorem chosen_of_length_le_one (h : group.length ≤ 1) : chosen t b group args = group.head? := by
  rcases group with _ | ⟨k, _ | ⟨k', rest⟩⟩
  · rfl
  · cases hk : chosen t b [k] args with
    | none => cases chosen_eq_none hk
    | some k' => rw [List.mem_singleton.1 (chosen_mem hk)]; rfl
  · simp at h

/-- Bindings do not matter for a plain group. -/
theorem chosen_bindings (h : Plain b group) (h' : Plain b' group) :
    chosen t b group args = chosen t b' group args := by
  rcases h with h | h
  · rcases h' with h' | h'
    · rw [chosen_of_no_params h, chosen_of_no_params h']
    · rw [chosen_of_length_le_one h', chosen_of_length_le_one h']
  · rw [chosen_of_length_le_one h, chosen_of_length_le_one h]

/-! ## Arguments of type `null` -/

/-- The argument types without those that are `null`, which any parameter accepts. -/
def withoutNull (args : List (Option DataType)) : List (Option DataType) :=
  args.map fun a => a.filter fun d => !d.isNull

theorem argumentMatches_withoutNull (t : ClassTable) (b : TypeBindings) (p : DataType)
    (a : Option DataType) :
    argumentMatches t b p (a.filter fun d => !d.isNull) = argumentMatches t b p a := by
  cases a with
  | none => rfl
  | some d =>
    cases hd : d.isNull <;>
      simp [Option.filter, hd, argumentMatches, DataType.isAssignable, DataType.fitsExactly]

theorem firstAccepting_withoutNull :
    firstAccepting t b group (withoutNull args) = firstAccepting t b group args := by
  have same : ∀ m, allArguments (argumentMatches t b) m (withoutNull args) =
      allArguments (argumentMatches t b) m args := by
    intro m
    refine allArguments_congr (R := fun a a' => a = a'.filter fun d => !d.isNull) ?_ m ?_
    · rintro p a a' rfl
      exact argumentMatches_withoutNull t b p a'
    · unfold withoutNull
      rw [List.forall₂_map_left_iff]
      exact List.forall₂_same.2 fun _ _ => rfl
  unfold firstAccepting
  rw [show (withoutNull args).length = args.length from List.length_map _]
  simp only [same]


/-- No parameter is equal to `null` unless it is written so. -/
theorem not_equals_null {k : MethodInfo} (hb : b.params = []) (hn : some .null ∈ args)
    (hk : k.arity = args.length) (hp : ∀ p ∈ k.paramTypes, p.isNull = false) :
    allArguments (argumentEquals b) k args = false := by
  have hlen : k.paramTypes.length = args.length := by
    rw [← hk]
    simp [MethodInfo.paramTypes, MethodInfo.arity]
  rw [← List.map_snd_zip (Nat.le_of_eq hlen.symm), List.mem_map] at hn
  obtain ⟨⟨p, a⟩, hmem, rfl⟩ := hn
  have hpn := hp p (List.of_mem_zip hmem).1
  refine Bool.eq_false_iff.2 fun hall => ?_
  have heq := List.all_eq_true.1 hall _ hmem
  simp only [argumentEquals, TypeBindings.isUnbound_of_no_params hb, Bool.false_or,
    TypeBindings.substitute_of_no_params hb] at heq
  have hnull : p.isNull = DataType.null.isNull := (DataType.isNamed_congr heq "null").symm
  rw [hpn] at hnull
  revert hnull
  decide +kernel

/-- With an argument of type `null` the first candidate that accepts the others is chosen. -/
theorem chosen_null (hb : Plain b group) (hn : some .null ∈ args)
    (hp : ∀ k ∈ group, ∀ p ∈ k.paramTypes, p.isNull = false)
    (harity : ∃ k ∈ group, k.arity = args.length) :
    chosen t b group args = firstAccepting t b group (withoutNull args) := by
  rw [firstAccepting_withoutNull]
  obtain ⟨k, hk, ha⟩ := harity
  have hsame : k ∈ ofArity group args.length := List.mem_filter.2 ⟨hk, by simp [ha]⟩
  obtain ⟨first, hfirst⟩ : ∃ first, firstAccepting t b group args = some first := by
    unfold firstAccepting
    rw [← Option.isSome_iff_exists, Option.isSome_or, Bool.or_eq_true]
    exact .inr (List.isSome_head?.2 (List.ne_nil_of_mem hsame))
  rcases hb with hb | hb
  · have hex : (ofArity group args.length).find?
        (fun m => allArguments (argumentEquals b) m args) = none := by
      rw [List.find?_eq_none]
      intro m hm
      obtain ⟨hg, hma⟩ := List.mem_filter.1 hm
      rw [not_equals_null hb hn (of_decide_eq_true hma) (hp m hg)]
      exact Bool.false_ne_true
    rw [chosen_eq, hex, hfirst]
    rfl
  · have hmem := List.mem_of_mem_filter (firstAccepting_mem hfirst)
    rw [chosen_of_length_le_one hb, hfirst]
    rcases group with _ | ⟨k', _ | ⟨k'', rest⟩⟩
    · cases hk
    · rw [List.mem_singleton.1 hmem]
      rfl
    · simp at hb

end Overload

end ClassScript
