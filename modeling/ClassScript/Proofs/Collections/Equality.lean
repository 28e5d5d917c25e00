import ClassScript.Proofs.Memory.KeyedMaps

/-!
# Equality is reflexive and symmetric

Whether two maps are equal is decided from the keys of the one, but with entries in order it says
that both have the same keys at the same positions, with related values (`Heap.allEntries_iff`), as
it does of lists and their items (`Heap.allPairs_iff`). Said so it goes both ways, at every depth
that collections are looked into (`Heap.equalsUpTo_comm`).

Main statement: `equality_refl_symm`.
-/

namespace ClassScript

theorem Double.equals_comm (x y : Double) : x.equals y = y.equals x := by
  have swap : x.compare? y = some .eq ↔ y.compare? x = some .eq := by
    unfold compare?
    rw [Bool.or_comm x.isNaN]
    split
    · rfl
    · simp only [Option.some.injEq, Std.compare_eq_iff_eq]
      exact eq_comm
  exact decide_eq_decide.2 swap

namespace Heap

variable {rel : Value → Value → Bool}

/-! ## Collections -/

theorem allPairs_iff : ∀ {as bs : List Value},
    allPairs rel as bs = true ↔ List.Forall₂ (fun a b => rel a b = true) as bs
  | [], [] => by simp [allPairs]
  | [], _ :: _ | _ :: _, [] => by simp [allPairs]
  | a :: as, b :: bs => by
    rw [List.forall₂_cons, ← allPairs_iff]
    exact Bool.and_eq_true_iff

theorem allEntries_iff {xs ys : List MapEntry} (hx : MapEntries.Sorted xs)
    (hy : MapEntries.Sorted ys) : allEntries rel xs ys = true ↔
      List.Forall₂ (fun x y => y.key.cmp x.key = .eq ∧ rel x.value y.value = true) xs ys := by
  unfold allEntries
  rw [Bool.and_eq_true, decide_eq_true_iff, List.all_eq_true]
  constructor
  · rintro ⟨length, all⟩
    have found : ∀ x ∈ xs, ∃ y ∈ ys, y.key.cmp x.key = .eq := by
      intro x hmem
      have hv := all x hmem
      cases hf : MapEntries.find? ys x.key with
      | none => simp [MapEntries.get?, hf] at hv
      | some y => exact ⟨y, MapEntries.mem_of_find?_eq hf⟩
    have keys := hx.forall₂_keys hy length.ge found
    rw [List.forall₂_iff_zip] at keys ⊢
    refine ⟨length, fun {x y} hxy => ?_⟩
    have key := keys.2 hxy
    obtain ⟨hmemx, hmemy⟩ := List.of_mem_zip hxy
    have hv := all x hmemx
    rw [MapEntries.get?, hy.find?_eq hmemy key] at hv
    exact ⟨key, hv⟩
  · intro same
    refine ⟨same.length_eq, fun x hmem => ?_⟩
    obtain ⟨y, hmemy, key, hv⟩ := exists_of_forall₂ same hmem
    rw [MapEntries.get?, hy.find?_eq hmemy key]
    exact hv

section

variable (comm : ∀ a b, rel a b = rel b a)
include comm

theorem allPairs_comm (as bs : List Value) : allPairs rel as bs = allPairs rel bs as := by
  have swap : ∀ {as bs : List Value}, List.Forall₂ (fun a b => rel a b = true) as bs →
      List.Forall₂ (fun a b => rel a b = true) bs as := fun h =>
    h.flip.imp fun a b hab => (comm a b).trans hab
  rw [Bool.eq_iff_iff, allPairs_iff, allPairs_iff]
  exact ⟨swap, swap⟩

theorem allEntries_comm {xs ys : List MapEntry} (hx : MapEntries.Sorted xs)
    (hy : MapEntries.Sorted ys) : allEntries rel xs ys = allEntries rel ys xs := by
  have swap : ∀ {xs ys : List MapEntry},
      List.Forall₂ (fun x y => y.key.cmp x.key = .eq ∧ rel x.value y.value = true) xs ys →
      List.Forall₂ (fun x y => y.key.cmp x.key = .eq ∧ rel x.value y.value = true) ys xs :=
    fun h => h.flip.imp fun x y hxy =>
      ⟨Std.OrientedCmp.eq_symm hxy.1, (comm x.value y.value).trans hxy.2⟩
  rw [Bool.eq_iff_iff, allEntries_iff hx hy, allEntries_iff hy hx]
  exact ⟨swap, swap⟩

/-! ## Values -/

theorem payloadEquals_comm {p q : Payload} (hp : ∀ es, p = .map es → MapEntries.Sorted es)
    (hq : ∀ es, q = .map es → MapEntries.Sorted es) :
    payloadEquals rel p q = payloadEquals rel q p := by
  -- native state of two kinds is never equal, unless both are numbers
  cases p <;> cases q <;> try rfl
  case integer.integer | boolean.boolean | string.string | date.date =>
    exact decide_eq_decide.2 eq_comm
  case integer.double | double.integer | double.double => exact Double.equals_comm _ _
  case list.list items items' => exact allPairs_comm comm items.toList items'.toList
  case map.map es es' => exact allEntries_comm comm (hp es rfl) (hq es' rfl)

end

/-- The entries of all maps are in order. -/
def Ordered (h : Heap) : Prop := ∀ id es, (h.get id).payload = .map es → MapEntries.Sorted es

theorem Keyed.ordered {h : Heap} (hk : h.Keyed) : h.Ordered := fun id es hp => (hk id es hp).sorted

variable {h : Heap}

theorem equalsUpTo_self (h : Heap) (n : Nat) (a : Value) : h.equalsUpTo n a a = true := by
  cases n <;> simp [equalsUpTo]

theorem equalsUpTo_comm (ho : h.Ordered) : ∀ (n : Nat) (a b : Value),
    h.equalsUpTo n a b = h.equalsUpTo n b a
  | 0, a, b => decide_eq_decide.2 eq_comm
  | n + 1, a, b => by
    have same : decide (a = b) = decide (b = a) := decide_eq_decide.2 eq_comm
    unfold equalsUpTo
    rw [same]
    cases a with
    | null => cases b <;> rfl
    | object i =>
      cases b with
      | null => rfl
      | object j =>
        dsimp only
        rw [payloadEquals_comm (equalsUpTo_comm ho n) (ho i) (ho j)]

end Heap

/-- **Equality is reflexive and symmetric.** Every value of every heap equals itself, whatever
holds it and whatever it holds. Two values equal each other both ways or neither way, in every heap
whose maps have their entries in order, which is all that maps ever have: at every moment of entry
methods that run one after the other nothing more has to be known. -/
theorem equality_refl_symm :
    (∀ (h : Heap) (a : Value), h.equals a a = true) ∧
    (∀ (h : Heap) (a b : Value), h.Ordered → h.equals a b = h.equals b a) ∧
    (∀ (decls : List ClassDecl) (query : Option QueryService) (credentials : Credentials)
      (today : Date) (maxDepth : Nat) (env : Env) (sink : Sink) (entries : List (Nat × EntryPoint)),
      Env.make (Registration.registerAll .initial decls).table query credentials today maxDepth =
        .ok env →
      ∀ μ ∈ (Machine.start sink).lifetime env entries, ∀ a b : Value,
        μ.memory.heap.equals a b = μ.memory.heap.equals b a) := by
  refine ⟨fun h a => h.equalsUpTo_self _ a, fun h a b ho => Heap.equalsUpTo_comm ho _ a b, ?_⟩
  intro decls query credentials today maxDepth env sink entries henv μ hμ a b
  have keyed := lifetime_keyed (Env.make_registered henv) sink entries μ hμ
  exact Heap.equalsUpTo_comm keyed.ordered _ a b

/-- Two maps that hold themselves. -/
def selfMaps : Heap :=
  ⟨#[.make Builtin.mapClass [] (.map [⟨.null, .null, .object 0⟩]),
     .make Builtin.mapClass [] (.map [⟨.null, .null, .object 1⟩])]⟩

theorem selfMaps_ordered : selfMaps.Ordered := by
  intro id es hp
  match id with
  | 0 | 1 =>
    cases hp
    exact List.pairwise_singleton _ _
  | _ + 2 => cases hp

/-- Each of the two maps equals itself, and both are compared both ways, as two objects of a run
are. -/
theorem equality_refl_symm_selfMaps : selfMaps.equals (.object 0) (.object 0) = true ∧
    selfMaps.equals (.object 0) (.object 1) = selfMaps.equals (.object 1) (.object 0) ∧
    ∃ env, Env.make (Registration.registerAll .initial pairsProgram).table none {} ⟨2024, 1, 1⟩ 16
        = .ok env ∧
      ∃ μ ∈ (Machine.start {}).lifetime env [(20, ⟨"Main", "action"⟩)],
        μ.memory.heap.equals (.object 2) (.object 4) =
          μ.memory.heap.equals (.object 4) (.object 2) := by
  obtain ⟨refl, symm, runs⟩ := equality_refl_symm
  obtain ⟨env, henv, μ, hμ, -⟩ := pairsProgram_runs
  exact ⟨refl selfMaps _, symm selfMaps _ _ selfMaps_ordered, env, henv, μ, hμ,
    runs _ _ _ _ _ env {} _ henv μ hμ _ _⟩

end ClassScript
