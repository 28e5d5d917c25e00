import ClassScript.Proofs.Class.Subtyping
import Mathlib.Data.Nat.Find

/-!
# What the walk to the superclasses misses

`c.Inherits t d`: the class `d` is `c`, or is reached from it over `extends` clauses that lead to a
class, however many. `ClassInfo.Nearest t get c a`: going up from `c` without a limit, the first
class for which `get` has anything has `a`.

The chain of a class follows the same clauses, but ends after as many steps as the table has classes.
Inner classes do not count there and may be extended all the same. So a chain has all that the class
inherits exactly if that is not more than the classes of the table and one more
(`ClassInfo.chain_complete_iff`), since a walk that long has come to an end or around a cycle.

Main statement: `chain_finds_inherited`. `chain_misses_inner_ancestor`: a class may inherit from more
inner classes than that, and then its chain lacks members.
-/

namespace ClassScript

open Relation (ReflTransGen TransGen)

namespace ClassInfo

variable {t : ClassTable} {c d e : ClassInfo}

/-- The `extends` clause of `c` leads to `d`. -/
def Extends (t : ClassTable) (c d : ClassInfo) : Prop := c.parent? t = some d

/-- `c` is `d` or inherits from it (module doc). -/
def Inherits (t : ClassTable) (c d : ClassInfo) : Prop := ReflTransGen (Extends t) c d

/-- The class inherits from no more than `n` classes, itself included. -/
def InheritsAtMost (t : ClassTable) (c : ClassInfo) (n : Nat) : Prop :=
  ∀ ds : List ClassInfo, ds.Nodup → (∀ d ∈ ds, c.Inherits t d) → ds.length ≤ n

/-- The first class going up that has anything has `a` (module doc). -/
inductive Nearest {α : Type} (t : ClassTable) (get : ClassInfo → Option α) : ClassInfo → α → Prop
  | here {c : ClassInfo} {a : α} : get c = some a → Nearest t get c a
  | above {c p : ClassInfo} {a : α} : get c = none → c.Extends t p → Nearest t get p a →
      Nearest t get c a

/-! ## Ancestors by the number of steps -/

theorem inherits_iff : c.Inherits t d ↔ ∃ i, ancestor? t i c = some d := by
  constructor
  · intro h
    induction h with
    | refl => exact ⟨0, rfl⟩
    | @tail x y _ step ih =>
      obtain ⟨i, hi⟩ := ih
      refine ⟨i + 1, ?_⟩
      rw [ancestor?_add, hi, Option.bind_some, ancestor?, step]
      rfl
  · rintro ⟨i, h⟩
    induction i generalizing c with
    | zero =>
      cases h
      exact .refl
    | succ i ih =>
      obtain ⟨p, hp, hd⟩ := Option.bind_eq_some_iff.1 h
      exact .head hp (ih hd)

theorem Inherits.of_mem_chain (h : d ∈ c.chain t) : c.Inherits t d := by
  obtain ⟨i, -, hi⟩ := mem_chain.1 h
  exact inherits_iff.2 ⟨i, hi⟩

/-- Among few ancestors each is found after few steps. -/
theorem InheritsAtMost.near {n : Nat} (h : c.InheritsAtMost t (n + 1)) (hd : c.Inherits t d) :
    ∃ i, i ≤ n ∧ ancestor? t i c = some d := by
  classical
  have found := inherits_iff.1 hd
  refine ⟨Nat.find found, ?_, Nat.find_spec found⟩
  have nodup := ancestors_nodup (fun j hj => Nat.find_min found hj) (Nat.find_spec found)
  let way := (List.range (Nat.find found + 1)).filterMap fun i => ancestor? t i c
  have hway : way.map some = (List.range (Nat.find found + 1)).map fun i => ancestor? t i c := by
    rw [List.map_filterMap_some_eq_filter_map_isSome, List.filter_eq_self]
    intro x hx
    obtain ⟨i, hi, rfl⟩ := List.mem_map.1 hx
    obtain ⟨e, he, -⟩ :=
      ancestor?_before (Nat.le_of_lt_succ (List.mem_range.1 hi)) (Nat.find_spec found)
    rw [he]
    rfl
  have few := h way (.of_map some (hway ▸ nodup)) fun e he => by
    obtain ⟨i, -, hi⟩ := List.mem_filterMap.1 he
    exact inherits_iff.2 ⟨i, hi⟩
  have hlen := congrArg List.length hway
  simp only [List.length_map, List.length_range] at hlen
  omega

/-! ## Chains -/

theorem chainUpTo_isChain (n : Nat) (c : ClassInfo) : (chainUpTo t n c).IsChain (Extends t) := by
  induction n generalizing c with
  | zero => exact .nil
  | succ n ih =>
    rw [chainUpTo]
    cases hp : c.parent? t with
    | none => exact .singleton c
    | some p =>
      have rest := ih p
      cases n with
      | zero => exact .singleton c
      | succ n => exact .cons_cons hp rest

theorem length_chainUpTo_le (n : Nat) (c : ClassInfo) : (chainUpTo t n c).length ≤ n := by
  induction n generalizing c with
  | zero => exact Nat.le_refl 0
  | succ n ih =>
    rw [chainUpTo]
    cases c.parent? t with
    | none => simp
    | some p => simpa using ih p

/-- A chain has every ancestor exactly if there are not too many. -/
theorem chain_complete_iff :
    (∀ d, c.Inherits t d → d ∈ c.chain t) ↔ c.InheritsAtMost t (t.size + 1) := by
  constructor
  · intro h ds hnodup hds
    have hlen := (hnodup.subperm fun d hd => h d (hds d hd)).length_le
    exact Nat.le_trans hlen (length_chainUpTo_le _ c)
  · intro h d hd
    exact mem_chain.2 (h.near hd)

theorem inheritsAtMost_of_top (h : ∀ d, TransGen (Extends t) c d → d ∈ t.classes) :
    c.InheritsAtMost t (t.size + 1) := by
  intro ds hnodup hds
  have within : ds ⊆ c :: t.classes := by
    intro d hd
    rcases ReflTransGen.cases_head_iff.1 (hds d hd) with rfl | ⟨p, hp, rest⟩
    · exact List.mem_cons_self
    · exact List.mem_cons_of_mem c (h d (.head' hp rest))
  have hlen := (hnodup.subperm within).length_le
  simpa [ClassTable.size] using hlen

/-! ## Members -/

section

variable {α : Type} {get : ClassInfo → Option α} {a b : α}

theorem Nearest.exists (h : Nearest t get c a) : ∃ d, c.Inherits t d ∧ get d = some a := by
  induction h with
  | @here c a hc => exact ⟨c, .refl, hc⟩
  | above _ hp _ ih =>
    obtain ⟨d, hd, ha⟩ := ih
    exact ⟨d, .head hp hd, ha⟩

theorem Nearest.unique (h : Nearest t get c a) (h' : Nearest t get c b) : a = b := by
  induction h with
  | here hc =>
    cases h' with
    | here hc' => exact Option.some.inj (hc.symm.trans hc')
    | above hn _ _ =>
      rw [hc] at hn
      cases hn
  | above hn hp _ ih =>
    cases h' with
    | here hc =>
      rw [hn] at hc
      cases hc
    | above _ hp' rest =>
      cases hp.symm.trans hp'
      exact ih rest

/-- What a walk with a limit finds, one without a limit finds. -/
theorem nearest_of_findSome? (n : Nat) (h : (chainUpTo t n c).findSome? get = some a) :
    Nearest t get c a := by
  induction n generalizing c with
  | zero => cases h
  | succ n ih =>
    rw [chainUpTo, List.findSome?_cons] at h
    cases hc : get c with
    | some b =>
      rw [hc] at h
      cases h
      exact .here hc
    | none =>
      rw [hc] at h
      cases hp : c.parent? t with
      | none =>
        rw [hp] at h
        cases h
      | some p =>
        rw [hp] at h
        exact .above hc hp (ih h)

/-- In a chain with all ancestors a search finds what a walk without a limit finds. -/
theorem findSome?_chain_iff (h : ∀ d, c.Inherits t d → d ∈ c.chain t) :
    (c.chain t).findSome? get = some a ↔ Nearest t get c a := by
  refine ⟨nearest_of_findSome? _, fun near => ?_⟩
  obtain ⟨d, hd, ha⟩ := near.exists
  obtain ⟨b, hb⟩ : ∃ b, (c.chain t).findSome? get = some b := by
    rw [← Option.isSome_iff_exists, List.findSome?_isSome_iff]
    exact ⟨d, h d hd, by rw [ha]; rfl⟩
  rw [hb, near.unique (nearest_of_findSome? _ hb)]

end

/-- The chain of the class has all classes that it inherits from, and every search along it finds
what there is going up without a limit. -/
structure FindsInherited (t : ClassTable) (c : ClassInfo) : Prop where
  classes : ∀ d, c.Inherits t d → d ∈ c.chain t
  instanceMethods : ∀ name g, c.instanceMethods? t name = some g ↔
    Nearest t (fun d => d.instanceMethods.get? name) c g
  staticMethods : ∀ name g, c.staticMethods? t name = some g ↔
    Nearest t (fun d => d.staticMethods.get? name) c g
  instanceField : ∀ name f, c.instanceField? t name = some f ↔
    Nearest t (fun d => d.instanceFields.get? name) c f
  staticField : ∀ name owner f, c.staticField? t name = some (owner, f) ↔
    Nearest t (fun d => (d.staticFields.get? name).map (d, ·)) c (owner, f)
  allInstanceFields : ∀ f, f ∈ c.allInstanceFields t ↔
    ∃ d, c.Inherits t d ∧ f ∈ d.instanceFields.values

theorem findsInherited_iff : c.FindsInherited t ↔ c.InheritsAtMost t (t.size + 1) := by
  rw [← chain_complete_iff]
  refine ⟨FindsInherited.classes, fun h => ⟨h, ?_, ?_, ?_, ?_, ?_⟩⟩
  · exact fun name g => findSome?_chain_iff h
  · exact fun name g => findSome?_chain_iff h
  · exact fun name f => findSome?_chain_iff h
  · exact fun name owner f => findSome?_chain_iff h
  · intro f
    simp only [allInstanceFields, List.mem_flatMap, List.mem_reverse]
    constructor
    · rintro ⟨d, hd, hf⟩
      exact ⟨d, .of_mem_chain hd, hf⟩
    · rintro ⟨d, hd, hf⟩
      exact ⟨d, h d hd, hf⟩

end ClassInfo

open ClassInfo (Extends ancestor?)

/-- **A chain finds all that is inherited from no more classes than the table has.** The chain of a
class is finite, starts with the class and follows each class by the one that its `extends` clause
leads to. It has exactly the classes that are at most as many steps up as the table has classes. So
it has all classes that the class inherits from, and finds every inherited member and field, exactly
if these are not more than the classes of the table and one more; and so it is, with a cycle or
without, if all classes further up are classes of the table itself. -/
theorem chain_finds_inherited (t : ClassTable) (c : ClassInfo) :
    (∃ rest, c.chain t = c :: rest) ∧
    (c.chain t).IsChain (Extends t) ∧
    (c.chain t).length ≤ t.size + 1 ∧
    (∀ d, d ∈ c.chain t ↔ ∃ i ≤ t.size, ancestor? t i c = some d) ∧
    (c.FindsInherited t ↔ c.InheritsAtMost t (t.size + 1)) ∧
    ((∀ d, TransGen (Extends t) c d → d ∈ t.classes) → c.FindsInherited t) := by
  refine ⟨⟨_, rfl⟩, ClassInfo.chainUpTo_isChain _ c, ClassInfo.length_chainUpTo_le _ c,
    fun d => ClassInfo.mem_chain, ClassInfo.findsInherited_iff, fun h => ?_⟩
  exact ClassInfo.findsInherited_iff.2 (ClassInfo.inheritsAtMost_of_top h)

/-- An instance field `n`. -/
def fieldN : Member ClassDecl :=
  .field ⟨.pub, ⟨⟨"Integer", .unknown⟩, [], .unknown⟩, ⟨"n", .unknown⟩, none, .unknown⟩

/-- A cycle of two classes, with a class below it. -/
def loopingClasses : ClassTable :=
  (Registration.registerAll .initial [bareClass "Low" (some "Left") [] [],
    bareClass "Left" (some "Right") [] [], bareClass "Right" (some "Left") [] [fieldN]]).table

/-- The class below the cycle finds the field on its far side. -/
theorem chain_finds_inherited_cycle : ∃ low left right f,
    loopingClasses.get? "Low" = some low ∧ low.Extends loopingClasses left ∧
    left.Extends loopingClasses right ∧ right.Extends loopingClasses left ∧
    right.instanceFields.get? "n" = some f ∧ low.instanceField? loopingClasses "n" = some f := by
  obtain ⟨low, left, right, f, hlow, hleft, hright, up, across, back, lowNone, leftNone, hf⟩ :
      ∃ low left right f, loopingClasses.get? "Low" = some low ∧
        loopingClasses.get? "Left" = some left ∧ loopingClasses.get? "Right" = some right ∧
        low.Extends loopingClasses left ∧ left.Extends loopingClasses right ∧
        right.Extends loopingClasses left ∧ low.instanceFields.get? "n" = none ∧
        left.instanceFields.get? "n" = none ∧ right.instanceFields.get? "n" = some f :=
    ⟨_, _, _, _, rfl, rfl, rfl, rfl, rfl, rfl, rfl, rfl, rfl⟩
  refine ⟨low, left, right, f, hlow, up, across, back, hf, ?_⟩
  -- from the class below, the walk up goes round the cycle only
  have around : ∀ d, TransGen (Extends loopingClasses) low d → d = left ∨ d = right := by
    intro d h
    induction h with
    | single step =>
      cases up.symm.trans step
      exact .inl rfl
    | tail _ step ih =>
      rcases ih with rfl | rfl
      · cases across.symm.trans step
        exact .inr rfl
      · cases back.symm.trans step
        exact .inl rfl
  have top : ∀ d, TransGen (Extends loopingClasses) low d → d ∈ loopingClasses.classes := by
    intro d h
    rcases around d h with rfl | rfl
    · exact List.mem_of_find?_eq_some hleft
    · exact List.mem_of_find?_eq_some hright
  have finds := (chain_finds_inherited loopingClasses low).2.2.2.2.2 top
  exact (finds.instanceField "n" f).2 (.above lowNone up (.above leftNone across (.here hf)))

/-- Inner classes of `Outer` by number, each of which extends the next; the last one has the field. -/
def innerTower (k : Nat) : Nat → List ClassDecl
  | 0 => [bareClass ("L" ++ toString k) none [] [fieldN]]
  | n + 1 =>
    bareClass ("L" ++ toString k) (some ("Outer.L" ++ toString (k + 1))) [] [] ::
      innerTower (k + 1) n

/-- A class with fifteen such inner classes, more than there are classes of the table. -/
def towerClasses : ClassTable :=
  (Registration.registerAll .initial
    [bareClass "Outer" none [] ((innerTower 0 14).map .inner)]).table

/-- **A class may inherit from more inner classes than its chain has.** Its chain then lacks an
ancestor, and the field of that ancestor is not found. -/
theorem chain_misses_inner_ancestor : ∃ c d f,
    towerClasses.resolve? "Outer.L0" = some c ∧ c.Inherits towerClasses d ∧
    d ∉ c.chain towerClasses ∧
    ClassInfo.Nearest towerClasses (fun d => d.instanceFields.get? "n") c f ∧
    c.instanceField? towerClasses "n" = none ∧ f ∉ c.allInstanceFields towerClasses := by
  obtain ⟨c, d, f, hc, hd, names, hlast, near, found, none⟩ : ∃ c d f,
      towerClasses.resolve? "Outer.L0" = some c ∧ ancestor? towerClasses 14 c = some d ∧
      (c.chain towerClasses).all (·.name != "L14") = true ∧ d.name = "L14" ∧
      (ClassInfo.chainUpTo towerClasses 15 c).findSome? (·.instanceFields.get? "n") = some f ∧
      c.instanceField? towerClasses "n" = none ∧ c.allInstanceFields towerClasses = [] :=
    ⟨_, _, _, rfl, rfl, by decide +kernel, rfl, rfl, rfl, rfl⟩
  refine ⟨c, d, f, hc, ClassInfo.inherits_iff.2 ⟨14, hd⟩, fun hmem => ?_,
    ClassInfo.nearest_of_findSome? 15 near, found, by rw [none]; nofun⟩
  have other := List.all_eq_true.1 names d hmem
  rw [hlast] at other
  exact absurd other (by decide)

end ClassScript
