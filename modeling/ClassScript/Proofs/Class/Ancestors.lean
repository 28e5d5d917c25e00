import ClassScript.Proofs.Class.Inheritance
import Mathlib.Data.List.Nodup
import Mathlib.Data.List.Perm.Subperm

/-!
# Superclasses that a chain reaches

`c.ancestor? t i` is the class `i` steps above `c`. A chain holds the ancestors of fewer steps than
the table has classes and one more (`ClassInfo.mem_chain`). A walk that stays among the classes of
the table itself and is that long has been everywhere it can go, with or without a cycle
(`ClassTable.ancestor?_near_of_mem`). Where no `extends` clause is dotted (`ClassTable.Undotted`),
every walk stays there. A chain then holds the chain of each of its classes
(`ClassTable.Undotted.chain_trans`), and a class sees every name of static methods that a class
above it sees.
-/

namespace ClassScript

namespace ClassInfo

variable {t : ClassTable} {c d : ClassInfo}

/-- The class so many steps up. -/
def ancestor? (t : ClassTable) : Nat → ClassInfo → Option ClassInfo
  | 0, c => some c
  | n + 1, c => (c.parent? t).bind (ancestor? t n)

theorem ancestor?_add (m n : Nat) (c : ClassInfo) :
    ancestor? t (m + n) c = (ancestor? t m c).bind (ancestor? t n) := by
  induction m generalizing c with
  | zero => rw [Nat.zero_add]; rfl
  | succ m ih =>
    rw [Nat.succ_add, ancestor?, ancestor?]
    cases c.parent? t with
    | none => rfl
    | some p => exact ih p

theorem mem_chainUpTo {n : Nat} :
    d ∈ chainUpTo t n c ↔ ∃ i, i < n ∧ ancestor? t i c = some d := by
  induction n generalizing c with
  | zero => simp [chainUpTo]
  | succ n ih =>
    rw [chainUpTo, List.mem_cons]
    constructor
    · rintro (rfl | h)
      · exact ⟨0, Nat.succ_pos n, rfl⟩
      · split at h
        · rename_i p hp
          obtain ⟨i, hi, hd⟩ := ih.1 h
          exact ⟨i + 1, Nat.succ_lt_succ hi, by rw [ancestor?, hp]; exact hd⟩
        · cases h
    · rintro ⟨_ | i, hi, h⟩
      · exact .inl (Option.some.inj h).symm
      · obtain ⟨p, hp, hd⟩ := Option.bind_eq_some_iff.1 h
        rw [hp]
        exact .inr (ih.2 ⟨i, Nat.lt_of_succ_lt_succ hi, hd⟩)

theorem mem_chain : d ∈ c.chain t ↔ ∃ i, i ≤ t.size ∧ ancestor? t i c = some d := by
  unfold chain
  rw [mem_chainUpTo]
  simp only [Nat.lt_succ_iff]

/-- Of two equal ancestors the walk may skip what lies between. -/
theorem ancestor?_skip {a b i : Nat} (hab : a ≤ b) (hbi : b ≤ i)
    (h : ancestor? t a c = ancestor? t b c) : ancestor? t (i - (b - a)) c = ancestor? t i c := by
  obtain ⟨k, rfl⟩ := Nat.exists_eq_add_of_le hbi
  have hk : b + k - (b - a) = a + k := by omega
  rw [hk, ancestor?_add, ancestor?_add, h]

/-- On the way to where a class is met first, no class is met twice. -/
theorem ancestors_nodup {i : Nat} (first : ∀ j < i, ancestor? t j c ≠ some d)
    (h : ancestor? t i c = some d) :
    ((List.range (i + 1)).map fun j => ancestor? t j c).Nodup := by
  have skip : ∀ {a b}, a < b → b < i + 1 → ancestor? t a c ≠ ancestor? t b c := by
    intro a b hlt hbi heq
    have hs := ancestor?_skip (Nat.le_of_lt hlt) (Nat.le_of_lt_succ hbi) heq
    exact first (i - (b - a)) (by omega) (hs.trans h)
  refine List.Nodup.map_on (fun a ha b hb hab => ?_) List.nodup_range
  rw [List.mem_range] at ha hb
  rcases Nat.lt_trichotomy a b with hlt | heq | hlt
  · exact absurd hab (skip hlt hb)
  · exact heq
  · exact absurd hab.symm (skip hlt ha)

/-- What a walk meets on the way to a class. -/
theorem ancestor?_before {i j : Nat} (hj : j ≤ i) (h : ancestor? t i c = some d) :
    ∃ e, ancestor? t j c = some e ∧ ancestor? t (i - j) e = some d := by
  obtain ⟨k, rfl⟩ := Nat.exists_eq_add_of_le hj
  rw [ancestor?_add] at h
  obtain ⟨e, he, hd⟩ := Option.bind_eq_some_iff.1 h
  exact ⟨e, he, by rwa [Nat.add_sub_cancel_left]⟩

end ClassInfo

namespace ClassTable

open ClassInfo (ancestor? mem_chain ancestor?_add ancestor?_skip)

/-- No `extends` clause of the classes is dotted. -/
def Undotted (t : ClassTable) : Prop :=
  ∀ c, t.Has c → ∀ s, c.superclass = some s → '.' ∉ s.name.toList

variable {t : ClassTable} {c d e : ClassInfo} {name : String}

theorem splitDots_undotted {part cs : List Char} (h : '.' ∉ cs) :
    splitDots part cs = [String.ofList (part.reverse ++ cs)] := by
  induction cs generalizing part with
  | nil => rw [splitDots, List.append_nil]
  | cons x cs ih =>
    rw [List.mem_cons, not_or] at h
    rw [splitDots, if_neg (Ne.symm h.1), ih h.2, List.reverse_cons, List.append_assoc]
    rfl

theorem resolve?_undotted (h : '.' ∉ name.toList) : t.resolve? name = t.get? name := by
  unfold resolve?
  rw [splitDots_undotted h, List.reverse_nil, List.nil_append, String.ofList_toList]
  dsimp only
  cases t.get? name <;> rfl

/-- The nearest ancestor that is a given class is at most as many steps away as there are classes, if
all on the way to it are classes of the table: none of them comes twice. -/
theorem ancestor?_near_of_mem {i : Nat}
    (hmem : ∀ j < i, ∀ e, ancestor? t (j + 1) c = some e → e ∈ t.classes)
    (h : ancestor? t i c = some d) : ∃ j, j ≤ t.size ∧ ancestor? t j c = some d := by
  induction i using Nat.strongRecOn with
  | ind i ih =>
    by_cases shorter : ∃ j, j < i ∧ ancestor? t j c = some d
    · obtain ⟨j, hj, hd⟩ := shorter
      exact ih j hj (fun k hk => hmem k (Nat.lt_trans hk hj)) hd
    refine ⟨i, ?_, h⟩
    have distinct := ClassInfo.ancestors_nodup (fun j hj hd => shorter ⟨j, hj, hd⟩) h
    rw [List.range_succ_eq_map, List.map_cons, List.map_map] at distinct
    have within : (List.range i).map ((fun j => ancestor? t j c) ∘ Nat.succ) ⊆
        t.classes.map some := by
      intro x hx
      obtain ⟨j, hj, rfl⟩ := List.mem_map.1 hx
      rw [List.mem_range] at hj
      obtain ⟨p, hp, -⟩ := ClassInfo.ancestor?_before hj h
      exact List.mem_map.2 ⟨p, hmem j hj p hp, hp.symm⟩
    have hlen := (distinct.of_cons.subperm within).length_le
    simpa [size] using hlen

namespace Undotted

variable (hu : t.Undotted)
include hu

theorem parent?_mem (hc : t.Has c) (h : c.parent? t = some d) : d ∈ t.classes := by
  unfold ClassInfo.parent? at h
  split at h
  · rename_i s hs
    rw [resolve?_undotted (hu c hc s hs)] at h
    exact List.mem_of_find?_eq_some h
  · cases h

theorem ancestor?_mem {i : Nat} (hc : t.Has c) (h : ancestor? t (i + 1) c = some d) :
    d ∈ t.classes := by
  induction i generalizing c with
  | zero =>
    obtain ⟨p, hp, hd⟩ := Option.bind_eq_some_iff.1 h
    cases hd
    exact hu.parent?_mem hc hp
  | succ i ih =>
    obtain ⟨p, hp, hd⟩ := Option.bind_eq_some_iff.1 h
    exact ih (.of_parent? hp) hd

theorem ancestor?_near {i : Nat} (hc : t.Has c) (h : ancestor? t i c = some d) :
    ∃ j, j ≤ t.size ∧ ancestor? t j c = some d :=
  ancestor?_near_of_mem (fun _ _ _ he => hu.ancestor?_mem hc he) h

/-- **A chain misses no class.** The chain of a class holds the chains of all its classes. -/
theorem chain_trans (hc : t.Has c) (hd : d ∈ c.chain t) (he : e ∈ d.chain t) : e ∈ c.chain t := by
  rw [mem_chain] at hd he ⊢
  obtain ⟨i, -, hi⟩ := hd
  obtain ⟨j, -, hj⟩ := he
  refine hu.ancestor?_near (i := i + j) hc ?_
  rw [ancestor?_add, hi]
  exact hj

/-- Static methods that a class sees are seen from the classes below it. -/
theorem staticMethods?_isSome (hc : t.Has c) (hd : d ∈ c.chain t)
    (h : (d.staticMethods? t name).isSome = true) : (c.staticMethods? t name).isSome = true := by
  unfold ClassInfo.staticMethods? at h ⊢
  rw [List.findSome?_isSome_iff] at h ⊢
  obtain ⟨e, he, hn⟩ := h
  exact ⟨e, hu.chain_trans hc hd he, hn⟩

end Undotted

end ClassTable

end ClassScript
