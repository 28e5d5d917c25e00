import ClassScript.Machine.State
import ClassScript.Proofs.NameTable

/-!
# Classes of a table and their chains

`t.Has c`: `c` is a class of `t`, or an inner class of one. Every look-up leads to such a class, and
so does the walk to the superclasses (`ClassTable.Has.of_chain`).

A class that stands in the chain of another has that chain's rest as the start of its own
(`ClassInfo.chain_suffix`). So a field that a class sees is seen from a class below it in the same
way, unless a class on the way declares the name again (`ClassInfo.Unhidden`).
-/

namespace ClassScript

/-- A class of the table, or an inner class of one. -/
inductive ClassTable.Has (t : ClassTable) : ClassInfo → Prop
  | top {c : ClassInfo} : c ∈ t.classes → t.Has c
  | inner {c d : ClassInfo} : t.Has c → d ∈ c.inner → t.Has d

namespace ClassTable.Has

variable {t : ClassTable} {c d : ClassInfo} {name : String}

theorem of_get? (h : t.get? name = some c) : t.Has c := .top (List.mem_of_find?_eq_some h)

theorem of_inner? (hc : t.Has c) (h : c.inner? name = some d) : t.Has d :=
  .inner hc (List.mem_of_find?_eq_some h)

theorem of_descend {names : List String} (hc : t.Has c) (h : descend c names = some d) :
    t.Has d := by
  induction names generalizing c with
  | nil => cases h; exact hc
  | cons n names ih =>
    rw [descend] at h
    split at h
    · rename_i e he
      exact ih (hc.of_inner? he) h
    · cases h

theorem of_resolve? (h : t.resolve? name = some c) : t.Has c := by
  unfold resolve? at h
  split at h
  · cases h
  · split at h
    · rename_i hd
      exact (of_get? hd).of_descend h
    · cases h

theorem of_parent? (h : c.parent? t = some d) : t.Has d := by
  unfold ClassInfo.parent? at h
  split at h
  · exact of_resolve? h
  · cases h

theorem of_chainUpTo {n : Nat} (hc : t.Has c) (h : d ∈ ClassInfo.chainUpTo t n c) : t.Has d := by
  induction n generalizing c with
  | zero => cases h
  | succ n ih =>
    rw [ClassInfo.chainUpTo, List.mem_cons] at h
    rcases h with rfl | h
    · exact hc
    · split at h
      · rename_i p hp
        exact ih (of_parent? hp) h
      · cases h

theorem of_chain (hc : t.Has c) (h : d ∈ c.chain t) : t.Has d := hc.of_chainUpTo h

end ClassTable.Has

namespace Machine

variable {t : ClassTable} {m : Machine} {c : ClassInfo}

/-- A name leads from a class of the table to one. -/
theorem lookupClass?_has (hf : ∀ f ∈ m.frames.head?, t.Has f.cls) {name : String}
    (h : m.lookupClass? t name = some c) : t.Has c := by
  unfold lookupClass? at h
  split at h
  · rename_i d hd
    cases h
    obtain ⟨f, hhead, hinner⟩ := Option.bind_eq_some_iff.1 hd
    exact (hf f hhead).of_inner? hinner
  · exact .of_resolve? h

theorem classRef?_has (hf : ∀ f ∈ m.frames.head?, t.Has f.cls) : ∀ {e : Expr} {c : ClassInfo},
    m.classRef? t e = some c → t.Has c
  | .name i, c, h => by
    unfold classRef? at h
    split at h
    · cases h
    · exact lookupClass?_has hf h
  | .member object i span, c, h => by
    unfold classRef? at h
    split at h
    · rename_i d hd
      exact (classRef?_has hf hd).of_inner? h
    · cases h
  | .literal .., c, h | .this _, c, h | .call .., c, h | .callOn .., c, h | .create .., c, h
  | .index .., c, h | .binary .., c, h | .unary .., c, h | .post .., c, h | .assign .., c, h
  | .conditional .., c, h | .query .., c, h => by cases h

end Machine

namespace ClassInfo

variable {t : ClassTable} {c d : ClassInfo}

/-! ## Chains -/

theorem self_mem_chain (c : ClassInfo) (t : ClassTable) : c ∈ c.chain t := by
  unfold chain chainUpTo
  exact List.mem_cons_self

theorem chain_of_no_superclass (h : c.superclass = none) : c.chain t = [c] := by
  have hp : c.parent? t = none := by simp only [parent?, h]
  unfold chain chainUpTo
  rw [hp]

theorem chainUpTo_prefix (c : ClassInfo) {k n : Nat} (h : k ≤ n) :
    chainUpTo t k c <+: chainUpTo t n c := by
  induction k generalizing c n with
  | zero => exact List.nil_prefix
  | succ k ih =>
    obtain ⟨n, rfl⟩ : ∃ m, n = m + 1 := ⟨n - 1, by omega⟩
    rw [chainUpTo, chainUpTo]
    split
    · exact List.prefix_cons_inj _ |>.2 (ih _ (by omega))
    · exact List.prefix_rfl

theorem chainUpTo_suffix {n : Nat} {pre suf : List ClassInfo}
    (h : chainUpTo t n c = pre ++ d :: suf) : ∃ k ≤ n, d :: suf = chainUpTo t k d := by
  induction n generalizing c pre with
  | zero => simp [chainUpTo] at h
  | succ n ih =>
    cases pre with
    | nil =>
      -- `d` is the first class, so it is `c` itself
      have hd : c = d := by
        rw [chainUpTo] at h
        exact (List.cons.inj h).1
      exact ⟨n + 1, Nat.le_refl _, by rw [← hd, h, hd]; rfl⟩
    | cons p pre =>
      rw [chainUpTo, List.cons_append] at h
      have ht := (List.cons.inj h).2
      split at ht
      · obtain ⟨k, hk, hs⟩ := ih ht
        exact ⟨k, by omega, hs⟩
      · simp at ht

/-- What follows a class in a chain is the start of its own chain. The own chain may be longer: the
walk ends after a fixed number of classes. -/
theorem chain_suffix {pre suf : List ClassInfo} (h : c.chain t = pre ++ d :: suf) :
    d :: suf <+: d.chain t := by
  obtain ⟨k, hk, hs⟩ := chainUpTo_suffix h
  rw [hs]
  exact chainUpTo_prefix d hk

/-! ## Fields along a chain -/

theorem instanceField?_eq_none {name : String} :
    c.instanceField? t name = none ↔ ∀ d ∈ c.chain t, d.instanceFields.get? name = none :=
  List.findSome?_eq_none_iff

theorem staticField?_eq_none {name : String} :
    c.staticField? t name = none ↔ ∀ d ∈ c.chain t, d.staticFields.get? name = none := by
  unfold staticField?
  simp [List.findSome?_eq_none_iff]

theorem staticField?_owner {name : String} {owner : ClassInfo} {f : FieldInfo}
    (h : c.staticField? t name = some (owner, f)) :
    owner ∈ c.chain t ∧ owner.staticFields.get? name = some f := by
  obtain ⟨d, hd, hf⟩ := List.exists_of_findSome?_eq_some h
  simp only [Option.map_eq_some_iff, Prod.mk.injEq] at hf
  obtain ⟨f', hf, rfl, rfl⟩ := hf
  exact ⟨hd, hf⟩

/-- `d` stands in the chain of `c`, and no class before it declares a field of this name. -/
def Unhidden (t : ClassTable) (c d : ClassInfo) (name : String) : Prop :=
  ∃ pre suf, c.chain t = pre ++ d :: suf ∧
    ∀ e ∈ pre, e.instanceFields.get? name = none ∧ e.staticFields.get? name = none

variable {name : String}

theorem Unhidden.instanceField?_eq_none (h : c.Unhidden t d name)
    (hd : d.instanceField? t name = none) : c.instanceField? t name = none := by
  obtain ⟨pre, suf, hc, hp⟩ := h
  rw [ClassInfo.instanceField?_eq_none] at *
  intro e he
  rw [hc, List.mem_append] at he
  rcases he with he | he
  · exact (hp e he).1
  · exact hd e ((chain_suffix hc).subset he)

theorem Unhidden.staticField?_eq_none (h : c.Unhidden t d name)
    (hd : d.staticField? t name = none) : c.staticField? t name = none := by
  obtain ⟨pre, suf, hc, hp⟩ := h
  rw [ClassInfo.staticField?_eq_none] at *
  intro e he
  rw [hc, List.mem_append] at he
  rcases he with he | he
  · exact (hp e he).2
  · exact hd e ((chain_suffix hc).subset he)

/-- A static field that no class on the way hides belongs to the same class, if the walk gets that
far. -/
theorem Unhidden.staticField? (h : c.Unhidden t d name) {owner : ClassInfo} {f : FieldInfo}
    (hd : d.staticField? t name = some (owner, f)) (reach : owner ∈ c.chain t) :
    c.staticField? t name = some (owner, f) := by
  obtain ⟨pre, suf, hc, hp⟩ := h
  have hf := (staticField?_owner hd).2
  have hpre : pre.findSome? (fun e => (e.staticFields.get? name).map (e, ·)) = none := by
    rw [List.findSome?_eq_none_iff]
    intro e he
    rw [(hp e he).2]
    rfl
  have ho : owner ∈ d :: suf := by
    rw [hc, List.mem_append] at reach
    rcases reach with hr | hr
    · rw [(hp owner hr).2] at hf
      cases hf
    · exact hr
  obtain ⟨found, hfound⟩ : ∃ x, (d :: suf).findSome?
      (fun e => (e.staticFields.get? name).map (e, ·)) = some x := by
    rw [← Option.isSome_iff_exists, List.findSome?_isSome_iff]
    exact ⟨owner, ho, by rw [hf]; rfl⟩
  have same : d.staticField? t name = some found :=
    (chain_suffix hc).findSome?_eq_some hfound
  unfold ClassInfo.staticField? at same hd ⊢
  rw [hc, List.findSome?_append, hpre, hfound, ← same, hd]
  rfl

end ClassInfo

end ClassScript
