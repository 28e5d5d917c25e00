import ClassScript.Heap.MapEntries
import Mathlib.Data.List.Forall2
import Mathlib.Data.String.Basic

/-!
# Ordered entries

The order of keys goes by their kind, then by their number or their text (`MapKey.cmp_eq`), so it
is a total order; keys are the same in it if they have the same `MapKey.face`.

The entries of a map are `MapEntries.Sorted`. Inserting and erasing keep them so, and only in
entries that are is an entry found under its key for sure (`Sorted.find?_eq`). If the keys of
ordered entries are all among those of others, which are not more, then they are the same keys in
the same order (`Sorted.forall₂_keys`).
-/

namespace ClassScript

/-! ## Keys of maps -/

namespace MapKey

variable {a b c : MapKey}

/-- What decides whether two keys are the same: a Double counts by its order key. -/
def face : MapKey → MapKey ⊕ Int
  | double x => .inr x.orderKey
  | k => .inl k

theorem cmp_eq_iff : a.cmp b = .eq ↔ a.face = b.face := by
  cases a <;> cases b <;>
    simp only [cmp, rank, face, Sum.inl.injEq, Sum.inr.injEq, reduceCtorEq, iff_false,
      boolean.injEq, integer.injEq, string.injEq, Nat.compare_eq_eq] <;> try omega
  case boolean a b => cases a <;> cases b <;> decide
  case integer a b => rw [Std.compare_eq_iff_eq, Int64.toInt_inj]
  case double a b => exact Std.compare_eq_iff_eq
  case string a b =>
    unfold compareOfLessAndEq
    constructor
    · intro h
      split at h
      · cases h
      · split at h
        · assumption
        · cases h
    · rintro rfl
      rw [if_neg (String.lt_irrefl a), if_pos rfl]

theorem cmp_self (a : MapKey) : a.cmp a = .eq := cmp_eq_iff.2 rfl

/-- Keys that are the same are equal, but for Doubles. -/
theorem eq_of_cmp_eq (h : a.cmp b = .eq) (ha : ∀ x, a ≠ double x) : a = b := by
  rw [cmp_eq_iff] at h
  cases a with
  | double x => exact absurd rfl (ha x)
  | null | boolean _ | integer _ | string _ => cases b <;> simp_all [face]

theorem cmp_congr (h : a.cmp b = .eq) : a.cmp c = .eq ↔ b.cmp c = .eq := by
  rw [cmp_eq_iff, cmp_eq_iff, cmp_eq_iff.1 h]

/-- Where a key that is no text stands among the keys of its kind. -/
def number : MapKey → Int
  | boolean b => b.toNat
  | integer n => n.toInt
  | double x => x.orderKey
  | null | string _ => 0

/-- The text of a key that is one. -/
def letters : MapKey → String
  | string s => s
  | null | boolean _ | integer _ | double _ => ""

theorem cmp_eq :
    cmp = compareLex (compareOn rank) (compareLex (compareOn number) (compareOn letters)) := by
  funext a b
  cases a <;> cases b <;>
    simp [cmp, compareLex, compareOn, rank, number, letters]
  case boolean.boolean a b => cases a <;> cases b <;> rfl
  -- keys of two kinds are decided by the kinds
  all_goals rfl

instance : Std.TransCmp cmp := cmp_eq ▸ inferInstance

end MapKey

/-- Every member of the one list has a partner in the other. -/
theorem exists_of_forall₂ {α β : Type} {R : α → β → Prop} {as : List α} {bs : List β} {a : α}
    (h : List.Forall₂ R as bs) (ha : a ∈ as) : ∃ b ∈ bs, R a b := by
  induction h with
  | nil => cases ha
  | @cons _ b _ _ hab _ ih =>
    rcases List.mem_cons.1 ha with rfl | ha
    · exact ⟨b, List.mem_cons_self, hab⟩
    · obtain ⟨b, hb, hab⟩ := ih ha
      exact ⟨b, List.mem_cons_of_mem _ hb, hab⟩

theorem map_eq_of_forall₂ {α β γ : Type} {R : α → β → Prop} {f : α → γ} {g : β → γ} {as : List α}
    {bs : List β} (h : List.Forall₂ R as bs) (hfg : ∀ a ∈ as, ∀ b ∈ bs, R a b → f a = g b) :
    as.map f = bs.map g := by
  induction h with
  | nil => rfl
  | @cons a b as bs hab _ ih =>
    rw [List.map_cons, List.map_cons, hfg a List.mem_cons_self b List.mem_cons_self hab,
      ih fun a ha b hb => hfg a (List.mem_cons_of_mem _ ha) b (List.mem_cons_of_mem _ hb)]

namespace MapEntries

variable {k k' : MapKey} {kv v : Value} {e : MapEntry} {es xs ys : List MapEntry}

/-! ## Entries in order -/

/-- Entries in strictly increasing order of their keys. -/
def Sorted (es : List MapEntry) : Prop := es.Pairwise fun a b => a.key.cmp b.key = .lt

theorem mem_insert (h : e ∈ insert k kv v es) :
    e ∈ es ∨ e.key.cmp k = .eq ∧ e.keyValue = kv ∧ e.value = v := by
  induction es with
  | nil =>
    obtain rfl := List.mem_singleton.1 h
    exact .inr ⟨MapKey.cmp_self k, rfl, rfl⟩
  | cons d ds ih =>
    unfold insert at h
    cases hd : d.key.cmp k with
    | lt =>
      rw [hd] at h
      rcases List.mem_cons.1 h with rfl | h
      · exact .inl List.mem_cons_self
      · exact (ih h).imp_left (List.mem_cons_of_mem d)
    | eq =>
      rw [hd] at h
      rcases List.mem_cons.1 h with rfl | h
      · exact .inr ⟨hd, rfl, rfl⟩
      · exact .inl (List.mem_cons_of_mem d h)
    | gt =>
      rw [hd] at h
      rcases List.mem_cons.1 h with rfl | h
      · exact .inr ⟨MapKey.cmp_self k, rfl, rfl⟩
      · exact .inl h

theorem erase_sublist (k : MapKey) : ∀ es : List MapEntry, (erase k es).Sublist es
  | [] => .slnil
  | d :: ds => by
    unfold erase
    split
    · exact List.sublist_cons_self d ds
    · exact (erase_sublist k ds).cons_cons d

theorem Sorted.insert (hs : Sorted es) (k : MapKey) (kv v : Value) :
    Sorted (insert k kv v es) := by
  induction es with
  | nil => exact List.pairwise_singleton _ _
  | cons d ds ih =>
    obtain ⟨above, hds⟩ := List.pairwise_cons.1 hs
    unfold MapEntries.insert
    cases hd : d.key.cmp k with
    | lt =>
      refine List.pairwise_cons.2 ⟨fun e he => ?_, ih hds⟩
      rcases mem_insert he with he | ⟨hk, -, -⟩
      · exact above e he
      · exact Std.TransCmp.lt_of_lt_of_eq hd (Std.OrientedCmp.eq_symm hk)
    | eq => exact List.pairwise_cons.2 ⟨above, hds⟩
    | gt =>
      have below : k.cmp d.key = .lt := Std.OrientedCmp.gt_iff_lt.1 hd
      refine List.pairwise_cons.2 ⟨fun e he => ?_, hs⟩
      rcases List.mem_cons.1 he with rfl | he
      · exact below
      · exact Std.TransCmp.lt_trans below (above e he)

theorem Sorted.erase (hs : Sorted es) (k : MapKey) : Sorted (erase k es) :=
  hs.sublist (erase_sublist k es)

/-! ## Look-up -/

theorem mem_of_find?_eq (h : find? es k = some e) : e ∈ es ∧ e.key.cmp k = .eq :=
  ⟨List.mem_of_find?_eq_some h, by simpa using List.find?_some h⟩

/-- An entry is found under its key. -/
theorem Sorted.find?_eq (hs : Sorted es) (he : e ∈ es) (hk : e.key.cmp k = .eq) :
    find? es k = some e := by
  induction es with
  | nil => cases he
  | cons d ds ih =>
    obtain ⟨above, hds⟩ := List.pairwise_cons.1 hs
    unfold find? at ih ⊢
    rcases List.mem_cons.1 he with rfl | he
    · simp [hk]
    · have hd : d.key.cmp k = .lt := Std.TransCmp.lt_of_lt_of_eq (above e he) hk
      simpa [hd] using ih hds he

/-- Only the entry of the inserted key changes. -/
theorem find?_insert (kv v : Value) (hne : ¬ k.cmp k' = .eq) : ∀ es : List MapEntry,
    find? (insert k kv v es) k' = find? es k'
  | [] => by simp [insert, find?, hne]
  | e :: es => by
    have ih := find?_insert kv v hne es
    unfold find? at ih ⊢
    unfold insert
    cases he : e.key.cmp k with
    | lt => simp only [List.find?_cons, ih]
    | gt => simp [hne]
    | eq =>
      have hk : ¬ e.key.cmp k' = .eq := fun h => hne ((MapKey.cmp_congr he).1 h)
      simp [hk]

/-- The inserted value is found under its key. -/
theorem get?_insert (kv v : Value) (h : k.cmp k' = .eq) : ∀ es : List MapEntry,
    get? (insert k kv v es) k' = some v
  | [] => by simp [insert, get?, find?, h]
  | e :: es => by
    have ih := get?_insert kv v h es
    unfold get? find? at ih ⊢
    unfold insert
    have same : e.key.cmp k' = .eq ↔ e.key.cmp k = .eq := by
      rw [MapKey.cmp_eq_iff, MapKey.cmp_eq_iff, MapKey.cmp_eq_iff.1 h]
    cases he : e.key.cmp k with
    | lt =>
      rw [he] at same
      have hk : ¬ e.key.cmp k' = .eq := fun hk => by cases same.1 hk
      simpa [hk] using ih
    | gt => simp [h]
    | eq => simp [same.2 he]

/-! ## The same keys -/

/-- Ordered entries whose keys are all among those of others, which are not more, have the same keys
in the same order. -/
theorem Sorted.forall₂_keys (hx : Sorted xs) (hy : Sorted ys) (length : ys.length ≤ xs.length)
    (sub : ∀ x ∈ xs, ∃ y ∈ ys, y.key.cmp x.key = .eq) :
    List.Forall₂ (fun x y => y.key.cmp x.key = .eq) xs ys := by
  induction ys generalizing xs with
  | nil =>
    cases xs with
    | nil => exact .nil
    | cons x xs =>
      obtain ⟨y, hy, -⟩ := sub x List.mem_cons_self
      cases hy
  | cons y ys ih =>
    obtain ⟨below, hys⟩ := List.pairwise_cons.1 hy
    have behind : ∀ x ∈ xs, ¬ y.key.cmp x.key = .eq → ∃ z ∈ ys, z.key.cmp x.key = .eq := by
      intro x hx hne
      obtain ⟨z, hz, hzx⟩ := sub x hx
      rcases List.mem_cons.1 hz with rfl | hz
      · exact absurd hzx hne
      · exact ⟨z, hz, hzx⟩
    cases xs with
    | nil => exact absurd length (by simp)
    | cons x xs =>
      obtain ⟨above, hxs⟩ := List.pairwise_cons.1 hx
      by_cases hyx : y.key.cmp x.key = .eq
      · refine .cons hyx (ih hxs hys (Nat.le_of_succ_le_succ length) fun x' hx' => ?_)
        have lt := Std.TransCmp.lt_of_eq_of_lt hyx (above x' hx')
        exact behind x' (List.mem_cons_of_mem x hx') (by simp [lt])
      · -- otherwise `y` is below all the keys, which are too many for those behind it
        obtain ⟨z, hz, hzx⟩ := behind x List.mem_cons_self hyx
        have lt : y.key.cmp x.key = .lt := Std.TransCmp.lt_of_lt_of_eq (below z hz) hzx
        have all : ∀ x' ∈ x :: xs, y.key.cmp x'.key = .lt := by
          intro x' hx'
          rcases List.mem_cons.1 hx' with rfl | hx'
          · exact lt
          · exact Std.TransCmp.lt_trans lt (above x' hx')
        have same := (ih hx hys (Nat.le_of_succ_le length) fun x' hx' =>
          behind x' hx' (by simp [all x' hx'])).length_eq
        exact absurd length (by simp [same])

end MapEntries

end ClassScript
