import ClassScript.NameTable

/-!
# Name tables with one entry per name

`NameTable.Distinct t`: no two entries of `t` have the same name. Every table is distinct, since its
index has no name twice (`NameTable.distinct`), and so a filter of a table loses exactly the entries
it is asked to (`NameTable.get?_filter`).

A table to which names are added one after the other has each name once, where and as it stands
first (`NameTable.names_foldl_insert`).
-/

namespace ClassScript

theorem sameName_symm {a b : String} (h : sameName a b = true) : sameName b a = true :=
  sameName_comm a b ▸ h

/-- Two spellings of one name are the same as any third name together. -/
theorem sameName_congr_right {a b : String} (h : sameName a b = true) (c : String) :
    sameName c a = sameName c b := by
  simp only [sameName, sameName_iff.1 h]

theorem sameName_congr_left {a b : String} (h : sameName a b = true) (c : String) :
    sameName a c = sameName b c := by
  simp only [sameName, sameName_iff.1 h]

theorem eraseDupsBy_of_pairwise {α : Type} {r : α → α → Bool} {as : List α}
    (h : as.Pairwise fun a b => r b a = false) : as.eraseDupsBy r = as := by
  induction h with
  | nil => rfl
  | @cons a as hd _ ih =>
    have rest : as.filter (fun b => decide (r b a = false)) = as := by
      refine List.filter_eq_self.2 fun b hb => ?_
      rw [hd b hb]
      rfl
    rw [List.eraseDupsBy_cons, rest, ih]

namespace NameTable

variable {α : Type}

@[simp] theorem get?_empty (name : String) : (empty : NameTable α).get? name = none := rfl

/-- Look-up does not see the spelling of a name. -/
theorem get?_congr (t : NameTable α) {n n' : String} (h : sameName n n' = true) :
    t.get? n = t.get? n' := by
  rw [get?_eq, get?_eq]
  congr 2
  funext e
  exact sameName_congr_right h e.1

theorem contains_congr (t : NameTable α) {n n' : String} (h : sameName n n' = true) :
    t.contains n = t.contains n' := by
  rw [contains_eq, contains_eq, t.get?_congr h]

theorem contains_eq_any (t : NameTable α) (name : String) :
    t.contains name = t.names.any (sameName · name) := by
  rw [contains_eq_find?, names, List.isSome_find?, List.any_map]
  rfl

theorem contains_of_names {β : Type} {t : NameTable α} {t' : NameTable β} (h : t.names = t'.names)
    (name : String) : t.contains name = t'.contains name := by
  rw [contains_eq_any, contains_eq_any, h]

/-- No name has two entries. -/
def Distinct (t : NameTable α) : Prop := t.names.Pairwise fun a b => sameName a b = false

theorem distinct (t : NameTable α) : t.Distinct := by
  have h := t.indexed.nodup
  unfold keys at h
  rw [List.nodup_iff_pairwise_ne, List.pairwise_map] at h
  exact List.pairwise_map.2 (h.imp fun hne => Bool.eq_false_iff.2 fun hs => hne (sameName_iff.1 hs))

theorem sameName_of_get? {t : NameTable α} {name : String} {v : α} (h : t.get? name = some v) :
    ∃ key, sameName key name = true ∧ (key, v) ∈ t.entries := by
  rw [get?_eq] at h
  obtain ⟨⟨key, w⟩, hf, rfl⟩ := Option.map_eq_some_iff.1 h
  exact ⟨key, by simpa using List.find?_some hf, List.mem_of_find?_eq_some hf⟩

theorem contains_of_mem {t : NameTable α} {key : String} (h : key ∈ t.names) :
    t.contains key = true := by
  obtain ⟨e, he, rfl⟩ := List.mem_map.1 h
  rw [contains_eq_find?, List.find?_isSome]
  exact ⟨e, he, sameName_self _⟩

/-- The table with a function applied to every value. -/
def map {β : Type} (f : α → β) (t : NameTable α) : NameTable β :=
  ofEntries (t.entries.map fun e => (e.1, f e.2)) (by
    rw [keys, List.map_map]
    exact t.indexed.nodup)

/-- A filter keeps the value of a name or forgets the name. -/
theorem get?_filter (t : NameTable α) (p : α → Bool) (name : String) :
    (t.filter p).get? name = (t.get? name).filter p := by
  have h := t.distinct
  unfold Distinct names at h
  rw [get?_eq, get?_eq, entries_filter]
  generalize t.entries = es at h ⊢
  induction es with
  | nil => rfl
  | cons e es ih =>
    simp only [List.map_cons, List.pairwise_cons] at h
    obtain ⟨hd, htl⟩ := h
    by_cases hs : sameName e.1 name
    · -- the other entries have other names, so nothing replaces an entry that goes
      have rest : (es.filter fun e => p e.2).find? (fun e => sameName e.1 name) = none := by
        refine List.find?_eq_none.2 fun e' he' hs' => ?_
        have hne := hd e'.1 (List.mem_map_of_mem (List.mem_filter.1 he').1)
        rw [sameName_trans hs (sameName_symm hs')] at hne
        cases hne
      by_cases hp : p e.2 <;> simp [hs, hp, rest, Option.filter]
    · by_cases hp : p e.2 <;> simpa [hs, hp] using ih htl

/-! ## Entries that are added one after the other -/

section

variable {β : Type} (name : β → String) (value : β → α) (bs : List β) {t : NameTable α}

theorem contains_foldl_insert (t : NameTable α) (n : String) :
    (bs.foldl (fun t b => t.insert (name b) (value b)) t).contains n = true ↔
      (∃ b ∈ bs, sameName (name b) n = true) ∨ t.contains n = true := by
  induction bs generalizing t with
  | nil => simp
  | cons b bs ih =>
    rw [List.foldl_cons, ih, contains_insert, Bool.or_eq_true]
    simp only [List.mem_cons, exists_eq_or_imp, or_assoc, or_left_comm]

/-- What is found under a name that all that is added agrees on, if any of it has the name or the
table has it so before. -/
theorem get?_foldl_insert {n : String} {w : Option α}
    (hsame : ∀ b ∈ bs, sameName (name b) n = true → some (value b) = w)
    (hw : (∃ b ∈ bs, sameName (name b) n = true) ∨ t.get? n = w) :
    (bs.foldl (fun t b => t.insert (name b) (value b)) t).get? n = w := by
  induction bs generalizing t with
  | nil => simpa using hw
  | cons b bs ih =>
    refine ih (fun b' hb' => hsame b' (List.mem_cons_of_mem _ hb')) ?_
    rw [get?_insert]
    by_cases hb : sameName (name b) n
    · exact .inr (by simpa [hb] using hsame b List.mem_cons_self hb)
    · simp only [hb, Bool.false_eq_true, if_false]
      rcases hw with ⟨b', hb', hn⟩ | hw
      · rcases List.mem_cons.1 hb' with rfl | hb'
        · exact absurd hn hb
        · exact .inl ⟨b', hb', hn⟩
      · exact .inr hw

/-- A name that is inserted before others stands at the end, unless the table has it already, and
none of the others takes its place. -/
theorem names_insert_append (t : NameTable α) (n : String) (v : α) (later : List String) :
    (t.insert n v).names ++
        (later.filter fun k => !(t.insert n v).contains k).eraseDupsBy sameName =
      t.names ++ ((n :: later).filter fun k => !t.contains k).eraseDupsBy sameName := by
  by_cases hn : t.contains n = true
  · have same : ∀ k, (!(t.insert n v).contains k) = !t.contains k := by
      intro k
      rw [contains_insert]
      by_cases hk : sameName n k = true
      · rw [hk, ← t.contains_congr hk, hn]
        rfl
      · rw [Bool.eq_false_iff.2 hk, Bool.false_or]
    rw [names_insert, if_pos hn, List.filter_cons_of_neg (by simp [hn]),
      List.filter_congr fun k _ => same k]
  · have rest : later.filter (fun k => !(t.insert n v).contains k) =
        (later.filter fun k => !t.contains k).filter fun k => decide (sameName k n = false) := by
      rw [List.filter_filter]
      refine List.filter_congr fun k _ => ?_
      rw [contains_insert, sameName_comm]
      cases sameName k n <;> rfl
    rw [names_insert, if_neg hn, List.filter_cons_of_pos (by simp [hn]), List.eraseDupsBy_cons,
      rest, List.append_assoc, List.singleton_append]

/-- Names that are there already stay; of the others each is added where it stands first. -/
theorem names_foldl_insert (v : α) (t : NameTable α) :
    (bs.foldl (fun t b => t.insert (name b) v) t).names =
      t.names ++ (((bs.map name).filter fun n => !t.contains n).eraseDupsBy sameName) := by
  induction bs generalizing t with
  | nil => simp [List.eraseDupsBy, List.eraseDupsBy.loop]
  | cons b bs ih => rw [List.foldl_cons, ih, names_insert_append, List.map_cons]

/-- All names are new to the table without entries. -/
theorem names_empty_append (ns : List String) :
    (empty : NameTable α).names ++
      (ns.filter fun n => !(empty : NameTable α).contains n).eraseDupsBy sameName =
      ns.eraseDupsBy sameName := by
  have all : ns.filter (fun n => !(empty : NameTable α).contains n) = ns :=
    List.filter_eq_self.2 fun _ _ => rfl
  rw [all]
  rfl

theorem names_foldl_insert_empty (v : α) :
    (bs.foldl (fun t b => t.insert (name b) v) (empty : NameTable α)).names =
      (bs.map name).eraseDupsBy sameName := by
  rw [names_foldl_insert, names_empty_append]

end

end NameTable

end ClassScript
