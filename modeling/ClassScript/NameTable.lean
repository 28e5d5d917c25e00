import ClassScript.Name

/-! # Name tables

A table from names to values. Look-up ignores ASCII case, entries stand in the order in which their
names were first inserted, and an entry keeps the spelling and the position of that first insertion
when its value is replaced.

The entries stand in a list, and an index of folded names says where (`NameTable.Raw`). A table
carries the proof that the two agree (`NameTable.Raw.Indexed`), so look-up through the index is a
search of the entries (`NameTable.entry?_eq`), and what an update does to the entries can be said
without the index (`NameTable.entries_insert`, `NameTable.entries_modify`). -/

namespace ClassScript

/-- Entries, and where each name stands among them. -/
structure NameTable.Raw (α : Type) where
  entries : List (String × α) := []
  /-- The positions of the entries by folded name. -/
  index : List (List Char × Nat) := []

namespace NameTable

variable {α : Type}

/-- The folded names of entries, in order. -/
def keys (es : List (String × α)) : List (List Char) := es.map fun e => foldName e.1

namespace Raw

/-- The position that the index has for a name. -/
def slot? (t : Raw α) (name : String) : Option Nat := t.index.lookup (foldName name)

/-- The entry of a name, with the spelling it was first inserted under. -/
def entry? (t : Raw α) (name : String) : Option (String × α) :=
  (t.slot? name).bind (t.entries[·]?)

/-- Sets the value of a name; a new name goes to the end. Also the value that the name had. -/
def insert : Raw α → String → α → Option α × Raw α
  | ⟨entries, index⟩, name, value =>
    match index.lookup (foldName name) with
    | some slot =>
      (entries[slot]?.map Prod.snd, ⟨entries.modify slot fun e => (e.1, value), index⟩)
    | none => (none, ⟨entries ++ [(name, value)], index ++ [(foldName name, entries.length)]⟩)

/-- Changes the value of a name in place. -/
def modify : Raw α → String → (α → α) → Raw α
  | ⟨entries, index⟩, name, f =>
    match index.lookup (foldName name) with
    | some slot => ⟨entries.modify slot fun e => (e.1, f e.2), index⟩
    | none => ⟨entries, index⟩

/-- The index has the folded name of every entry with its position, and no name twice. -/
structure Indexed (t : Raw α) : Prop where
  index_eq : t.index = (keys t.entries).zipIdx
  nodup : (keys t.entries).Nodup

/-! ## Look-up through the index -/

theorem lookup_zipIdx (es : List (String × α)) (name : String) (start : Nat) :
    ((keys es).zipIdx start).lookup (foldName name) =
      (es.findIdx? fun e => sameName e.1 name).map (· + start) := by
  induction es generalizing start with
  | nil => rfl
  | cons e es ih =>
    simp only [keys, List.map_cons, List.zipIdx_cons, List.lookup_cons, List.findIdx?_cons,
      sameName, Bool.beq_comm (a := foldName name)] at ih ⊢
    cases foldName e.1 == foldName name with
    | true => simp
    | false =>
      simp only [Bool.false_eq_true, ↓reduceIte, ih, Option.map_map]
      congr 1
      funext i
      simp only [Function.comp_apply]
      omega

theorem Indexed.slot?_eq {t : Raw α} (h : t.Indexed) (name : String) :
    t.slot? name = t.entries.findIdx? fun e => sameName e.1 name := by
  unfold slot?
  rw [h.index_eq, lookup_zipIdx]
  simp

theorem Indexed.entry?_eq {t : Raw α} (h : t.Indexed) (name : String) :
    t.entry? name = t.entries.find? fun e => sameName e.1 name := by
  unfold entry?
  rw [h.slot?_eq, List.find?_eq_bind_findIdx?_getElem?]

/-! ## Updates of the two parts -/

theorem insert_eq (t : Raw α) (name : String) (value : α) :
    t.insert name value = match t.slot? name with
      | some slot =>
        (t.entries[slot]?.map Prod.snd,
          { t with entries := t.entries.modify slot fun e => (e.1, value) })
      | none =>
        (none, ⟨t.entries ++ [(name, value)], t.index ++ [(foldName name, t.entries.length)]⟩) :=
  rfl

theorem modify_eq (t : Raw α) (name : String) (f : α → α) :
    t.modify name f = match t.slot? name with
      | some slot => { t with entries := t.entries.modify slot fun e => (e.1, f e.2) }
      | none => t :=
  rfl

theorem mem_keys {es : List (String × α)} {name : String} :
    foldName name ∈ keys es ↔ ∃ e ∈ es, sameName e.1 name = true := by
  simp only [keys, List.mem_map, sameName_iff]

/-- A change of values moves no name. -/
theorem keys_modify (es : List (String × α)) (slot : Nat) (f : String × α → α) :
    keys (es.modify slot fun e => (e.1, f e)) = keys es := by
  induction es generalizing slot with
  | nil => cases slot <;> rfl
  | cons e es ih =>
    unfold keys at ih
    cases slot <;> simp [keys, List.modify_cons, ih]

theorem Indexed.modify_slot {t : Raw α} (h : t.Indexed) (slot : Nat) (f : String × α → α) :
    Indexed { t with entries := t.entries.modify slot fun e => (e.1, f e) } :=
  ⟨h.index_eq.trans (by rw [keys_modify]), by rw [keys_modify]; exact h.nodup⟩

theorem Indexed.insert {t : Raw α} (h : t.Indexed) (name : String) (value : α) :
    (t.insert name value).2.Indexed := by
  rw [insert_eq]
  split
  · exact h.modify_slot _ fun _ => value
  · rename_i hs
    rw [h.slot?_eq, List.findIdx?_eq_none_iff] at hs
    have hnew : foldName name ∉ keys t.entries := fun hm => by
      obtain ⟨e, he, hsame⟩ := mem_keys.1 hm
      rw [hs e he] at hsame
      cases hsame
    have hkeys : keys (t.entries ++ [(name, value)]) = keys t.entries ++ [foldName name] := by
      simp [keys]
    refine ⟨?_, ?_⟩
    · rw [hkeys, List.zipIdx_append, ← h.index_eq]
      simp [keys]
    · rw [hkeys, List.nodup_append]
      refine ⟨h.nodup, by simp, fun a ha b hb => ?_⟩
      rw [List.mem_singleton.1 hb]
      exact fun hab => hnew (hab ▸ ha)

theorem Indexed.modify {t : Raw α} (h : t.Indexed) (name : String) (f : α → α) :
    (t.modify name f).Indexed := by
  rw [modify_eq]
  split
  · exact h.modify_slot _ fun e => f e.2
  · exact h

end Raw

end NameTable

/-- Values by name, in order of first insertion. -/
structure NameTable (α : Type) extends NameTable.Raw α where
  indexed : toRaw.Indexed

namespace NameTable

variable {α : Type}

/-- The table without entries. -/
def empty : NameTable α := ⟨{}, rfl, List.nodup_nil⟩

instance : Inhabited (NameTable α) := ⟨empty⟩

/-- The table of some entries with different names. -/
def ofEntries (es : List (String × α)) (h : (keys es).Nodup) : NameTable α :=
  ⟨⟨es, (keys es).zipIdx⟩, rfl, h⟩

/-- The entries say all about a table. -/
theorem eq_of_entries {t t' : NameTable α} (h : t.entries = t'.entries) : t = t' := by
  obtain ⟨⟨es, index⟩, hindex, hn⟩ := t
  obtain ⟨⟨es', index'⟩, hindex', hn'⟩ := t'
  obtain rfl : es = es' := h
  obtain rfl : index = index' := hindex.trans hindex'.symm
  rfl

/-! ## Look-up -/

/-- The value of a name. -/
def get? (t : NameTable α) (name : String) : Option α :=
  (t.entry? name).map Prod.snd

/-- The spelling a name was first inserted under. -/
def spelling? (t : NameTable α) (name : String) : Option String :=
  (t.entry? name).map Prod.fst

/-- Whether the table has an entry of this name. -/
def contains (t : NameTable α) (name : String) : Bool :=
  (t.slot? name).isSome

/-- The number of entries. -/
def size (t : NameTable α) : Nat := t.entries.length

/-- Whether there are no entries. -/
def isEmpty (t : NameTable α) : Bool := t.entries.isEmpty

/-- The spellings, in order. -/
def names (t : NameTable α) : List String := t.entries.map Prod.fst

/-- The values, in order. -/
def values (t : NameTable α) : List α := t.entries.map Prod.snd

/-- Look-up is a search of the entries. -/
theorem entry?_eq (t : NameTable α) (name : String) :
    t.entry? name = t.entries.find? fun e => sameName e.1 name :=
  t.indexed.entry?_eq name

theorem get?_eq (t : NameTable α) (name : String) :
    t.get? name = (t.entries.find? fun e => sameName e.1 name).map Prod.snd := by
  rw [get?, entry?_eq]

theorem contains_eq_find? (t : NameTable α) (name : String) :
    t.contains name = (t.entries.find? fun e => sameName e.1 name).isSome := by
  rw [contains, t.indexed.slot?_eq, List.findIdx?_isSome, List.isSome_find?]

theorem contains_eq (t : NameTable α) (name : String) : t.contains name = (t.get? name).isSome := by
  rw [contains_eq_find?, get?_eq, Option.isSome_map]

/-! ## Update -/

/-- Sets the value of a name. Also the value that the name had. -/
def exchange (t : NameTable α) (name : String) (value : α) : Option α × NameTable α :=
  ((t.toRaw.insert name value).1, ⟨(t.toRaw.insert name value).2, t.indexed.insert name value⟩)

/-- Sets the value of a name. -/
def insert (t : NameTable α) (name : String) (value : α) : NameTable α := (t.exchange name value).2

/-- Changes the value of a name in place; a table without the name stays as it is. -/
def modify (t : NameTable α) (name : String) (f : α → α) : NameTable α :=
  ⟨t.toRaw.modify name f, t.indexed.modify name f⟩

/-- The entries of a table that a predicate on values keeps. -/
def filter (t : NameTable α) (p : α → Bool) : NameTable α :=
  ofEntries (t.entries.filter fun e => p e.2)
    (t.indexed.nodup.sublist (List.filter_sublist.map _))

/-! ## What an update does to the entries -/

/-- The entries with the value of `name` replaced, or with a new entry at the end. -/
def insertEntry (name : String) (value : α) : List (String × α) → List (String × α)
  | [] => [(name, value)]
  | (n, v) :: rest =>
    if sameName n name then (n, value) :: rest else (n, v) :: insertEntry name value rest

/-- The entries with `f` applied to the value of `name`. -/
def modifyEntry (name : String) (f : α → α) : List (String × α) → List (String × α)
  | [] => []
  | (n, v) :: rest =>
    if sameName n name then (n, f v) :: rest else (n, v) :: modifyEntry name f rest

theorem insertEntry_eq (name : String) (value : α) (es : List (String × α)) :
    insertEntry name value es = match es.findIdx? fun e => sameName e.1 name with
      | some slot => es.modify slot fun e => (e.1, value)
      | none => es ++ [(name, value)] := by
  induction es with
  | nil => rfl
  | cons e es ih =>
    rw [List.findIdx?_cons, insertEntry]
    by_cases hs : sameName e.1 name
    · simp [hs]
    · cases hf : es.findIdx? fun e => sameName e.1 name <;> simp [hs, hf, ih]

theorem modifyEntry_eq (name : String) (f : α → α) (es : List (String × α)) :
    modifyEntry name f es = match es.findIdx? fun e => sameName e.1 name with
      | some slot => es.modify slot fun e => (e.1, f e.2)
      | none => es := by
  induction es with
  | nil => rfl
  | cons e es ih =>
    rw [List.findIdx?_cons, modifyEntry]
    by_cases hs : sameName e.1 name
    · simp [hs]
    · cases hf : es.findIdx? fun e => sameName e.1 name <;> simp [hs, hf, ih]

@[simp] theorem entries_filter (t : NameTable α) (p : α → Bool) :
    (t.filter p).entries = t.entries.filter fun e => p e.2 := rfl

theorem entries_insert (t : NameTable α) (name : String) (value : α) :
    (t.insert name value).entries = insertEntry name value t.entries := by
  rw [insertEntry_eq, ← t.indexed.slot?_eq]
  simp only [insert, exchange, Raw.insert_eq]
  cases t.slot? name <;> rfl

theorem entries_modify (t : NameTable α) (name : String) (f : α → α) :
    (t.modify name f).entries = modifyEntry name f t.entries := by
  rw [modifyEntry_eq, ← t.indexed.slot?_eq]
  simp only [modify, Raw.modify_eq]
  cases t.slot? name <;> rfl

/-! ## Updates and look-up -/

theorem find?_insertEntry (name n : String) (value : α) (es : List (String × α)) :
    ((insertEntry name value es).find? fun e => sameName e.1 n).map Prod.snd =
      if sameName name n then some value
      else (es.find? fun e => sameName e.1 n).map Prod.snd := by
  induction es with
  | nil => by_cases h : sameName name n <;> simp [insertEntry, h]
  | cons e es ih =>
    obtain ⟨m, v⟩ := e
    by_cases hm : sameName m name
    · by_cases h : sameName name n
      · simp [insertEntry, hm, h, sameName_trans hm h]
      · have hmn : ¬ sameName m n = true := fun k =>
          h (sameName_trans (sameName_comm m name ▸ hm) k)
        simp [insertEntry, hm, h, hmn]
    · by_cases hmn : sameName m n
      · have h : ¬ sameName name n = true := fun k =>
          hm (sameName_trans hmn (sameName_comm name n ▸ k))
        simp [insertEntry, hm, h, hmn]
      · simp [insertEntry, hm, hmn, ih]

/-- The inserted value is found under every spelling of its name, and nothing else changes. -/
theorem get?_insert (t : NameTable α) (name n : String) (value : α) :
    (t.insert name value).get? n = if sameName name n then some value else t.get? n := by
  rw [get?_eq, entries_insert, find?_insertEntry, ← get?_eq]

theorem contains_insert (t : NameTable α) (name n : String) (value : α) :
    (t.insert name value).contains n = (sameName name n || t.contains n) := by
  rw [contains_eq, get?_insert, contains_eq]
  cases sameName name n <;> simp

/-- A new name goes to the end; a name that is there keeps its place and its spelling. -/
theorem names_insert (t : NameTable α) (name : String) (value : α) :
    (t.insert name value).names = if t.contains name then t.names else t.names ++ [name] := by
  rw [contains_eq_find?]
  unfold names
  rw [entries_insert]
  induction t.entries with
  | nil => rfl
  | cons e es ih =>
    obtain ⟨m, v⟩ := e
    by_cases h : sameName m name
    · simp [insertEntry, h]
    · by_cases k : (es.find? fun e => sameName e.1 name).isSome <;>
        simp [insertEntry, h, k] at ih ⊢ <;> exact ih

theorem find?_modifyEntry (name n : String) (f : α → α) (es : List (String × α)) :
    ((modifyEntry name f es).find? fun e => sameName e.1 n).map Prod.snd =
      if sameName name n then ((es.find? fun e => sameName e.1 n).map Prod.snd).map f
      else (es.find? fun e => sameName e.1 n).map Prod.snd := by
  induction es with
  | nil => simp [modifyEntry]
  | cons e es ih =>
    obtain ⟨m, v⟩ := e
    by_cases hm : sameName m name
    · by_cases h : sameName name n
      · simp [modifyEntry, hm, h, sameName_trans hm h]
      · have hmn : ¬ sameName m n = true := fun k =>
          h (sameName_trans (sameName_comm m name ▸ hm) k)
        simp [modifyEntry, hm, h, hmn]
    · by_cases hmn : sameName m n
      · have h : ¬ sameName name n = true := fun k =>
          hm (sameName_trans hmn (sameName_comm name n ▸ k))
        simp [modifyEntry, hm, h, hmn]
      · simp [modifyEntry, hm, hmn, ih]

theorem get?_modify (t : NameTable α) (name n : String) (f : α → α) :
    (t.modify name f).get? n = if sameName name n then (t.get? n).map f else t.get? n := by
  rw [get?_eq, entries_modify, find?_modifyEntry, ← get?_eq]

/-- A change in place keeps all names. -/
@[simp] theorem names_modify (t : NameTable α) (name : String) (f : α → α) :
    (t.modify name f).names = t.names := by
  unfold names
  rw [entries_modify]
  induction t.entries with
  | nil => rfl
  | cons e es ih =>
    obtain ⟨m, v⟩ := e
    by_cases h : sameName m name <;> simp [modifyEntry, h]
    exact ih

end NameTable

end ClassScript
