import ClassScript.Proofs.NameTable

/-!
# Name tables as association lists

A table is updated by insertions and by changes in place (`NameTable.Update`). An update does to the
entries what it does to a list that is searched from the front (`Update.onTable_eq`), and so does
every sequence of updates, with the same answers on the way (`outcomes_onTable`). The index takes no
part in this: it has the position of every entry under its folded name, and nothing else
(`mem_index`).

`NameTable.refines_association_list` says this of every table that updates make from the empty one,
and what the next update of such a table does.
-/

namespace ClassScript

namespace NameTable

variable {α : Type}

/-- The entry of a name in an association list. -/
def search (name : String) (es : List (String × α)) : Option (String × α) :=
  es.find? fun e => sameName e.1 name

/-! ## Sequences of updates -/

/-- An update of a table: the insertion of a value, or a change of the value that stands there. -/
inductive Update (α : Type) where
  | insert (name : String) (value : α)
  | modify (name : String) (f : α → α)

namespace Update

/-- The value that the name of an update had, and the table after the update. -/
def onTable (t : NameTable α) : Update α → Option α × NameTable α
  | .insert name value => t.exchange name value
  | .modify name f => (t.get? name, t.modify name f)

/-- The same for an association list. -/
def onEntries (es : List (String × α)) : Update α → Option α × List (String × α)
  | .insert name value => ((search name es).map Prod.snd, insertEntry name value es)
  | .modify name f => ((search name es).map Prod.snd, modifyEntry name f es)

/-- The name that an update may add. -/
def inserted? : Update α → Option String
  | .insert name _ => some name
  | .modify _ _ => none

end Update

/-- What updates answer one after the other, and the state that they lead to. -/
def outcomes {σ : Type} (step : σ → Update α → Option α × σ) :
    σ → List (Update α) → List (Option α) × σ
  | s, [] => ([], s)
  | s, u :: us =>
    let first := step s u
    let rest := outcomes step first.2 us
    (first.1 :: rest.1, rest.2)

theorem exchange_fst (t : NameTable α) (name : String) (value : α) :
    (t.exchange name value).1 = t.get? name := by
  simp only [exchange, Raw.insert_eq, get?, Raw.entry?]
  cases t.slot? name <;> rfl

theorem Update.onTable_eq (t : NameTable α) (u : Update α) :
    ((u.onTable t).1, (u.onTable t).2.entries) = u.onEntries t.entries := by
  cases u with
  | insert name value =>
    exact Prod.ext ((t.exchange_fst name value).trans (t.get?_eq name)) (t.entries_insert name value)
  | modify name f => exact Prod.ext (t.get?_eq name) (t.entries_modify name f)

theorem outcomes_onTable (t : NameTable α) (us : List (Update α)) :
    ((outcomes Update.onTable t us).1, (outcomes Update.onTable t us).2.entries) =
      outcomes Update.onEntries t.entries us := by
  induction us generalizing t with
  | nil => rfl
  | cons u us ih =>
    simp only [outcomes]
    rw [← Update.onTable_eq, ← ih]

/-- Names that are there stay; of those that updates insert, each new one is added where it stands
first. -/
theorem names_outcomes (t : NameTable α) (us : List (Update α)) :
    (outcomes Update.onTable t us).2.names =
      t.names ++ ((us.filterMap Update.inserted?).filter fun n => !t.contains n).eraseDupsBy
        sameName := by
  induction us generalizing t with
  | nil => simp [outcomes, List.eraseDupsBy, List.eraseDupsBy.loop]
  | cons u us ih =>
    simp only [outcomes]
    rw [ih]
    cases u with
    | insert name value => exact t.names_insert_append name value _
    | modify name f =>
      have same : ∀ n, (t.modify name f).contains n = t.contains n :=
        contains_of_names (t.names_modify name f)
      simp only [Update.onTable, names_modify, same, Update.inserted?, List.filterMap_cons]

/-! ## The index -/

/-- The index has the position of every entry under its folded name, and nothing else. -/
theorem mem_index (t : NameTable α) (key : List Char) (slot : Nat) :
    (key, slot) ∈ t.index ↔ ∃ h : slot < t.entries.length, foldName t.entries[slot].1 = key := by
  rw [t.indexed.index_eq, List.mem_zipIdx_iff_getElem?, keys, List.getElem?_map,
    Option.map_eq_some_iff]
  constructor
  · rintro ⟨e, he, hkey⟩
    obtain ⟨h, rfl⟩ := List.getElem?_eq_some_iff.1 he
    exact ⟨h, hkey⟩
  · rintro ⟨h, rfl⟩
    exact ⟨_, List.getElem?_eq_getElem h, rfl⟩

theorem index_keys (t : NameTable α) : t.index.map Prod.fst = t.names.map foldName := by
  rw [t.indexed.index_eq, List.zipIdx_map_fst, keys, names, List.map_map]
  rfl

/-! ## One update of an association list -/

section

variable {name : String} {es : List (String × α)}

theorem insertEntry_of_absent (h : search name es = none) (value : α) :
    insertEntry name value es = es ++ [(name, value)] := by
  rw [insertEntry_eq, List.findIdx?_eq_none_iff.2 fun e he => ?_]
  exact Bool.eq_false_iff.2 (List.find?_eq_none.1 h e he)

theorem modifyEntry_of_absent (h : search name es = none) (f : α → α) :
    modifyEntry name f es = es := by
  rw [modifyEntry_eq, List.findIdx?_eq_none_iff.2 fun e he => ?_]
  exact Bool.eq_false_iff.2 (List.find?_eq_none.1 h e he)

variable {before after : List (String × α)} {spelling : String} (hs : sameName spelling name = true)
  (hb : ∀ e ∈ before, sameName e.1 name = false)
include hs hb

theorem insertEntry_of_present (old value : α) :
    insertEntry name value (before ++ (spelling, old) :: after) =
      before ++ (spelling, value) :: after := by
  induction before with
  | nil => simp [insertEntry, hs]
  | cons e before ih =>
    rw [List.forall_mem_cons] at hb
    simp [insertEntry, hb.1, ih hb.2]

theorem modifyEntry_of_present (old : α) (f : α → α) :
    modifyEntry name f (before ++ (spelling, old) :: after) =
      before ++ (spelling, f old) :: after := by
  induction before with
  | nil => simp [modifyEntry, hs]
  | cons e before ih =>
    rw [List.forall_mem_cons] at hb
    simp [modifyEntry, hb.1, ih hb.2]

end

/-- What a table knows of a name that no entry has, and what updates under it do. -/
theorem of_absent {t : NameTable α} {name : String} (h : search name t.entries = none) :
    (t.get? name = none ∧ t.spelling? name = none ∧ t.contains name = false) ∧
    ∀ (value : α) (f : α → α),
      (t.exchange name value).1 = none ∧
      (t.exchange name value).2.entries = t.entries ++ [(name, value)] ∧
      t.modify name f = t := by
  have hget : t.get? name = none := by rw [get?_eq, ← search, h, Option.map_none]
  refine ⟨⟨hget, ?_, ?_⟩, fun value f => ⟨?_, ?_, eq_of_entries ?_⟩⟩
  · rw [spelling?, entry?_eq, ← search, h, Option.map_none]
  · rw [contains_eq, hget, Option.isSome_none]
  · rw [exchange_fst, hget]
  · exact (t.entries_insert name value).trans (insertEntry_of_absent h value)
  · exact (t.entries_modify name f).trans (modifyEntry_of_absent h f)

/-- What a table knows of the name of an entry, and what updates under it do. -/
theorem of_present {t : NameTable α} {name spelling : String} {old : α}
    (h : search name t.entries = some (spelling, old)) :
    (t.get? name = some old ∧ t.spelling? name = some spelling ∧ t.contains name = true) ∧
    ∃ before after, t.entries = before ++ (spelling, old) :: after ∧
      ∀ (value : α) (f : α → α),
        (t.exchange name value).1 = some old ∧
        (t.exchange name value).2.entries = before ++ (spelling, value) :: after ∧
        (t.modify name f).entries = before ++ (spelling, f old) :: after := by
  have hget : t.get? name = some old := by rw [get?_eq, ← search, h, Option.map_some]
  obtain ⟨hs, before, after, hes, hb⟩ := List.find?_eq_some_iff_append.1 h
  have hb : ∀ e ∈ before, sameName e.1 name = false := fun e he => by simpa using hb e he
  refine ⟨⟨hget, ?_, ?_⟩, before, after, hes, fun value f => ⟨?_, ?_, ?_⟩⟩
  · rw [spelling?, entry?_eq, ← search, h, Option.map_some]
  · rw [contains_eq, hget, Option.isSome_some]
  · rw [exchange_fst, hget]
  · refine (t.entries_insert name value).trans ?_
    rw [hes, insertEntry_of_present hs hb]
  · rw [entries_modify, hes, modifyEntry_of_present hs hb]

/-- A table that updates make from the empty one is the association list that they make, with the
same answers. Its index has the folded names of its entries, no two of them alike, and every
position in it is one of an entry. Look-up is a search of the entries. An update under a new name
appends an entry if it is an insertion and does nothing otherwise; an update under a name that is
there answers the old value and changes that value alone. The names stand in the order in which they
were first inserted. -/
theorem refines_association_list (updates : List (Update α)) :
    let t := (outcomes Update.onTable .empty updates).2
    ((outcomes Update.onTable .empty updates).1, t.entries) = outcomes Update.onEntries [] updates ∧
    (∀ key slot, (key, slot) ∈ t.index ↔
      ∃ h : slot < t.entries.length, foldName t.entries[slot].1 = key) ∧
    t.index.map Prod.fst = t.names.map foldName ∧
    (t.names.map foldName).Nodup ∧
    (∀ name, match search name t.entries with
      | none =>
        (t.get? name = none ∧ t.spelling? name = none ∧ t.contains name = false) ∧
        ∀ (value : α) (f : α → α),
          (t.exchange name value).1 = none ∧
          (t.exchange name value).2.entries = t.entries ++ [(name, value)] ∧
          t.modify name f = t
      | some (spelling, old) =>
        (t.get? name = some old ∧ t.spelling? name = some spelling ∧ t.contains name = true) ∧
        ∃ before after, t.entries = before ++ (spelling, old) :: after ∧
          ∀ (value : α) (f : α → α),
            (t.exchange name value).1 = some old ∧
            (t.exchange name value).2.entries = before ++ (spelling, value) :: after ∧
            (t.modify name f).entries = before ++ (spelling, f old) :: after) ∧
    t.names = (updates.filterMap Update.inserted?).eraseDupsBy sameName := by
  intro t
  refine ⟨outcomes_onTable .empty updates, t.mem_index, t.index_keys, ?_, fun name => ?_, ?_⟩
  · rw [names, List.map_map]
    exact t.indexed.nodup
  · split
    next h => exact of_absent h
    next h => exact of_present h
  · rw [names_outcomes, names_empty_append]

/-- Another spelling of a name that is there replaces the value and keeps position and spelling. -/
theorem refines_association_list_of_respelling :
    let t := (outcomes Update.onTable .empty
      [.insert "a" 1, .insert "b" 2, .insert "A" 3, .modify "B" (· + 5), .modify "c" (· + 5)]).2
    t.entries = [("a", 3), ("b", 7)] ∧ t.names = ["a", "b"] := by
  intro t
  have h := refines_association_list
    [.insert "a" 1, .insert "b" 2, .insert "A" 3, .modify "B" (· + 5), .modify "c" (· + 5)]
  exact ⟨(congrArg Prod.snd h.1).trans (by decide), h.2.2.2.2.2.trans (by decide)⟩

end NameTable

end ClassScript
