import ClassScript.Proofs.Memory.Course
import ClassScript.Proofs.Resolution.Site

/-!
# Tables of fields

A new instance has one entry for each field name (`Calls.names_nullFields`), and a static table has
the names of the static fields of its class (`Statics.names_nulls`). The instance fields of a
registered class stand under their own names (`ClassTable.Has.instance_name`).

Touching a chain makes a table for each class that has none, and leaves the other tables alone
(`Statics.table?_touch`). The initializers that it makes due are those of the new tables
(`Statics.mem_touch`), and each of them comes once (`Statics.touch_nodup`).
-/

namespace ClassScript

/-- A new instance has one entry for each field name, where and as it stands first. -/
theorem Calls.names_nullFields (fields : List FieldInfo) :
    (nullFields fields).names = (fields.map FieldInfo.name).eraseDupsBy sameName :=
  NameTable.names_foldl_insert_empty FieldInfo.name fields Value.null

/-! ## The fields of a class -/

theorem ClassInfo.instance_name_initial {c : ClassInfo} (h : c ∈ ClassTable.initial.classes)
    {e : String × FieldInfo} (he : e ∈ c.instanceFields.entries) : e.1 = e.2.name := by
  have own : ClassTable.initial.classes.all (fun c =>
      c.instanceFields.entries.all fun e => e.1 == e.2.name) = true := by
    decide +kernel
  have hc := List.all_eq_true.1 own c h
  exact beq_iff_eq.1 (List.all_eq_true.1 hc e he)

/-- Instance fields stand under their own names. -/
theorem ClassTable.Has.instance_name {decls : List ClassDecl} {c : ClassInfo}
    (h : (Registration.registerAll .initial decls).table.Has c) {e : String × FieldInfo}
    (he : e ∈ c.instanceFields.entries) : e.1 = e.2.name := by
  obtain hinit | ⟨outer, decl, -, hdesc⟩ := h.origin
  · exact ClassInfo.instance_name_initial hinit he
  · rw [hdesc.own.instanceFields] at he
    obtain ⟨f, -, rfl⟩ := List.mem_map.1 he
    rfl

/-! ## Static tables -/

namespace Statics

/-- A static table has the names of the static fields of its class. -/
theorem names_nulls (c : ClassInfo) : (nulls c).names = c.staticFields.names := by
  have names := NameTable.names_foldl_insert_empty id c.staticFields.names Value.null
  rw [List.map_id, eraseDupsBy_of_pairwise
    (c.staticFields.distinct.imp fun hab => by rwa [sameName_comm])] at names
  exact names

theorem table?_set (s : Statics) (owner : List String) (name : String) (v : Value)
    (owner' : List String) : (s.set owner name v).table? owner' =
      if owner' = owner then (s.table? owner').map (·.insert name v) else s.table? owner' := by
  obtain ⟨tables⟩ := s
  unfold set table?
  induction tables with
  | nil => simp [setIn]
  | cons e tables ih =>
    obtain ⟨path, table⟩ := e
    by_cases hp : path = owner
    · subst hp
      by_cases ho : owner' = path
      · subst ho
        simp [setIn]
      · have hne : (owner' == path) = false := by simpa using ho
        simp [setIn, List.lookup_cons, ho, hne]
    · by_cases ho : owner' = path
      · subst ho
        simp [setIn, hp]
      · have hne : (owner' == path) = false := by simpa using ho
        simpa [setIn, hp, List.lookup_cons, hne] using ih

theorem contains_set (s : Statics) (owner : List String) (name : String) (v : Value)
    (owner' : List String) : (s.set owner name v).contains owner' = s.contains owner' := by
  unfold contains
  rw [table?_set]
  split
  · rw [Option.isSome_map]
  · rfl

/-- Touching a chain makes the tables that are missing (module doc). -/
theorem table?_touch : ∀ (chain : List ClassInfo) (s : Statics) (owner : List String),
    (s.touch chain).1.table? owner =
      (s.table? owner).or ((chain.find? fun c => c.path == owner).map nulls)
  | [], s, owner => by simp [touch]
  | c :: cs, s, owner => by
    unfold touch
    split
    · rename_i hc
      rw [table?_touch cs, List.find?_cons]
      split
      · rename_i he
        obtain rfl := eq_of_beq he
        obtain ⟨table, htable⟩ := Option.isSome_iff_exists.1 hc
        rw [htable]
        rfl
      · rfl
    · show ((touch _ cs).1).table? owner = _
      rw [table?_touch cs, List.find?_cons]
      unfold table?
      rw [List.lookup_append, Option.or_assoc]
      by_cases he : c.path = owner
      · subst he
        simp
      · have hne : (c.path == owner) = false := by simpa using he
        have hne' : (owner == c.path) = false := by simpa using Ne.symm he
        simp [List.lookup_cons, hne, hne']

theorem owner_of_pending {c : ClassInfo} {p : PendingStatic} (h : p ∈ pending c) :
    p.owner = c.path := by
  obtain ⟨⟨name, f⟩, -, hp⟩ := List.mem_filterMap.1 h
  obtain ⟨e, -, rfl⟩ := Option.map_eq_some_iff.1 hp
  rfl

/-- What is due is an initializer of a class that had no table. -/
theorem mem_touch : ∀ {chain : List ClassInfo} {s : Statics} {p : PendingStatic},
    p ∈ (s.touch chain).2 → ∃ c ∈ chain, p ∈ pending c ∧ s.table? c.path = none
  | c :: cs, s, p, hp => by
    unfold touch at hp
    split at hp
    · obtain ⟨d, hd, hpd⟩ := mem_touch hp
      exact ⟨d, List.mem_cons_of_mem _ hd, hpd⟩
    · rename_i hc
      rcases List.mem_append.1 hp with hp | hp
      · exact ⟨c, List.mem_cons_self, hp, by simpa [contains] using hc⟩
      · obtain ⟨d, hd, hpd, hnone⟩ := mem_touch hp
        refine ⟨d, List.mem_cons_of_mem _ hd, hpd, ?_⟩
        unfold table? at hnone ⊢
        rw [List.lookup_append] at hnone
        exact (Option.or_eq_none_iff.1 hnone).1

end Statics

/-- The static field that an initializer is for. -/
def PendingStatic.field (p : PendingStatic) : List String × List Char := (p.owner, foldName p.name)

namespace Statics

theorem pending_nodup (c : ClassInfo) : ((pending c).map PendingStatic.field).Nodup := by
  have names : c.staticFields.entries.Pairwise fun e e' => sameName e.1 e'.1 = false :=
    List.pairwise_map.1 c.staticFields.distinct
  rw [List.nodup_iff_pairwise_ne, List.pairwise_map]
  refine List.Pairwise.filterMap _ (fun e e' hne p hp p' hp' hfield => ?_) names
  obtain ⟨x, -, rfl⟩ := Option.map_eq_some_iff.1 hp
  obtain ⟨x', -, rfl⟩ := Option.map_eq_some_iff.1 hp'
  have hsame : sameName e.1 e'.1 = true := sameName_iff.2 (Prod.mk.inj hfield).2
  rw [hsame] at hne
  cases hne

/-- No initializer becomes due twice at once. -/
theorem touch_nodup : ∀ (chain : List ClassInfo) (s : Statics),
    ((s.touch chain).2.map PendingStatic.field).Nodup
  | [], _ => List.nodup_nil
  | c :: cs, s => by
    unfold touch
    split
    · exact touch_nodup cs s
    · show ((pending c ++ (touch _ cs).2).map PendingStatic.field).Nodup
      rw [List.map_append, List.nodup_append]
      refine ⟨pending_nodup c, touch_nodup cs _, ?_⟩
      -- the rest finds a table of this class
      intro k hk k' hk' he
      obtain ⟨p, hp, rfl⟩ := List.mem_map.1 hk
      obtain ⟨p', hp', rfl⟩ := List.mem_map.1 hk'
      obtain ⟨d, -, hpd, hnone⟩ := mem_touch hp'
      have howner : c.path = d.path := by
        rw [← owner_of_pending hp, ← owner_of_pending hpd]
        exact (Prod.mk.inj he).1
      rw [← howner] at hnone
      unfold table? at hnone
      rw [List.lookup_append] at hnone
      simp at hnone

end Statics

end ClassScript
