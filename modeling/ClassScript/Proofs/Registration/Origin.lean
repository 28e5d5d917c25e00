import ClassScript.Proofs.Engine.History
import ClassScript.Proofs.Registration.WellFormed

/-!
# Where the classes of a table come from

Registration starts from the built-in classes and adds what well-formed declarations are made into.
So every class of a registered table, inner classes included, is built in or has what a well-formed
declaration declares (`ClassTable.Has.origin`).

The path of a class leads back to it (`ClassTable.Has.found`), because classes beside each other
have different names. So a path tells the classes of a table apart (`ClassTable.Has.path_inj`).
-/

namespace ClassScript

/-! ## Classes and their declarations -/

namespace Registration

theorem registerAll_table (t : ClassTable) (decls : List ClassDecl) :
    (registerAll t decls).table = ⟨t.classes ++ accepted t decls⟩ :=
  (foldl_step_accepted decls ⟨t, 0, [], #[]⟩).1

theorem registerAll_distinct (decls : List ClassDecl) :
    (registerAll .initial decls).table.DistinctNames := by
  rw [registerAll_table]
  exact accepted_distinct ClassTable.initial_distinct decls

/-- A class that declarations add has what one of them declares. -/
theorem accepted_described : ∀ {t : ClassTable} {decls : List ClassDecl} {c : ClassInfo},
    c ∈ accepted t decls → ∃ decl : ClassDecl, decl.WellFormed ∧ decl.Describes [] c
  | t, decl :: decls, c, hc => by
    rw [accepted, List.mem_append] at hc
    rcases hc with hc | hc
    · unfold admitted at hc
      split at hc
      · cases hc
      · obtain ⟨log, hr⟩ := made?_eq_some.1 (Option.mem_toList.1 hc) #[]
        have spec := register_spec [] decl #[]
        rw [hr] at spec
        exact ⟨decl, spec⟩
    · exact accepted_described hc

end Registration

namespace ClassDecl

/-- An inner class has what an inner declaration declares. -/
theorem DescribesAll.of_mem : ∀ {outer : List String} {decls : List ClassDecl}
    {cs : List ClassInfo} {c : ClassInfo}, DescribesAll outer decls cs → c ∈ cs →
      ∃ decl ∈ decls, decl.Describes outer c
  | _, _, _, c, @DescribesAll.cons _ decl _ _ _ hd hs, hc => by
    rcases List.mem_cons.1 hc with rfl | hc
    · exact ⟨decl, List.mem_cons_self, hd⟩
    · obtain ⟨decl', hmem, hdesc⟩ := hs.of_mem hc
      exact ⟨decl', List.mem_cons_of_mem _ hmem, hdesc⟩

theorem DescribesAll.names : ∀ {outer : List String} {decls : List ClassDecl}
    {cs : List ClassInfo}, DescribesAll outer decls cs →
      cs.map ClassInfo.name = decls.map fun d => d.name.name
  | _, _, _, .nil => rfl
  | _, _, _, .cons hd hs => by
    rw [List.map_cons, List.map_cons, Registration.describes_name hd, hs.names]

variable {outer : List String} {decl : ClassDecl} {c d : ClassInfo}

theorem Describes.own (h : decl.Describes outer c) : decl.DescribesOwn outer c := by
  cases h with
  | intro hown _ => exact hown

theorem Describes.inner (h : decl.Describes outer c) :
    DescribesAll (outer ++ [decl.name.name]) decl.innerClasses c.inner := by
  cases h with
  | intro _ hinner => exact hinner

theorem Describes.inner_path (h : decl.Describes outer c) (hd : d ∈ c.inner) :
    d.path = c.path ++ [d.name] := by
  obtain ⟨decl', -, hdesc⟩ := h.inner.of_mem hd
  rw [hdesc.own.path, h.own.path, Registration.describes_name hdesc]

/-- The inner classes of a class have different names. -/
theorem Describes.inner_distinct (hw : decl.WellFormed) (h : decl.Describes outer c) :
    (c.inner.map fun d => foldName d.name).Nodup := by
  have names : (c.inner.map fun d => foldName d.name) =
      decl.innerClasses.map fun d => foldName d.name.name := by
    have hn := congrArg (List.map foldName) h.inner.names
    rw [List.map_map, List.map_map] at hn
    exact hn
  cases hw with
  | intro _ hapart _ =>
    rw [names, List.nodup_iff_pairwise_ne, List.pairwise_map]
    exact hapart.imp fun hc hs => hc (sameName_iff.2 hs)

end ClassDecl

/-! ## Every class of a table -/

namespace ClassTable

variable {decls : List ClassDecl} {c d : ClassInfo}

theorem initial_inner (h : c ∈ initial.classes) : c.inner = [] ∧ c.outer = [] := by
  have all : initial.classes.all (fun c => c.inner.isEmpty && c.outer.isEmpty) = true := by
    decide +kernel
  simpa using List.all_eq_true.1 all c h

/-- A class of a registered table is built in, or has what a well-formed declaration declares. -/
theorem Has.origin (h : (Registration.registerAll .initial decls).table.Has c) :
    c ∈ initial.classes ∨
      ∃ (outer : List String) (decl : ClassDecl), decl.WellFormed ∧ decl.Describes outer c := by
  induction h with
  | top hc =>
    rw [Registration.registerAll_table, List.mem_append] at hc
    exact hc.imp_right fun hc => ⟨[], Registration.accepted_described hc⟩
  | @inner c d _ hd ih =>
    obtain hc | ⟨outer, decl, hw, hdesc⟩ := ih
    · rw [(initial_inner hc).1] at hd
      cases hd
    · obtain ⟨decl', hmem, hdesc'⟩ := hdesc.inner.of_mem hd
      cases hw with
      | intro _ _ hinner => exact .inr ⟨_, decl', hinner decl' hmem, hdesc'⟩

/-! ## Paths -/

/-- The class at a path. -/
def at? (t : ClassTable) : List String → Option ClassInfo
  | [] => none
  | name :: names => (t.get? name).bind (descend · names)

theorem descend_snoc (name : String) : ∀ (names : List String) (c : ClassInfo),
    descend c (names ++ [name]) = (descend c names).bind (·.inner? name)
  | [], c => by
    rw [List.nil_append, descend, descend, Option.bind_some]
    cases c.inner? name <;> rfl
  | n :: names, c => by
    rw [List.cons_append, descend, descend]
    cases c.inner? n with
    | none => rfl
    | some d => exact descend_snoc name names d

theorem at?_snoc (t : ClassTable) {path : List String} (h : path ≠ []) (name : String) :
    t.at? (path ++ [name]) = (t.at? path).bind (·.inner? name) := by
  cases path with
  | nil => exact absurd rfl h
  | cons n names =>
    rw [List.cons_append, at?, at?]
    cases t.get? n with
    | none => rfl
    | some c => exact descend_snoc name names c

/-- A class is found at its path. -/
theorem Has.found (h : (Registration.registerAll .initial decls).table.Has c) :
    (Registration.registerAll .initial decls).table.at? c.path = some c := by
  induction h with
  | @top c hc =>
    have outer : c.path = [c.name] := by
      have hm := hc
      rw [Registration.registerAll_table, List.mem_append] at hm
      rcases hm with hm | hm
      · rw [ClassInfo.path, (initial_inner hm).2, List.nil_append]
      · obtain ⟨decl, -, hdesc⟩ := Registration.accepted_described hm
        rw [hdesc.own.path, Registration.describes_name hdesc, List.nil_append]
    have found : (Registration.registerAll .initial decls).table.get? c.name = some c :=
      (find?_sameName (Registration.registerAll_distinct decls)).2 ⟨hc, sameName_self _⟩
    rw [outer, at?, found]
    rfl
  | @inner c d hc hd ih =>
    obtain hinit | ⟨outer, decl, hw, hdesc⟩ := hc.origin
    · rw [(initial_inner hinit).1] at hd
      cases hd
    · have found : c.inner? d.name = some d :=
        (find?_sameName (hdesc.inner_distinct hw)).2 ⟨hd, sameName_self _⟩
      rw [hdesc.inner_path hd, at?_snoc _ (by simp [ClassInfo.path]), ih]
      exact found

/-- Classes of a table with the same path are the same. -/
theorem Has.path_inj (hc : (Registration.registerAll .initial decls).table.Has c)
    (hd : (Registration.registerAll .initial decls).table.Has d) (h : c.path = d.path) : c = d :=
  Option.some.inj (hc.found.symm.trans (h ▸ hd.found))

end ClassTable

end ClassScript
