import ClassScript.Proofs.Registration.Origin

/-!
# Batches with rejected declarations

What becomes of a declaration depends on the table only through its name (`Registration.verdict`).
A rejected one leaves the table as it is, so each declaration of a batch finds the table of the
accepted ones before it and nothing else (`Registration.judged`). The accepted declarations alone
are therefore a batch without errors that makes the same classes (`Registration.kept_accepts`).

Main statement: `rejected_declarations_have_no_effect`.
-/

namespace ClassScript

namespace Registration

/-! ## One declaration -/

/-- What becomes of a declaration in a table: its class, or the error that it is rejected with. -/
def verdict (t : ClassTable) (decl : ClassDecl) : Except RegistrationError ClassInfo :=
  if t.contains decl.name.name then .error (.duplicateClass decl.name.name decl.name.span)
  else answer (register [] decl) #[]

/-- The error of a rejection. -/
def refusal? : Except RegistrationError ClassInfo → Option RegistrationError
  | .ok _ => none
  | .error e => some e

variable {t : ClassTable} {decl : ClassDecl} {c : ClassInfo} {e : RegistrationError}

theorem answer_eq_ok : answer (register [] decl) #[] = .ok c ↔ Registers decl c := by
  constructor
  · intro h log
    rw [register_ignoresLog [] decl #[] log] at h
    unfold answer at h
    cases hr : register [] decl log <;> rw [hr] at h <;> cases h
    exact ⟨_, rfl⟩
  · intro h
    obtain ⟨log, hr⟩ := h #[]
    unfold answer
    rw [hr]

theorem verdict_eq_ok :
    verdict t decl = .ok c ↔ t.contains decl.name.name = false ∧ Registers decl c := by
  unfold verdict
  split
  · rename_i hc
    exact ⟨nofun, fun h => by rw [hc] at h; cases h.1⟩
  · rename_i hc
    rw [answer_eq_ok, Bool.not_eq_true] at *
    exact ⟨fun h => ⟨hc, h⟩, And.right⟩

/-- The table after a declaration came to this. -/
def settled (t : ClassTable) : Except RegistrationError ClassInfo → ClassTable
  | .ok c => t.add c
  | .error _ => t

theorem admitted_eq (t : ClassTable) (decl : ClassDecl) :
    admitted t decl = (verdict t decl).toOption.toList := by
  unfold admitted verdict made? answer
  split
  · rfl
  · cases register [] decl #[] <;> rfl

theorem settled_verdict (t : ClassTable) (decl : ClassDecl) :
    settled t (verdict t decl) = ⟨t.classes ++ admitted t decl⟩ := by
  rw [admitted_eq]
  cases verdict t decl with
  | ok c => rfl
  | error e => exact congrArg ClassTable.mk (List.append_nil _).symm

/-- A well-formed declaration is accepted if its name is free, and nothing else is. -/
theorem verdict_accepts : (∃ c, verdict t decl = .ok c ∧ decl.Describes [] c) ↔
    decl.WellFormed ∧ t.contains decl.name.name = false := by
  simp only [verdict_eq_ok]
  have spec := register_spec [] decl #[]
  constructor
  · rintro ⟨c, ⟨hfree, hc⟩, -⟩
    obtain ⟨log, hr⟩ := hc #[]
    rw [hr] at spec
    exact ⟨spec.1, hfree⟩
  · rintro ⟨hw, hfree⟩
    cases hr : register [] decl #[] with
    | ok c log =>
      rw [hr] at spec
      exact ⟨c, ⟨hfree, register_any_log [] decl hr⟩, spec.2⟩
    | error e log =>
      rw [hr] at spec
      exact absurd hw spec

theorem step_rejects {out : Outcome} (h : verdict out.table decl = .error e) :
    ∃ log, step out decl = { out with errors := out.errors ++ [e], log } := by
  unfold verdict at h
  unfold step registerInto
  split at h
  · rename_i hc
    cases h
    rw [if_pos hc]
    exact ⟨out.log, rfl⟩
  · rename_i hc
    rw [register_ignoresLog [] decl #[] out.log] at h
    unfold answer at h
    rw [if_neg hc]
    cases hr : register [] decl out.log <;> rw [hr] at h <;> cases h
    rename_i log
    exact ⟨log, by simp only [EStateM.run, bind, EStateM.bind, hr]⟩

/-! ## Batches -/

/-- Each declaration of a batch with what becomes of it after those before it. -/
def judged (t : ClassTable) : List ClassDecl → List (ClassDecl × Except RegistrationError ClassInfo)
  | [] => []
  | decl :: decls => (decl, verdict t decl) :: judged (settled t (verdict t decl)) decls

/-- The declarations that are accepted. -/
def kept (outcomes : List (ClassDecl × Except RegistrationError ClassInfo)) : List ClassDecl :=
  (outcomes.filter fun o => o.2.isOk).map Prod.fst

theorem judged_fst : ∀ (t : ClassTable) (decls : List ClassDecl),
    (judged t decls).map Prod.fst = decls
  | _, [] => rfl
  | t, decl :: decls => by rw [judged, List.map_cons, judged_fst]

theorem judged_take : ∀ (t : ClassTable) (decls : List ClassDecl) (i : Nat),
    (judged t decls).take i = judged t (decls.take i)
  | _, _, 0 => rfl
  | _, [], _ + 1 => rfl
  | t, decl :: decls, i + 1 => by
    rw [judged, List.take_succ_cons, List.take_succ_cons, judged, judged_take]

theorem accepted_eq : ∀ (t : ClassTable) (decls : List ClassDecl),
    accepted t decls = (judged t decls).filterMap fun o => o.2.toOption
  | _, [] => rfl
  | t, decl :: decls => by
    rw [accepted, judged, List.filterMap_cons, accepted_eq, settled_verdict, admitted_eq]
    cases verdict t decl <;> rfl

/-- A declaration finds the table with the classes that were accepted before it. -/
theorem judged_getElem? : ∀ {t : ClassTable} {decls : List ClassDecl} {i : Nat}
    {o : ClassDecl × Except RegistrationError ClassInfo}, (judged t decls)[i]? = some o →
    o.2 = verdict ⟨t.classes ++ accepted t (decls.take i)⟩ o.1
  | t, decl :: decls, 0, o, h => by
    cases h
    simp [accepted]
  | t, decl :: decls, i + 1, o, h => by
    rw [judged, List.getElem?_cons_succ, settled_verdict] at h
    rw [judged_getElem? h, List.take_succ_cons, accepted, List.append_assoc]

/-- Each rejection adds its error, after those before it. -/
theorem foldl_step_refusals : ∀ (decls : List ClassDecl) (out : Outcome),
    (decls.foldl step out).errors =
      out.errors ++ (judged out.table decls).filterMap fun o => refusal? o.2
  | [], out => by simp [judged]
  | decl :: decls, out => by
    rw [List.foldl_cons, foldl_step_refusals decls, judged, List.filterMap_cons,
      (step_admitted out decl).1, settled_verdict]
    cases hv : verdict out.table decl with
    | ok c =>
      obtain ⟨hfree, hc⟩ := verdict_eq_ok.1 hv
      obtain ⟨log, hs⟩ := step_accepts hc hfree
      rw [hs]
      rfl
    | error e =>
      obtain ⟨log, hs⟩ := step_rejects hv
      rw [hs, List.append_assoc]
      rfl

/-- The accepted declarations alone are accepted, and made into the same classes. -/
theorem kept_accepts : ∀ (t : ClassTable) (decls : List ClassDecl),
    Accepts t (kept (judged t decls)) (accepted t decls)
  | _, [] => ⟨.nil, List.nodup_nil, nofun⟩
  | t, decl :: decls => by
    have rest := kept_accepts (settled t (verdict t decl)) decls
    rw [judged, accepted, ← settled_verdict, admitted_eq]
    cases hv : verdict t decl with
    | ok c =>
      obtain ⟨hfree, hc⟩ := verdict_eq_ok.1 hv
      rw [hv] at rest
      exact rest.cons hc hfree
    | error e =>
      rw [hv] at rest
      exact rest

/-- A name is taken after a batch if it was taken before, or an accepted declaration has it. -/
theorem contains_accepted (t : ClassTable) (decls : List ClassDecl) (name : String) :
    ClassTable.contains ⟨t.classes ++ accepted t decls⟩ name =
      (t.contains name || (kept (judged t decls)).any fun d => sameName d.name.name name) := by
  have names : ∀ {ds : List ClassDecl} {cs : List ClassInfo}, List.Forall₂ Registers ds cs →
      cs.any (fun c => sameName c.name name) = ds.any fun d => sameName d.name.name name := by
    intro ds cs h
    induction h with
    | nil => rfl
    | cons hc _ ih => rw [List.any_cons, List.any_cons, hc.name, ih]
  unfold ClassTable.contains ClassTable.get?
  rw [List.isSome_find?, List.isSome_find?, List.any_append, names (kept_accepts t decls).classes]

end Registration

open Registration

/-- **Rejected declarations have no effect on a batch.** Take any table and any batch, and what
becomes of each declaration of the batch. The table that registration leaves is the one it started
with, followed by the classes of the accepted declarations in order, so a class that was there is
found as before. There is one error for each rejected declaration, in order. The accepted
declarations alone make the same table without errors. And a declaration is accepted exactly if it
is well formed and its name is neither in the table nor that of one accepted before it. -/
theorem rejected_declarations_have_no_effect (t : ClassTable) (decls : List ClassDecl) :
    let out := registerAll t decls
    let outcomes := judged t decls
    outcomes.map Prod.fst = decls ∧
    out.table = ⟨t.classes ++ outcomes.filterMap fun o => o.2.toOption⟩ ∧
    (∀ name c, t.get? name = some c → out.table.get? name = some c) ∧
    out.errors = outcomes.filterMap (fun o => refusal? o.2) ∧
    out.accepted = (kept outcomes).length ∧
    out.accepted + out.errors.length = decls.length ∧
    (registerAll t (kept outcomes)).table = out.table ∧
    (registerAll t (kept outcomes)).errors = [] ∧
    ∀ i decl v, outcomes[i]? = some (decl, v) →
      ((∃ c, v = .ok c ∧ decl.Describes [] c) ↔
        decl.WellFormed ∧ t.contains decl.name.name = false ∧
          ∀ d ∈ kept (outcomes.take i), sameName d.name.name decl.name.name = false) := by
  intro out outcomes
  obtain ⟨htable, hcount, herrors⟩ := foldl_step_accepted decls ⟨t, 0, [], #[]⟩
  have alone := kept_accepts t decls
  have length : (accepted t decls).length = (kept outcomes).length := alone.classes.length_eq.symm
  refine ⟨judged_fst t decls, ?_, fun name c hc => (registerAll_extends t decls).get? hc, ?_, ?_, ?_,
    ?_, alone.registerAll.1, fun i decl v hv => ?_⟩
  · exact (registerAll_table t decls).trans (by rw [accepted_eq])
  · exact (foldl_step_refusals decls ⟨t, 0, [], #[]⟩).trans (List.nil_append _)
  · exact (hcount.trans (Nat.zero_add _)).trans length
  · show (decls.foldl step _).accepted + (decls.foldl step _).errors.length = _
    rw [hcount]
    simp only [List.length_nil, Nat.zero_add] at herrors ⊢
    rw [Nat.add_comm, herrors]
  · exact alone.registerAll.2.trans (registerAll_table t decls).symm
  · have found : v = _ := judged_getElem? hv
    rw [found, verdict_accepts, contains_accepted, Bool.or_eq_false_iff, List.any_eq_false,
      show outcomes.take i = _ from judged_take t decls i]
    simp only [Bool.not_eq_true]

end ClassScript
