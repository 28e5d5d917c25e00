import ClassScript.Engine
import ClassScript.Proofs.Order.Registration
import ClassScript.Proofs.Order.Runs

/-!
# The history of an engine

What an engine holds after any sequence of calls (`Engine.after`), the ones that report errors
included. Registration adds a declaration's class if the declaration is well formed and its name is
free (`Registration.admitted`), so the classes of an engine are the built-in ones and, after them,
what its declarations were made into (`Registration.accepted`). The flag of a check is set by a
check without errors only, and cleared whenever the classes may change. Both together are
`Engine.Sound`, which every call keeps (`Engine.Sound.perform`).

Main statement: `engine_sound_after`.
-/

namespace ClassScript

namespace ClassTable

/-- No two classes of the table have the same name. -/
def DistinctNames (t : ClassTable) : Prop := (t.classes.map fun c => foldName c.name).Nodup

theorem not_contains_iff {t : ClassTable} {name : String} :
    t.contains name = false ↔ foldName name ∉ t.classes.map fun c => foldName c.name := by
  unfold contains get?
  rw [← Bool.not_eq_true, List.isSome_find?, List.any_eq_true, List.mem_map]
  simp only [sameName_iff]

theorem DistinctNames.add {t : ClassTable} (h : t.DistinctNames) {c : ClassInfo}
    (hfree : t.contains c.name = false) : (t.add c).DistinctNames := by
  unfold DistinctNames ClassTable.add
  rw [List.map_append, List.map_singleton, List.nodup_append]
  refine ⟨h, List.nodup_singleton _, ?_⟩
  rintro _ hn _ hs rfl
  exact not_contains_iff.1 hfree (List.mem_singleton.1 hs ▸ hn)

end ClassTable

namespace Registration

/-! ## What registration adds -/

/-- The class that a declaration is made into, if it is well formed. -/
def made? (decl : ClassDecl) : Option ClassInfo :=
  match register [] decl #[] with
  | .ok c _ => some c
  | .error _ _ => none

/-- What a declaration adds to a table: its class, if the declaration is well formed and its name is
free. -/
def admitted (t : ClassTable) (decl : ClassDecl) : List ClassInfo :=
  if t.contains decl.name.name then [] else (made? decl).toList

/-- What declarations add to a table, one after the other. -/
def accepted (t : ClassTable) : List ClassDecl → List ClassInfo
  | [] => []
  | decl :: decls => admitted t decl ++ accepted ⟨t.classes ++ admitted t decl⟩ decls

theorem made?_eq_some {decl : ClassDecl} {c : ClassInfo} :
    made? decl = some c ↔ Registers decl c := by
  unfold made?
  constructor
  · intro h
    split at h
    · rename_i hr
      cases h
      exact register_any_log [] decl hr
    · cases h
  · intro h
    obtain ⟨log, hr⟩ := h #[]
    rw [hr]

theorem made?_eq_none {decl : ClassDecl} (h : made? decl = none) (log : Log) :
    ∃ e log', register [] decl log = .error e log' := by
  cases hr : register [] decl log with
  | ok c log' =>
    rw [made?_eq_some.2 (register_any_log [] decl hr)] at h
    cases h
  | error e log' => exact ⟨e, log', rfl⟩

/-- What a step does to a batch's outcome: it adds a class, or reports an error. -/
theorem step_admitted (out : Outcome) (decl : ClassDecl) :
    (step out decl).table = ⟨out.table.classes ++ admitted out.table decl⟩ ∧
      (step out decl).accepted = out.accepted + (admitted out.table decl).length ∧
      (step out decl).errors.length + (admitted out.table decl).length = out.errors.length + 1 := by
  unfold admitted
  by_cases hc : out.table.contains decl.name.name
  · rw [if_pos hc]
    unfold step registerInto
    rw [if_pos hc]
    exact ⟨by rw [List.append_nil]; rfl, rfl, List.length_append⟩
  · rw [if_neg hc]
    cases hm : made? decl with
    | some c =>
      obtain ⟨log, heq⟩ := step_accepts (made?_eq_some.1 hm) (by simpa using hc)
      rw [heq]
      exact ⟨rfl, rfl, rfl⟩
    | none =>
      obtain ⟨e, log', hr⟩ := made?_eq_none hm out.log
      unfold step registerInto
      rw [if_neg hc]
      simp [EStateM.run, bind, EStateM.bind, hr]

/-- A batch adds exactly the classes of the declarations it accepts, in order; it counts these, and
reports one error for each of the others. -/
theorem foldl_step_accepted : ∀ (decls : List ClassDecl) (out : Outcome),
    (decls.foldl step out).table = ⟨out.table.classes ++ accepted out.table decls⟩ ∧
      (decls.foldl step out).accepted = out.accepted + (accepted out.table decls).length ∧
      (decls.foldl step out).errors.length + (accepted out.table decls).length =
        out.errors.length + decls.length
  | [], out => by simp [accepted]
  | decl :: decls, out => by
    obtain ⟨htable, haccepted, herrors⟩ := step_admitted out decl
    obtain ⟨htables, hcount, hrest⟩ := foldl_step_accepted decls (step out decl)
    rw [List.foldl_cons, htables, hcount, accepted, haccepted]
    rw [htable] at hrest ⊢
    refine ⟨by simp, by simp [Nat.add_assoc], ?_⟩
    simp only [List.length_append, List.length_cons]
    omega

theorem accepted_append : ∀ (t : ClassTable) (decls decls' : List ClassDecl),
    accepted t (decls ++ decls') =
      accepted t decls ++ accepted ⟨t.classes ++ accepted t decls⟩ decls'
  | t, [], decls' => by simp [accepted]
  | t, decl :: decls, decls' => by
    simp [accepted, accepted_append _ decls decls']

theorem admitted_distinct {t : ClassTable} (h : t.DistinctNames) (decl : ClassDecl) :
    ClassTable.DistinctNames ⟨t.classes ++ admitted t decl⟩ := by
  unfold admitted
  by_cases hc : t.contains decl.name.name
  · simpa [hc] using h
  · rw [if_neg hc]
    cases hm : made? decl with
    | none => simpa using h
    | some c =>
      refine h.add (c := c) ?_
      rw [(made?_eq_some.1 hm).name]
      simpa using hc

theorem accepted_distinct : ∀ {t : ClassTable}, t.DistinctNames → ∀ decls : List ClassDecl,
    ClassTable.DistinctNames ⟨t.classes ++ accepted t decls⟩
  | t, h, [] => by simpa [accepted] using h
  | t, h, decl :: decls => by
    have hd := accepted_distinct (admitted_distinct h decl) decls
    rwa [List.append_assoc] at hd

end Registration

theorem ClassTable.initial_distinct : ClassTable.initial.DistinctNames := by
  unfold DistinctNames
  decide +kernel

/-- The primitive classes of every program. -/
def Builtin.primitives : Primitives :=
  ⟨integerClass, doubleClass, stringClass, booleanClass, listClass, mapClass⟩

theorem Primitives.ofTable_initial : ofTable .initial = .ok Builtin.primitives := rfl

theorem Primitives.require_extends {t t' : ClassTable} (h : t.Extends t') {name : String}
    {c : ClassInfo} (hc : require t name = .ok c) : require t' name = .ok c := by
  unfold require at *
  cases ht : t.get? name with
  | none =>
    rw [ht] at hc
    cases hc
  | some d =>
    rw [ht] at hc
    rw [h.get? ht, hc]

theorem Primitives.ofTable_extends {t t' : ClassTable} (h : t.Extends t') {prims : Primitives}
    (hp : ofTable t = .ok prims) : ofTable t' = .ok prims := by
  unfold ofTable at hp ⊢
  simp only [bind, Except.bind] at hp
  repeat' split at hp
  all_goals cases hp
  rename_i hi _ _ hd _ _ hs _ _ hb _ _ hl _ _ hm
  simp only [require_extends h hi, require_extends h hd, require_extends h hs,
    require_extends h hb, require_extends h hl, require_extends h hm]
  rfl

/-- A run can start over every table that has the built-in classes. -/
theorem Env.make_extends {t : ClassTable} (h : ClassTable.initial.Extends t)
    (query : Option QueryService) (credentials : Credentials) (today : Date) (maxDepth : Nat) :
    ∃ env, Env.make t query credentials today maxDepth = .ok env ∧ env.classes = t := by
  have hp : (Primitives.ofTable .initial).toBool = true := by decide +kernel
  cases hi : Primitives.ofTable .initial with
  | error e =>
    rw [hi] at hp
    cases hp
  | ok prims =>
    unfold Env.make
    rw [Primitives.ofTable_extends h hi]
    exact ⟨_, rfl, rfl⟩

/-! ## Calls on an engine -/

namespace Engine

/-- A call on an engine. -/
inductive Command where
  | register (decls : List ClassDecl)
  | check
  | run (today : Date) (fuel : Nat) (entry : String) (sink : Sink)
  | execute (decls : List ClassDecl) (today : Date) (fuel : Nat) (entry : String) (sink : Sink)
  | setQueryService (service : QueryService)

namespace Command

/-- The declarations that a call registers. -/
def decls : Command → List ClassDecl
  | register decls => decls
  | check => []
  | run _ _ _ _ => []
  | execute decls _ _ _ _ => decls
  | setQueryService _ => []

end Command

/-- The engine after a call, whatever the call reports. -/
def perform (e : Engine) : Command → Engine
  | .register decls => (e.register decls).2
  | .check => e.check.2
  | .run today fuel entry sink => (e.run today fuel entry sink).2
  | .execute decls today fuel entry sink => (e.execute decls today fuel entry sink).2
  | .setQueryService service => e.setQueryService service

/-- A new engine after calls. -/
def after (config : EngineConfig) (commands : List Command) : Engine :=
  commands.foldl perform (make config)

/-- What holds of an engine that was given the declarations `history`, in order (module doc). -/
structure Sound (e : Engine) (history : List ClassDecl) : Prop where
  classes : e.classes.classes =
    ClassTable.initial.classes ++ Registration.accepted .initial history
  distinct : e.classes.DistinctNames
  clean : e.checked = true → (Typing.checkTable e.classes).1 = []

namespace Sound

variable {e : Engine} {history : List ClassDecl}

theorem make (config : EngineConfig) : (Engine.make config).Sound [] where
  classes := by simp [Engine.make, Registration.accepted]
  distinct := ClassTable.initial_distinct
  clean := by simp [Engine.make]

theorem register (h : e.Sound history) (decls : List ClassDecl) :
    (e.register decls).2.Sound (history ++ decls) := by
  have table : (e.register decls).2.classes =
      ⟨e.classes.classes ++ Registration.accepted e.classes decls⟩ :=
    (Registration.foldl_step_accepted decls ⟨e.classes, 0, [], #[]⟩).1
  refine ⟨?_, ?_, nofun⟩
  · rw [table, Registration.accepted_append, ← h.classes, ← List.append_assoc, ← h.classes]
  · rw [table]
    exact Registration.accepted_distinct h.distinct decls

theorem check (h : e.Sound history) : e.check.2.Sound history where
  classes := h.classes
  distinct := h.distinct
  clean hc := List.isEmpty_iff.1 hc

theorem run (h : e.Sound history) (today : Date) (fuel : Nat) (entry : String) (sink : Sink) :
    (e.run today fuel entry sink).2.Sound history :=
  ⟨h.classes, h.distinct, h.clean⟩

/-- However far it comes, an execution leaves a sound engine. -/
theorem execute (h : e.Sound history) (decls : List ClassDecl) (today : Date) (fuel : Nat)
    (entry : String) (sink : Sink) :
    (e.execute decls today fuel entry sink).2.Sound (history ++ decls) := by
  have registered := h.register decls
  have checked := registered.check
  unfold Engine.execute
  dsimp only
  split
  · exact registered
  · split
    · exact checked.run today fuel entry sink
    · exact checked

/-- Every call keeps an engine sound. -/
theorem perform (h : e.Sound history) : ∀ command : Command,
    (e.perform command).Sound (history ++ command.decls)
  | .register decls => h.register decls
  | .check => (List.append_nil history).symm ▸ h.check
  | .run today fuel entry sink => (List.append_nil history).symm ▸ h.run today fuel entry sink
  | .execute decls today fuel entry sink => h.execute decls today fuel entry sink
  | .setQueryService _ => (List.append_nil history).symm ▸ ⟨h.classes, h.distinct, h.clean⟩

/-- So do calls one after the other. -/
theorem foldl_perform : ∀ {e : Engine} {history : List ClassDecl}, e.Sound history →
    ∀ commands : List Command,
      (commands.foldl Engine.perform e).Sound (history ++ commands.flatMap Command.decls)
  | e, history, h, [] => by simpa using h
  | e, history, h, command :: commands => by
    have hs := foldl_perform (h.perform command) commands
    rwa [List.append_assoc] at hs

theorem extends_initial (h : e.Sound history) : ClassTable.initial.Extends e.classes :=
  ⟨_, h.classes.symm⟩

end Sound

/-- A run that has what it starts with: it is refused, or the method of its entry point runs. -/
theorem run_of_env {e : Engine} {today : Date} {env : Env} (henv : e.env today = .ok env)
    (fuel : Nat) (entry : String) (sink : Sink) : (e.run today fuel entry sink).1 =
      if e.checked then
        match EntryPoint.parse entry e.config.entryMethod with
        | .error error => failed sink error
        | .ok point => runMethod env fuel point sink
      else failed sink .notChecked := by
  unfold Engine.run
  rw [henv]
  cases e.checked with
  | false => rfl
  | true => cases EntryPoint.parse entry e.config.entryMethod <;> rfl

/-- **What an engine holds after any calls.** The classes are the twelve built-in ones and after
them what the declarations registered so far were made into, as far as they were accepted; no two
have the same name; and if the engine counts as checked, a check of its classes finds no errors. A batch
that is registered next adds the classes it is said to add, with one error for each declaration that
is left out. A run comes to the interpreter only in an engine that counts as checked, and then
always has what it starts with. -/
theorem engine_sound_after (config : EngineConfig) (commands : List Command) :
    let e := Engine.after config commands
    (e.Sound (commands.flatMap Command.decls) ∧ ClassTable.initial.classes.length = 12) ∧
    (∀ decls,
      (e.register decls).1.table.classes =
        e.classes.classes ++ Registration.accepted e.classes decls ∧
      (e.register decls).1.accepted = (Registration.accepted e.classes decls).length ∧
      (e.register decls).1.accepted + (e.register decls).1.errors.length = decls.length) ∧
    ∀ today, ∃ env, e.env today = .ok env ∧ env.classes = e.classes ∧
      ∀ fuel entry sink, (e.run today fuel entry sink).1 =
        if e.checked then
          match EntryPoint.parse entry e.config.entryMethod with
          | .error error => failed sink error
          | .ok point => runMethod env fuel point sink
        else failed sink .notChecked := by
  intro e
  have sound : e.Sound (commands.flatMap Command.decls) :=
    (Sound.make config).foldl_perform commands
  refine ⟨⟨sound, rfl⟩, fun decls => ?_, fun today => ?_⟩
  · obtain ⟨htable, haccepted, herrors⟩ :=
      Registration.foldl_step_accepted decls ⟨e.classes, 0, [], #[]⟩
    refine ⟨congrArg ClassTable.classes htable, haccepted.trans (Nat.zero_add _), ?_⟩
    -- every declaration is accepted or has an error of its own
    have counts : (e.register decls).1.errors.length +
        (Registration.accepted e.classes decls).length = decls.length :=
      herrors.trans (Nat.zero_add _)
    have accepted : (e.register decls).1.accepted =
        (Registration.accepted e.classes decls).length := haccepted.trans (Nat.zero_add _)
    omega
  · obtain ⟨env, henv, hclasses⟩ := Env.make_extends sound.extends_initial e.query
      e.config.credentials today e.config.maxCallDepth
    exact ⟨env, henv, hclasses, run_of_env (show e.env today = .ok env from henv)⟩

end Engine

end ClassScript
