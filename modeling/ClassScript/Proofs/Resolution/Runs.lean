import ClassScript.Proofs.Resolution.Follow

/-!
# Runs from an entry point

An entry method runs checked code only (`Machine.enter_safe`), on a new machine or after other entry
methods (`Machine.afterEntries_belongs`). So every expression that a run evaluates was checked, in a
class that the running class has in its chain and with the local variables that the running frame
binds (`Machine.Evaluates.site`); and a run halts for an undefined class only where that is excused
(`Machine.runEntry_undefinedClass`).
-/

namespace ClassScript

open Run (Safe)
open Typing (Checks)

/-! ## What a run is given -/

theorem Primitives.require_has {t : ClassTable} {name : String} {c : ClassInfo}
    (h : require t name = .ok c) : t.Has c := by
  unfold require at h
  split at h
  · rename_i d hd
    cases h
    exact .of_get? hd
  · cases h

/-- A run over a registered and checked table. -/
theorem Env.make_checked {decls : List ClassDecl} {query : Option QueryService}
    {credentials : Credentials} {today : Date} {maxDepth : Nat} {env : Env}
    (hcheck : (Typing.checkTable (Registration.registerAll .initial decls).table).1 = [])
    (h : Env.make (Registration.registerAll .initial decls).table query credentials today maxDepth
      = .ok env) :
    env.Checked ∧ env.classes = (Registration.registerAll .initial decls).table := by
  unfold Env.make at h
  split at h
  · rename_i prims hp
    cases h
    refine ⟨⟨?_, hcheck, fun c hc => hc.regular⟩, rfl⟩
    unfold Primitives.ofTable at hp
    simp only [bind, Except.bind] at hp
    repeat' split at hp
    all_goals cases hp
    rename_i hi _ _ hd _ _ hs _ _ hb _ _ hl _ _ hm
    refine ⟨Primitives.require_has hi, Primitives.require_has hd, Primitives.require_has hs,
      Primitives.require_has hb, Primitives.require_has hl, fun c hc => ?_⟩
    have hrec : ClassTable.initial.get? Builtin.recordName = some Builtin.recordClass := rfl
    have hall := (Registration.registerAll_extends .initial decls).get? hrec
    exact Option.some.inj (hc.symm.trans hall)
  · cases h

theorem Env.make_maxDepth {t : ClassTable} {query : Option QueryService}
    {credentials : Credentials} {today : Date} {maxDepth : Nat} {env : Env}
    (h : Env.make t query credentials today maxDepth = .ok env) : env.maxDepth = maxDepth := by
  unfold Env.make at h
  split at h <;> cases h
  rfl

namespace Machine

variable {env : Env} {m : Machine}

/-! ## Entry methods -/

theorem enter_safe (he : env.Checked) {calls : Calls} (h : calls.Follows env.classes)
    (hb : m.world.heap.Belongs env.classes) (className method : String)
    (hfound : (env.classes.resolve? className).isSome = true) :
    Safe env.classes (enter env calls className method) (fun _ _ => True) m := by
  obtain ⟨c, hc⟩ := Option.isSome_iff_exists.1 hfound
  unfold enter
  rw [hc]
  refine (Safe.log hb _).bind fun _ m₁ hb₁ _ _ => ?_
  split
  · exact Calls.callStatic_safe he h hb₁ (.of_resolve? hc) method []
  · split
    · exact (Calls.instantiate_safe he h hb₁ (.of_resolve? hc) [] []).bind fun id m₂ hb₂ _ _ =>
        Calls.callInstance_safe he h hb₂ id method []
    · exact Safe.fault hb₁ trivial

theorem enter_not_found {calls : Calls} {className : String}
    (hnone : env.classes.resolve? className = none) (method : String) :
    enter env calls className method = Run.fault (.undefinedClass className) := by
  unfold enter
  rw [hnone]

theorem runEntry_follows (he : env.Checked) (fuel : Nat) :
    (Calls.withFuel env fuel).Follows env.classes :=
  Calls.probing_never env fuel ▸ Calls.probing_follows he (fun _ _ h => h) fuel

theorem runEntry_belongs (he : env.Checked) (hb : m.world.heap.Belongs env.classes) (fuel : Nat)
    (className method : String) :
    ((runEntry env fuel className method).after m).world.heap.Belongs env.classes := by
  rw [runEntry_eq]
  cases hc : env.classes.resolve? className with
  | none =>
    rw [enter_not_found hc]
    exact hb
  | some c =>
    have hs := enter_safe he (runEntry_follows he fuel) hb className method (by rw [hc]; rfl)
    exact Run.ends_after.1 (Run.Ends.mono hs (fun _ _ h => h.1) fun _ _ h => h.1)

/-- Entry methods that run one after the other keep the heap in order, whatever they end with. -/
theorem afterEntries_belongs (he : env.Checked) (entries : List (Nat × EntryPoint)) :
    ∀ {m : Machine}, m.world.heap.Belongs env.classes →
      (m.afterEntries env entries).world.heap.Belongs env.classes := by
  induction entries with
  | nil => exact fun hb => hb
  | cons e es ih => exact fun hb => ih (runEntry_belongs he hb e.1 e.2.cls e.2.method)

/-! ## What a run evaluates -/

/-- **Every evaluated expression is a checked one.** Checking came to it in a context and with local
variables that fit the state it is evaluated in. -/
theorem Evaluates.site (he : env.Checked) (hb : m.world.heap.Belongs env.classes) {fuel : Nat}
    {className method : String} {e : Expr} {m' : Machine}
    (hev : Evaluates env fuel className method m e m') :
    ∃ cx role s, Checks env.classes cx (.expr role e) s ∧ m'.At env.classes cx s.scope := by
  refine Classical.byContradiction fun hno => ?_
  -- a probe at this expression and state stops at no checked place, so it never stops
  have hstop : ∀ {cx scope e' m''}, ExprAt env.classes cx scope e' → m''.At env.classes cx scope →
      ¬ (e' = e ∧ m'' = m') := by
    rintro cx scope e' m'' ⟨role, s, hc, hs⟩ hm ⟨rfl, rfl⟩
    exact hno ⟨cx, role, s, hc, hm.of_lookup hs⟩
  have h := Calls.probing_follows he hstop fuel
  obtain ⟨m₁, hrun⟩ := hev
  cases hc : env.classes.resolve? className with
  | none =>
    rw [enter_not_found hc] at hrun
    cases hrun
  | some c =>
    have hs := enter_safe he h hb className method (by rw [hc]; rfl)
    exact (Run.Ends.error hs hrun).2.noProbe rfl

/-- A run of a class that is found halts for an undefined class only where that is excused. -/
theorem runEntry_undefinedClass (he : env.Checked) (hb : m.world.heap.Belongs env.classes)
    {fuel : Nat} {className method name : String} {m' : Machine}
    (hrun : runEntry env fuel className method m = .error (.fault (.undefinedClass name)) m')
    (hfound : (env.classes.resolve? className).isSome = true) : env.classes.Excuses name := by
  rw [runEntry_eq] at hrun
  have hs := enter_safe he (runEntry_follows he fuel) hb className method hfound
  exact (Run.Ends.error hs hrun).2.undefined name rfl

end Machine

end ClassScript
