import ClassScript.Engine
import ClassScript.Proofs.Machine.Congruence
import ClassScript.Proofs.Order.Checking
import ClassScript.Proofs.Order.Registration

/-!
# The order of registration

Runs read a table through look-ups only, as checking does: over a table that looks alike, evaluation
is the same function (`Calls.withFuel_alike`). A batch that registers without errors gives tables
that look alike in every order (`Registration.Accepts.alike`), so nothing that an engine does with
the classes, besides the order of the errors it reports, depends on the order.

Main statement: `registration_order_irrelevant`.
-/

namespace ClassScript

/-! ## Runs over tables that look alike -/

theorem Run.eq_congruence : Run.Congruence fun _ x y => x = y where
  refl _ := rfl
  bind hx hf := by rw [hx, funext hf]
  inFrame _ h := by rw [h]
  inBlock h := by rw [h]

theorem Calls.withFuel_alike {env env' : Env} (ha : env.Alike env') :
    ∀ n, (withFuel env n).Related (fun _ x y => x = y) (withFuel env' n)
  | 0 => ⟨fun _ => rfl, fun _ => rfl, fun _ => rfl⟩
  | n + 1 => by
    have ih := withFuel_alike ha n
    exact ⟨stepEval_congr Run.eq_congruence ha ih, stepExec_congr Run.eq_congruence ih,
      stepIterate_congr Run.eq_congruence ih⟩

theorem Machine.runEntry_alike {env env' : Env} (ha : env.Alike env') (fuel : Nat)
    (className method : String) :
    runEntry env' fuel className method = runEntry env fuel className method :=
  (enter_congr Run.eq_congruence ha (Calls.withFuel_alike ha fuel) className method).symm

namespace Engine

/-- The engines hold the same as far as their runs can tell. -/
structure Alike (e e' : Engine) : Prop where
  classes : e.classes.Alike e'.classes
  query : e'.query = e.query
  answers : ∀ service, e.query = some service →
    service.execute e'.config.credentials = service.execute e.config.credentials
  entryMethod : e'.config.entryMethod = e.config.entryMethod
  maxCallDepth : e'.config.maxCallDepth = e.config.maxCallDepth
  checked : e'.checked = e.checked

variable {e e' : Engine}

/-- Runs in both engines are given the same, as far as they can tell, or neither can start. -/
theorem Alike.env (h : e.Alike e') (today : Date) :
    (∃ env env', e.env today = .ok env ∧ e'.env today = .ok env' ∧ env.Alike env') ∨
      ∃ error, e.env today = .error error ∧ e'.env today = .error error := by
  unfold Engine.env Env.make
  rw [h.classes.primitives]
  cases Primitives.ofTable e.classes with
  | ok prims =>
    exact .inl ⟨_, _, rfl, rfl, ⟨h.classes, rfl, h.query, h.answers, rfl⟩, h.maxCallDepth⟩
  | error error => exact .inr ⟨_, rfl, rfl⟩

/-- Engines that hold the same run alike. -/
theorem Alike.run (h : e.Alike e') (today : Date) (fuel : Nat) (entry : String) (sink : Sink) :
    (e'.run today fuel entry sink).1 = (e.run today fuel entry sink).1 := by
  unfold Engine.run
  dsimp only
  rw [h.checked, h.entryMethod]
  cases e.checked with
  | false => rfl
  | true =>
    cases EntryPoint.parse entry e.config.entryMethod with
    | error error => rfl
    | ok point =>
      obtain ⟨env, env', henv, henv', ha⟩ | ⟨error, henv, henv'⟩ := h.env today
      · simp only [henv, henv', runMethod, Machine.runEntry_alike ha]
      · simp only [henv, henv']

end Engine

/-- **The order of registration does not matter.** Take a batch that registers into a new engine
without errors, and the batch in another order. It registers without errors too. Every class
contributes the same errors to a check, and the classes are the same up to their order, so the
errors are. Whatever is run afterwards, with the same settings, query service and sink, has the same
outcome: the same result or fault, and the same world with all that was written. -/
theorem registration_order_irrelevant (config : EngineConfig) {decls decls' : List ClassDecl}
    (hp : decls.Perm decls') (hr : ((Engine.make config).register decls).1.errors = []) :
    let e := ((Engine.make config).register decls).2
    let e' := ((Engine.make config).register decls').2
    ((Engine.make config).register decls').1.errors = [] ∧
    (e'.classes.classes.Perm e.classes.classes ∧
      e.check.1 = e.classes.classes.flatMap (Typing.classErrors e.classes) ∧
      e'.check.1 = e'.classes.classes.flatMap (Typing.classErrors e'.classes) ∧
      ∀ c, Typing.classErrors e'.classes c = Typing.classErrors e.classes c) ∧
    e'.check.1.Perm e.check.1 ∧
    ∀ (query : Option QueryService) (today : Date) (fuel : Nat) (entry : String) (sink : Sink),
      (Engine.run { e'.check.2 with query } today fuel entry sink).1 =
        (Engine.run { e.check.2 with query } today fuel entry sink).1 := by
  intro e e'
  obtain ⟨cs, hcs⟩ := Registration.accepts_of_registerAll hr
  obtain ⟨cs', hcs', hperm⟩ := hcs.perm hp
  obtain ⟨-, htable⟩ := hcs.registerAll
  obtain ⟨herrors', htable'⟩ := hcs'.registerAll
  have hclasses : e.classes = ⟨ClassTable.initial.classes ++ cs⟩ := htable
  have hclasses' : e'.classes = ⟨ClassTable.initial.classes ++ cs'⟩ := htable'
  -- one table is a permutation of the other, and names are unique: look-ups agree
  have ha : e.classes.Alike e'.classes := by
    rw [hclasses, hclasses']
    exact hcs.alike hperm
  have hsame : e'.classes.classes.Perm e.classes.classes := by
    rw [hclasses, hclasses']
    exact hperm.append_left _
  have hcontrib := Typing.classErrors_alike ha
  have hchecks : e'.check.1.Perm e.check.1 := by
    show (Typing.checkTable e'.classes).1.Perm (Typing.checkTable e.classes).1
    rw [Typing.checkTable_errors, Typing.checkTable_errors, funext hcontrib]
    exact hsame.flatMap_right _
  refine ⟨herrors', ⟨hsame, Typing.checkTable_errors _, Typing.checkTable_errors _, hcontrib⟩,
    hchecks, ?_⟩
  intro query today fuel entry sink
  have hflag : e'.check.1.isEmpty = e.check.1.isEmpty := by
    rw [Bool.eq_iff_iff, List.isEmpty_iff, List.isEmpty_iff]
    exact ⟨fun h => List.perm_nil.1 (h ▸ hchecks.symm), fun h => List.perm_nil.1 (h ▸ hchecks)⟩
  have alike : Engine.Alike { e.check.2 with query } { e'.check.2 with query } :=
    ⟨ha, rfl, fun _ _ => rfl, rfl, rfl, hflag⟩
  exact alike.run today fuel entry sink

/-! ### A class before its superclass -/

/-- `Animal` -/
def animal : ClassDecl :=
  let legs : FieldDecl := ⟨.union .pub .static, ⟨⟨"Integer", .unknown⟩, [], .unknown⟩,
    ⟨"legs", .unknown⟩, some (.literal (.integer 4) .unknown), .unknown⟩
  let count : MethodDecl := ⟨.union .pub .static, some ⟨⟨"Integer", .unknown⟩, [], .unknown⟩,
    ⟨"count", .unknown⟩, [], some [.ret (some (.name ⟨"legs", .unknown⟩)) .unknown], .unknown⟩
  ⟨.none, [], ⟨"Animal", .unknown⟩, none, [], [.field legs, .method count], .unknown⟩

/-- `Dog extends Animal` -/
def dog : ClassDecl :=
  ⟨.none, [], ⟨"Dog", .unknown⟩, some ⟨⟨"Animal", .unknown⟩, [], .unknown⟩, [], [], .unknown⟩

/-- What the result of a run displays. -/
def Outcome.shown? (out : Outcome) : Option String :=
  out.result.toOption.join.map out.world.heap.display

theorem animals_count : ((Engine.make {}).register [animal, dog]).1.errors = [] ∧
    (Engine.run { ((Engine.make {}).register [animal, dog]).2.check.2 with query := none }
      ⟨2024, 1, 1⟩ 20 "Dog#count" {}).1.shown? = some "4" :=
  ⟨List.isEmpty_iff.1 (by decide +kernel), by decide +kernel⟩

/-- Registered before its superclass, the class inherits all the same. -/
theorem registration_order_irrelevant_dog :
    ((Engine.make {}).register [dog, animal]).1.errors = [] ∧
    (Engine.run { ((Engine.make {}).register [dog, animal]).2.check.2 with query := none }
      ⟨2024, 1, 1⟩ 20 "Dog#count" {}).1.shown? = some "4" := by
  obtain ⟨hr, hshown⟩ := animals_count
  obtain ⟨hr', -, -, hsame⟩ :=
    registration_order_irrelevant {} (List.Perm.swap dog animal []) hr
  exact ⟨hr', (congrArg Outcome.shown? (hsame none ⟨2024, 1, 1⟩ 20 "Dog#count" {})).trans hshown⟩

end ClassScript
