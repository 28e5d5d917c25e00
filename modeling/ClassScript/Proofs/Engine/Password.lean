import ClassScript.Proofs.Engine.History

/-!
# The password of the query service

Credentials reach the query service and nothing else, and a service in memory asks only whether a
password is there (`QueryService.inMemory_withPassword`). So an engine that has a password and asks
no other service (`Engine.Hides`) behaves as the same engine with another password does: a call has
the same answer in both (`Engine.Hides.answer`), and leaves engines that again differ in the
password only (`Engine.Hides.perform_withPassword`).

Main statement: `password_never_leaks`.
-/

namespace ClassScript

/-! ## Credentials -/

namespace Credentials

/-- The credentials with a password. -/
def withPassword (c : Credentials) (password : String) : Credentials :=
  { c with password := some password }

variable {c : Credentials} (h : c.password.isSome)
include h

theorem describe_withPassword (password : String) :
    (c.withPassword password).describe = c.describe := by
  obtain ⟨p, hp⟩ := Option.isSome_iff_exists.1 h
  unfold describe
  rw [hp]
  rfl

/-- What credentials with a password lack, they lack with every password. -/
theorem require_withPassword (password : String) : (c.withPassword password).require =
    c.require.map fun (username, _, endpoint) => (username, password, endpoint) := by
  obtain ⟨username, _, endpoint⟩ := c
  obtain ⟨p, rfl⟩ := Option.isSome_iff_exists.1 h
  cases username <;> cases endpoint <;> rfl

end Credentials

theorem QueryService.inMemory_withPassword {c : Credentials} (h : c.password.isSome)
    (rows : List QueryRow) (password : String) :
    (inMemory rows).execute (c.withPassword password) = (inMemory rows).execute c := by
  funext query log
  unfold inMemory
  dsimp only
  rw [Credentials.require_withPassword h]
  cases c.require <;> rfl

/-! ## Engines with another password -/

/-- The settings with a password. -/
def EngineConfig.withPassword (config : EngineConfig) (password : String) : EngineConfig :=
  { config with credentials := config.credentials.withPassword password }

namespace Engine

/-- The engine with a password in its settings. -/
def withPassword (e : Engine) (password : String) : Engine :=
  { e with config := e.config.withPassword password }

/-- What a call gives to its caller. -/
inductive Answer where
  | registered (outcome : Registration.Outcome)
  | checked (errors : List CheckError)
  | ran (outcome : Outcome)
  | executed (execution : Execution)
  | done

/-- The answer to a call. -/
def answer (e : Engine) : Command → Answer
  | .register decls => .registered (e.register decls).1
  | .check => .checked e.check.1
  | .run today fuel entry sink => .ran (e.run today fuel entry sink).1
  | .execute decls today fuel entry sink => .executed (e.execute decls today fuel entry sink).1
  | .setQueryService _ => .done

/-- The answers to calls, one after the other. -/
def answers (e : Engine) : List Command → List Answer
  | [] => []
  | command :: commands => e.answer command :: (e.perform command).answers commands

/-- If the call sets a query service, it answers from memory. -/
def Command.AsksMemory (command : Command) : Prop :=
  ∀ service, command = .setQueryService service → ∃ rows, service = .inMemory rows

/-- The engine has a password, and asks no query service or one in memory. -/
structure Hides (e : Engine) : Prop where
  password : e.config.credentials.password.isSome
  memory : ∀ service, e.query = some service → ∃ rows, service = .inMemory rows

namespace Hides

variable {e : Engine} (h : e.Hides) (password : String)
include h

theorem alike : e.Alike (e.withPassword password) where
  classes := .refl e.classes
  query := rfl
  answers service hs := by
    obtain ⟨rows, rfl⟩ := h.memory service hs
    exact QueryService.inMemory_withPassword h.password rows password
  entryMethod := rfl
  maxCallDepth := rfl
  checked := rfl

theorem run (today : Date) (fuel : Nat) (entry : String) (sink : Sink) :
    (e.withPassword password).run today fuel entry sink =
      ((e.run today fuel entry sink).1, (e.run today fuel entry sink).2.withPassword password) := by
  have outcome := (h.alike password).run today fuel entry sink
  have engine : ((e.withPassword password).run today fuel entry sink).2 =
      (e.run today fuel entry sink).2.withPassword password := by
    unfold Engine.run at outcome ⊢
    dsimp only at outcome ⊢
    rw [outcome]
    rfl
  exact Prod.ext outcome engine

omit password in
theorem register (decls : List ClassDecl) : (e.register decls).2.Hides := ⟨h.password, h.memory⟩

omit password in
theorem check : e.check.2.Hides := ⟨h.password, h.memory⟩

/-- An execution registers and checks with either password, and then runs. -/
theorem execute (decls : List ClassDecl) (today : Date) (fuel : Nat) (entry : String)
    (sink : Sink) : (e.withPassword password).execute decls today fuel entry sink =
      ((e.execute decls today fuel entry sink).1,
        (e.execute decls today fuel entry sink).2.withPassword password) := by
  have registered : (e.withPassword password).register decls =
      ((e.register decls).1, (e.register decls).2.withPassword password) := rfl
  have checked : ((e.register decls).2.withPassword password).check =
      ((e.register decls).2.check.1, (e.register decls).2.check.2.withPassword password) := rfl
  have ran := (h.register decls).check.run password today fuel entry sink
  unfold Engine.execute
  rw [registered]
  dsimp only
  rw [checked]
  dsimp only
  rw [ran]
  cases (e.register decls).1.errors with
  | cons error errors => rfl
  | nil => cases (e.register decls).2.check.1.isEmpty <;> rfl

/-- A call has the same answer with another password. -/
theorem answer (command : Command) :
    (e.withPassword password).answer command = e.answer command := by
  cases command with
  | register decls => rfl
  | check => rfl
  | run today fuel entry sink =>
    exact congrArg (fun r => Answer.ran r.1) (h.run password today fuel entry sink)
  | execute decls today fuel entry sink =>
    exact congrArg (fun r => Answer.executed r.1) (h.execute password decls today fuel entry sink)
  | setQueryService service => rfl

/-- It leaves the engine that it leaves with the first, but for the password. -/
theorem perform_withPassword (command : Command) :
    (e.withPassword password).perform command = (e.perform command).withPassword password := by
  cases command with
  | register decls => rfl
  | check => rfl
  | run today fuel entry sink => exact congrArg Prod.snd (h.run password today fuel entry sink)
  | execute decls today fuel entry sink =>
    exact congrArg Prod.snd (h.execute password decls today fuel entry sink)
  | setQueryService service => rfl

omit password in
theorem perform {command : Command} (hc : command.AsksMemory) : (e.perform command).Hides := by
  cases command with
  | register decls => exact h.register decls
  | check => exact h.check
  | run today fuel entry sink => exact ⟨h.password, h.memory⟩
  | execute decls today fuel entry sink =>
    show (e.execute decls today fuel entry sink).2.Hides
    unfold Engine.execute
    dsimp only
    split
    · exact h.register decls
    · split
      · exact ⟨h.password, h.memory⟩
      · exact (h.register decls).check
  | setQueryService service =>
    refine ⟨h.password, fun s hs => ?_⟩
    cases hs
    exact hc service rfl

omit h in
/-- So do calls one after the other, each on the engine that the one before left. -/
theorem foldl_perform : ∀ {e : Engine}, e.Hides → ∀ commands : List Command,
    (∀ command ∈ commands, command.AsksMemory) →
    (e.withPassword password).answers commands = e.answers commands ∧
      commands.foldl Engine.perform (e.withPassword password) =
        (commands.foldl Engine.perform e).withPassword password ∧
      (commands.foldl Engine.perform e).Hides
  | e, h, [], _ => ⟨rfl, rfl, h⟩
  | e, h, command :: commands, hm => by
    obtain ⟨hc, hrest⟩ := List.forall_mem_cons.1 hm
    obtain ⟨hanswers, hafter, hlast⟩ := foldl_perform (h.perform hc) commands hrest
    rw [← h.perform_withPassword] at hanswers hafter
    exact ⟨congrArg₂ List.cons (h.answer password command) hanswers, hafter, hlast⟩

end Hides

/-- **The password never leaks.** Take settings with a password, the same settings with another
password, and calls that set no query service but ones in memory. On new engines, every call has the
same answer with both: what is registered and rejected and why, the errors of a check, and of a run
its result or fault and the world it leaves, with the output, the heap and the log. The engines are
left the same but for the password; the lines of their logs are the same, and so is the description
of their credentials. -/
theorem password_never_leaks (config : EngineConfig) (hp : config.credentials.password.isSome)
    (password : String) (commands : List Command)
    (hm : ∀ command ∈ commands, command.AsksMemory) :
    (make (config.withPassword password)).answers commands = (make config).answers commands ∧
    after (config.withPassword password) commands =
      (after config commands).withPassword password ∧
    (after (config.withPassword password) commands).log.map LogEvent.line =
      (after config commands).log.map LogEvent.line ∧
    (after (config.withPassword password) commands).config.credentials.describe =
      (after config commands).config.credentials.describe := by
  have hides : (make config).Hides := ⟨hp, nofun⟩
  obtain ⟨hanswers, hafter, hlast⟩ := hides.foldl_perform password commands hm
  have engines : after (config.withPassword password) commands =
      (after config commands).withPassword password := hafter
  refine ⟨hanswers, engines, ?_, ?_⟩
  · rw [engines]
    rfl
  · rw [engines]
    exact Credentials.describe_withPassword hlast.password password

/-- Settings with credentials for the query service. -/
def withSecret : EngineConfig := { credentials := ⟨some "user", some "secret", some "here"⟩ }

/-- `return [SELECT ...].size();` -/
def countsAccounts : ClassDecl :=
  let size : Expr := .callOn (.query "SELECT Id FROM Account" .unknown) ⟨"size", .unknown⟩ []
    .unknown
  ⟨.pub, [], ⟨"Main", .unknown⟩, none, [], [.method ⟨.union .pub .static,
    some ⟨⟨"Integer", .unknown⟩, [], .unknown⟩, ⟨"action", .unknown⟩, [],
    some [.ret (some size) .unknown], .unknown⟩], .unknown⟩

/-- A service is set, and the class is registered, checked and run. -/
def asksMemory : List Command :=
  [.setQueryService (.inMemory [⟨"1", []⟩]),
    .execute [countsAccounts] ⟨2024, 1, 1⟩ 20 "Main" .unlimited]

/-- The query is sent with either password, and the log tells who asked and where. -/
theorem password_never_leaks_query :
    let log := (after (withSecret.withPassword "another") asksMemory).log.map LogEvent.line
    log = (after withSecret asksMemory).log.map LogEvent.line ∧
      log.contains "DEBUG user@here: SELECT Id FROM Account" := by
  have memory : ∀ command ∈ asksMemory, command.AsksMemory := by
    rintro _ (_ | ⟨_, _ | ⟨_, ⟨⟩⟩⟩) service hs
    · cases hs
      exact ⟨_, rfl⟩
    · cases hs
  obtain ⟨-, -, hlog, -⟩ :=
    password_never_leaks withSecret rfl "another" asksMemory memory
  refine ⟨hlog, ?_⟩
  rw [hlog]
  decide +kernel

end Engine

end ClassScript
