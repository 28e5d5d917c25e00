import ClassScript.Proofs.Class.Ancestors
import ClassScript.Proofs.Machine.Congruence
import ClassScript.Proofs.Misuse.Runs

/-!
# Static code

Checking refuses `this` in static code, and a call there that finds instance methods only. A run
asks the same again, in the class that runs and not in the one that the code was written in.
`checked_never_static_context`: classes that were checked without an error never fail to answer.

That a run does not end in such a fault follows from where a misuse comes from
(`Machine.runEntry_traces`): the class that runs sees the static methods of the class that the code
is written in (`ClassTable.Undotted.staticMethods?_isSome`). That it does not come to such an
expression at all is then a matter of runs only: coming to an expression that faults, a run ends in
that fault (`Machine.Evaluates.faults`).
-/

namespace ClassScript

open Typing (Checks)

/-! ## Coming to an expression that faults -/

namespace Run

/-- `y` does what `x` does, or it stops where `x` faults with the error. -/
def StopsFor (error : RuntimeError) (α : Type) (x y : Run α) : Prop :=
  ∀ m, y m = x m ∨ (∃ m₁, y m = .error .probe m₁) ∧ ∃ m₂, x m = .error (.fault error) m₂

namespace StopsFor

variable {error : RuntimeError} {α : Type} {x y : Run α}

theorem ending (h : StopsFor error α x y) (f : Machine → Machine) :
    StopsFor error α (x.ending f) (y.ending f) := by
  intro m
  unfold Run.ending
  rcases h m with heq | ⟨⟨m₁, hy⟩, m₂, hx⟩
  · exact .inl (by rw [heq])
  · exact .inr ⟨⟨f m₁, by rw [hy]⟩, f m₂, by rw [hx]⟩

theorem bind {β : Type} {f g : α → Run β} (h : StopsFor error α x y)
    (hf : ∀ a, StopsFor error β (f a) (g a)) : StopsFor error β (x >>= f) (y >>= g) := by
  intro m
  rw [bind_eq, bind_eq]
  rcases h m with heq | ⟨⟨m₁, hy⟩, m₂, hx⟩
  · rw [heq]
    cases x m with
    | ok a m' => exact hf a m'
    | error r m' => exact .inl rfl
  · exact .inr ⟨⟨m₁, by rw [hy]⟩, m₂, by rw [hx]⟩

end StopsFor

theorem stopsFor_congruence (error : RuntimeError) : Congruence (StopsFor error) where
  refl _ _ := .inl rfl
  bind := StopsFor.bind
  inFrame f h := fun ⟨world, frames, statics⟩ => h.ending popFrame ⟨world, f :: frames, statics⟩
  inBlock h := StopsFor.bind (fun _ => .inl rfl) fun _ => h.ending popBlock

end Run

/-- A probe for expressions that fault at once stops where evaluation faults. -/
theorem Calls.probing_stopsFor {env : Env} {stop : Expr → Machine → Prop} {error : RuntimeError}
    (hstop : ∀ e m, stop e m → ∀ calls : Calls, ∃ m', calls.stepEval env e m =
      .error (.fault error) m') :
    ∀ n, (withFuel env n).Related (Run.StopsFor error) (probing env stop n)
  | 0 => ⟨fun _ _ => .inl rfl, fun _ _ => .inl rfl, fun _ _ => .inl rfl⟩
  | n + 1 => by
    have ih := probing_stopsFor hstop n
    have hr := Run.stopsFor_congruence error
    have ha := Env.Alike.refl env
    refine ⟨fun e m => ?_, stepExec_congr hr ih, stepIterate_congr hr ih⟩
    unfold probing
    dsimp only
    split
    · rename_i hs
      exact .inr ⟨⟨m, rfl⟩, hstop e m hs _⟩
    · exact stepEval_congr hr ha ih e m

namespace Machine

variable {env : Env} {start m : Machine} {fuel : Nat} {className method : String}

theorem runEntry_noProbe (he : env.Checked) (hb : start.world.heap.Belongs env.classes) :
    runEntry env fuel className method start ≠ .error .probe m := by
  intro hrun
  rw [runEntry_eq] at hrun
  cases hc : env.classes.resolve? className with
  | none =>
    rw [enter_not_found hc] at hrun
    cases hrun
  | some c =>
    have hs := enter_safe he (runEntry_follows he fuel) hb className method (by rw [hc]; rfl)
    exact (Run.Ends.error hs hrun).2.noProbe rfl

/-- A run that comes to an expression that faults at once ends in that fault. -/
theorem Evaluates.faults (he : env.Checked) (hb : start.world.heap.Belongs env.classes) {e : Expr}
    {error : RuntimeError} (hev : Evaluates env fuel className method start e m)
    (hf : ∀ calls : Calls, ∃ m', calls.stepEval env e m = .error (.fault error) m') :
    ∃ m', runEntry env fuel className method start = .error (.fault error) m' := by
  obtain ⟨m₁, hprobe⟩ := hev
  have hstop : ∀ e' m', e' = e ∧ m' = m → ∀ calls : Calls, ∃ m'', calls.stepEval env e' m' =
      .error (.fault error) m'' := by
    rintro e' m' ⟨rfl, rfl⟩
    exact hf
  have hrel := Calls.probing_stopsFor hstop fuel
  have hrun := enter_congr (Run.stopsFor_congruence error) (.refl env) hrel className method
  rcases hrun start with heq | ⟨-, hfault⟩
  · exact absurd (heq.symm.trans hprobe) (runEntry_noProbe he hb)
  · exact hfault

end Machine

/-! ## What checking refuses -/

namespace Typing.Checks

variable {t : ClassTable} {cx : CheckContext} {role : Role} {s : CheckState} {span : Span}

/-- `this` is not checked without an error in static code. -/
theorem this_isStatic (h : Checks t cx (.expr role (.this span)) s) : cx.isStatic = false := by
  have hs : Check.Clean (denoteThis cx role span) s := h.clean
  unfold denoteThis at hs
  cases hstatic : cx.isStatic with
  | false => rfl
  | true =>
    rw [hstatic] at hs
    exact (hs.report_bind fun _ => Check.Quiet.pure _).elim

/-- A call in static code finds static methods. -/
theorem call_isStatic {k : Ident} {args : List Expr}
    (h : Checks t cx (.expr role (.call k args span)) s) (hstatic : cx.isStatic = true) :
    (cx.cls.staticMethods? t k.name).isSome = true := by
  have hs : Check.Clean (denote cx role (.call k args span)) s := h.clean
  obtain ⟨htarget, -, hcall⟩ := call_clean hs
  rw [← h.classes]
  cases hn : cx.cls.staticMethods? cx.classes k.name with
  | some g => rfl
  | none =>
    unfold implicitTarget at htarget hcall
    simp only [hstatic, hn, ↓reduceIte, Option.isNone_none, Bool.true_and] at htarget hcall
    split at htarget
    · exact (htarget.report_bind fun _ => Check.Quiet.pure _).elim
    · rename_i hi
      rw [if_neg hi] at hcall
      exact (Check.Clean.report_bind hcall fun _ => Check.Quiet.pure _).elim

end Typing.Checks

/-- Static code is not misused in a class below the one that it is written in. -/
theorem Expr.Misuses.not_staticContext {t : ClassTable} {cx : CheckContext} {role : Role} {e : Expr}
    {s : CheckState} {c : ClassInfo} {name : String} (hu : t.Undotted)
    (hc : Checks t cx (.expr role e) s) (hhas : t.Has c) (hcode : cx.cls ∈ c.chain t) :
    ¬ e.Misuses t cx c (.staticContext name) := by
  intro hm
  cases hm with
  | this hstatic =>
    rw [hc.this_isStatic] at hstatic
    cases hstatic
  | call hstatic hnone =>
    have hsome := hu.staticMethods?_isSome hhas hcode (hc.call_isStatic hstatic)
    rw [hnone] at hsome
    cases hsome

/-! ## Runs -/

namespace Calls

variable {env : Env} {calls : Calls} {m : Machine} {f : Frame} {fs : List Frame} {span : Span}
  (hf : m.frames = f :: fs) (hthis : f.this = none)
include hf hthis

theorem stepEval_this_fault : calls.stepEval env (.this span) m =
    .error (.fault (.staticContext ("this at " ++ span.text))) m := by
  simp only [stepEval, evalThis, Run.bind_eq, Run.frame, hf, hthis]
  rfl

theorem stepEval_call_fault {k : Ident} {args : List Expr}
    (hnone : f.cls.staticMethods? env.classes k.name = none)
    (hsome : (f.cls.instanceMethods? env.classes k.name).isSome = true) :
    calls.stepEval env (.call k args span) m = .error (.fault (.staticContext k.name)) m := by
  have htarget : implicitTarget env k.name m = .error (.fault (.staticContext k.name)) m := by
    simp only [implicitTarget, Run.bind_eq, Run.frame, hf, hthis, hnone, hsome]
    rfl
  rw [stepEval, Run.bind_eq, htarget]

end Calls

/-- **Checked classes never need a receiver that is not there.** Take classes that are registered
and checked without an error, where no superclass has a dotted name, and run any entry method of
theirs, on a new machine or after other entry methods. The run does not end in a fault for a static
context: where it comes to `this`, the running frame has a receiver; where it comes to a call
without a receiver in front, the running frame has one or its class does not see instance methods
only. The running class may be below the one that the code is written in, and classes may be their
own ancestors. -/
theorem checked_never_static_context {decls : List ClassDecl} {query : Option QueryService}
    {credentials : Credentials} {today : Date} {maxDepth : Nat} {env : Env}
    (hcheck : (Typing.checkTable (Registration.registerAll .initial decls).table).1 = [])
    (hundotted : (Registration.registerAll .initial decls).table.Undotted)
    (henv : Env.make (Registration.registerAll .initial decls).table query credentials today
      maxDepth = .ok env)
    (sink : Sink) (entries : List (Nat × EntryPoint)) (fuel : Nat) (className method : String) :
    let start := (Machine.start sink).afterEntries env entries
    (∀ name m, Machine.runEntry env fuel className method start ≠
      .error (.fault (.staticContext name)) m) ∧
    (∀ span m, Machine.Evaluates env fuel className method start (.this span) m →
      ∃ f fs id, m.frames = f :: fs ∧ f.this = some id) ∧
    ∀ k args span m, Machine.Evaluates env fuel className method start (.call k args span) m →
      ∃ f fs, m.frames = f :: fs ∧ (f.this = none →
        ¬ (f.cls.staticMethods? env.classes k.name = none ∧
          (f.cls.instanceMethods? env.classes k.name).isSome = true)) := by
  intro start
  obtain ⟨he, hclasses⟩ := Env.make_checked hcheck henv
  have hb : start.world.heap.Belongs env.classes :=
    Machine.afterEntries_belongs he entries (Heap.belongs_empty _)
  have never : ∀ name m, Machine.runEntry env fuel className method start ≠
      .error (.fault (.staticContext name)) m := by
    intro name m hrun
    -- the fault comes from a misuse in checked code, and checked static code has none
    obtain ⟨cx, role, e, s, c, hc, hhas, hcode, hmis⟩ :=
      (Machine.checked_runEntry_traces hcheck henv sink entries fuel className method).error hrun
        (.staticContext name) rfl fun h => h
    exact hmis.not_staticContext (hclasses ▸ hundotted) hc hhas hcode
  refine ⟨never, ?_, ?_⟩
  · intro span m hev
    obtain ⟨cx, role, s, hc, hm⟩ := hev.site he hb
    obtain ⟨f, fs, hf, -⟩ := hm.frame
    cases hthis : f.this with
    | some id => exact ⟨f, fs, id, hf, hthis⟩
    | none =>
      -- without a receiver, the run would end in the fault here
      obtain ⟨m', hrun⟩ := hev.faults he hb fun _ => ⟨m, Calls.stepEval_this_fault hf hthis⟩
      exact (never _ m' hrun).elim
  · intro k args span m hev
    obtain ⟨cx, role, s, hc, hm⟩ := hev.site he hb
    obtain ⟨f, fs, hf, -⟩ := hm.frame
    refine ⟨f, fs, hf, ?_⟩
    rintro hthis ⟨hnone, hsome⟩
    obtain ⟨m', hrun⟩ := hev.faults he hb fun _ =>
      ⟨m, Calls.stepEval_call_fault hf hthis hnone hsome⟩
    exact never _ m' hrun

/-! ### Inherited static code, and classes that extend each other -/

/-- Two classes that extend each other. A static method of the one calls another, and so does a
static initializer. -/
def cyclicStatics : List ClassDecl :=
  let integer : TypeRef := ⟨⟨"Integer", .unknown⟩, [], .unknown⟩
  let call : Expr := .call ⟨"one", .unknown⟩ [] .unknown
  let method (name : String) (body : List Stmt) : Member ClassDecl :=
    .method ⟨.union .pub .static, some integer, ⟨name, .unknown⟩, [], some body, .unknown⟩
  [⟨.none, [], ⟨"Upper", .unknown⟩, some ⟨⟨"Lower", .unknown⟩, [], .unknown⟩, [],
      [.field ⟨.union .pub .static, integer, ⟨"count", .unknown⟩, some call, .unknown⟩,
        method "one" [.ret (some (.literal (.integer 1) .unknown)) .unknown],
        method "run" [.ret (some call) .unknown]], .unknown⟩,
    ⟨.none, [], ⟨"Lower", .unknown⟩, some ⟨⟨"Upper", .unknown⟩, [], .unknown⟩, [], [], .unknown⟩]

theorem cyclicStatics_checked :
    (Typing.checkTable (Registration.registerAll .initial cyclicStatics).table).1 = [] :=
  List.isEmpty_iff.1 (by decide +kernel)

theorem cyclicStatics_undotted :
    (Registration.registerAll .initial cyclicStatics).table.Undotted := by
  have flat : (Registration.registerAll .initial cyclicStatics).table.classes.all (fun c =>
      c.inner.isEmpty && c.superclass.all fun s => !s.name.toList.contains '.') = true := by
    decide +kernel
  intro c hc s hs
  refine (hc.deep (P := fun c => ∀ s, c.superclass = some s → '.' ∉ s.name.toList) ?_).self s hs
  intro d hd
  have h := List.all_eq_true.1 flat d hd
  rw [Bool.and_eq_true, List.isEmpty_iff] at h
  refine .intro (fun s hs => ?_) (by simp [h.1])
  simpa [hs] using h.2

/-- A run of the inherited method initializes the inherited field, and ends. -/
theorem cyclicStatics_runs : ∃ env v m,
    Env.make (Registration.registerAll .initial cyclicStatics).table none {} ⟨2024, 1, 1⟩ 16
      = .ok env ∧
    Machine.runEntry env 10 "Lower" "run" (.start {}) = .ok (some v) m :=
  ⟨_, _, _, rfl, rfl⟩

/-- The inherited method, run once more, comes to its call in the class below. -/
theorem cyclicStatics_evaluates {env : Env}
    (henv : Env.make (Registration.registerAll .initial cyclicStatics).table none {} ⟨2024, 1, 1⟩ 16
      = .ok env) :
    ∃ c k args span m, c.name = "Lower" ∧ m.frames = [Frame.make c none] ∧
      Machine.Evaluates env 10 "Lower" "run"
        ((Machine.start {}).afterEntries env [(10, ⟨"Lower", "run"⟩)]) (.call k args span) m := by
  obtain ⟨m₀, c, k, method, args, span, span', rest, hm₀, hc, hname, hk, hparams, hbody, hstatics,
      hdepth⟩ : ∃ m₀ c k method args span span' rest,
        m₀ = (Machine.start {}).afterEntries env [(10, ⟨"Lower", "run"⟩)] ∧
        env.classes.resolve? "Lower" = some c ∧ c.name = "Lower" ∧
        c.staticMethods? env.classes "run" = some [k] ∧ k.params = [] ∧
        k.body = .script (.ret (some (.call method args span)) span' :: rest) ∧
        (m₀.statics.touch (c.chain env.classes)).2 = [] ∧ m₀.depth < env.maxDepth := by
    cases henv
    exact ⟨_, _, _, _, _, _, _, _, rfl, rfl, rfl, rfl, rfl, rfl, rfl, by decide +kernel⟩
  obtain ⟨m, hev, hm, -⟩ := Machine.evaluates_first 8 hc hk hparams hbody (fun _ => rfl) hstatics
    hdepth
  refine ⟨c, method, args, span, m, hname, ?_, hm₀ ▸ hev⟩
  rw [hm, hm₀, Machine.frames_afterEntries]
  rfl

/-- The static code of the one class runs in the other: neither the initializer nor the method
fails, and the method comes to a call there that does not find instance methods only. -/
theorem checked_never_static_context_cyclic : ∃ env v m,
    Env.make (Registration.registerAll .initial cyclicStatics).table none {} ⟨2024, 1, 1⟩ 16
      = .ok env ∧
    Machine.runEntry env 10 "Lower" "run" (.start {}) = .ok (some v) m ∧
    ∃ c k args span m₁, c.name = "Lower" ∧ m₁.frames = [Frame.make c none] ∧
      Machine.Evaluates env 10 "Lower" "run"
        ((Machine.start {}).afterEntries env [(10, ⟨"Lower", "run"⟩)]) (.call k args span) m₁ ∧
      ¬ (c.staticMethods? env.classes k.name = none ∧
        (c.instanceMethods? env.classes k.name).isSome = true) := by
  obtain ⟨env, v, m, henv, hrun⟩ := cyclicStatics_runs
  obtain ⟨c, k, args, span, m₁, hname, hm, hev⟩ := cyclicStatics_evaluates henv
  obtain ⟨f, fs, hf, hcall⟩ := (checked_never_static_context cyclicStatics_checked
    cyclicStatics_undotted henv {} [(10, ⟨"Lower", "run"⟩)] 10 "Lower" "run").2.2 k args span m₁ hev
  rw [hm] at hf
  obtain ⟨rfl, rfl⟩ := List.cons.inj hf
  exact ⟨env, v, m, henv, hrun, c, k, args, span, m₁, hname, hm, hev, hcall rfl⟩

end ClassScript
