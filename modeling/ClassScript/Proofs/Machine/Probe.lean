import ClassScript.Proofs.Machine.FrameStack

/-!
# What a run evaluates

`Calls.probing env stop n` evaluates as `Calls.withFuel env n` does, but halts with a reason of its
own as soon as it comes to an expression and a state in `stop`. A probe for a single expression and
a single state therefore tells whether a run evaluates the one in the other: this is
`Machine.Evaluates`.
-/

namespace ClassScript

/-- The reason of a probe to halt. Nothing halts a computation of the machine in this way otherwise:
classes are checked before a machine is made. -/
def Halt.probe : Halt := .fault .notChecked

open Classical in
/-- Evaluation that halts when it comes to an expression in a state of `stop` (module doc). -/
noncomputable def Calls.probing (env : Env) (stop : Expr → Machine → Prop) : Nat → Calls
  | 0 => Calls.withFuel env 0
  | n + 1 =>
    { eval := fun e m =>
        if stop e m then .error .probe m else (Calls.probing env stop n).stepEval env e m
      exec := fun s => (Calls.probing env stop n).stepExec s
      iterate := fun l => (Calls.probing env stop n).stepIterate l }

namespace Calls

/-- A probe that never stops changes nothing. -/
theorem probing_never (env : Env) : ∀ n, probing env (fun _ _ => False) n = withFuel env n
  | 0 => rfl
  | n + 1 => by
    unfold probing withFuel
    rw [probing_never env n]
    simp

theorem probing_steady (env : Env) (stop : Expr → Machine → Prop) :
    ∀ n, (probing env stop n).IsSteady
  | 0 => withFuel_steady env 0
  | n + 1 => by
    have ih := probing_steady env stop n
    refine ⟨fun e m => ?_, stepExec_steady ih, stepIterate_steady ih⟩
    unfold probing Run.Ends
    dsimp only
    split
    · rename_i hx
      split at hx
      · cases hx
      · exact (stepEval_steady env ih e m).ok hx
    · rename_i hx
      split at hx
      · cases hx
        exact ⟨.refl _ _, fun h => by cases h⟩
      · exact (stepEval_steady env ih e m).error hx

end Calls

namespace Machine

/-- Runs a method of a class without arguments, over given calls. -/
def enter (env : Env) (calls : Calls) (className method : String) : Run (Option Value) := do
  match env.classes.resolve? className with
  | none => Run.fault (.undefinedClass className)
  | some c =>
    Run.log (.running c.name method)
    if (c.staticMethods? env.classes method).isSome then calls.callStatic env c method []
    else if (c.instanceMethods? env.classes method).isSome then
      let id ← calls.instantiate env c [] []
      calls.callInstance env id method []
    else Run.fault (.undefinedMethod c.name method)

theorem runEntry_eq (env : Env) (fuel : Nat) (className method : String) :
    runEntry env fuel className method = enter env (Calls.withFuel env fuel) className method :=
  rfl

/-- Running a method of a class from `start` evaluates the expression `e` in the state `m`. -/
def Evaluates (env : Env) (fuel : Nat) (className method : String) (start : Machine) (e : Expr)
    (m : Machine) : Prop :=
  ∃ m', enter env (Calls.probing env (fun e' m' => e' = e ∧ m' = m) fuel) className method start =
    .error .probe m'

/-- A static entry method that has nothing to initialize comes to the expression that its first
statement evaluates first, in a frame of its own. -/
theorem evaluates_first {env : Env} {m : Machine} {className method : String} {c : ClassInfo}
    {k : MethodInfo} {b : Stmt} {rest : List Stmt} {e : Expr} {g : Value → Run Flow} (fuel : Nat)
    (hc : env.classes.resolve? className = some c)
    (hk : c.staticMethods? env.classes method = some [k]) (hparams : k.params = [])
    (hbody : k.body = .script (b :: rest))
    (hfirst : ∀ calls : Calls, calls.stepExec b = calls.eval e >>= g)
    (hstatics : (m.statics.touch (c.chain env.classes)).2 = []) (hdepth : m.depth < env.maxDepth) :
    ∃ m', Evaluates env (fuel + 2) className method m e m' ∧
      m'.frames = Frame.make c none :: m.frames ∧ m'.world.heap = m.world.heap ∧
      m'.statics = (m.statics.touch (c.chain env.classes)).1 := by
  obtain ⟨⟨heap, sink, log⟩, frames, statics⟩ := m
  obtain ⟨here, hhere⟩ : ∃ here : Machine, here =
      ⟨⟨heap, sink, (log.push (.running c.name method)).push (.dispatch c.name k.name 0)⟩,
        Frame.make c none :: frames, (statics.touch (c.chain env.classes)).1⟩ := ⟨_, rfl⟩
  refine ⟨here, ⟨Run.popFrame here, ?_⟩, by rw [hhere], by rw [hhere], by rw [hhere]⟩
  have hd : ¬ env.maxDepth ≤ frames.length := Nat.not_le.2 hdepth
  have harity : k.arity = 0 := by simp [MethodInfo.arity, hparams]
  have hsel : (Overload.resolve env.classes .none [k] []).map OverloadMatch.method = some k := by
    simp [Overload.resolve, harity, Overload.allArguments]
  -- the probe stops the run at the first evaluation in the new frame
  have hstop : (Calls.probing env (fun e' m' => e' = e ∧ m' = here) (fuel + 2)).execAll (b :: rest)
      here = .error .probe here := by
    simp [Calls.execAll, Calls.probing, hfirst, bind, EStateM.bind]
  unfold enter
  rw [hc]
  simp only [hk, Option.isSome_some, ↓reduceIte, Calls.callStatic, Calls.ensureStatics,
    Run.touchStatics, Run.log, Run.native, Native.log, bind, EStateM.bind, hstatics,
    List.isEmpty_nil, pure, EStateM.pure, Calls.selectOrFail, Calls.select, Run.heap,
    Option.getD_some, List.map_nil, hsel, Calls.invoke, List.length_nil, hbody, harity,
    Run.get_run]
  simp only [depth, hd, hparams, ↓reduceIte, Frame.declareParams, List.zip_nil_left, List.foldl_nil,
    EStateM.bind, Run.inFrame, Run.ending]
  rw [← hhere, hstop]

end Machine

end ClassScript
