import ClassScript.Proofs.Machine.Passage

/-!
# How deep calls nest

A call is refused where as many frames are active as the deepest nesting allows
(`Calls.invoke_refused`), so the body of a method never runs deeper. An initializer is not refused:
the frame that it runs in is entered at any depth. What runs beyond the deepest nesting is therefore
part of an initializer, and nothing else (`call_depth_bounds_statements`). An initializer that makes
an instance of its own class nests without a bound (`ClassInfo.MakesItself.starts`), so the number
of active frames is not bounded by the deepest nesting (`frames_pass_deepest_nesting`).
-/

namespace ClassScript

open Run (Balanced Steady Passes)

/-! ## Initializers -/

theorem Expr.mem_operands_of_placed {x p : Expr} (h : p ∈ x.placed) : p ∈ x.operands := by
  unfold placed at h
  split at h
  · exact h
  · cases h

/-- What a part evaluates in turn is part of the whole. -/
theorem Expr.HasPart.evaluated {e x p : Expr} (h : e.HasPart x) (hp : p ∈ x.evaluated) :
    e.HasPart p := by
  have placed : ∀ {y}, y ∈ x.operands → p ∈ y.placed → e.HasPart p := fun hy hp =>
    .operand (.operand h hy) (mem_operands_of_placed hp)
  cases x with
  | assign op target value span =>
    rcases List.mem_append.1 hp with hp | hp
    · exact placed List.mem_cons_self hp
    · exact .operand h (List.mem_cons_of_mem _ hp)
  | unary op operand span =>
    simp only [Expr.evaluated] at hp
    split at hp
    · exact placed List.mem_cons_self hp
    · exact .operand h hp
  | post op operand span => exact placed List.mem_cons_self hp
  | _ => exact .operand h hp

/-- The expression is part of an initializer of the running class, or of a class above it. -/
def Frame.Initializes (t : ClassTable) (f : Frame) (e : Expr) : Prop :=
  ∃ c ∈ f.cls.chain t, ∃ g ∈ c.ownFields, ∃ init, g.init = some init ∧ init.HasPart e

/-- The frames are as deep as calls may nest, or the running one initializes a field by `e`. -/
def Bounded (env : Env) (e : Expr) (fs : List Frame) : Prop :=
  fs.length ≤ env.maxDepth ∨ ∃ f gs, fs = f :: gs ∧ f.Initializes env.classes e

theorem unframed_le (n : Nat) : Unframed fun fs => fs.length ≤ n :=
  fun _ _ _ h => h

theorem bounded_kept (env : Env) (e : Expr) : Kept (Bounded env e) := by
  intro fs gs hk h
  rcases h with h | ⟨f, gs, rfl, h⟩
  · exact .inl ((unframed_le env.maxDepth).kept hk h)
  · cases hk with
    | running hk =>
      refine .inr ⟨_, _, rfl, ?_⟩
      unfold Frame.Initializes
      rw [hk.cls]
      exact h

theorem Bounded.evaluated {env : Env} {e p : Expr} {fs : List Frame} (h : Bounded env e fs)
    (hp : p ∈ e.evaluated) : Bounded env p fs := by
  rcases h with h | ⟨f, gs, hf, c, hc, g, hg, init, hi, hpart⟩
  · exact .inl h
  · exact .inr ⟨f, gs, hf, c, hc, g, hg, init, hi, hpart.evaluated hp⟩

/-! ## The deepest nesting -/

/-- Where a task may start. -/
def Task.Allowed (env : Env) (fs : List Frame) : Task → Prop
  | .eval e => Bounded env e fs
  | .exec _ | .iterate _ => fs.length ≤ env.maxDepth

namespace Calls

/-- Tasks start where they may. -/
structure Nests (env : Env) (calls : Calls) : Prop where
  steady : calls.IsSteady
  eval : ∀ e, Passes (Bounded env e) (calls.eval e)
  exec : ∀ s, Passes (fun fs => fs.length ≤ env.maxDepth) (calls.exec s)
  iterate : ∀ l, Passes (fun fs => fs.length ≤ env.maxDepth) (calls.iterate l)

variable {env : Env} {calls : Calls}

theorem Nests.allPass (h : calls.Nests env) : calls.AllPass fun fs => fs.length ≤ env.maxDepth where
  eval e := (h.eval e).narrow (h.steady.eval e) (unframed_le _).kept fun _ => .inl
  exec := h.exec
  iterate := h.iterate

/-- An initializer may be entered at any depth, a body below the deepest nesting. -/
theorem Nests.enters (h : calls.Nests env) (I : List Frame → Prop) : calls.Enters env I where
  initializer this _ hd hf hi := by
    refine (h.eval _).narrow (h.steady.eval _) (kept_keepsFrames _) fun gs hk => ?_
    exact bounded_kept env _ hk (.inr ⟨_, _, rfl, _, hd, _, hf, _, hi, .self⟩)
  body f stmts _ hlt := ⟨_, Nat.succ_le_of_lt hlt, execAll_passes h.allPass stmts⟩

theorem watching_nests (env : Env) {stop : Task → Machine → Prop}
    (hstop : ∀ task m, task.Allowed env m.frames → ¬ stop task m) :
    ∀ n, (watching env stop n).Nests env
  | 0 =>
    ⟨watching_steady env stop 0, fun _ => Passes.outOfFuel, fun _ => Passes.outOfFuel,
      fun _ => Passes.outOfFuel⟩
  | n + 1 => by
    have ih := watching_nests env hstop n
    refine ⟨watching_steady env stop (n + 1), fun e => ?_, fun s => ?_, fun l => ?_⟩
    · refine Passes.watched (stepEval_passes (bounded_kept env e) ih.steady (ih.enters _)
        fun p hp => ?_) fun m => hstop (.eval e) m
      exact (ih.eval p).narrow (ih.steady.eval p) (bounded_kept env e) fun fs h => h.evaluated hp
    · exact (stepExec_passes ih.allPass (unframed_le _) s).watched fun m => hstop (.exec s) m
    · exact (stepIterate_passes ih.allPass (unframed_le _) l).watched fun m => hstop (.iterate l) m

/-- A call is refused at the deepest nesting, and leaves the frames alone. -/
theorem invoke_refused (env : Env) (calls : Calls) (k : MethodInfo) (c : ClassInfo)
    (receiver : Option ObjectId) (args : List Value) {m : Machine} (h : env.maxDepth ≤ m.depth) :
    ∃ m', calls.invoke env k c receiver args m =
      .error (.fault (.callDepthExceeded env.maxDepth)) m' ∧ m'.frames = m.frames := by
  obtain ⟨⟨heap, sink, log⟩, frames, statics⟩ := m
  refine ⟨⟨⟨heap, sink, log.push (.dispatch c.name k.name args.length)⟩, frames, statics⟩, ?_, rfl⟩
  simp only [Machine.depth] at h
  simp [invoke, Run.log, Run.native, Native.log, bind, EStateM.bind, Run.get_run, Machine.depth,
    h, Run.fault]
  rfl

end Calls

/-- **Calls nest no deeper than allowed.** On a new machine, every statement and every pass of a
loop starts with at most as many frames as the deepest nesting, and an expression that starts with
more is part of an initializer of the running class or of a class above it. A call with that many
frames is refused. -/
theorem call_depth_bounds_statements (env : Env) (fuel : Nat) (className method : String)
    (sink : Sink) :
    (∀ task m, Machine.Starts env fuel className method (.start sink) task m →
      m.depth ≤ env.maxDepth ∨
        ∃ e f fs, task = .eval e ∧ m.frames = f :: fs ∧ f.Initializes env.classes e) ∧
    (∀ k c receiver args (m : Machine), env.maxDepth ≤ m.depth →
      ∃ m', (Calls.withFuel env fuel).invoke env k c receiver args m =
        .error (.fault (.callDepthExceeded env.maxDepth)) m' ∧ m'.frames = m.frames) := by
  refine ⟨fun task m h => Classical.byContradiction fun hno => ?_,
    fun k c receiver args m => Calls.invoke_refused env _ k c receiver args⟩
  -- otherwise a watch for the task would stop at nothing that is allowed, so it would be passed
  have hstop : ∀ t s, Task.Allowed env (Machine.frames s) t → ¬ (t = task ∧ s = m) := by
    rintro t s ht ⟨rfl, rfl⟩
    cases t with
    | eval e =>
      rcases ht with ht | ⟨f, gs, hf, hi⟩
      · exact hno (.inl ht)
      · exact hno (.inr ⟨e, f, gs, rfl, hf, hi⟩)
    | exec | iterate => exact hno (.inl ht)
  have hn := Calls.watching_nests env hstop fuel
  obtain ⟨last, hrun⟩ := h
  exact (Machine.enter_passes hn.steady (hn.enters fun _ => True) className method).not_probe
    trivial hrun

/-! ## Initializers nest without a bound -/

/-- Every instance of the class makes another one: its only field is initialized by a new instance
of the class itself, and it has no static fields to initialize. -/
structure ClassInfo.MakesItself (t : ClassTable) (c : ClassInfo) (type : TypeRef) (span : Span) :
    Prop where
  inner : c.inner? type.dataType.name = none
  found : t.resolve? type.dataType.name = some c
  statics : ∀ s : Statics, (s.touch (c.chain t)).2 = []
  field : ∃ f, c.allInstanceFields t = [f] ∧ f.init = some (.create type [] span)

/-- The state in which the initializers of a new instance start. -/
def Machine.making (t : ClassTable) (c : ClassInfo) (typeArgs : List DataType) (m : Machine) :
    Machine where
  world := { m.world with
    heap := (m.world.heap.alloc ⟨c, typeArgs, Calls.nullFields (c.allInstanceFields t), .none⟩).2 }
  frames := Frame.make c (some m.world.heap.objects.size) :: m.frames
  statics := (m.statics.touch (c.chain t)).1

namespace ClassInfo.MakesItself

variable {env : Env} {c : ClassInfo} {type : TypeRef} {span : Span}
  (h : c.MakesItself env.classes type span)
include h

/-- A halt in the initializer of an instance halts the making of the instance. -/
theorem instantiate_halts (calls : Calls) (m : Machine) (typeArgs : List DataType) {r : Halt}
    {last : Machine}
    (hr : calls.eval (.create type [] span) (m.making env.classes c typeArgs) = .error r last) :
    calls.instantiate env c typeArgs [] m = .error r (Run.popFrame last) := by
  obtain ⟨⟨heap, sink, log⟩, frames, statics⟩ := m
  obtain ⟨f, hf, hi⟩ := h.field
  simp only [Machine.making, hf] at hr
  simp [Calls.instantiate, Calls.ensureStatics, Run.touchStatics, h.statics, bind, EStateM.bind,
    pure, EStateM.pure, Run.heap, Run.native, Native.alloc, hf, hi, Run.inFrame, Run.ending,
    Calls.initFields, hr]

theorem create_halts (calls : Calls) {m : Machine} {f : Frame} {fs : List Frame}
    (hm : m.frames = f :: fs) (hf : f.cls = c) {r : Halt} {last : Machine}
    (hr : calls.eval (.create type [] span) (m.making env.classes c type.dataType.args) =
      .error r last) :
    calls.stepEval env (.create type [] span) m = .error r (Run.popFrame last) := by
  have hclass : m.lookupClass? env.classes type.dataType.name = some c := by
    simp [Machine.lookupClass?, hm, hf, h.inner, h.found]
  simp [Calls.stepEval, Calls.evalCreate, Run.get_run, bind, EStateM.bind, hclass,
    Calls.evalAll, pure, EStateM.pure, h.instantiate_halts calls m _ hr]

/-- In a frame of the class, the initializer comes to itself with any number of frames more. -/
theorem comes_to_itself (more : Nat) : ∀ {m : Machine} {f : Frame} {fs : List Frame},
    m.frames = f :: fs → f.cls = c → ∃ fuel m', m'.depth = m.depth + more ∧ ∃ last,
      (Calls.watching env (fun t s => t = .eval (.create type [] span) ∧ s = m') fuel).eval
        (.create type [] span) m = .error .probe last := by
  induction more with
  | zero => exact fun {m} _ _ _ _ => ⟨1, m, rfl, m, if_pos ⟨rfl, rfl⟩⟩
  | succ more ih =>
    intro m f fs hm hf
    obtain ⟨fuel, m', hdepth, last, hrun⟩ :=
      ih (m := m.making env.classes c type.dataType.args) rfl rfl
    have hlen : (m.making env.classes c type.dataType.args).depth = m.depth + 1 := rfl
    refine ⟨fuel + 1, m', by omega, Run.popFrame last, ?_⟩
    -- the watch is for a state with more frames, so it does not stop yet
    have hne : ¬ (Task.eval (.create type [] span) = .eval (.create type [] span) ∧ m = m') := by
      rintro ⟨-, rfl⟩
      omega
    exact (if_neg hne).trans (h.create_halts _ hm hf hrun)

/-- Running an instance method of the class comes to any number of frames. -/
theorem starts {method : String} (hs : c.staticMethods? env.classes method = none)
    (hi : (c.instanceMethods? env.classes method).isSome = true) (sink : Sink) (depth : Nat) :
    ∃ fuel m, depth < m.depth ∧ Machine.Starts env fuel type.dataType.name method (.start sink)
      (.eval (.create type [] span)) m := by
  obtain ⟨m₀, hm₀⟩ : ∃ m₀ : Machine, m₀ =
      { Machine.start sink with
        world.log := (Machine.start sink).world.log.push (.running c.name method) } := ⟨_, rfl⟩
  obtain ⟨fuel, m, hdepth, last, hrun⟩ :=
    h.comes_to_itself depth (m := m₀.making env.classes c []) rfl rfl
  have hlen : (m₀.making env.classes c []).depth = 1 := by rw [hm₀]; rfl
  refine ⟨fuel, m, by omega, Run.popFrame last, ?_⟩
  have hmake := h.instantiate_halts _ m₀ [] hrun
  unfold Machine.enter
  rw [h.found]
  rw [hm₀] at hmake
  simp only [hs, hi, Option.isSome_none, Bool.false_eq_true, if_false, if_true, Run.log, Run.native,
    Native.log, Machine.start, bind, EStateM.bind]
  simp only [Machine.start] at hmake
  rw [hmake]

end ClassInfo.MakesItself

/-- A class whose instances each make another one. -/
def endlessNode : List ClassDecl :=
  let node : TypeRef := ⟨⟨"Node", .unknown⟩, [], .unknown⟩
  [⟨.none, [], ⟨"Node", .unknown⟩, none, [],
    [.field ⟨.none, node, ⟨"next", .unknown⟩, some (.create node [] .unknown), .unknown⟩,
      .method ⟨.none, none, ⟨"run", .unknown⟩, [], some [], .unknown⟩], .unknown⟩]

/-- A class without a superclass and without static fields has none to initialize. -/
theorem Statics.touch_of_no_fields {t : ClassTable} {c : ClassInfo} (hc : c.superclass = none)
    (hf : c.staticFields.entries = []) (s : Statics) : (s.touch (c.chain t)).2 = [] := by
  rw [ClassInfo.chain_of_no_superclass hc]
  unfold touch
  split
  · rfl
  · simp [touch, pending, hf]

theorem endlessNode_makesItself : ∃ (c : ClassInfo) (type : TypeRef) (span : Span),
    type.dataType.name = "Node" ∧
    c.MakesItself (Registration.registerAll .initial endlessNode).table type span ∧
    c.staticMethods? (Registration.registerAll .initial endlessNode).table "run" = none ∧
    (c.instanceMethods? (Registration.registerAll .initial endlessNode).table "run").isSome = true := by
  obtain ⟨c, hc, hsuper, hstatic, hinner, f, hfields, hinit, hmethods⟩ : ∃ c,
      (Registration.registerAll .initial endlessNode).table.resolve? "Node" = some c ∧
      c.superclass = none ∧ c.staticFields.entries = [] ∧ c.inner? "Node" = none ∧
      ∃ f, c.allInstanceFields (Registration.registerAll .initial endlessNode).table = [f] ∧
        f.init = some (.create ⟨⟨"Node", .unknown⟩, [], .unknown⟩ [] .unknown) ∧
      c.staticMethods? (Registration.registerAll .initial endlessNode).table "run" = none ∧
      (c.instanceMethods? (Registration.registerAll .initial endlessNode).table "run").isSome =
        true :=
    ⟨_, rfl, rfl, rfl, rfl, _, rfl, rfl, rfl, rfl⟩
  exact ⟨c, ⟨⟨"Node", .unknown⟩, [], .unknown⟩, .unknown, rfl,
    ⟨hinner, hc, Statics.touch_of_no_fields hsuper hstatic, f, hfields, hinit⟩, hmethods⟩

/-- A run may have more active frames than the deepest nesting. -/
theorem frames_pass_deepest_nesting : ¬ ∀ (decls : List ClassDecl) (env : Env) (fuel : Nat)
    (className method : String) (task : Task) (m : Machine),
    Env.make (Registration.registerAll .initial decls).table none {} ⟨2024, 1, 1⟩ 16 = .ok env →
    Machine.Starts env fuel className method (.start {}) task m → m.depth ≤ env.maxDepth := by
  intro h
  obtain ⟨env, henv, ht⟩ : ∃ env, Env.make (Registration.registerAll .initial endlessNode).table
      none {} ⟨2024, 1, 1⟩ 16 = .ok env ∧
      env.classes = (Registration.registerAll .initial endlessNode).table := ⟨_, rfl, rfl⟩
  obtain ⟨c, type, span, hname, hc, hs, hi⟩ := endlessNode_makesItself
  rw [← ht] at hc hs hi
  obtain ⟨fuel, m, hdepth, hstarts⟩ := hc.starts hs hi {} env.maxDepth
  exact Nat.not_le.2 hdepth (h endlessNode env fuel _ "run" _ m henv hstarts)

/-- Beyond the deepest nesting the run is in the initializer of the field, and calls are refused. -/
theorem call_depth_bounds_statements_endless : ∃ (env : Env) (fuel : Nat) (m : Machine) (e : Expr)
    (f : Frame) (fs : List Frame),
    Env.make (Registration.registerAll .initial endlessNode).table none {} ⟨2024, 1, 1⟩ 16 =
      .ok env ∧
    Machine.Starts env fuel "Node" "run" (.start {}) (.eval e) m ∧ 16 < m.depth ∧
    m.frames = f :: fs ∧ f.Initializes env.classes e ∧
    ∃ m', (Calls.withFuel env fuel).invoke env ⟨"run", .none, none, [], .script [], .unknown⟩ f.cls
      none [] m = .error (.fault (.callDepthExceeded 16)) m' := by
  obtain ⟨env, henv, ht, hmax⟩ : ∃ env,
      Env.make (Registration.registerAll .initial endlessNode).table none {} ⟨2024, 1, 1⟩ 16 =
        .ok env ∧
      env.classes = (Registration.registerAll .initial endlessNode).table ∧ env.maxDepth = 16 :=
    ⟨_, rfl, rfl, rfl⟩
  obtain ⟨c, type, span, hname, hc, hs, hi⟩ := endlessNode_makesItself
  rw [← ht] at hc hs hi
  obtain ⟨fuel, m, hdepth, hstarts⟩ := hc.starts hs hi {} 16
  rw [hname] at hstarts
  obtain ⟨hall, hrefused⟩ := call_depth_bounds_statements env fuel "Node" "run" {}
  obtain ⟨e, f, fs, he, hf, hinit⟩ := (hall _ m hstarts).resolve_left (by omega)
  obtain ⟨m', hm', -⟩ := hrefused ⟨"run", .none, none, [], .script [], .unknown⟩ f.cls none [] m
    (by omega)
  cases he
  exact ⟨env, fuel, m, _, f, fs, henv, hstarts, hdepth, hf, hinit, m', hmax ▸ hm'⟩

end ClassScript
