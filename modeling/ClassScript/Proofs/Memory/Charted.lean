import ClassScript.Proofs.Memory.Course

/-!
# Charted computations

`r.Charted env Q m`: the computation with the history `r`, started in `m`, takes the course that `r`
tells. However it ends, the memory that it leaves is that of the last stage; and if it ends with a
result, then in `Q`, over frames and objects of registered classes, and with the static initializers
due and running that there were before. `r.Leads env s Q m` says the same from any stage `s` on,
also of a computation that starts initializers or makes some due and leaves them so.

Both are closed under composition (`History.Leads.bind`, `History.Charted.bind`), and what comes
after may rely on it that the objects have lasted. Most computations ask nothing of the state and
promise nothing about it: `r.Charts env` says that they are charted wherever they start.
-/

namespace ClassScript

namespace Machine

/-- The frames and the objects are of classes of the table. -/
structure Placed (t : ClassTable) (m : Machine) : Prop where
  frames : ∀ f ∈ m.frames, t.Has f.cls
  heap : m.world.heap.Placed t

namespace Placed

variable {t : ClassTable} {m : Machine}

theorem head (hm : m.Placed t) : ∀ f ∈ m.frames.head?, t.Has f.cls := fun f hf =>
  hm.frames f (List.mem_of_mem_head? hf)

theorem push (hm : m.Placed t) {f : Frame} (hf : t.Has f.cls) :
    Placed t { m with frames := f :: m.frames } := by
  refine ⟨fun g hg => ?_, hm.heap⟩
  rcases List.mem_cons.1 hg with rfl | hg
  · exact hf
  · exact hm.frames g hg

theorem enter (hm : m.Placed t) {c : ClassInfo} (hc : t.Has c) (receiver : Option ObjectId) :
    Placed t { m with frames := Frame.make c receiver :: m.frames } :=
  hm.push hc

theorem popFrame (hm : m.Placed t) : (Run.popFrame m).Placed t :=
  ⟨fun f hf => hm.frames f (List.mem_of_mem_tail hf), hm.heap⟩

/-- The running frame may be any other of its class. -/
theorem modifyFrame (hm : m.Placed t) {f : Frame} {fs : List Frame} (hf : m.frames = f :: fs)
    {g : Frame} (hg : g.cls = f.cls) : Placed t { m with frames := g :: fs } := by
  refine ⟨fun k hk => ?_, hm.heap⟩
  rcases List.mem_cons.1 hk with rfl | hk
  · rw [hg]
    exact hm.frames f (hf ▸ List.mem_cons_self)
  · exact hm.frames k (hf ▸ List.mem_cons_of_mem f hk)

theorem popBlock (hm : m.Placed t) : (Run.popBlock m).Placed t := by
  obtain ⟨world, frames, statics⟩ := m
  cases frames with
  | nil => exact hm
  | cons f fs =>
    refine hm.modifyFrame rfl ?_
    unfold Frame.pop
    cases f.outer <;> rfl

end Placed

theorem memory_popBlock (m : Machine) : (Run.popBlock m).memory = m.memory := by
  obtain ⟨world, frames, statics⟩ := m
  cases frames <;> rfl

end Machine

namespace Run

/-- A computation that leaves the machine as it is. -/
def Reads {α : Type} (x : Run α) : Prop := ∀ m, x.after m = m

namespace Reads

variable {α β : Type}

theorem ends {x : Run α} (h : Reads x) (m : Machine) :
    x.Ends (fun _ m' => m' = m) (fun _ m' => m' = m) m :=
  ends_after.2 (h m)

theorem pure (a : α) : Reads (Pure.pure a) := fun _ => rfl

theorem throw (r : Halt) : Reads (MonadExcept.throw r : Run α) := fun _ => rfl

theorem fault (e : RuntimeError) : Reads (Run.fault e : Run α) := fun _ => rfl

theorem get : Reads (MonadState.get : Run Machine) := fun _ => rfl

theorem heap : Reads Run.heap := fun _ => rfl

theorem frame : Reads Run.frame := by
  rintro ⟨world, frames, statics⟩
  cases frames <;> rfl

theorem ofExcept (x : Except RuntimeError α) : Reads (Run.ofExcept x) := by
  intro m
  cases x <;> rfl

theorem ofNative (x : Except NativeError α) : Reads (Run.ofNative x) := by
  intro m
  cases x <;> rfl

theorem bind {x : Run α} {f : α → Run β} (hx : Reads x) (hf : ∀ a, Reads (f a)) :
    Reads (x >>= f) := by
  intro m
  refine (ends_after (P := (· = m))).1 (ends_bind.2 ((hx.ends m).mono ?_ fun _ _ h => h))
  rintro a _ rfl
  exact (hf a).ends _

end Reads

end Run

namespace History

variable {α β : Type} {env : Env} {x y : Run α} {m : Machine} {s s' : Stage}

/-- The computation takes a course from the stage on (module doc). -/
def Leads (env : Env) (r : History x) (s : Stage) (Q : α → Machine → Stage → Prop)
    (m : Machine) : Prop :=
  ∃ s', Course env s (r.moments m) s' ∧
    x.Ends (fun a m' => m'.Placed env.classes ∧ Q a m' s')
      (fun _ m' => s'.memory = m'.memory) m

/-- The computation takes a course that leaves no initializer behind (module doc). -/
def Charted (env : Env) (r : History x) (Q : α → Machine → Prop) (m : Machine) : Prop :=
  ∀ due running, r.Leads env ⟨m.memory, due, running⟩
    (fun a m' s' => s' = ⟨m'.memory, due, running⟩ ∧ Q a m') m

/-- The computation is charted wherever it starts (module doc). -/
def Charts (env : Env) (r : History x) : Prop :=
  ∀ m, m.Placed env.classes → r.Charted env (fun _ _ => True) m

variable {r : History x} {Q Q' : α → Machine → Prop} {T : α → Machine → Stage → Prop}

theorem Charted.mono (h : r.Charted env Q m) (hq : ∀ a m', Q a m' → Q' a m') :
    r.Charted env Q' m := by
  intro due running
  obtain ⟨s', course, ends⟩ := h due running
  exact ⟨s', course, ends.mono (fun a m' h => ⟨h.1, h.2.1, hq a m' h.2.2⟩) fun _ _ h => h⟩

/-! ## Composition -/

theorem Leads.bind {f : α → Run β} {k : ∀ a, History (f a)} {R : β → Machine → Stage → Prop}
    (h : r.Leads env s T m)
    (hk : ∀ a m' s', m'.Placed env.classes → s.memory.heap.Lasts s'.memory.heap → T a m' s' →
      (k a).Leads env s' R m') : (r.bind k).Leads env s R m := by
  obtain ⟨s₁, course, ends⟩ := h
  unfold Run.Ends at ends
  unfold Leads History.bind Run.Ends
  dsimp only
  rw [Run.bind_eq]
  cases hx : x m with
  | error e m₁ =>
    rw [hx] at ends
    exact ⟨s₁, by simpa using course, ends⟩
  | ok a m₁ =>
    rw [hx] at ends
    obtain ⟨s₂, course₂, ends₂⟩ := hk a m₁ s₁ ends.1 course.lasts ends.2
    exact ⟨s₂, course.append course₂, ends₂⟩

theorem Charted.bind {f : α → Run β} {k : ∀ a, History (f a)} {R : β → Machine → Prop}
    (h : r.Charted env Q m)
    (hk : ∀ a m', m'.Placed env.classes → m.world.heap.Lasts m'.world.heap → Q a m' →
      (k a).Charted env R m') : (r.bind k).Charted env R m := by
  intro due running
  refine (h due running).bind ?_
  rintro a m' _ hp lasts ⟨rfl, hq⟩
  exact hk a m' hp lasts hq due running

theorem Charts.bind {f : α → Run β} {k : ∀ a, History (f a)} (h : r.Charts env)
    (hk : ∀ a, (k a).Charts env) : (r.bind k).Charts env := fun m hm =>
  (h m hm).bind fun a m' hm' _ _ => hk a m' hm'

theorem Leads.of_eq {r : History y} {h : x = y} (hr : r.Leads env s T m) :
    (of_eq h r).Leads env s T m := by
  subst h
  exact hr

theorem Charted.of_eq {r : History y} {h : x = y} (hr : r.Charted env Q m) :
    (of_eq h r).Charted env Q m := fun due running => (hr due running).of_eq

theorem Charts.of_eq {r : History y} {h : x = y} (hr : r.Charts env) : (of_eq h r).Charts env :=
  fun m hm => (hr m hm).of_eq

/-! ## Events -/

theorem Leads.note {e : Event} (hc : Change env s e s') (hm : s'.memory = m.memory)
    (h : r.Leads env s' T m) : (note e r).Leads env s T m := by
  obtain ⟨s₂, course, ends⟩ := h
  refine ⟨s₂, ?_, ends⟩
  show Course env s (⟨e, m.memory⟩ :: r.moments m) s₂
  rw [← hm]
  exact .next hc course

theorem Leads.mark {e : Event} (hc : Change env s e s')
    (hx : x.Ends (fun a m' => m'.Placed env.classes ∧ s'.memory = m'.memory ∧ T a m' s')
      (fun _ m' => s'.memory = m'.memory) m) : (mark e x).Leads env s T m := by
  have memory : s'.memory = (x.after m).memory :=
    (Run.ends_after (P := fun m' => s'.memory = m'.memory)).1
      (hx.mono (fun _ _ h => h.2.1) fun _ _ h => h)
  refine ⟨s', ?_, hx.mono (fun _ _ h => ⟨h.1, h.2.2⟩) fun _ _ h => h⟩
  show Course env s [⟨e, (x.after m).memory⟩] s'
  rw [← memory]
  exact .single hc

theorem Charted.mark {e : Event} (hx : x.Ends
    (fun a m' => m'.Placed env.classes ∧
      (∀ due running, Change env ⟨m.memory, due, running⟩ e ⟨m'.memory, due, running⟩) ∧ Q a m')
    (fun _ m' => ∀ due running,
      Change env ⟨m.memory, due, running⟩ e ⟨m'.memory, due, running⟩) m) :
    (History.mark e x).Charted env Q m := by
  intro due running
  unfold Run.Ends at hx
  cases hr : x m with
  | ok a m' =>
    rw [hr] at hx
    refine .mark (hx.2.1 due running) ?_
    unfold Run.Ends
    rw [hr]
    exact ⟨hx.1, rfl, rfl, hx.2.2⟩
  | error e m' =>
    rw [hr] at hx
    refine .mark (hx due running) ?_
    unfold Run.Ends
    rw [hr]

/-- A computation that works on the heap as built-in methods do. -/
theorem Charted.work (hm : m.Placed env.classes) {decls : List ClassDecl}
    (he : env.Registered decls) (hx : x.Ends
      (fun a m' => m'.frames = m.frames ∧ m'.statics = m.statics ∧
        m.world.heap.Works m'.world.heap ∧ Q a m')
      (fun _ m' => m'.statics = m.statics ∧ m.world.heap.Works m'.world.heap) m) :
    (History.mark .work x).Charted env Q m := by
  refine .mark (hx.mono (fun a m' h => ?_) fun _ m' h due running => ?_)
  · obtain ⟨frames, statics, works, hq⟩ := h
    refine ⟨⟨frames ▸ hm.frames, works.placed he hm.heap⟩, fun due running => ?_, hq⟩
    unfold Machine.memory
    rw [statics]
    exact .work works
  · unfold Machine.memory
    rw [h.1]
    exact .work h.2

/-- A built-in method, or part of one. -/
theorem Charted.native {n : Native α} (hm : m.Placed env.classes) {decls : List ClassDecl}
    (he : env.Registered decls) (hn : n.Acts env.toHost m.world.heap.Starts m.world) :
    (History.mark .work (Run.native n)).Charted env
      (fun a m' => n m.world = .ok a m'.world) m := by
  refine .work hm he (Run.ends_native.2 ?_)
  unfold Native.Acts at hn
  cases hr : n m.world with
  | ok a w =>
    rw [hr] at hn
    exact ⟨rfl, rfl, Heap.works_of_acts he hn, rfl⟩
  | error e w =>
    rw [hr] at hn
    exact ⟨rfl, Heap.works_of_acts he hn⟩

theorem Charts.native {n : Native α} {decls : List ClassDecl} (he : env.Registered decls)
    (hn : ∀ w, n.Acts env.toHost w.heap.Starts w) :
    (History.mark .work (Run.native n)).Charts env := fun m hm =>
  (Charted.native hm he (hn m.world)).mono fun _ _ _ => trivial

/-! ## Computations without events -/

theorem Charted.quiet (hx : x.Ends
    (fun a m' => m'.memory = m.memory ∧ m'.Placed env.classes ∧ Q a m')
    (fun _ m' => m'.memory = m.memory) m) : (quiet x).Charted env Q m := by
  refine fun due running => ⟨_, .done _, hx.mono (fun a m' h => ?_) fun _ _ h => h.symm⟩
  obtain ⟨memory, hp, hq⟩ := h
  exact ⟨hp, by rw [memory], hq⟩

theorem Charted.pure {a : α} (hm : m.Placed env.classes) (hq : Q a m) :
    (History.quiet (Pure.pure a : Run α)).Charted env Q m :=
  .quiet ⟨rfl, hm, hq⟩

theorem Charted.fault {e : RuntimeError} :
    (History.quiet (Run.fault e : Run α)).Charted env Q m :=
  .quiet rfl

theorem Charted.reads (hm : m.Placed env.classes) (hx : Run.Reads x) :
    (History.quiet x).Charted env (fun _ m' => m' = m) m := by
  refine .quiet ((hx.ends m).mono ?_ ?_)
  · rintro _ _ rfl
    exact ⟨rfl, hm, rfl⟩
  · rintro _ _ rfl
    rfl

theorem Charts.reads (hx : Run.Reads x) : (History.quiet x).Charts env := fun _ hm =>
  (Charted.reads hm hx).mono fun _ _ _ => trivial

theorem Charted.log (hm : m.Placed env.classes) (event : LogEvent) :
    (History.quiet (Run.log event)).Charted env (fun _ m' => m'.memory = m.memory) m :=
  .quiet ⟨rfl, ⟨hm.frames, hm.heap⟩, rfl⟩

theorem Charts.modifyFrame {g : Frame → Frame} (hg : ∀ f, (g f).cls = f.cls) :
    (History.quiet (Run.modifyFrame g)).Charts env := by
  intro m hm
  refine .quiet (Run.ends_modifyFrame.2 ?_)
  cases hf : m.frames with
  | nil => rfl
  | cons f fs => exact ⟨rfl, hm.modifyFrame hf (hg f), trivial⟩

section

variable {R : β → Machine → Prop}

theorem Charted.heap_bind {f : Heap → Run β} {k : ∀ h, History (f h)}
    (h : (k m.world.heap).Charted env R m) :
    ((History.quiet Run.heap).bind k).Charted env R m := h

theorem Charted.get_bind {f : Machine → Run β} {k : ∀ m, History (f m)}
    (h : (k m).Charted env R m) : ((History.quiet get).bind k).Charted env R m := h

theorem Charted.frame_bind {f : Frame → Run β} {k : ∀ g, History (f g)}
    (h : ∀ g ∈ m.frames.head?, (k g).Charted env R m) :
    ((History.quiet Run.frame).bind k).Charted env R m := by
  obtain ⟨world, frames, statics⟩ := m
  cases frames with
  | nil => exact fun due running => ⟨_, .done _, rfl⟩
  | cons g gs => exact h g rfl

theorem Charted.ofExcept_bind {e : Except RuntimeError α} {f : α → Run β} {k : ∀ a, History (f a)}
    (h : ∀ a, e = .ok a → (k a).Charted env R m) :
    ((History.quiet (Run.ofExcept e)).bind k).Charted env R m := by
  cases e with
  | ok a => exact h a rfl
  | error e => exact fun due running => ⟨_, .done _, rfl⟩

end

/-! ## Frames and blocks -/

theorem Leads.inFrame {f : Frame} {R : α → Machine → Stage → Prop}
    (h : r.Leads env s T { m with frames := f :: m.frames })
    (hR : ∀ a m' s', T a m' s' → R a (Run.popFrame m') s') :
    (r.inFrame f).Leads env s R m := by
  obtain ⟨s', course, ends⟩ := h
  exact ⟨s', course, Run.ends_inFrame.2
    (ends.mono (fun a m' h => ⟨h.1.popFrame, hR a m' s' h.2⟩) fun _ _ h => h)⟩

theorem Charted.inFrame {f : Frame} (h : r.Charted env Q { m with frames := f :: m.frames }) :
    (r.inFrame f).Charted env (fun _ _ => True) m := fun due running =>
  (h due running).inFrame fun _ _ _ h => ⟨h.1, trivial⟩

theorem Charts.inBlock (h : r.Charts env) : r.inBlock.Charts env := by
  rintro ⟨world, frames, statics⟩ hm due running
  cases frames with
  | nil => exact ⟨_, .done _, rfl⟩
  | cons f fs =>
    have pushed := hm.modifyFrame rfl (show f.push.cls = f.cls from rfl)
    obtain ⟨s', course, ends⟩ := h _ pushed due running
    refine ⟨s', course, Run.ends_inBlock.2 ?_⟩
    refine ends.mono (fun a m' h => ⟨h.1.popBlock, ?_, trivial⟩) fun e m' h => ?_
    · rw [Machine.memory_popBlock]
      exact h.2.1
    · rw [Machine.memory_popBlock]
      exact h

end History

end ClassScript
