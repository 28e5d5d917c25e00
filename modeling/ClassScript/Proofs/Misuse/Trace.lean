import ClassScript.Proofs.Resolution.Names

/-!
# Where a misuse comes from

Two faults say that an expression is misused: `this` and instance methods need a receiver
(`staticContext`), and only a place can be written to (`notAssignable`). Both are tested by checking
too, but in other terms: checking knows whether code is static, running whether the frame has a
receiver. `Machine.On t cx scope m` ties the two: the machine is at a place of checked code, and
where there is no receiver the code is static.

`Halt.Traced t r`: if `r` is such a fault, it comes from a checked expression that is misused in a
class below the one it is written in (`Expr.Misuses`). A computation that halts for traced reasons
only `Run.Traces`. Whether the machine stays at its place is known from `Run.Safe`, so a computation
in two steps traces if the first does and is safe, and the second does wherever that ends
(`Run.Traces.bind`).
-/

namespace ClassScript

open Run (Balanced Steady Safe)
open Typing (Checks Code)

/-! ## Misused expressions -/

/-- A fault that does not say that an expression is misused. -/
def RuntimeError.IsHarmless : RuntimeError → Prop
  | .staticContext _ | .notAssignable _ => False
  | _ => True

/-- Code of the context `cx` that runs in the class `c` misuses the expression, and the fault that
follows. -/
inductive Expr.Misuses (t : ClassTable) (cx : CheckContext) (c : ClassInfo) :
    Expr → RuntimeError → Prop
  | this {span : Span} : cx.isStatic = true →
    Misuses t cx c (.this span) (.staticContext ("this at " ++ span.text))
  | call {method : Ident} {args : List Expr} {span : Span} : cx.isStatic = true →
    c.staticMethods? t method.name = none → (c.instanceMethods? t method.name).isSome = true →
      Misuses t cx c (.call method args span) (.staticContext method.name)
  | target {e x : Expr} : e.target? = some x → x.isAssignable = false →
    Misuses t cx c e (.notAssignable x.span)

/-- The reason to halt comes from checked code if it is a misuse (module doc). -/
def Halt.Traced (t : ClassTable) (r : Halt) : Prop :=
  ∀ error, r = .fault error → ¬ error.IsHarmless → ∃ cx role e s c,
    Checks t cx (.expr role e) s ∧ t.Has c ∧ cx.cls ∈ c.chain t ∧ e.Misuses t cx c error

theorem RuntimeError.IsHarmless.traced {error : RuntimeError} (h : error.IsHarmless)
    (t : ClassTable) : (Halt.fault error).Traced t := by
  intro _ he hn
  cases he
  exact absurd h hn

theorem OperandFault.isHarmless {error : RuntimeError} (h : OperandFault error) :
    error.IsHarmless := by
  cases h <;> trivial

/-! ## Places with a receiver or without -/

namespace Machine

/-- Where there is no receiver, the code is static. -/
def Suits (cx : CheckContext) (m : Machine) : Prop :=
  ∀ f fs, m.frames = f :: fs → f.this = none → cx.isStatic = true

/-- The machine executes checked code that suits the frame (module doc). -/
structure On (t : ClassTable) (cx : CheckContext) (scope : LocalScope) (m : Machine) : Prop
    extends At t cx scope m where
  suits : m.Suits cx

variable {t : ClassTable} {cx : CheckContext} {scope scope' : LocalScope} {m m' : Machine}

theorem Suits.keeps {vars : List String} (h : m.Suits cx)
    (hk : KeepsFrames vars m.frames m'.frames) : m'.Suits cx := by
  intro g gs hg hthis
  rw [hg] at hk
  generalize hm : m.frames = frames at hk
  cases hk with
  | running k => exact h _ _ hm (k.this ▸ hthis)

theorem On.keeps (h : m.On t cx scope) (hk : KeepsFrames [] m.frames m'.frames)
    (hb : m'.world.heap.Belongs t) (he : m.world.heap.Evolves t m'.world.heap) :
    m'.On t cx scope :=
  ⟨h.toAt.keeps hk hb he, h.suits.keeps hk⟩

theorem On.of_lookup (h : m.On t cx scope)
    (hs : ∀ name, scope'.lookup? name = scope.lookup? name) : m.On t cx scope' :=
  ⟨h.toAt.of_lookup hs, h.suits⟩

theorem On.push (h : m.On t cx scope) {f : Frame} {fs : List Frame} (hm : m.frames = f :: fs) :
    On t cx scope { m with frames := f.push :: fs } := by
  refine ⟨h.toAt.push hm, ?_⟩
  intro g gs hg hthis
  cases hg
  exact h.suits f fs hm hthis

end Machine

/-! ## Computations that trace -/

namespace Run

variable {α β : Type} {t : ClassTable} {m : Machine} {x : Run α} {f : α → Run β}

/-- `x` halts for traced reasons only (module doc). -/
def Traces (t : ClassTable) (x : Run α) (m : Machine) : Prop :=
  x.Ends (fun _ _ => True) (fun r _ => r.Traced t) m

/-- `x` halts for traced reasons only, over all classes and from every state. -/
def Tame (x : Run α) : Prop := ∀ t m, Traces t x m

namespace Traces

theorem bind {Q : α → Machine → Prop} {vars : List String} (hx : Traces t x m) (hs : Safe t x Q m)
    (hk : Steady vars x)
    (hf : ∀ a m', m'.world.heap.Belongs t → m.world.heap.Evolves t m'.world.heap →
      KeepsFrames vars m.frames m'.frames → Q a m' → Traces t (f a) m') :
    Traces t (x >>= f) m := by
  have hframes := hk m
  unfold Traces
  rw [ends_bind]
  unfold Traces Safe Ends at *
  split <;> rename_i hr <;> rw [hr] at hx hs hframes
  · exact hf _ _ hs.1 hs.2.1 hframes hs.2.2
  · exact hx

/-- What follows may be anything tame. -/
theorem tame (hx : Traces t x m) (hf : ∀ a, Tame (f a)) : Traces t (x >>= f) m := by
  unfold Traces
  rw [ends_bind]
  exact Ends.mono hx (fun a m' _ => hf a t m') fun _ _ hr => hr

theorem fault {error : RuntimeError} (h : error.IsHarmless) :
    Traces t (Run.fault error : Run α) m :=
  h.traced t

theorem get_bind {f : Machine → Run β} (h : Traces t (f m) m) :
    Traces t (MonadState.get >>= f) m := h

theorem heap_bind {f : Heap → Run β} (h : Traces t (f m.world.heap) m) :
    Traces t (Run.heap >>= f) m := h

theorem frame_bind {f : Frame} {fs : List Frame} {k : Frame → Run β} (hm : m.frames = f :: fs)
    (h : Traces t (k f) m) : Traces t (Run.frame >>= k) m := by
  unfold Traces
  rw [ends_bind, ends_frame, hm]
  exact h

theorem inFrame {f : Frame} (hx : Traces t x { m with frames := f :: m.frames }) :
    Traces t (Run.inFrame f x) m :=
  ends_inFrame.2 hx

theorem inBlock {f : Frame} {fs : List Frame} (hm : m.frames = f :: fs)
    (hx : Traces t x { m with frames := f.push :: fs }) : Traces t (Run.inBlock x) m := by
  unfold Traces
  rw [ends_inBlock, hm]
  exact hx

end Traces

/-! ### Tame computations -/

namespace Tame

theorem traces (h : Tame x) : Traces t x m := h t m

theorem pure (a : α) : Tame (Pure.pure a) := fun _ _ => trivial

theorem bind (hx : Tame x) (hf : ∀ a, Tame (f a)) : Tame (x >>= f) := fun _ _ => hx.traces.tame hf

theorem fault {error : RuntimeError} (h : error.IsHarmless) : Tame (Run.fault error : Run α) :=
  fun t _ => h.traced t

theorem heap : Tame Run.heap := fun _ _ => trivial

theorem get : Tame (MonadState.get : Run Machine) := fun _ _ => trivial

theorem frame : Tame Run.frame := by
  intro t m
  unfold Traces
  rw [ends_frame]
  split
  · trivial
  · exact (show RuntimeError.IsHarmless .noFrame from trivial).traced t

theorem modifyFrame (g : Frame → Frame) : Tame (Run.modifyFrame g) := by
  intro t m
  unfold Traces
  rw [ends_modifyFrame]
  split
  · trivial
  · exact (show RuntimeError.IsHarmless .noFrame from trivial).traced t

theorem modifyStatics (g : Statics → Statics) : Tame (Run.modifyStatics g) := fun _ _ => trivial

theorem native (x : Native α) : Tame (Run.native x) := by
  intro t m
  unfold Traces
  rw [ends_native]
  split
  · trivial
  · exact (show RuntimeError.IsHarmless (.native _) from trivial).traced t

theorem log (event : LogEvent) : Tame (Run.log event) := native _

theorem ofExcept {x : Except RuntimeError α} (h : FaultsOnOperands x) : Tame (Run.ofExcept x) := by
  cases x with
  | ok a => exact pure a
  | error e => exact fault (h e rfl).isHarmless

theorem ofNative (x : Except NativeError α) : Tame (Run.ofNative x) := by
  cases x with
  | ok a => exact pure a
  | error e => exact fault trivial

end Tame

end Run

open Run (Tame Traces)

namespace Calls

variable {env : Env} {calls : Calls} {m : Machine}

theorem constant_tame (l : Literal) : Tame (constant env l) := by
  unfold constant
  split
  case h_5 => exact Tame.pure _
  all_goals exact Tame.native _

theorem selectOrFail_tame (b : TypeBindings) (group : Option (List MethodInfo)) (args : List Value)
    (className name : String) : Tame (selectOrFail env b group args className name) := by
  refine Tame.bind (Tame.heap.bind fun _ => Tame.pure _) fun found => ?_
  cases found with
  | none => exact Tame.fault trivial
  | some k => exact Tame.pure k

theorem namePlace_tame (name : String) : Tame (namePlace env name) := by
  refine Tame.frame.bind fun f => Tame.heap.bind fun h => ?_
  split
  · exact Tame.pure _
  · split
    · exact Tame.pure _
    · split
      · exact Tame.pure _
      · exact Tame.fault trivial

theorem staticPlace_tame (c : ClassInfo) (name : String) : Tame (staticPlace env c name) := by
  unfold staticPlace
  split
  · exact Tame.pure _
  · exact Tame.fault trivial

theorem applyBinary_tame (op : BinaryOp) (l r : Value) (span : Span) :
    Tame (applyBinary env op l r span) :=
  Tame.heap.bind fun _ => (Tame.ofExcept (Operator.binary_faults _ _ _ _ _)).bind constant_tame

/-! ## Running code in frames of its own -/

/-- Evaluation and execution of checked code trace. -/
structure AllTrace (t : ClassTable) (calls : Calls) : Prop where
  eval : ∀ {cx scope e m}, ExprAt t cx scope e → m.On t cx scope → Traces t (calls.eval e) m
  exec : ∀ {cx b s m}, Checks t cx (.stmt b) s → m.On t cx s.scope → Traces t (calls.exec b) m
  iterate : ∀ {cx scope l m}, LoopAt t cx scope l → m.On t cx scope →
    Traces t (calls.iterate l) m

section

variable {t : ClassTable} {cx : CheckContext} {scope : LocalScope} (h : calls.Follows t)
  (ht : calls.AllTrace t)
include h ht

/-- After an expression the machine is where it was. -/
theorem eval_bind_traces {α : Type} {e : Expr} {f : Value → Run α} (he : ExprAt t cx scope e)
    (hm : m.On t cx scope)
    (hf : ∀ v m', m'.On t cx scope → m.world.heap.Evolves t m'.world.heap → Traces t (f v) m') :
    Traces t (calls.eval e >>= f) m :=
  (ht.eval he hm).bind (h.eval he hm.toAt) (h.steady.eval e) fun v m' hb hev hk _ =>
    hf v m' (hm.keeps hk hb hev) hev

theorem evalAll_traces : ∀ {es : List Expr} {m : Machine}, (∀ e ∈ es, ExprAt t cx scope e) →
    m.On t cx scope → Traces t (calls.evalAll es) m
  | [], _, _, _ => (Tame.pure _).traces
  | e :: _, _, hes, hm =>
    eval_bind_traces h ht (hes e List.mem_cons_self) hm fun _ _ hm₁ _ =>
      (evalAll_traces (fun e' he' => hes e' (List.mem_cons_of_mem _ he')) hm₁).tame fun _ =>
        Tame.pure _

theorem execAll_traces : ∀ {ss : List Stmt} {s : CheckState} {m : Machine},
    Checks t cx (.stmts ss) s → m.On t cx s.scope → Traces t (calls.execAll ss) m
  | [], _, _, _, _ => (Tame.pure _).traces
  | b :: ss, s, m, hc, hm => by
    have hb : Checks t cx (.stmt b) s := .part hc List.mem_cons_self
    have hss : Checks t cx (.stmts ss) (Typing.checkStmt cx b s).2 :=
      .part hc (List.mem_cons_of_mem _ List.mem_cons_self)
    refine (ht.exec hb hm).bind (h.exec hb hm.toAt) (h.steady.exec b) fun flow m₁ _ _ hk hq => ?_
    cases flow with
    | normal => exact execAll_traces hss ⟨hq rfl, hm.suits.keeps hk⟩
    | ret _ | brk | cont => exact (Tame.pure _).traces

/-- After the arguments the machine is where it was. -/
theorem evalAll_bind_traces {α : Type} {es : List Expr} {f : List Value → Run α}
    (hm : m.On t cx scope) (hes : ∀ e ∈ es, ExprAt t cx scope e)
    (hf : ∀ vs m', m'.On t cx scope → Traces t (f vs) m') :
    Traces t (calls.evalAll es >>= f) m :=
  (evalAll_traces h ht hes hm).bind (evalAll_safe h hes hm.toAt) (evalAll_steady h.steady es)
    fun vs m' hb hev hk _ => hf vs m' (hm.keeps hk hb hev)

omit h in
theorem evalCondition_traces {e : Expr} (hm : m.On t cx scope) (he : ExprAt t cx scope e) :
    Traces t (calls.evalCondition e) m :=
  (ht.eval he hm).tame fun _ => Tame.heap.bind fun _ => Tame.ofExcept (Operator.truth_faults _ _ _)

/-- After a condition the machine is where it was. -/
theorem evalCondition_bind_traces {α : Type} {e : Expr} {f : Bool → Run α} (hm : m.On t cx scope)
    (he : ExprAt t cx scope e) (hf : ∀ b m', m'.On t cx scope → Traces t (f b) m') :
    Traces t (calls.evalCondition e >>= f) m :=
  (evalCondition_traces ht hm he).bind (evalCondition_safe h he hm.toAt)
    (evalCondition_steady h.steady e) fun b m' hb hev hk _ => hf b m' (hm.keeps hk hb hev)

/-- Initializers run one after the other in the same frame, each at its own place. -/
theorem initStatics_traces : ∀ {ps : List PendingStatic} {m : Machine},
    (∀ p ∈ ps, ∃ cx scope, ExprAt t cx scope p.init ∧ m.On t cx scope) →
    Traces t (calls.initStatics ps) m
  | [], _, _ => (Tame.pure _).traces
  | p :: ps, m, hps => by
    obtain ⟨cx, scope, he, hm⟩ := hps p List.mem_cons_self
    refine (ht.eval he hm).bind (h.eval he hm.toAt) (h.steady.eval _) fun v m₁ hb₁ he₁ hk₁ _ => ?_
    refine Traces.bind (Tame.modifyStatics _).traces (Safe.modifyStatics hb₁ _)
      ((Balanced.modifyStatics _).steady []) fun _ m₂ hb₂ he₂ hk₂ _ => initStatics_traces ?_
    intro q hq
    obtain ⟨cx', scope', he', hm'⟩ := hps q (List.mem_cons_of_mem _ hq)
    exact ⟨cx', scope', he', (hm'.keeps hk₁ hb₁ he₁).keeps hk₂ hb₂ he₂⟩

end

section

variable (he : env.Checked) (hsort : ∀ c, env.classes.Has c → c.Sorted)
  (h : calls.Follows env.classes) (ht : calls.AllTrace env.classes)
  (hb : m.world.heap.Belongs env.classes)
include he hsort h ht hb

/-- Static initializers run without a receiver, and they were checked as static code. -/
theorem ensureStatics_traces {c : ClassInfo} (hc : env.classes.Has c) :
    Traces env.classes (calls.ensureStatics env c) m := by
  unfold ensureStatics
  refine Traces.bind (Q := fun pending m' => m'.world = m.world ∧ ∀ p ∈ pending,
      ∃ d ∈ c.chain env.classes, ∃ f ∈ d.staticFields.values, f.init = some p.init)
    trivial ⟨hb, .refl _ _, rfl, fun p hp => Statics.touch_static hp⟩
    ((Balanced.touchStatics _).steady []) fun pending m₁ hb₁ _ _ hq => ?_
  split
  · exact (Tame.pure _).traces
  · refine (Tame.log _).traces.bind (Safe.log hb₁ _) ((Balanced.log _).steady [])
      fun _ m₂ hb₂ _ _ _ => Traces.inFrame (initStatics_traces h ht ?_)
    intro p hp
    obtain ⟨d, hd, f, hf, hi⟩ := hq.2 p hp
    obtain ⟨s, hx, hat⟩ := Machine.exists_initializer he.checked hb₂ hc hd .none
      (List.mem_append_right _ hf) hi
    exact ⟨_, _, hx, hat, fun _ _ _ _ => (hsort d (hc.of_chain hd)).fields f hf⟩

theorem readStatic_traces {c : ClassInfo} (hc : env.classes.Has c) (name : String) :
    Traces env.classes (calls.readStatic env c name) m := by
  unfold readStatic
  split
  · exact (Tame.pure _).traces
  · exact (ensureStatics_traces he hsort h ht hb hc).tame fun _ =>
      Tame.get.bind fun _ => Tame.pure _

theorem writeStatic_traces {c : ClassInfo} (hc : env.classes.Has c) (name : String) (v : Value) :
    Traces env.classes (calls.writeStatic env c name v) m := by
  unfold writeStatic
  split
  · exact (Tame.pure _).traces
  · exact (ensureStatics_traces he hsort h ht hb hc).tame fun _ => Tame.modifyStatics _

omit hsort in
/-- A method that runs without a receiver has to be static. -/
theorem invoke_traces {k : MethodInfo} {c : ClassInfo} {receiver : Option ObjectId}
    (hc : env.classes.Has c) (hk : c.HasMethod env.classes k)
    (hr : IsReceiver env.classes m.world.heap c receiver)
    (hstatic : receiver = none → k.isStatic = true) (args : List Value) :
    Traces env.classes (calls.invoke env k c receiver args) m := by
  refine (Tame.log _).traces.bind (Safe.log hb _) ((Balanced.log _).steady [])
    fun _ m₁ hb₁ he₁ _ _ => Traces.get_bind ?_
  split
  · exact Traces.fault trivial
  · split
    · exact (Tame.native _).traces
    · rename_i stmts hbody
      split
      · rename_i ha
        obtain ⟨d, s, hcode, hat⟩ :=
          Machine.exists_body he.checked hb₁ hc (hr.evolves he₁) hk hbody ha
        refine (Traces.inFrame (execAll_traces h ht hcode ⟨hat, ?_⟩)).tame fun _ => Tame.pure _
        intro f fs hf hthis
        cases hf
        rw [(Frame.declareParams_keeps k.params args (Frame.make c receiver)).2] at hthis
        exact hstatic hthis
      · exact Traces.fault trivial
    · exact Traces.fault trivial

theorem callStatic_traces {c : ClassInfo} (hc : env.classes.Has c) (name : String)
    (args : List Value) : Traces env.classes (calls.callStatic env c name args) m := by
  refine (ensureStatics_traces he hsort h ht hb hc).bind (ensureStatics_safe he h hb hc)
    ((ensureStatics_balanced env h.steady c).steady []) fun _ m₁ hb₁ _ _ _ => ?_
  refine (selectOrFail_tame _ _ _ _ _).traces.bind (selectOrFail_safe hb₁ _ _ _ _ _)
    ((selectOrFail_balanced env _ _ _ _ _).steady []) fun k m₂ hb₂ _ _ hk => ?_
  obtain ⟨-, g, hg, hk⟩ := hk
  refine invoke_traces he h ht hb₂ hc (ClassInfo.hasMethod_of_static hg hk) .none (fun _ => ?_) args
  obtain ⟨d, hd, hget⟩ := List.exists_of_findSome?_eq_some hg
  exact (hsort d (hc.of_chain hd)).methods name g hget k hk

omit hsort in
theorem callInstance_traces (id : ObjectId) (name : String) (args : List Value) :
    Traces env.classes (calls.callInstance env id name args) m := by
  refine Traces.heap_bind ((selectOrFail_tame _ _ _ _ _).traces.bind
    (selectOrFail_safe hb _ _ _ _ _) ((selectOrFail_balanced env _ _ _ _ _).steady [])
    fun k m₁ hb₁ _ _ hk => ?_)
  obtain ⟨rfl, g, hg, hk⟩ := hk
  obtain ⟨hc, hr⟩ := hb₁.receiver hg
  exact invoke_traces he h ht hb₁ hc (ClassInfo.hasMethod_of_instance hg hk) hr
    (fun hn => by cases hn) args

/-! ### Instances -/

omit hsort in
theorem construct_traces {c : ClassInfo} (hc : env.classes.Has c) {id : ObjectId}
    (hr : IsReceiver env.classes m.world.heap c (some id)) (typeArgs : List DataType)
    (args : List Value) : Traces env.classes (calls.construct env c id typeArgs args) m := by
  unfold construct
  split
  · split
    · exact (Tame.pure _).traces
    · exact Traces.fault trivial
  · refine (selectOrFail_tame _ _ _ _ _).traces.bind (selectOrFail_safe hb _ _ _ _ _)
      ((selectOrFail_balanced env _ _ _ _ _).steady []) fun k m₁ hb₁ he₁ _ hk => ?_
    obtain ⟨-, g, hg, hk⟩ := hk
    cases hg
    exact (invoke_traces he h ht hb₁ hc (ClassInfo.hasMethod_of_constructor hk) (hr.evolves he₁)
      (fun hn => by cases hn) args).tame fun _ => Tame.pure _

end

theorem initFields_traces {t : ClassTable} (h : calls.Follows t) (ht : calls.AllTrace t)
    {id : ObjectId} : ∀ {fs : List FieldInfo} {m : Machine}, m.world.heap.Belongs t →
    id < m.world.heap.objects.size →
    (∀ f ∈ fs, ((m.world.heap.get id).cls.instanceField? t f.name).isSome = true) →
    (∀ f ∈ fs, ∀ e, f.init = some e → ∃ cx scope, ExprAt t cx scope e ∧ m.On t cx scope) →
    Traces t (calls.initFields id fs) m
  | [], _, _, _, _, _ => (Tame.pure _).traces
  | f :: fs, m, hb, lt, hn, hi => by
    unfold initFields
    have rest := fun g hg => hn g (List.mem_cons_of_mem f hg)
    have inits := fun g hg => hi g (List.mem_cons_of_mem f hg)
    split
    · rename_i e hfe
      obtain ⟨cx, scope, he, hm⟩ := hi f List.mem_cons_self e hfe
      refine (ht.eval he hm).bind (h.eval he hm.toAt) (h.steady.eval e)
        fun v m₁ hb₁ he₁ hk₁ _ => ?_
      have hset : m₁.world.heap.Keeps t (·.setField id f.name v) := by
        refine hb₁.setField v fun _ _ => ?_
        rw [he₁.cls id lt]
        exact hn f List.mem_cons_self
      refine (Tame.native _).traces.bind (Safe.modifyHeap hset) ((Balanced.native _).steady [])
        fun _ m₂ hb₂ he₂ hk₂ _ => ?_
      have ev := he₁.trans he₂
      refine initFields_traces h ht hb₂ (Nat.lt_of_lt_of_le lt ev.size) (fun g hg => ?_)
        fun g hg e' he' => ?_
      · rw [ev.cls id lt]
        exact rest g hg
      · obtain ⟨cx', scope', hx, hm'⟩ := inits g hg e' he'
        exact ⟨cx', scope', hx, (hm'.keeps hk₁ hb₁ he₁).keeps hk₂ hb₂ he₂⟩
    · exact initFields_traces h ht hb lt rest inits

theorem instantiate_traces (he : env.Checked) (hsort : ∀ c, env.classes.Has c → c.Sorted)
    (h : calls.Follows env.classes) (ht : calls.AllTrace env.classes)
    (hb : m.world.heap.Belongs env.classes) {c : ClassInfo} (hc : env.classes.Has c)
    (typeArgs : List DataType) (args : List Value) :
    Traces env.classes (calls.instantiate env c typeArgs args) m := by
  have hreg : ∀ d ∈ c.chain env.classes, d.Regular := fun d hd => he.regular d (hc.of_chain hd)
  refine (ensureStatics_traces he hsort h ht hb hc).bind (ensureStatics_safe he h hb hc)
    ((ensureStatics_balanced env h.steady c).steady []) fun _ m₁ hb₁ _ _ _ =>
      Traces.heap_bind ?_
  refine (Tame.native _).traces.bind (alloc_safe he hb₁ hc typeArgs) ((Balanced.native _).steady [])
    fun _ m₂ hb₂ _ _ hr => ?_
  have rest : ∀ {m' : Machine}, m'.world.heap.Belongs env.classes →
      m₂.world.heap.Evolves env.classes m'.world.heap → Traces env.classes
      (do calls.construct env c m₁.world.heap.objects.size typeArgs args
          pure m₁.world.heap.objects.size : Run ObjectId) m' := fun hb' he' =>
    (construct_traces he h ht hb' hc (hr.evolves he') typeArgs args).tame fun _ => Tame.pure _
  obtain ⟨lt, hcls, -⟩ := hr _ rfl
  dsimp only
  split
  · have declared : ∀ f ∈ c.allInstanceFields env.classes,
        ((m₂.world.heap.get m₁.world.heap.objects.size).cls.instanceField? env.classes
          f.name).isSome = true := by
      intro f hf
      rw [hcls]
      exact ClassInfo.allInstanceFields_declared hreg hf
    -- initializers of fields run in a frame that has the new object as its receiver
    have inits : ∀ f ∈ c.allInstanceFields env.classes, ∀ e, f.init = some e → ∃ cx scope,
        ExprAt env.classes cx scope e ∧ Machine.On env.classes cx scope { m₂ with
          frames := Frame.make c (some m₁.world.heap.objects.size) :: m₂.frames } := by
      intro f hf e hi
      obtain ⟨d, hd, hfd⟩ := List.mem_flatMap.1 hf
      rw [List.mem_reverse] at hd
      obtain ⟨s, hx, hat⟩ := Machine.exists_initializer he.checked hb₂ hc hd hr
        (List.mem_append_left _ hfd) hi
      refine ⟨_, _, hx, hat, ?_⟩
      intro g gs hg hthis
      cases hg
      cases hthis
    refine Traces.bind (Traces.inFrame (initFields_traces h ht hb₂ lt declared inits))
      (Safe.inFrame (initFields_safe h hb₂ lt declared fun f hf e hi => ?_))
      (((initFields_steady h.steady _ _).inFrame _).steady []) fun _ m₃ hb₃ he₃ _ _ => rest hb₃ he₃
    obtain ⟨cx, scope, hx, hm⟩ := inits f hf e hi
    exact ⟨cx, scope, hx, hm.toAt⟩
  · exact rest hb₂ (.refl _ _)

end Calls

end ClassScript
