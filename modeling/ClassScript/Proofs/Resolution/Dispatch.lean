import ClassScript.Proofs.Resolution.Safe
import ClassScript.Proofs.Typing.OverloadChoice

/-!
# Calls and instances stay on checked code

What runs in frames of its own: static initializers, method bodies, field initializers and
constructors. Each enters code that checking came to, with a running class that has the code in its
chain; so each is safe, over calls that follow checked code (`Calls.Follows`).
-/

namespace ClassScript

open Run (Balanced Steady Safe)
open Typing (Checks Code)

/-- Evaluation and execution of checked code stay on checked code. A statement that ends normally
leaves the variables that checking sees after it. -/
structure Calls.Follows (t : ClassTable) (calls : Calls) : Prop where
  steady : calls.IsSteady
  eval : ∀ {cx scope e m}, ExprAt t cx scope e → m.At t cx scope →
    Safe t (calls.eval e) (fun _ m' => m'.At t cx scope) m
  exec : ∀ {cx b s m}, Checks t cx (.stmt b) s → m.At t cx s.scope →
    Safe t (calls.exec b)
      (fun flow m' => flow = .normal → m'.At t cx (Typing.checkStmt cx b s).2.scope) m
  iterate : ∀ {cx scope l m}, LoopAt t cx scope l → m.At t cx scope →
    Safe t (calls.iterate l) (fun _ m' => m'.At t cx scope) m

/-- What a run over checked classes is given. -/
structure Env.Checked (env : Env) : Prop where
  proper : env.toHost.Proper
  checked : (Typing.checkTable env.classes).1 = []
  regular : ∀ c, env.classes.Has c → c.Regular

/-! ## Members of a class -/

namespace ClassInfo

variable {t : ClassTable} {c : ClassInfo} {name : String} {k : MethodInfo}

/-- A method of the class or of a class above it. -/
def HasMethod (t : ClassTable) (c : ClassInfo) (k : MethodInfo) : Prop :=
  ∃ d ∈ c.chain t, k ∈ d.ownMethods

theorem mem_all {table : MethodTable} {g : List MethodInfo} (h : table.get? name = some g)
    (hk : k ∈ g) : k ∈ table.all := by
  obtain ⟨key, -, he⟩ := NameTable.sameName_of_get? h
  exact List.mem_flatten.2 ⟨g, List.mem_map.2 ⟨_, he, rfl⟩, hk⟩

theorem hasMethod_of_static {g : List MethodInfo} (h : c.staticMethods? t name = some g)
    (hk : k ∈ g) : c.HasMethod t k := by
  obtain ⟨d, hd, hg⟩ := List.exists_of_findSome?_eq_some h
  exact ⟨d, hd, List.mem_append_right _ (mem_all hg hk)⟩

theorem hasMethod_of_instance {g : List MethodInfo} (h : c.instanceMethods? t name = some g)
    (hk : k ∈ g) : c.HasMethod t k := by
  obtain ⟨d, hd, hg⟩ := List.exists_of_findSome?_eq_some h
  exact ⟨d, hd, List.mem_append_left _ (List.mem_append_right _ (mem_all hg hk))⟩

theorem hasMethod_of_constructor (h : k ∈ c.constructors) : c.HasMethod t k :=
  ⟨c, self_mem_chain c t, List.mem_append_left _ (List.mem_append_left _ h)⟩

/-- No method runs on an object without a class. -/
theorem instanceMethods?_default (t : ClassTable) (name : String) :
    (default : ClassInfo).instanceMethods? t name = none := by
  unfold instanceMethods?
  rw [chain_of_no_superclass rfl]
  rfl

/-- An object without a class has no declared fields. -/
theorem instanceField?_default (t : ClassTable) (name : String) :
    (default : ClassInfo).instanceField? t name = none := by
  unfold instanceField?
  rw [chain_of_no_superclass rfl]
  rfl

/-- No method runs on a record. -/
theorem instanceMethods?_record (t : ClassTable) (name : String) :
    Builtin.recordClass.instanceMethods? t name = none := by
  unfold instanceMethods?
  rw [chain_of_no_superclass rfl]
  rfl

theorem allInstanceFields_declared {f : FieldInfo} (hr : ∀ d ∈ c.chain t, d.Regular)
    (hf : f ∈ c.allInstanceFields t) : (c.instanceField? t f.name).isSome = true := by
  obtain ⟨d, hd, hfd⟩ := List.mem_flatMap.1 hf
  rw [List.mem_reverse] at hd
  unfold instanceField?
  rw [List.findSome?_isSome_iff]
  exact ⟨d, hd, by rw [← NameTable.contains_eq]; exact (hr d hd).fields f hfd⟩

end ClassInfo

/-- An object that has a field is in the heap. -/
theorem Machine.lt_of_readField? {t : ClassTable} {h : Heap} {id : ObjectId} {name : String}
    (hf : (readField? t h id name).isSome = true) : id < h.objects.size := by
  refine Nat.lt_of_not_le fun le => ?_
  unfold readField? at hf
  rw [Heap.get_of_le le] at hf
  have declared : (((default : ClassInfo).instanceField? t name).map fun _ =>
      Value.null).isSome = true := hf
  rw [ClassInfo.instanceField?_default] at declared
  cases declared

/-- A pending initializer is one of a static field of the chain. -/
theorem Statics.touch_static : ∀ {chain : List ClassInfo} {s : Statics} {p : PendingStatic},
    p ∈ (s.touch chain).2 → ∃ d ∈ chain, ∃ f ∈ d.staticFields.values, f.init = some p.init
  | c :: cs, s, p, hp => by
    unfold touch at hp
    split at hp
    · obtain ⟨d, hd, hf⟩ := touch_static hp
      exact ⟨d, List.mem_cons_of_mem _ hd, hf⟩
    · rcases List.mem_append.1 hp with hp | hp
      · obtain ⟨⟨name, f⟩, he, hi⟩ := List.mem_filterMap.1 hp
        obtain ⟨e, hf, rfl⟩ := Option.map_eq_some_iff.1 hi
        exact ⟨c, List.mem_cons_self, f, List.mem_map.2 ⟨_, he, rfl⟩, hf⟩
      · obtain ⟨d, hd, hf⟩ := touch_static hp
        exact ⟨d, List.mem_cons_of_mem _ hd, hf⟩

theorem Statics.touch_pending {chain : List ClassInfo} {s : Statics} {p : PendingStatic}
    (hp : p ∈ (s.touch chain).2) : ∃ d ∈ chain, ∃ f ∈ d.ownFields, f.init = some p.init := by
  obtain ⟨d, hd, f, hf, hi⟩ := touch_static hp
  exact ⟨d, hd, f, List.mem_append_right _ hf, hi⟩

/-! ## Entering code -/

/-- A receiver of code that runs in the class `c`. -/
def IsReceiver (t : ClassTable) (h : Heap) (c : ClassInfo) (receiver : Option ObjectId) : Prop :=
  ∀ id, receiver = some id → id < h.objects.size ∧ (h.get id).cls = c ∧ (h.get id).Tidy t

/-- Static code has no receiver. -/
theorem IsReceiver.none {t : ClassTable} {h : Heap} {c : ClassInfo} : IsReceiver t h c none :=
  nofun

theorem IsReceiver.evolves {t : ClassTable} {h h' : Heap} {c : ClassInfo}
    {receiver : Option ObjectId} (hr : IsReceiver t h c receiver) (he : h.Evolves t h') :
    IsReceiver t h' c receiver := by
  intro id hid
  obtain ⟨lt, hc, ht⟩ := hr id hid
  exact ⟨Nat.lt_of_lt_of_le lt he.size, (he.cls id lt).trans hc, (he.tidy id lt).2 ht⟩

/-- An object that has methods is in the heap, and it is no record: it is a receiver. -/
theorem Heap.Belongs.receiver {t : ClassTable} {h : Heap} (hb : h.Belongs t) {id : ObjectId}
    {name : String} {g : List MethodInfo} (hg : (h.get id).cls.instanceMethods? t name = some g) :
    t.Has (h.get id).cls ∧ IsReceiver t h (h.get id).cls (some id) := by
  have lt : id < h.objects.size := by
    refine Nat.lt_of_not_le fun le => ?_
    rw [Heap.get_of_le le] at hg
    rw [show (default : Object).cls = default from rfl, ClassInfo.instanceMethods?_default] at hg
    cases hg
  have tidy : (h.get id).Tidy t := by
    refine (hb id lt).fields.resolve_right fun hrec => ?_
    rw [hrec, ClassInfo.instanceMethods?_record] at hg
    cases hg
  refine ⟨(hb id lt).cls, fun id' hid' => ?_⟩
  cases hid'
  exact ⟨lt, rfl, tidy⟩

namespace Machine

variable {t : ClassTable} {m : Machine} {c d : ClassInfo} {receiver : Option ObjectId}

/-- A new frame of a class is at the start of every field initializer of its chain. -/
theorem at_initializer (hb : m.world.heap.Belongs t) (hc : t.Has c) (hd : d ∈ c.chain t)
    (hr : IsReceiver t m.world.heap c receiver) (f : FieldInfo) (s : CheckState) :
    At t (Typing.fieldContext t d f) (Typing.fieldStart t d f s).scope
      { m with frames := Frame.make c receiver :: m.frames } := by
  refine ⟨hb, _, _, rfl, hc, hd, hr, fun name => ?_⟩
  rw [Typing.fieldStart, (Typing.resolveType_quiet _ _ _).scope]
  rfl

/-- Where a table has no errors, every field initializer of a chain is checked code that a new frame
is at. -/
theorem exists_initializer (hchecked : (Typing.checkTable t).1 = [])
    (hb : m.world.heap.Belongs t) (hc : t.Has c) (hd : d ∈ c.chain t)
    (hr : IsReceiver t m.world.heap c receiver) {f : FieldInfo} (hf : f ∈ d.ownFields) {e : Expr}
    (hi : f.init = some e) :
    ∃ s, ExprAt t (Typing.fieldContext t d f) (Typing.fieldStart t d f s).scope e ∧
      At t (Typing.fieldContext t d f) (Typing.fieldStart t d f s).scope
        { m with frames := Frame.make c receiver :: m.frames } := by
  obtain ⟨s, hs⟩ := Typing.exists_clean_field hchecked (hc.of_chain hd) hf
  exact ⟨s, ⟨.value, _, .initializer (hc.of_chain hd) hf hi hs, fun _ => rfl⟩,
    at_initializer hb hc hd hr f s⟩

end Machine

theorem Frame.declareParams_keeps : ∀ (params : List ParamInfo) (args : List Value) (f : Frame),
    (f.declareParams params args).cls = f.cls ∧ (f.declareParams params args).this = f.this
  | [], _, _ => ⟨rfl, rfl⟩
  | _ :: _, [], _ => ⟨rfl, rfl⟩
  | p :: params, v :: args, f => declareParams_keeps params args (f.declare p.name v)

/-- Parameters that are declared without an error are declared. -/
theorem Typing.declareParams_declared (cx : CheckContext) (span : Span) (name : String) :
    ∀ {params : List ParamInfo} {s : CheckState}, Check.Clean (declareParams cx params span) s →
      (declareParams cx params span s).2.scope.isDeclared name =
        (params.any (fun p => sameName p.name name) || s.scope.isDeclared name)
  | [], s, _ => by simp [declareParams]; rfl
  | p :: params, s, h => by
    have hq := resolveType_quiet cx p.type span
    have hd := fun type => Check.Nested.declare p.name type span
    obtain ⟨hp, hps⟩ := Check.Clean.bind (f := fun _ => declareParams cx params span) h
      (hq.nested.bind hd).errors fun _ => (declareParams_nested cx params span).errors
    obtain ⟨-, hp⟩ := hp.bind hq.errors fun type => (hd type).errors
    obtain ⟨scope, hs, hrun⟩ := Check.declare_clean hp
    have ih := declareParams_declared cx span name hps
    have hstep : (declareParams cx (p :: params) span s).2 = (declareParams cx params span
        (Check.declare p.name (cx.resolveType p.type span s).1 span
          (cx.resolveType p.type span s).2).2).2 := rfl
    rw [hstep]
    refine ih.trans ?_
    show (_ || (Check.declare p.name (cx.resolveType p.type span s).1 span
      (cx.resolveType p.type span s).2).2.scope.isDeclared name) = _
    rw [hrun, LocalScope.isDeclared, LocalScope.lookup?_declare hs, hq.scope, List.any_cons]
    by_cases hn : sameName p.name name <;> simp [hn, LocalScope.isDeclared]

/-- The frame of a call is at the start of the method's body. -/
theorem Machine.at_body {t : ClassTable} {m : Machine} {c d : ClassInfo}
    {receiver : Option ObjectId} (hb : m.world.heap.Belongs t) (hc : t.Has c) (hd : d ∈ c.chain t)
    (hr : IsReceiver t m.world.heap c receiver) {k : MethodInfo} {stmts : List Stmt}
    (hk : k.body = .script stmts) {s : CheckState} (hs : Check.Clean (Typing.checkMethod t d k) s)
    {args : List Value} (ha : args.length = k.arity) :
    At t (Typing.bodyContext t d k s) (Typing.bodyStart t d k s).scope
      { m with frames := (Frame.make c receiver).declareParams k.params args :: m.frames } := by
  obtain ⟨hcls, hthis⟩ := Frame.declareParams_keeps k.params args (Frame.make c receiver)
  refine ⟨hb, _, _, rfl, hcls ▸ hc, hcls ▸ hd, ?_, fun name => ?_⟩
  · rw [hcls, hthis]
    exact hr
  · rw [Frame.isLocal_declareParams _ _ _ _ ha, Typing.bodyStart,
      Typing.declareParams_declared _ _ name (Typing.body_clean hk hs).1,
      (Typing.declaredResult_quiet k).scope]
    rfl

/-- The body of a method of checked classes is checked code, and its call is at its start. -/
theorem Machine.exists_body {t : ClassTable} (hchecked : (Typing.checkTable t).1 = []) {m : Machine}
    {c : ClassInfo} {receiver : Option ObjectId} (hb : m.world.heap.Belongs t) (hc : t.Has c)
    (hr : IsReceiver t m.world.heap c receiver) {k : MethodInfo} (hk : c.HasMethod t k)
    {stmts : List Stmt} (hbody : k.body = .script stmts) {args : List Value}
    (ha : args.length = k.arity) :
    ∃ d s, Checks t (Typing.bodyContext t d k s) (.stmts stmts) (Typing.bodyStart t d k s) ∧
      At t (Typing.bodyContext t d k s) (Typing.bodyStart t d k s).scope
        { m with frames := (Frame.make c receiver).declareParams k.params args :: m.frames } := by
  obtain ⟨d, hd, hkd⟩ := hk
  obtain ⟨s, hs⟩ := Typing.exists_clean_method hchecked (hc.of_chain hd) hkd
  exact ⟨d, s, .body (hc.of_chain hd) hkd hbody hs, at_body hb hc hd hr hbody hs ha⟩

/-! ## Running code -/

namespace Calls

variable {env : Env} {calls : Calls} {m : Machine}

section

variable {t : ClassTable} (h : calls.Follows t)
include h

theorem evalAll_safe {cx : CheckContext} {scope : LocalScope} :
    ∀ {es : List Expr} {m : Machine}, (∀ e ∈ es, ExprAt t cx scope e) → m.At t cx scope →
      Safe t (calls.evalAll es) (fun _ m' => m'.At t cx scope) m
  | [], m, _, hm => Safe.pure hm.heap hm
  | e :: es, m, hes, hm => by
    refine (h.eval (hes e List.mem_cons_self) hm).bind fun v m₁ _ _ hm₁ => ?_
    refine (evalAll_safe (fun e' he' => hes e' (List.mem_cons_of_mem _ he')) hm₁).bind
      fun vs m₂ hb₂ _ hm₂ => ?_
    exact Safe.pure hb₂ hm₂

theorem evalCondition_safe {cx : CheckContext} {scope : LocalScope} {e : Expr} {m : Machine}
    (hx : ExprAt t cx scope e) (hm : m.At t cx scope) :
    Safe t (calls.evalCondition e) (fun _ m' => m'.At t cx scope) m := by
  refine (h.eval hx hm).bind fun v m₁ hb₁ _ hm₁ => Safe.heap_bind ?_
  refine (Safe.ofExcept hb₁ (Operator.truth_faults _ _ _)).mono ?_
  rintro b m' rfl
  exact hm₁

theorem execAll_safe {cx : CheckContext} : ∀ {ss : List Stmt} {s : CheckState} {m : Machine},
    Checks t cx (.stmts ss) s → m.At t cx s.scope → Safe t (calls.execAll ss) (fun _ _ => True) m
  | [], s, m, _, hm => Safe.pure hm.heap trivial
  | b :: ss, s, m, hc, hm => by
    have hb : Checks t cx (.stmt b) s := .part hc List.mem_cons_self
    have hss : Checks t cx (.stmts ss) (Typing.checkStmt cx b s).2 :=
      .part hc (List.mem_cons_of_mem _ List.mem_cons_self)
    refine (h.exec hb hm).bind fun flow m₁ hb₁ _ hm₁ => ?_
    cases flow with
    | normal => exact execAll_safe hss (hm₁ rfl)
    | ret _ | brk | cont => exact Safe.pure hb₁ trivial

/-- Evaluation keeps every place that the machine is at. -/
theorem eval_places {cx : CheckContext} {scope : LocalScope} {e : Expr}
    (he : ExprAt t cx scope e) (hm : m.At t cx scope) :
    Safe t (calls.eval e) (fun _ m' => ∀ cx scope, m.At t cx scope → m'.At t cx scope) m :=
  ((h.eval he hm).steady (h.steady.eval e)).mono fun _ _ hq => hq.2

/-! ### Static fields -/

theorem initStatics_safe : ∀ {ps : List PendingStatic} {m : Machine}, m.world.heap.Belongs t →
    (∀ p ∈ ps, ∃ cx scope, ExprAt t cx scope p.init ∧ m.At t cx scope) →
    Safe t (calls.initStatics ps) (fun _ _ => True) m
  | [], m, hb, _ => Safe.pure hb trivial
  | p :: ps, m, hb, hps => by
    obtain ⟨cx, scope, he, hm⟩ := hps p List.mem_cons_self
    refine (eval_places h he hm).bind fun v m₁ hb₁ _ hm₁ => ?_
    refine (Safe.modifyStatics hb₁ _).bind fun _ m₂ hb₂ he₂ hf₂ => ?_
    refine initStatics_safe hb₂ fun q hq => ?_
    obtain ⟨cx', scope', he', hm'⟩ := hps q (List.mem_cons_of_mem _ hq)
    exact ⟨cx', scope', he', (hm₁ cx' scope' hm').keeps (hf₂ ▸ .refl _ _) hb₂ he₂⟩

end

section

variable (he : env.Checked) (h : calls.Follows env.classes) (hb : m.world.heap.Belongs env.classes)
include he h hb

theorem ensureStatics_safe {c : ClassInfo} (hc : env.classes.Has c) :
    Safe env.classes (calls.ensureStatics env c) (fun _ _ => True) m := by
  unfold ensureStatics
  refine Safe.bind (Q := fun pending m' => m'.world = m.world ∧
      ∀ p ∈ pending, ∃ d ∈ c.chain env.classes, ∃ f ∈ d.ownFields, f.init = some p.init)
    ⟨hb, .refl _ _, rfl, fun p hp => Statics.touch_pending hp⟩ fun pending m₁ hb₁ _ hq => ?_
  split
  · exact Safe.pure hb₁ trivial
  · refine (Safe.log hb₁ _).bind fun _ m₂ hb₂ _ _ => Safe.inFrame (initStatics_safe h hb₂ ?_)
    intro p hp
    obtain ⟨d, hd, f, hf, hi⟩ := hq.2 p hp
    obtain ⟨s, hx, hat⟩ := Machine.exists_initializer he.checked hb₂ hc hd .none hf hi
    exact ⟨_, _, hx, hat⟩

theorem readStatic_safe {c : ClassInfo} (hc : env.classes.Has c) (name : String) :
    Safe env.classes (calls.readStatic env c name) (fun _ _ => True) m := by
  unfold readStatic
  split
  · exact Safe.pure hb trivial
  · refine (ensureStatics_safe he h hb hc).bind fun _ m₁ hb₁ _ _ => Safe.get_bind ?_
    exact Safe.pure hb₁ trivial

theorem writeStatic_safe {c : ClassInfo} (hc : env.classes.Has c) (name : String) (v : Value) :
    Safe env.classes (calls.writeStatic env c name v) (fun _ _ => True) m := by
  unfold writeStatic
  split
  · exact Safe.pure hb trivial
  · exact (ensureStatics_safe he h hb hc).bind fun _ m₁ hb₁ _ _ =>
      (Safe.modifyStatics hb₁ _).mono fun _ _ _ => trivial

/-! ### Methods -/

omit he h hb in
/-- The method that is selected is one of the group. -/
theorem selectOrFail_ends (b : TypeBindings) (group : Option (List MethodInfo)) (args : List Value)
    (className name : String) : (selectOrFail env b group args className name).Ends
      (fun k m' => m' = m ∧ ∃ g, group = some g ∧ k ∈ g)
      (fun r m' => m' = m ∧ r = .fault (.undefinedMethod className name)) m := by
  have run : selectOrFail env b group args className name m =
      (Overload.chosen env.classes b (group.getD [])
        (args.map fun v => some (m.world.heap.dataType v))).elim
          (.error (.fault (.undefinedMethod className name)) m) (.ok · m) := by
    have selected : select env b (group.getD []) args m = .ok (Overload.chosen env.classes b
        (group.getD []) (args.map fun v => some (m.world.heap.dataType v))) m := rfl
    unfold selectOrFail
    rw [Run.bind_ok selected]
    cases Overload.chosen env.classes b (group.getD [])
      (args.map fun v => some (m.world.heap.dataType v)) <;> rfl
  unfold Run.Ends
  rw [run]
  cases hfound : Overload.chosen env.classes b (group.getD [])
      (args.map fun v => some (m.world.heap.dataType v)) with
  | none => exact ⟨rfl, rfl⟩
  | some k =>
    have hk := Overload.chosen_mem hfound
    cases group with
    | none => cases hk
    | some g => exact ⟨rfl, g, rfl, hk⟩

omit he h in
theorem selectOrFail_safe (b : TypeBindings) (group : Option (List MethodInfo)) (args : List Value)
    (className name : String) :
    Safe env.classes (selectOrFail env b group args className name)
      (fun k m' => m' = m ∧ ∃ g, group = some g ∧ k ∈ g) m := by
  refine (selectOrFail_ends b group args className name).mono ?_ ?_
  · rintro k _ ⟨rfl, hk⟩
    exact ⟨hb, .refl _ _, rfl, hk⟩
  · rintro r _ ⟨rfl, rfl⟩
    exact ⟨hb, (show RuntimeError.IsPlain (.undefinedMethod _ _) from trivial).expected _⟩

theorem invoke_safe {k : MethodInfo} {c : ClassInfo} {receiver : Option ObjectId}
    (hc : env.classes.Has c) (hk : c.HasMethod env.classes k)
    (hr : IsReceiver env.classes m.world.heap c receiver) (args : List Value) :
    Safe env.classes (calls.invoke env k c receiver args) (fun _ _ => True) m := by
  unfold invoke
  refine (Safe.log hb _).bind fun _ m₁ hb₁ he₁ _ => Safe.get_bind ?_
  split
  · exact Safe.fault hb₁ trivial
  · split
    · exact (Safe.native hb₁ (Native.call_keeps he.proper _ _)).mono fun _ _ _ => trivial
    · rename_i stmts hbody
      split
      · rename_i ha
        obtain ⟨d, s, hcode, hat⟩ :=
          Machine.exists_body he.checked hb₁ hc (hr.evolves he₁) hk hbody ha
        exact (Safe.inFrame (execAll_safe h hcode hat)).bind fun _ m₂ hb₂ _ _ =>
          Safe.pure hb₂ trivial
      · exact Safe.fault hb₁ trivial
    · exact Safe.fault hb₁ trivial

theorem callStatic_safe {c : ClassInfo} (hc : env.classes.Has c) (name : String)
    (args : List Value) : Safe env.classes (calls.callStatic env c name args) (fun _ _ => True) m := by
  unfold callStatic
  refine (ensureStatics_safe he h hb hc).bind fun _ m₁ hb₁ _ _ => ?_
  refine (selectOrFail_safe hb₁ _ _ _ _ _).bind fun k m₂ hb₂ _ hk => ?_
  obtain ⟨-, g, hg, hk⟩ := hk
  exact invoke_safe he h hb₂ hc (ClassInfo.hasMethod_of_static hg hk) .none args

theorem callInstance_safe (id : ObjectId) (name : String) (args : List Value) :
    Safe env.classes (calls.callInstance env id name args) (fun _ _ => True) m := by
  unfold callInstance
  refine Safe.heap_bind ((selectOrFail_safe hb _ _ _ _ _).bind fun k m₁ hb₁ he₁ hk => ?_)
  obtain ⟨rfl, g, hg, hk⟩ := hk
  obtain ⟨hc, hr⟩ := hb₁.receiver hg
  exact invoke_safe he h hb₁ hc (ClassInfo.hasMethod_of_instance hg hk) hr args

end

/-! ### Instances -/

theorem contains_nullFields {fields : List FieldInfo} {name : String} :
    (nullFields fields).contains name = true ↔ ∃ f ∈ fields, sameName f.name name = true := by
  have hempty : ¬ (NameTable.empty : NameTable Value).contains name = true := Bool.false_ne_true
  exact (NameTable.contains_foldl_insert _ _ fields .empty name).trans (or_iff_left hempty)

/-- A new instance has the fields of its chain. -/
theorem tidy_new {t : ClassTable} {c : ClassInfo} (hr : ∀ d ∈ c.chain t, d.Regular)
    (typeArgs : List DataType) :
    Object.Tidy t ⟨c, typeArgs, nullFields (c.allInstanceFields t), .none⟩ := by
  intro name hc
  obtain ⟨f, hf, hs⟩ := contains_nullFields.1 hc
  have hd := ClassInfo.allInstanceFields_declared hr hf
  unfold ClassInfo.instanceField? at hd ⊢
  rw [List.findSome?_isSome_iff] at hd ⊢
  obtain ⟨d, hd, hfd⟩ := hd
  exact ⟨d, hd, by rwa [← d.instanceFields.get?_congr hs]⟩

theorem initFields_safe {t : ClassTable} (h : calls.Follows t) {id : ObjectId} :
    ∀ {fs : List FieldInfo} {m : Machine}, m.world.heap.Belongs t → id < m.world.heap.objects.size →
    (∀ f ∈ fs, ((m.world.heap.get id).cls.instanceField? t f.name).isSome = true) →
    (∀ f ∈ fs, ∀ e, f.init = some e → ∃ cx scope, ExprAt t cx scope e ∧ m.At t cx scope) →
    Safe t (calls.initFields id fs) (fun _ _ => True) m
  | [], m, hb, _, _, _ => Safe.pure hb trivial
  | f :: fs, m, hb, lt, hn, hi => by
    unfold initFields
    have rest := fun g hg => hn g (List.mem_cons_of_mem f hg)
    have inits := fun g hg => hi g (List.mem_cons_of_mem f hg)
    split
    · rename_i e hfe
      obtain ⟨cx, scope, he, hm⟩ := hi f List.mem_cons_self e hfe
      refine (eval_places h he hm).bind fun v m₁ hb₁ he₁ hm₁ => ?_
      have hset : m₁.world.heap.Keeps t (·.setField id f.name v) := by
        refine hb₁.setField v fun _ _ => ?_
        rw [he₁.cls id lt]
        exact hn f List.mem_cons_self
      refine (Safe.modifyHeap hset).bind fun _ m₂ hb₂ he₂ hf₂ => ?_
      have ev := he₁.trans he₂
      refine initFields_safe h hb₂ (Nat.lt_of_lt_of_le lt ev.size) (fun g hg => ?_)
        fun g hg e' he' => ?_
      · rw [ev.cls id lt]
        exact rest g hg
      · obtain ⟨cx', scope', hx, hm'⟩ := inits g hg e' he'
        exact ⟨cx', scope', hx, (hm₁ cx' scope' hm').keeps (hf₂ ▸ .refl _ _) hb₂ he₂⟩
    · exact initFields_safe h hb lt rest inits

section

variable (he : env.Checked) (h : calls.Follows env.classes) (hb : m.world.heap.Belongs env.classes)
include he h hb

theorem construct_safe {c : ClassInfo} (hc : env.classes.Has c) {id : ObjectId}
    (hr : IsReceiver env.classes m.world.heap c (some id)) (typeArgs : List DataType)
    (args : List Value) :
    Safe env.classes (calls.construct env c id typeArgs args) (fun _ _ => True) m := by
  unfold construct
  split
  · split
    · exact Safe.pure hb trivial
    · exact Safe.fault hb trivial
  · refine (selectOrFail_safe hb _ _ _ _ _).bind fun k m₁ hb₁ he₁ hk => ?_
    obtain ⟨-, g, hg, hk⟩ := hk
    cases hg
    exact (invoke_safe he h hb₁ hc (ClassInfo.hasMethod_of_constructor hk) (hr.evolves he₁) args).bind
      fun _ m₂ hb₂ _ _ => Safe.pure hb₂ trivial

omit h in
/-- A new instance is a receiver of the code of its class. -/
theorem alloc_safe {c : ClassInfo} (hc : env.classes.Has c) (typeArgs : List DataType) :
    Safe env.classes
      (Run.native
        (Native.alloc ⟨c, typeArgs, nullFields (c.allInstanceFields env.classes), .none⟩))
      (fun _ m' => IsReceiver env.classes m'.world.heap c (some m.world.heap.objects.size)) m := by
  have hreg : ∀ d ∈ c.chain env.classes, d.Regular := fun d hd => he.regular d (hc.of_chain hd)
  let o : Object := ⟨c, typeArgs, nullFields (c.allInstanceFields env.classes), .none⟩
  have halloc := hb.alloc (o := o) ⟨hc, .inl (tidy_new hreg typeArgs)⟩
  obtain ⟨⟨heap, sink, log⟩, frames, statics⟩ := m
  refine ⟨halloc.1, halloc.2, fun id hid => ?_⟩
  cases hid
  have hget : (heap.alloc o).2.get heap.objects.size = o := heap.get_alloc_self o
  refine ⟨?_, ?_, ?_⟩
  · simp
  · exact congrArg Object.cls hget
  · show Object.Tidy env.classes ((heap.alloc o).2.get heap.objects.size)
    rw [hget]
    exact tidy_new hreg typeArgs

theorem instantiate_safe {c : ClassInfo} (hc : env.classes.Has c) (typeArgs : List DataType)
    (args : List Value) :
    Safe env.classes (calls.instantiate env c typeArgs args) (fun _ _ => True) m := by
  have hreg : ∀ d ∈ c.chain env.classes, d.Regular := fun d hd => he.regular d (hc.of_chain hd)
  unfold instantiate
  refine (ensureStatics_safe he h hb hc).bind fun _ m₁ hb₁ _ _ => Safe.heap_bind ?_
  refine (alloc_safe he hb₁ hc typeArgs).bind fun _ m₂ hb₂ _ hr => ?_
  -- with or without initializers before it, the constructor runs on the new object
  have rest : ∀ {m' : Machine}, m'.world.heap.Belongs env.classes →
      m₂.world.heap.Evolves env.classes m'.world.heap → Safe env.classes
      (do calls.construct env c m₁.world.heap.objects.size typeArgs args
          pure m₁.world.heap.objects.size : Run ObjectId) (fun _ _ => True) m' := fun hb' he' =>
    (construct_safe he h hb' hc (hr.evolves he') typeArgs args).bind fun _ m₃ hb₃ _ _ =>
      Safe.pure hb₃ trivial
  dsimp only
  split
  · obtain ⟨lt, hcls, -⟩ := hr _ rfl
    refine Safe.bind (Safe.inFrame (initFields_safe h hb₂ lt (fun f hf => ?_) fun f hf e hi => ?_))
      fun _ m₃ hb₃ he₃ _ => rest hb₃ he₃
    · show ((m₂.world.heap.get _).cls.instanceField? _ _).isSome = true
      rw [hcls]
      exact ClassInfo.allInstanceFields_declared hreg hf
    · obtain ⟨d, hd, hfd⟩ := List.mem_flatMap.1 hf
      rw [List.mem_reverse] at hd
      obtain ⟨s, hx, hat⟩ := Machine.exists_initializer he.checked hb₂ hc hd hr
        (List.mem_append_left _ hfd) hi
      exact ⟨_, _, hx, hat⟩
  · exact rest hb₂ (.refl _ _)

end

end Calls

end ClassScript
