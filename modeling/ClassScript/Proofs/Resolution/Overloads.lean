import ClassScript.Proofs.Resolution.Runs
import ClassScript.Proofs.Typing.Selection

/-!
# Overloads are chosen as checked

A call or a `new` comes to the choice of an overload after its target and its arguments are
evaluated and the static fields or the new instance are prepared: this is `Calls.Dispatches`, and
`Calls.Dispatches.stepEval_eq` says that evaluation then goes on with the method that the types of
the values choose.

Main statement: `overloads_selected_as_checked`, for every call and every `new` that a run of checked
classes evaluates. If the candidates are those of checking, and every value has the type that
checking found for the argument, the method is the one that checking selected. A `null` has a type of
its own, which no parameter is equal to: with it the first candidate that accepts the other
arguments is taken.
-/

namespace ClassScript

open Run (Safe)
open Typing (Checks)

/-! ## Dispatch -/

/-- The choice of an overload in a run: the candidates and the bindings, the arguments, the class and
the receiver that the chosen method runs with, and what becomes of its result. -/
structure Dispatch where
  bindings : TypeBindings
  group : List MethodInfo
  args : List Value
  cls : ClassInfo
  receiver : Option ObjectId
  result : Option Value → Value

/-- The types of values. -/
def Heap.typesOf (h : Heap) (vs : List Value) : List (Option DataType) :=
  vs.map fun v => some (h.dataType v)

namespace Dispatch

/-- The method that the values choose. -/
def method? (t : ClassTable) (h : Heap) (d : Dispatch) : Option MethodInfo :=
  Overload.chosen t d.bindings d.group (h.typesOf d.args)

/-- Runs a method with the arguments. -/
def invoke (env : Env) (calls : Calls) (d : Dispatch) (k : MethodInfo) : Run Value := do
  return d.result (← calls.invoke env k d.cls d.receiver d.args)

end Dispatch

namespace Calls

namespace Target

/-- The class whose methods a call chooses from. -/
def cls (h : Heap) : Target → ClassInfo
  | .static c => c
  | .instance id => (h.get id).cls

def receiver : Target → Option ObjectId
  | .static _ => none
  | .instance id => some id

def bindings (h : Heap) : Target → TypeBindings
  | .static _ => .none
  | .instance id => ⟨(h.get id).cls.typeParams, (h.get id).typeArgs⟩

/-- The methods of a name that a call chooses from. -/
def group? (t : ClassTable) (h : Heap) (name : String) : Target → Option (List MethodInfo)
  | .static c => c.staticMethods? t name
  | .instance id => (h.get id).cls.instanceMethods? t name

/-- The choice at a call, with the heap as it is. -/
def dispatch (h : Heap) (target : Target) (group : List MethodInfo) (args : List Value) :
    Dispatch :=
  ⟨target.bindings h, group, args, target.cls h, target.receiver, (·.getD .null)⟩

end Target

variable (env : Env) (calls : Calls)

/-- What runs before the methods of a target are looked up. -/
def prepare : Target → Run Unit
  | .static c => calls.ensureStatics env c
  | .instance _ => return ()

/-- A new instance before its constructor runs. -/
def newInstance (c : ClassInfo) (typeArgs : List DataType) : Run ObjectId := do
  calls.ensureStatics env c
  let fields := c.allInstanceFields env.classes
  let id := (← Run.heap).objects.size
  let _ ← Run.native (Native.alloc ⟨c, typeArgs, nullFields fields, .none⟩)
  if fields.any (·.init.isSome) then
    Run.inFrame (.make c (some id)) (calls.initFields id fields)
  return id

theorem instantiate_eq (c : ClassInfo) (typeArgs : List DataType) (args : List Value) :
    calls.instantiate env c typeArgs args = do
      let id ← calls.newInstance env c typeArgs
      calls.construct env c id typeArgs args
      return id := by
  unfold instantiate newInstance
  cases hinit : (c.allInstanceFields env.classes).any (·.init.isSome) <;> simp [hinit]

/-- Evaluation of an expression from `m` comes to the choice `d` in the state `m'` (module doc). -/
inductive Dispatches (m : Machine) : Expr → Dispatch → Machine → Prop
  | call {method : Ident} {args : List Expr} {span : Span} {target : Target} {vs : List Value}
      {group : List MethodInfo} {m₁ m₂ m₃ : Machine} :
      implicitTarget env method.name m = .ok target m₁ → calls.evalAll args m₁ = .ok vs m₂ →
      calls.prepare env target m₂ = .ok () m₃ →
      target.group? env.classes m₃.world.heap method.name = some group →
      Dispatches m (.call method args span) (target.dispatch m₃.world.heap group vs) m₃
  | callOn {receiver : Expr} {method : Ident} {args : List Expr} {span : Span} {target : Target}
      {vs : List Value} {group : List MethodInfo} {m₁ m₂ m₃ : Machine} :
      calls.explicitTarget env receiver m = .ok target m₁ → calls.evalAll args m₁ = .ok vs m₂ →
      calls.prepare env target m₂ = .ok () m₃ →
      target.group? env.classes m₃.world.heap method.name = some group →
      Dispatches m (.callOn receiver method args span) (target.dispatch m₃.world.heap group vs) m₃
  | create {type : TypeRef} {args : List Expr} {span : Span} {c : ClassInfo} {vs : List Value}
      {id : ObjectId} {m₁ m₂ : Machine} :
      m.lookupClass? env.classes type.dataType.name = some c → calls.evalAll args m = .ok vs m₁ →
      calls.newInstance env c type.dataType.args m₁ = .ok id m₂ →
      c.constructors.isEmpty = false →
      Dispatches m (.create type args span)
        ⟨⟨c.typeParams, type.dataType.args⟩, c.constructors, vs, c, some id, fun _ => .object id⟩ m₂

variable {env calls} {m m' : Machine} {e : Expr} {d : Dispatch} {k : MethodInfo}

/-- The overload that the values choose is selected. -/
theorem selectOrFail_chosen {b : TypeBindings} {g : List MethodInfo} {vs : List Value}
    (h : Overload.chosen env.classes b g (m.world.heap.typesOf vs) = some k)
    (className name : String) :
    selectOrFail env b (some g) vs className name m = .ok k m := by
  unfold selectOrFail
  have hs : select env b g vs m = .ok (some k) m := by
    rw [← h]
    rfl
  rw [Option.getD_some, Run.bind_ok hs]
  rfl

theorem callTarget_dispatch {target : Target} {name : String} {vs : List Value}
    {group : List MethodInfo} (hp : calls.prepare env target m = .ok () m')
    (hg : target.group? env.classes m'.world.heap name = some group)
    (hk : (target.dispatch m'.world.heap group vs).method? env.classes m'.world.heap = some k) :
    calls.callTarget env target name vs m =
      (target.dispatch m'.world.heap group vs).invoke env calls k m' := by
  match target with
  | .static c =>
    have hp : calls.ensureStatics env c m = .ok () m' := hp
    have hg : c.staticMethods? env.classes name = some group := hg
    have hs : selectOrFail env .none (some group) vs c.name name m' = .ok k m' :=
      selectOrFail_chosen hk _ _
    unfold callTarget callStatic
    simp only [bind_assoc]
    rw [Run.bind_ok hp, hg, Run.bind_ok hs]
    rfl
  | .instance id =>
    cases hp
    let o := m.world.heap.get id
    have hg : o.cls.instanceMethods? env.classes name = some group := hg
    have hs : selectOrFail env ⟨o.cls.typeParams, o.typeArgs⟩ (some group) vs o.cls.name name m =
        .ok k m := selectOrFail_chosen hk _ _
    unfold callTarget callInstance
    simp only [bind_assoc]
    rw [Run.bind_ok (x := Run.heap) rfl, hg, Run.bind_ok hs]
    rfl

/-- Evaluation goes on with the method that the values choose. -/
theorem Dispatches.stepEval_eq (h : Dispatches env calls m e d m')
    (hk : d.method? env.classes m'.world.heap = some k) :
    calls.stepEval env e m = d.invoke env calls k m' := by
  cases h with
  | @call method args span target vs group m₁ m₂ _ ht ha hp hg =>
    show (implicitTarget env method.name >>= fun target => calls.evalAll args >>= fun vs =>
      calls.callTarget env target method.name vs) m = _
    rw [Run.bind_ok ht, Run.bind_ok ha]
    exact callTarget_dispatch hp hg hk
  | @callOn receiver method args span target vs group m₁ m₂ _ ht ha hp hg =>
    show (calls.explicitTarget env receiver >>= fun target => calls.evalAll args >>= fun vs =>
      calls.callTarget env target method.name vs) m = _
    rw [Run.bind_ok ht, Run.bind_ok ha]
    exact callTarget_dispatch hp hg hk
  | @create type args span c vs id m₁ _ hc ha hn hne =>
    show calls.evalCreate env type.dataType args m = _
    unfold evalCreate
    rw [Run.get_bind, hc]
    dsimp only
    rw [Run.bind_ok ha, instantiate_eq]
    simp only [bind_assoc]
    rw [Run.bind_ok hn]
    have hs : selectOrFail env ⟨c.typeParams, type.dataType.args⟩ (some c.constructors) vs c.name
        c.name m' = .ok k m' := selectOrFail_chosen hk _ _
    unfold construct
    simp only [hne, Bool.false_eq_true, ↓reduceIte, bind_assoc]
    rw [Run.bind_ok hs]
    rfl

/-! ## Dispatch of checked code -/

theorem evalAll_length : ∀ (es : List Expr) (m : Machine),
    (calls.evalAll es).Ends (fun vs _ => vs.length = es.length) (fun _ _ => True) m
  | [], m => rfl
  | e :: es, m => by
    unfold evalAll
    rw [Run.ends_bind]
    have rest : ∀ v m₁, (do return v :: (← calls.evalAll es) : Run (List Value)).Ends
        (fun vs _ => vs.length = es.length + 1) (fun _ _ => True) m₁ := by
      intro v m₁
      rw [Run.ends_bind]
      exact (evalAll_length es m₁).mono (fun vs _ h => congrArg (· + 1) h) fun _ _ h => h
    unfold Run.Ends
    split
    · exact rest _ _
    · trivial

/-- There are as many values as checked arguments. -/
theorem Dispatches.length_eq {cx : CheckContext} {s : CheckState} {sel : Typing.Selection}
    (h : Dispatches env calls m e d m') (hsel : Typing.selection? cx e s = some sel) :
    d.args.length = sel.types.length := by
  have length : ∀ {es vs m₁ m₂} (s' : CheckState), calls.evalAll es m₁ = .ok vs m₂ →
      vs.length = (Typing.inferAll cx es s').1.length := fun s' ha => by
    rw [Typing.inferAll_length, (evalAll_length _ _).ok ha]
  cases h with
  | call ht ha hp hg | callOn ht ha hp hg =>
    obtain ⟨tg, -, hsel⟩ := Option.bind_eq_some_iff.1 hsel
    obtain ⟨g, -, rfl⟩ := Option.map_eq_some_iff.1 hsel
    exact length _ ha
  | create hcls ha hn hne =>
    obtain ⟨type, c, -, -, -, rfl⟩ := Typing.selection?_create hsel
    exact length _ ha

/-- Bindings do not matter for the methods of a target. -/
theorem Target.plain (he : env.Checked) {target : Target} {name : String}
    {group : List MethodInfo} (hb : m.world.heap.Belongs env.classes)
    (hp : calls.prepare env target m = .ok () m')
    (hg : target.group? env.classes m'.world.heap name = some group) :
    Overload.Plain (target.bindings m'.world.heap) group := by
  match target with
  | .static c => exact .inl rfl
  | .instance id =>
    cases hp
    by_cases lt : id < m.world.heap.objects.size
    · exact (he.regular _ (hb id lt).cls).plain_instanceMethods hg _
    · refine .inl ?_
      show (m.world.heap.get id).cls.typeParams = []
      rw [Heap.get_of_le (Nat.le_of_not_lt lt)]
      rfl

/-- Bindings do not matter for a choice. -/
theorem Dispatches.plain (he : env.Checked) (hc : calls.Follows env.classes) {cx : CheckContext}
    {scope : LocalScope} (hm : m.At env.classes cx scope) (hx : ExprAt env.classes cx scope e)
    (h : Dispatches env calls m e d m') : Overload.Plain d.bindings d.group := by
  cases h with
  | call ht ha hp hg =>
    have hm₁ := (Run.Ends.ok (implicitTarget_safe hm _) ht).2.2.1
    have hm₂ := (Run.Ends.ok (evalAll_safe hc (fun a ha => hx.operand ha) hm₁) ha).2.2
    exact Target.plain he hm₂.heap hp hg
  | callOn ht ha hp hg =>
    have hm₁ := (Run.Ends.ok (explicitTarget_safe hc hm (hx.operand List.mem_cons_self)) ht).2.2.1
    have hm₂ := (Run.Ends.ok (evalAll_safe hc
      (fun a ha => hx.operand (List.mem_cons_of_mem _ ha)) hm₁) ha).2.2
    exact Target.plain he hm₂.heap hp hg
  | create hcls ha hn hne =>
    exact (he.regular _ (hm.lookupClass?_has hcls)).plain_constructors _

end Calls

/-! ## Static and dynamic choice -/

/-- The value has the type that checking found. -/
def Heap.HasStaticType (h : Heap) (type : Option DataType) (v : Value) : Prop :=
  ∃ d, type = some d ∧ (d == h.dataType v) = true

/-- Values of the types that checking found choose the method that checking selected. -/
theorem Dispatch.method?_of_types {t : ClassTable} {h : Heap} {d : Dispatch}
    {sel : Typing.Selection} (hd : Overload.Plain d.bindings d.group)
    (hs : Overload.Plain sel.bindings sel.group) (hg : d.group = sel.group)
    (htypes : List.Forall₂ h.HasStaticType sel.types d.args) :
    d.method? t h = sel.method? t := by
  have hsame : List.Forall₂ Overload.SameArgument sel.types (h.typesOf d.args) := by
    unfold Heap.typesOf
    rw [List.forall₂_map_right_iff]
    refine htypes.imp ?_
    rintro type v ⟨τ, rfl, hτ⟩
    exact ⟨τ, _, rfl, rfl, hτ⟩
  unfold method? Typing.Selection.method?
  rw [Overload.chosen_congr hsame, hg, Overload.chosen_bindings (hg ▸ hd) hs]

/-- With a `null` among the values, the first candidate that accepts the others is chosen. -/
theorem Dispatch.method?_of_null {t : ClassTable} {h : Heap} {d : Dispatch}
    (hd : Overload.Plain d.bindings d.group) (hnull : .null ∈ d.args)
    (hp : ∀ k ∈ d.group, ∀ p ∈ k.paramTypes, p.isNull = false)
    (harity : ∃ k ∈ d.group, k.arity = d.args.length) :
    d.method? t h =
      Overload.firstAccepting t d.bindings d.group (Overload.withoutNull (h.typesOf d.args)) := by
  refine Overload.chosen_null hd (List.mem_map.2 ⟨.null, hnull, rfl⟩) hp ?_
  obtain ⟨k, hk, ha⟩ := harity
  exact ⟨k, hk, by rw [ha]; exact (List.length_map _).symm⟩

/-- **Overloads are chosen as checked.** Take classes that are registered and checked without an
error, and run any entry method of theirs, on a new machine or after other entry methods. Every
expression that the run evaluates is one that checking came to. Where checking selected the method
`k` at it, the type of the expression is the one that `k` declares. Let evaluation come to the choice
of an overload there, among the same candidates. If every value has the type that checking found for
the argument, evaluation goes on with `k`. If a value is `null`, and no candidate has a parameter of
a type called `null`, it goes on with the first candidate that accepts the other values, or else the
first with the right number of parameters. -/
theorem overloads_selected_as_checked {decls : List ClassDecl} {query : Option QueryService}
    {credentials : Credentials} {today : Date} {maxDepth : Nat} {env : Env}
    (hcheck : (Typing.checkTable (Registration.registerAll .initial decls).table).1 = [])
    (henv : Env.make (Registration.registerAll .initial decls).table query credentials today
      maxDepth = .ok env)
    (sink : Sink) (entries : List (Nat × EntryPoint)) (fuel : Nat) (className method : String)
    (e : Expr) (m : Machine)
    (hev : Machine.Evaluates env fuel className method
      ((Machine.start sink).afterEntries env entries) e m) :
    (∃ cx role s, Checks env.classes cx (.expr role e) s ∧ m.At env.classes cx s.scope) ∧
    ∀ cx role s sel k, Checks env.classes cx (.expr role e) s → m.At env.classes cx s.scope →
      Typing.selection? cx e s = some sel → sel.method? env.classes = some k →
      (Typing.denote cx role e s).1 = .ofType? (sel.type k) ∧
      ∀ n d m', Calls.Dispatches env (Calls.withFuel env n) m e d m' → d.group = sel.group →
        (List.Forall₂ m'.world.heap.HasStaticType sel.types d.args →
          (Calls.withFuel env n).stepEval env e m = d.invoke env (Calls.withFuel env n) k m') ∧
        (.null ∈ d.args → (∀ k' ∈ d.group, ∀ p ∈ k'.paramTypes, p.isNull = false) →
          ∃ k', Overload.firstAccepting env.classes d.bindings d.group
              (Overload.withoutNull (m'.world.heap.typesOf d.args)) = some k' ∧
            (Calls.withFuel env n).stepEval env e m =
              d.invoke env (Calls.withFuel env n) k' m') := by
  obtain ⟨he, -⟩ := Env.make_checked hcheck henv
  have hb := Machine.afterEntries_belongs (m := .start sink) he entries (Heap.belongs_empty _)
  refine ⟨hev.site he hb, fun cx role s sel k hc hm hsel hk => ?_⟩
  obtain ⟨harity, htype⟩ := hc.selected hsel hk
  refine ⟨htype, fun n d m' hd hg => ?_⟩
  have hplain := hd.plain he (Machine.runEntry_follows he n) hm ⟨role, s, hc, fun _ => rfl⟩
  refine ⟨fun htypes => ?_, fun hnull hp => ?_⟩
  · refine hd.stepEval_eq ?_
    rw [Dispatch.method?_of_types hplain (hc.selection_plain he.regular hsel) hg htypes, hk]
  · -- a `null` has no type that a candidate could match exactly
    have hmem : k ∈ d.group := hg ▸ Overload.chosen_mem hk
    have hm? := Dispatch.method?_of_null (t := env.classes) (h := m'.world.heap) hplain hnull hp
      ⟨k, hmem, harity.trans (hd.length_eq hsel).symm⟩
    cases hk' : d.method? env.classes m'.world.heap with
    | none =>
      rw [Overload.chosen_eq_none hk'] at hmem
      cases hmem
    | some k' => exact ⟨k', hm? ▸ hk', hd.stepEval_eq hk'⟩

/-! ### Arguments that are `null` -/

/-- A static call from a static method comes to the choice once its arguments are evaluated, if there
is nothing to initialize. -/
theorem Calls.dispatches_static {env : Env} {calls : Calls} {m m₁ : Machine} {c : ClassInfo}
    {fs : List Frame} {args : List Expr} {vs : List Value} {group : List MethodInfo}
    (method : Ident) (span : Span) (hf : m.frames = Frame.make c none :: fs)
    (hg : c.staticMethods? env.classes method.name = some group)
    (ha : calls.evalAll args m = .ok vs m₁)
    (hs : (m₁.statics.touch (c.chain env.classes)).2 = []) :
    ∃ m', Dispatches env calls m (.call method args span)
        ((Target.static c).dispatch m'.world.heap group vs) m' ∧
      m'.world.heap = m₁.world.heap := by
  let m' : Machine := { m₁ with statics := (m₁.statics.touch (c.chain env.classes)).1 }
  have ht : implicitTarget env method.name m = .ok (.static c) m := by
    unfold implicitTarget
    rw [Run.frame_bind hf]
    simp only [Frame.make, hg, Option.isNone_some, Bool.false_and, Bool.false_eq_true, ↓reduceIte]
    rfl
  have hp : calls.ensureStatics env c m₁ = .ok () m' := by
    have htouch : Run.touchStatics (c.chain env.classes) m₁ = .ok [] m' := by rw [← hs]; rfl
    unfold ensureStatics
    rw [Run.bind_ok htouch]
    rfl
  exact ⟨m', .call ht ha hp hg, rfl⟩

/-- A `null` as written, and one of the static type `Integer`. -/
def nullLiteral : Expr := .literal .null .unknown

def nullBranch : Expr :=
  .conditional (.literal (.boolean true) .unknown) nullLiteral (.literal (.integer 1) .unknown)
    .unknown

/-- A call of `pick` with an argument. -/
def pickCall (arg : Expr) : Expr := .call ⟨"pick", .unknown⟩ [arg] .unknown

/-- Two overloads of `pick`, and a method for each `null` that calls them. -/
def nullChoice : List ClassDecl :=
  let type (name : String) : TypeRef := ⟨⟨name, .unknown⟩, [], .unknown⟩
  let method (name : String) (params : List Param) (result : Expr) : Member ClassDecl :=
    .method ⟨.union .pub .static, some (type "String"), ⟨name, .unknown⟩, params,
      some [.ret (some result) .unknown], .unknown⟩
  [⟨.pub, [], ⟨"Main", .unknown⟩, none, [],
    [method "written" [] (pickCall nullLiteral),
      method "action" [] (pickCall nullBranch),
      method "pick" [⟨type "String", ⟨"s", .unknown⟩, .unknown⟩]
        (.literal (.string "string") .unknown),
      method "pick" [⟨type "Integer", ⟨"i", .unknown⟩, .unknown⟩]
        (.literal (.string "integer") .unknown)], .unknown⟩]

theorem nullChoice_checked :
    (Typing.checkTable (Registration.registerAll .initial nullChoice).table).1 = [] :=
  List.isEmpty_iff.1 (by decide +kernel)

/-- The class of the example: an Integer selects the second overload, and `null` the first. -/
theorem nullChoice_main {t : ClassTable}
    (ht : t = (Registration.registerAll .initial nullChoice).table) :
    ∃ c k k', t.resolve? "Main" = some c ∧ c.superclass = none ∧
      c.instanceMethods? t "pick" = none ∧ c.staticMethods? t "pick" = some [k, k'] ∧
      k.paramTypes = [.string] ∧ k'.paramTypes = [.integer] ∧
      Overload.chosen t .none [k, k'] [some .null] = some k ∧
      Overload.chosen t .none [k, k'] [some .integer] = some k' ∧
      DataType.integer.isAssignable t .null = false ∧
      (Statics.touch {} (c.chain t)).2 = [] ∧
      ((Statics.touch {} (c.chain t)).1.touch (c.chain t)).2 = [] ∧
      (∃ a, c.staticMethods? t "written" = some [a] ∧ a.params = [] ∧
        a.body = .script [.ret (some (pickCall nullLiteral)) .unknown]) ∧
      ∃ a, c.staticMethods? t "action" = some [a] ∧ a.params = [] ∧
        a.body = .script [.ret (some (pickCall nullBranch)) .unknown] := by
  subst ht
  exact ⟨_, _, _, rfl, rfl, rfl, rfl, rfl, rfl, rfl, rfl, rfl, rfl, rfl, ⟨_, rfl, rfl, rfl⟩,
    _, rfl, rfl, rfl⟩

/-- Both arguments are `null` when they are evaluated. -/
theorem evalAll_nullChoice (env : Env) {m : Machine} {arg : Expr}
    (harg : arg = nullLiteral ∨ arg = nullBranch) (hm : m.world.heap = {}) :
    ∃ m₁, (Calls.withFuel env 5).evalAll [arg] m = .ok [.null] m₁ ∧ m₁.statics = m.statics := by
  obtain ⟨⟨heap, sink, log⟩, frames, statics⟩ := m
  cases hm
  rcases harg with rfl | rfl <;> exact ⟨_, rfl, rfl⟩

/-- The type of the conditional is that of its other branch. -/
theorem inferAll_nullBranch {cx : CheckContext} (s : CheckState)
    (h : DataType.integer.isAssignable cx.classes .null = false) :
    (Typing.inferAll cx [nullBranch] s).1 = [some .integer] := by
  have hb : DataType.boolean.isBoolean = true := by decide +kernel
  have hn : DataType.null.isAssignable cx.classes .integer = true := by
    have hnull : DataType.null.isNull = true := by decide +kernel
    simp [DataType.isAssignable, DataType.fitsExactly, hnull]
  have hc : ∀ span, Typing.conditionalType cx (some .null) (some .integer) span =
      pure (some .integer) := by
    intro span
    simp [Typing.conditionalType, h, hn]
  simp only [nullBranch, nullLiteral, Typing.inferAll, Typing.denote, Literal.dataType, pure_bind,
    Denotation.type?, Typing.requireCondition, hb, ↓reduceIte, hc, Denotation.ofType?]
  rfl

/-- A method of the example comes to the call with its `null`, as checking does. -/
theorem nullChoice_calls {env : Env} {entry : String} {arg : Expr}
    (hentry : entry = "written" ∧ arg = nullLiteral ∨ entry = "action" ∧ arg = nullBranch)
    (henv : Env.make (Registration.registerAll .initial nullChoice).table none {} ⟨2024, 1, 1⟩ 16
      = .ok env) :
    ∃ k k' m d m', Overload.chosen env.classes .none [k, k'] [some .null] = some k ∧
      Overload.chosen env.classes .none [k, k'] [some .integer] = some k' ∧
      k.paramTypes = [.string] ∧ k'.paramTypes = [.integer] ∧
      Machine.Evaluates env 10 "Main" entry (.start {}) (pickCall arg) m ∧
      Calls.Dispatches env (Calls.withFuel env 5) m (pickCall arg) d m' ∧
      d.bindings = .none ∧ d.group = [k, k'] ∧ d.args = [.null] ∧
      ∀ cx s, cx.classes = env.classes → m.At env.classes cx s.scope →
        ∃ sel, Typing.selection? cx (pickCall arg) s = some sel ∧ sel.bindings = .none ∧
          sel.group = [k, k'] ∧
          sel.types = (Typing.inferAll cx [arg] s).1 := by
  obtain ⟨-, ht⟩ := Env.make_checked nullChoice_checked henv
  have hdepth : 0 < env.maxDepth := by
    rw [Env.make_maxDepth henv]
    decide
  obtain ⟨c, k, k', hc, hsuper, hi, hg, hp, hp', hk, hk', -, hs, hs', hwritten, haction⟩ :=
    nullChoice_main ht
  obtain ⟨a, ha, hparams, hbody⟩ : ∃ a, c.staticMethods? env.classes entry = some [a] ∧
      a.params = [] ∧ a.body = .script [.ret (some (pickCall arg)) .unknown] := by
    rcases hentry with ⟨rfl, rfl⟩ | ⟨rfl, rfl⟩
    · exact hwritten
    · exact haction
  obtain ⟨m, hev, hf, hheap, hst⟩ := Machine.evaluates_first (m := .start {}) 8 hc ha hparams hbody
    (fun _ => rfl) hs hdepth
  obtain ⟨m₁, heval, hst₁⟩ := evalAll_nullChoice env (hentry.imp And.right And.right) hheap
  have hs₁ : (m₁.statics.touch (c.chain env.classes)).2 = [] := by
    rw [hst₁, hst]
    exact hs'
  obtain ⟨m', hd, -⟩ := Calls.dispatches_static ⟨"pick", .unknown⟩ .unknown hf hg heval hs₁
  refine ⟨k, k', m, _, m', hk, hk', hp, hp', hev, hd, rfl, rfl, rfl, fun cx s hcx hm => ?_⟩
  have hcls : cx.cls = c := hm.cls_eq hf hsuper
  exact ⟨_, Typing.selection?_static (by rw [hcx, hcls]; exact hi) (by rw [hcx, hcls]; exact hg),
    rfl, rfl, rfl⟩

theorem nullChoice_env : ∃ env,
    Env.make (Registration.registerAll .initial nullChoice).table none {} ⟨2024, 1, 1⟩ 16
      = .ok env :=
  ⟨_, rfl⟩

/-- An argument of the static type `Integer` that is `null` takes another overload than the one that
checking selected. -/
theorem null_chooses_otherwise : ∃ env e m cx role s sel k d m' k',
    Env.make (Registration.registerAll .initial nullChoice).table none {} ⟨2024, 1, 1⟩ 16
      = .ok env ∧
    (Typing.checkTable (Registration.registerAll .initial nullChoice).table).1 = [] ∧
    Machine.Evaluates env 10 "Main" "action" (.start {}) e m ∧
    Checks env.classes cx (.expr role e) s ∧ m.At env.classes cx s.scope ∧
    Typing.selection? cx e s = some sel ∧ sel.method? env.classes = some k ∧
    Calls.Dispatches env (Calls.withFuel env 5) m e d m' ∧ d.group = sel.group ∧
    List.Forall₂ (fun type v => v = .null ∨ m'.world.heap.HasStaticType type v) sel.types d.args ∧
    (Calls.withFuel env 5).stepEval env e m = d.invoke env (Calls.withFuel env 5) k' m' ∧
    k' ≠ k := by
  obtain ⟨env, henv⟩ := nullChoice_env
  obtain ⟨he, ht⟩ := Env.make_checked nullChoice_checked henv
  obtain ⟨k, k', m, d, m', hk, hk', hp, hp', hev, hd, hb, hg, hargs, hsel⟩ :=
    nullChoice_calls (.inr ⟨rfl, rfl⟩) henv
  obtain ⟨cx, role, s, hc, hm⟩ := hev.site he (Heap.belongs_empty _)
  obtain ⟨sel, hs, hsb, hsg, hst⟩ := hsel cx s hc.classes hm
  obtain ⟨-, -, -, -, -, -, -, -, -, -, -, hassign, -⟩ := nullChoice_main ht
  rw [inferAll_nullBranch s (hc.classes ▸ hassign)] at hst
  refine ⟨env, _, m, cx, role, s, sel, k', d, m', k, henv, nullChoice_checked, hev, hc, hm, hs, ?_,
    hd, hg.trans hsg.symm, ?_, ?_, ?_⟩
  · unfold Typing.Selection.method?
    rw [hsb, hsg, hst, hk']
  · rw [hst, hargs]
    exact .cons (.inl rfl) .nil
  · refine hd.stepEval_eq ?_
    unfold Dispatch.method?
    rw [hb, hg, hargs]
    exact hk
  · intro heq
    rw [heq, hp'] at hp
    exact absurd (congrArg (·.map DataType.name) hp) (by decide)

/-- A `null` that is written as such has that static type as well: evaluation goes on with the method
that checking selected, which is the first that accepts it. -/
theorem overloads_selected_as_checked_null : ∃ env e m k d m',
    Env.make (Registration.registerAll .initial nullChoice).table none {} ⟨2024, 1, 1⟩ 16
      = .ok env ∧
    Machine.Evaluates env 10 "Main" "written" (.start {}) e m ∧
    Calls.Dispatches env (Calls.withFuel env 5) m e d m' ∧ d.args = [.null] ∧ d.group.length = 2 ∧
    (Calls.withFuel env 5).stepEval env e m = d.invoke env (Calls.withFuel env 5) k m' ∧
    ∃ k', Overload.firstAccepting env.classes d.bindings d.group
      (Overload.withoutNull (m'.world.heap.typesOf d.args)) = some k' := by
  obtain ⟨env, henv⟩ := nullChoice_env
  obtain ⟨k, k', m, d, m', hk, hk', hp, hp', hev, hd, hb, hg, hargs, hsel⟩ :=
    nullChoice_calls (.inl ⟨rfl, rfl⟩) henv
  obtain ⟨⟨cx, role, s, hc, hm⟩, hall⟩ := overloads_selected_as_checked nullChoice_checked henv {} []
    10 "Main" "written" _ m hev
  obtain ⟨sel, hs, hsb, hsg, hst⟩ := hsel cx s hc.classes hm
  have hmethod : sel.method? env.classes = some k := by
    unfold Typing.Selection.method?
    rw [hsb, hsg, hst]
    exact hk
  obtain ⟨-, hdispatch⟩ := hall cx role s sel k hc hm hs hmethod
  obtain ⟨htyped, hnull⟩ := hdispatch 5 d m' hd (hg.trans hsg.symm)
  have htypes : List.Forall₂ m'.world.heap.HasStaticType sel.types d.args := by
    rw [hst, hargs]
    exact .cons ⟨.null, rfl, DataType.beq_refl _⟩ .nil
  have hparams : ∀ k₁ ∈ d.group, ∀ p ∈ k₁.paramTypes, p.isNull = false := by
    intro k₁ hk₁ p hpk
    simp only [hg, List.mem_cons, List.not_mem_nil, or_false] at hk₁
    rcases hk₁ with rfl | rfl
    · rw [hp, List.mem_singleton] at hpk
      rw [hpk]
      decide +kernel
    · rw [hp', List.mem_singleton] at hpk
      rw [hpk]
      decide +kernel
  obtain ⟨k₁, hfirst, -⟩ := hnull (by rw [hargs]; exact List.mem_cons_self) hparams
  exact ⟨env, _, m, k, d, m', henv, hev, hd, hargs, by rw [hg]; rfl, htyped htypes, k₁, hfirst⟩

end ClassScript
