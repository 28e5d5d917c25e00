import ClassScript.Proofs.Resolution.Runs

/-!
# Names mean what checking took them for

Checking looks names up in the class that the code is written in, evaluation in the running class,
which may be a class below it. `Machine.ResolvesAlike` says where the two look-ups agree: for the
class of a `new`, for a path in front of a member or a call that names a class, and for a bare name
of a static field. They agree as long as no class on the way from the running class to the one that
the code is written in hides the name; so they agree where the two are the same class.

Main statement: `names_resolve_as_checked`, for every expression that a run of checked classes
evaluates.
-/

namespace ClassScript

open Typing (Checks denote)

/-! ## Occurrences of names -/

/-- The expression in front of a member or a call. -/
def Expr.receiver? : Expr → Option Expr
  | .member object _ _ => some object
  | .callOn receiver _ _ _ => some receiver
  | _ => none

/-- The name that a path starts with. -/
def Expr.root? : Expr → Option Ident
  | .name i => some i
  | .member object _ _ => object.root?
  | _ => none

/-- The expression that an expression writes to. -/
def Expr.target? : Expr → Option Expr
  | .assign _ target _ _ => some target
  | .unary op operand _ => if op.mutates then some operand else none
  | .post _ operand _ => some operand
  | _ => none

theorem Expr.target?_mem {e x : Expr} (h : e.target? = some x) : x ∈ e.operands := by
  cases e <;> simp_all [target?, operands]

/-- The class that declares the static field a bare name means. -/
def CheckContext.staticOwner? (cx : CheckContext) (scope : LocalScope) (name : String) :
    Option ClassInfo :=
  if scope.isDeclared name || (cx.cls.instanceField? cx.classes name).isSome then none
  else (cx.cls.staticField? cx.classes name).map Prod.fst

theorem CheckContext.staticOwner?_eq_some {cx : CheckContext} {scope : LocalScope} {name : String}
    {owner : ClassInfo} (h : cx.staticOwner? scope name = some owner) :
    scope.isDeclared name = false ∧ cx.cls.instanceField? cx.classes name = none ∧
      ∃ f, cx.cls.staticField? cx.classes name = some (owner, f) := by
  unfold staticOwner? at h
  split at h
  · cases h
  · rename_i hn
    rw [Bool.or_eq_true, not_or] at hn
    obtain ⟨⟨owner', f⟩, hf, rfl⟩ := Option.map_eq_some_iff.1 h
    exact ⟨by simpa using hn.1, by simpa using hn.2, f, hf⟩

namespace Typing

variable {cx : CheckContext} {s : CheckState}

/-- What a bare name is as a value, by the three look-ups. -/
theorem valueOfName_run (cx : CheckContext) (i : Ident) (s : CheckState) :
    valueOfName cx i s =
      match s.scope.lookup? i.name, cx.cls.instanceField? cx.classes i.name with
      | some var, _ => (some (.ofType? var.type), s)
      | none, some f =>
        if cx.isStatic then (some .unknown, (Check.report (.staticContext i.name) i.span s).2)
        else (some (.value f.type), s)
      | none, none =>
        ((cx.cls.staticField? cx.classes i.name).map fun p => .value p.2.type, s) := by
  unfold valueOfName
  simp only [bind, StateT.bind, get, getThe, MonadStateOf.get, StateT.get, pure]
  cases s.scope.lookup? i.name with
  | some var => rfl
  | none =>
    cases cx.cls.instanceField? cx.classes i.name with
    | some f => cases hs : cx.isStatic <;> simp <;> rfl
    | none => cases cx.cls.staticField? cx.classes i.name <;> rfl

theorem valueOfName_fst (cx : CheckContext) (i : Ident) (s : CheckState) :
    (valueOfName cx i s).1 =
      match s.scope.lookup? i.name, cx.cls.instanceField? cx.classes i.name with
      | some var, _ => some (.ofType? var.type)
      | none, some f => some (if cx.isStatic then .unknown else .value f.type)
      | none, none => (cx.cls.staticField? cx.classes i.name).map fun p => .value p.2.type := by
  rw [valueOfName_run]
  cases s.scope.lookup? i.name with
  | some var => rfl
  | none =>
    cases cx.cls.instanceField? cx.classes i.name with
    | some f => cases cx.isStatic <;> rfl
    | none => rfl

/-- A name with a static owner is checked as a value of the type of that owner's field. -/
theorem valueOfName_static {i : Ident} {owner : ClassInfo}
    (h : cx.staticOwner? s.scope i.name = some owner) :
    ∃ f, cx.cls.staticField? cx.classes i.name = some (owner, f) ∧
      (valueOfName cx i s).1 = some (.value f.type) := by
  obtain ⟨hl, hi, f, hf⟩ := CheckContext.staticOwner?_eq_some h
  have hl : s.scope.lookup? i.name = none := by simpa [LocalScope.isDeclared] using hl
  exact ⟨f, hf, by rw [valueOfName_fst, hl, hi, hf]; rfl⟩

/-- Only a name or a path denotes a class. -/
theorem denote_cls {r : Expr} {c : ClassInfo} (h : (denote cx .receiver r s).1 = .cls c) :
    (∃ i, r = .name i) ∨ ∃ object i span d, r = .member object i span ∧
      (denote cx .receiver object s).1 = .cls d ∧ d.inner? i.name = some c := by
  -- what is computed has a type or is unknown, but is no class
  have none : ∀ {type : Option DataType}, Denotation.ofType? type ≠ .cls c := by
    rintro (_ | _) hx <;> cases hx
  match r with
  | .name i => exact .inl ⟨i, rfl⟩
  | .member object i span =>
    refine .inr ⟨object, i, span, ?_⟩
    unfold denote at h
    change (denoteMember cx .receiver (denote cx .receiver object s).1 i
      (denote cx .receiver object s).2).1 = _ at h
    cases hd : (denote cx .receiver object s).1 with
    | cls d =>
      rw [hd] at h
      unfold denoteMember at h
      cases he : d.inner? i.name with
      | some e =>
        simp only [he] at h
        cases h
        exact ⟨d, rfl, rfl, he⟩
      | none =>
        simp only [he] at h
        exact (none h).elim
    | this | value type =>
      rw [hd] at h
      exact (none h).elim
    | unknown =>
      rw [hd] at h
      cases h
  | .this span =>
    unfold denote denoteThis at h
    split at h <;> cases h
  | .assign op target value span =>
    unfold denote at h
    split at h
    · generalize hop : op.binary? = b at h
      cases b <;> exact (none h).elim
    · cases h
  | .unary op operand span =>
    unfold denote at h
    cases hop : op.mutates <;> simp only [hop] at h <;> exact (none h).elim
  | .call .. | .callOn .. | .create .. | .index .. | .binary .. | .post .. | .conditional .. =>
    unfold denote at h
    exact (none h).elim
  | .literal .. | .query .. =>
    unfold denote at h
    cases h

/-- A name that denotes a class is no value. -/
theorem denote_name_cls {i : Ident} {c : ClassInfo}
    (h : (denote cx .receiver (.name i) s).1 = .cls c) :
    s.scope.isDeclared i.name = false ∧ cx.cls.instanceField? cx.classes i.name = none ∧
      cx.cls.staticField? cx.classes i.name = none ∧ cx.lookupClass? i.name = some c := by
  unfold denote denoteName at h
  have hv := valueOfName_fst cx i s
  simp only [bind, StateT.bind] at h
  generalize valueOfName cx i s = found at h hv
  obtain ⟨d, s'⟩ := found
  dsimp only at h hv
  subst hv
  cases hl : s.scope.lookup? i.name with
  | some var =>
    obtain ⟨name, _ | type, depth, span⟩ := var <;> rw [hl] at h <;> cases h
  | none =>
    cases hi : cx.cls.instanceField? cx.classes i.name with
    | some f => cases hs : cx.isStatic <;> simp only [hl, hi, hs] at h <;> cases h
    | none =>
      cases hf : cx.cls.staticField? cx.classes i.name with
      | some p =>
        simp only [hl, hi, hf] at h
        cases h
      | none =>
        cases hc : cx.lookupClass? i.name with
        | none =>
          simp only [hl, hi, hf, hc] at h
          cases h
        | some d =>
          simp only [hl, hi, hf, hc] at h
          cases h
          exact ⟨by simp [LocalScope.isDeclared, hl], rfl, rfl, rfl⟩

end Typing

/-! ## Look-ups in a running frame -/

/-- Reads a static field of the class that declares it, touching the class it is seen from. -/
def Calls.readOwned (env : Env) (calls : Calls) (seen owner : ClassInfo) (name : String) :
    Run Value := do
  calls.ensureStatics env seen
  return ((← get).statics.get? owner.path name).getD .null

/-- Writes a static field of the class that declares it, touching the class it is seen from. -/
def Calls.writeOwned (env : Env) (calls : Calls) (seen owner : ClassInfo) (name : String)
    (value : Value) : Run Unit := do
  calls.ensureStatics env seen
  Run.modifyStatics (·.set owner.path name value)

variable {t : ClassTable} {cx : CheckContext} {scope : LocalScope} {m : Machine} {f : Frame}
  {fs : List Frame}

/-- The receiver has no field of a name that its class does not declare. -/
theorem Frame.Runs.readField?_eq_none {h : Heap} (hr : f.Runs t h cx scope) {id : ObjectId}
    (hid : f.this = some id) {name : String} (hn : f.cls.instanceField? t name = none) :
    Machine.readField? t h id name = none := by
  obtain ⟨-, hc, ht⟩ := hr.receiver id hid
  have hg : (h.get id).fields.get? name = none := by
    have hno : (h.get id).fields.contains name ≠ true := by
      intro hf
      have hd := ht name hf
      rw [hc, hn] at hd
      cases hd
    simpa [NameTable.contains_eq] using hno
  unfold Machine.readField?
  rw [hg, hc, hn]
  rfl

namespace Machine

/-- Where the inner classes agree, so do the classes of a name. -/
theorem lookupClass?_eq (hcx : cx.classes = t) (hf : m.frames = f :: fs) {name : String}
    (hi : f.cls.inner? name = cx.cls.inner? name) :
    m.lookupClass? t name = cx.lookupClass? name := by
  unfold lookupClass? CheckContext.lookupClass?
  rw [hf, hcx, ← hi]
  rfl

/-- A name that is no value where the code is written is none in the running method either, if no
class on the way declares it. -/
theorem At.namesValue_eq_false (hm : m.At t cx scope) (hf : m.frames = f :: fs) {name : String}
    (hl : scope.isDeclared name = false) (hi : cx.cls.instanceField? t name = none)
    (hs : cx.cls.staticField? t name = none) (hu : f.cls.Unhidden t cx.cls name) :
    m.namesValue t name = false := by
  have hr := hm.runs hf
  unfold namesValue
  rw [hf]
  dsimp only
  rw [hr.locals, hl, hu.staticField?_eq_none hs]
  cases hid : f.this with
  | none => rfl
  | some id =>
    dsimp only
    rw [hr.readField?_eq_none hid (hu.instanceField?_eq_none hi)]
    rfl

/-- A path that checking takes for a class names that class in the running method. -/
theorem At.classRef?_eq (hcx : cx.classes = t) {s : CheckState} (hm : m.At t cx s.scope)
    (hf : m.frames = f :: fs) : ∀ {r : Expr} {c : ClassInfo},
    (denote cx .receiver r s).1 = .cls c →
    (∀ i, r.root? = some i →
      f.cls.inner? i.name = cx.cls.inner? i.name ∧ f.cls.Unhidden t cx.cls i.name) →
    m.classRef? t r = some c
  | .name i, c, hd, hr => by
    obtain ⟨hinner, hu⟩ := hr i rfl
    obtain ⟨hl, hi, hs, hc⟩ := Typing.denote_name_cls hd
    rw [hcx] at hi hs
    unfold classRef?
    rw [hm.namesValue_eq_false hf hl hi hs hu, lookupClass?_eq hcx hf hinner, hc]
    rfl
  | .member object i span, c, hd, hr => by
    obtain ⟨_, he⟩ | ⟨object', i', span', d, he, hd', hc⟩ := Typing.denote_cls hd
    · cases he
    · cases he
      unfold classRef?
      rw [At.classRef?_eq hcx hm hf hd' hr]
      exact hc
  | .literal .., c, hd, _ | .this _, c, hd, _ | .call .., c, hd, _ | .callOn .., c, hd, _
  | .create .., c, hd, _ | .index .., c, hd, _ | .binary .., c, hd, _ | .unary .., c, hd, _
  | .post .., c, hd, _ | .assign .., c, hd, _ | .conditional .., c, hd, _ | .query .., c, hd, _ => by
    rcases Typing.denote_cls hd with ⟨_, he⟩ | ⟨_, _, _, _, he, -⟩ <;> cases he

end Machine

namespace Calls

variable {env : Env} {calls : Calls} {owner : ClassInfo} {name : String}

/-- A static field that belongs to `owner` is read there. -/
theorem readStatic_owned {c : ClassInfo} {g : FieldInfo}
    (h : c.staticField? env.classes name = some (owner, g)) :
    calls.readStatic env c name = some <$> calls.readOwned env c owner name := by
  unfold readStatic readOwned
  rw [h]
  simp

theorem load_owned {c : ClassInfo} {g : FieldInfo}
    (h : c.staticField? env.classes name = some (owner, g)) :
    calls.load env (.static c name) = calls.readOwned env c owner name := by
  have hl : calls.load env (.static c name) =
      (do return (← calls.readStatic env c name).getD .null) := rfl
  rw [hl, readStatic_owned h]
  simp

/-- A static field that belongs to `owner` is written there. -/
theorem writeStatic_owned {c : ClassInfo} {g : FieldInfo}
    (h : c.staticField? env.classes name = some (owner, g)) (v : Value) :
    calls.writeStatic env c name v = calls.writeOwned env c owner name v := by
  unfold writeStatic writeOwned
  rw [h]

section

variable (hm : m.At env.classes cx scope) (hf : m.frames = f :: fs)
  (hi : f.cls.instanceField? env.classes name = none)
include hm hf hi

theorem receiver_lacks :
    (f.this.bind fun id => Machine.readField? env.classes m.world.heap id name) = none := by
  cases hid : f.this with
  | none => rfl
  | some id => exact (hm.runs hf).readField?_eq_none hid hi

variable (hl : scope.isDeclared name = false)
include hl

/-- A name that is neither a local nor a field of the receiver reads a static field. -/
theorem evalName_owned {g : FieldInfo} (hs : f.cls.staticField? env.classes name = some (owner, g)) :
    calls.evalName env name m = calls.readOwned env f.cls owner name m := by
  have hlocal : f.lookup? name = none := by
    simpa [Frame.isLocal, hl] using (hm.runs hf).locals name
  unfold evalName
  rw [Run.frame_bind hf, hlocal]
  dsimp only
  rw [Run.heap_bind, receiver_lacks hm hf hi, readStatic_owned hs]
  simp

/-- A name that is neither a local nor a field of the receiver is the place of a static field. -/
theorem namePlace_owned {g : FieldInfo}
    (hs : f.cls.staticField? env.classes name = some (owner, g)) :
    namePlace env name m = .ok (.static f.cls name) m := by
  have hfield : (f.this.filter fun id => hasField env m.world.heap id name) = none := by
    have hn := receiver_lacks hm hf hi
    cases hid : f.this with
    | none => rfl
    | some id =>
      have hn : Machine.readField? env.classes m.world.heap id name = none := by rwa [hid] at hn
      simp [Option.filter, hasField, hn]
  unfold namePlace
  rw [Run.frame_bind hf, Run.heap_bind, (hm.runs hf).locals, hl, hfield, hs]
  rfl

end

end Calls

/-! ## What a run resolves -/

/-- Checking looks the names of the occurrence `x` up in the context `cx`, in the state `s`; the
machine `m` looks them up in the running class `c`. Where the two agree (module doc). -/
structure Machine.ResolvesAlike (env : Env) (cx : CheckContext) (s : CheckState) (x : Expr)
    (c : ClassInfo) (m : Machine) : Prop where
  created : ∀ type args span, x = .create type args span →
    sameName type.dataType.name "void" = false →
    c.inner? type.dataType.name = cx.cls.inner? type.dataType.name →
    ∃ d, cx.lookupClass? type.dataType.name = some d ∧
      m.lookupClass? env.classes type.dataType.name = some d
  receiver : ∀ r d, x.receiver? = some r → (denote cx .receiver r s).1 = .cls d →
    (∀ i, r.root? = some i →
      c.inner? i.name = cx.cls.inner? i.name ∧ c.Unhidden env.classes cx.cls i.name) →
    m.classRef? env.classes r = some d
  static : ∀ i owner, x = .name i → cx.staticOwner? s.scope i.name = some owner →
    c.Unhidden env.classes cx.cls i.name → owner ∈ c.chain env.classes →
    (∃ g, owner.staticFields.get? i.name = some g ∧
      (Typing.valueOfName cx i s).1 = some (.value g.type)) ∧
    (∀ calls : Calls,
      calls.evalName env i.name m = calls.readOwned env c owner i.name m) ∧
    Calls.namePlace env i.name m = .ok (.static c i.name) m ∧
    ∀ calls : Calls, calls.load env (.static c i.name) = calls.readOwned env c owner i.name ∧
      ∀ v, calls.store env v (.static c i.name) = calls.writeOwned env c owner i.name v

/-- The look-ups agree at every place of checked code. -/
theorem Machine.At.resolvesAlike {env : Env} {s : CheckState} {role : Role} {x : Expr}
    (hc : Checks env.classes cx (.expr role x) s) (hm : m.At env.classes cx s.scope)
    (hf : m.frames = f :: fs) : m.ResolvesAlike env cx s x f.cls := by
  refine ⟨?_, ?_, ?_⟩
  · rintro type args span rfl hv hi
    obtain hvoid | hk := hc.create_known
    · rw [hv] at hvoid
      cases hvoid
    · obtain ⟨d, hd⟩ := Option.isSome_iff_exists.1 hk
      exact ⟨d, hd, by rw [Machine.lookupClass?_eq hc.classes hf hi, hd]⟩
  · intro r d _ hd hr
    exact hm.classRef?_eq hc.classes hf hd hr
  · rintro i owner rfl ho hu hreach
    obtain ⟨hl, hi, -⟩ := CheckContext.staticOwner?_eq_some ho
    obtain ⟨g, hg, hv⟩ := Typing.valueOfName_static ho
    rw [hc.classes] at hg hi
    have hs := hu.staticField? hg hreach
    have hi := hu.instanceField?_eq_none hi
    refine ⟨⟨g, (ClassInfo.staticField?_owner hg).2, hv⟩,
      fun calls => Calls.evalName_owned hm hf hi hl hs, Calls.namePlace_owned hm hf hi hl hs,
      fun calls => ⟨Calls.load_owned hs, fun v => Calls.writeStatic_owned hs v⟩⟩

/-- **Names mean what checking took them for.** Take classes that are registered and checked without
an error, and run any entry method of theirs, on a new machine or after other entry methods. Let `x`
be an expression that the run evaluates, or the target of one that it evaluates. Then checking came
to `x`, in a class that the running class has in its chain and with the local variables that the
running frame binds; and wherever it did so, the look-ups agree (`Machine.ResolvesAlike`). If the
run halts for an undefined class, that is the class of the entry point, `void`, or an inner class
that the running class does not have. -/
theorem names_resolve_as_checked {decls : List ClassDecl} {query : Option QueryService}
    {credentials : Credentials} {today : Date} {maxDepth : Nat} {env : Env}
    (hcheck : (Typing.checkTable (Registration.registerAll .initial decls).table).1 = [])
    (henv : Env.make (Registration.registerAll .initial decls).table query credentials today
      maxDepth = .ok env)
    (sink : Sink) (entries : List (Nat × EntryPoint)) (fuel : Nat) (className method : String) :
    let start := (Machine.start sink).afterEntries env entries
    (∀ e m x, Machine.Evaluates env fuel className method start e m →
      (x = e ∨ e.target? = some x) →
      (∃ cx role s, Checks env.classes cx (.expr role x) s ∧ m.At env.classes cx s.scope) ∧
      ∀ cx role s f fs, Checks env.classes cx (.expr role x) s → m.At env.classes cx s.scope →
        m.frames = f :: fs → m.ResolvesAlike env cx s x f.cls) ∧
    ∀ name m', Machine.runEntry env fuel className method start =
        .error (.fault (.undefinedClass name)) m' →
      env.classes.resolve? className = none ∨ env.classes.Excuses name := by
  intro start
  obtain ⟨he, -⟩ := Env.make_checked hcheck henv
  have hb : start.world.heap.Belongs env.classes :=
    Machine.afterEntries_belongs he entries (Heap.belongs_empty _)
  refine ⟨fun e m x hev hx => ⟨?_, fun cx role s f fs hc hm hf => hm.resolvesAlike hc hf⟩, ?_⟩
  · obtain ⟨cx, role, s, hc, hm⟩ := hev.site he hb
    rcases hx with rfl | hx
    · exact ⟨cx, role, s, hc, hm⟩
    · obtain ⟨role', s', hc', hs'⟩ :=
        ExprAt.operand ⟨role, s, hc, fun _ => rfl⟩ (Expr.target?_mem hx)
      exact ⟨cx, role', s', hc', hm.of_lookup hs'⟩
  · intro name m' hrun
    cases hfound : env.classes.resolve? className with
    | none => exact .inl rfl
    | some c => exact .inr (Machine.runEntry_undefinedClass he hb hrun (by rw [hfound]; rfl))

/-! ### Inherited code and inner classes -/

/-- A class whose method makes an instance of one of its inner classes, and a class below it. -/
def inheritedPart : List ClassDecl :=
  let part : ClassDecl := ⟨.none, [], ⟨"Part", .unknown⟩, none, [], [], .unknown⟩
  let make : MethodDecl := ⟨.union .pub .static, none, ⟨"make", .unknown⟩, [],
    some [.expr (.create ⟨⟨"Part", .unknown⟩, [], .unknown⟩ [] .unknown) .unknown], .unknown⟩
  [⟨.none, [], ⟨"Base", .unknown⟩, none, [], [.inner part, .method make], .unknown⟩,
    ⟨.none, [], ⟨"Child", .unknown⟩, some ⟨⟨"Base", .unknown⟩, [], .unknown⟩, [], [], .unknown⟩]

theorem inheritedPart_checked :
    (Typing.checkTable (Registration.registerAll .initial inheritedPart).table).1 = [] :=
  List.isEmpty_iff.1 (by decide +kernel)

/-- The method runs in the class below, and does not find the inner class there. -/
theorem inheritedPart_halts : ∃ env m,
    Env.make (Registration.registerAll .initial inheritedPart).table none {} ⟨2024, 1, 1⟩ 16
      = .ok env ∧
    (env.classes.resolve? "Child").isSome = true ∧
    Machine.runEntry env 10 "Child" "make" (.start {}) =
      .error (.fault (.undefinedClass "Part")) m :=
  ⟨_, _, rfl, rfl, rfl⟩

/-- In its own class the method comes to the `new` of the inner class. -/
theorem inheritedPart_evaluates {env : Env} (hdepth : 0 < env.maxDepth)
    (ht : env.classes = (Registration.registerAll .initial inheritedPart).table) :
    ∃ c type args span m, type.dataType.name = "Part" ∧ c.superclass = none ∧
      Machine.Evaluates env 10 "Base" "make" (.start {}) (.create type args span) m ∧
      m.frames = [Frame.make c none] := by
  obtain ⟨c, k, type, args, span, span', rest, hc, hsuper, hk, hparams, hbody, hname, hstatics⟩ :
      ∃ c k type args span span' rest, env.classes.resolve? "Base" = some c ∧ c.superclass = none ∧
        c.staticMethods? env.classes "make" = some [k] ∧ k.params = [] ∧
        k.body = .script (.expr (.create type args span) span' :: rest) ∧
        type.dataType.name = "Part" ∧ (Statics.touch {} (c.chain env.classes)).2 = [] := by
    rw [ht]
    exact ⟨_, _, _, _, _, _, _, rfl, rfl, rfl, rfl, rfl, rfl, rfl⟩
  obtain ⟨m, hev, hm, -⟩ := Machine.evaluates_first (m := .start {}) 8 hc hk hparams hbody
    (fun _ => rfl) hstatics hdepth
  exact ⟨c, type, args, span, m, hname, hsuper, hev, hm⟩

/-- A class that checking finds may be undefined in a run. -/
theorem checked_class_may_be_undefined : ¬ ∀ (decls : List ClassDecl) (env : Env) (fuel : Nat)
    (className method name : String) (m : Machine),
    (Typing.checkTable (Registration.registerAll .initial decls).table).1 = [] →
    Env.make (Registration.registerAll .initial decls).table none {} ⟨2024, 1, 1⟩ 16 = .ok env →
    Machine.runEntry env fuel className method (.start {}) =
      .error (.fault (.undefinedClass name)) m →
    env.classes.resolve? className = none := by
  intro h
  obtain ⟨env, m, henv, hfound, hrun⟩ := inheritedPart_halts
  rw [h inheritedPart env 10 "Child" "make" "Part" m inheritedPart_checked henv hrun] at hfound
  cases hfound

/-- In its own class the method finds the inner class as checked; in the class below, the class is
one of those that may be undefined. -/
theorem names_resolve_as_checked_part : ∃ env,
    Env.make (Registration.registerAll .initial inheritedPart).table none {} ⟨2024, 1, 1⟩ 16
      = .ok env ∧
    (∃ c e m d, Machine.Evaluates env 10 "Base" "make" (.start {}) e m ∧
      m.frames = [Frame.make c none] ∧ m.lookupClass? env.classes "Part" = some d) ∧
    env.classes.Excuses "Part" := by
  obtain ⟨env, m, henv, hfound, hrun⟩ := inheritedPart_halts
  obtain ⟨-, hclasses⟩ := Env.make_checked inheritedPart_checked henv
  have hdepth : 0 < env.maxDepth := by
    rw [Env.make_maxDepth henv]
    decide
  refine ⟨env, henv, ?_, ?_⟩
  · obtain ⟨c, type, args, span, m, hname, hsuper, hev, hf⟩ :=
      inheritedPart_evaluates hdepth hclasses
    obtain ⟨⟨cx, role, s, hc, hm⟩, hall⟩ :=
      (names_resolve_as_checked inheritedPart_checked henv {} [] 10 "Base" "make").1 _ m _ hev
        (.inl rfl)
    have hvoid : sameName type.dataType.name "void" = false := by
      rw [hname]
      decide +kernel
    obtain ⟨d, -, hd⟩ := (hall cx role s _ _ hc hm hf).created type args span rfl hvoid
      (by rw [hm.cls_eq hf hsuper])
    exact ⟨c, _, m, d, hev, hf, hname ▸ hd⟩
  · rcases (names_resolve_as_checked inheritedPart_checked henv {} [] 10 "Child" "make").2 "Part" m
      hrun with hnone | hex
    · rw [hnone] at hfound
      cases hfound
    · exact hex

end ClassScript
