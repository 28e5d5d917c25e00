import ClassScript.Proofs.Memory.Evaluation

/-!
# The native state of built-in instances

The kind of an object's native state changes at most once, from none to that of its class, and only
if a constructor of the class gives it (`Course.kind`). Values have theirs from the start. So at
every moment an instance of a class with native state has that of its class, or none at all, and
then `new` has made it and either its creation is not completed or the class has no constructor
(`Course.keepsNative`).

An instance that `new` makes of a class without a constructor never gets native state: of `Integer`,
`Double`, `String`, `Boolean` or `Date` (`new_integer_without_state`).

Main statement: `native_state_own_unless_bare`.
-/

namespace ClassScript

/-- The object has no native state: `new` has made it, and either its class has no constructor or
its creation is not completed. -/
structure Heap.Bare (events : List Event) (h : Heap) (id : ObjectId) : Prop where
  payload : (h.get id).payload = .none
  make : .make id ∈ events
  completed : (h.get id).cls.constructors = [] ∨ .made id ∉ events

/-- What is kept of native state, with the events so far. -/
structure KeptNative (events : List Event) (h : Heap) : Prop where
  own : ∀ id < h.objects.size, (h.get id).cls ∈ Builtin.nativeClasses →
    h.HasOwn id ∨ h.Bare events id
  made : ∀ id, .made id ∈ events → id < h.objects.size

namespace Change

variable {env : Env} {s s' : Stage} {e : Event} {id : ObjectId}

/-- The kind of native state changes only to that of the class, where a constructor gives it. -/
theorem kind (h : Change env s e s') (lt : id < s.memory.heap.objects.size) :
    (s'.memory.heap.get id).payload.kind = (s.memory.heap.get id).payload.kind ∨
      (s.memory.heap.get id).cls.Constructs ∧
        (s'.memory.heap.get id).payload.kind = (s.memory.heap.get id).cls.name := by
  cases h with
  | touch _ | start | finish | assign _ _ | made _ => exact .inl rfl
  | make _ =>
    refine .inl ?_
    show ((Heap.alloc _ _).2.get id).payload.kind = _
    rw [Heap.get_alloc_of_lt _ _ lt]
  | work works => exact works.kind id lt
  | @write heap statics due running i name v _ =>
    refine .inl ?_
    show ((heap.setField i name v).get id).payload.kind = _
    unfold Heap.setField
    rw [Heap.get_modify _ _ _ _ lt]
    split <;> rfl

/-- What there is anew: values and records, and what `new` makes. -/
theorem new (h : Change env s e s') (lt : id < s'.memory.heap.objects.size)
    (le : s.memory.heap.objects.size ≤ id) :
    ((s'.memory.heap.get id).cls ∈ Builtin.nativeClasses → s'.memory.heap.HasOwn id) ∨
      (e = .make id ∧ (s'.memory.heap.get id).payload = .none) := by
  cases h with
  | touch _ | start | finish | assign _ _ | made _ => exact absurd lt (Nat.not_lt.2 le)
  | @make heap statics due running c typeArgs _ =>
    obtain ⟨lt', -⟩ | ⟨rfl, hget⟩ := Heap.get_alloc_cases heap _ lt
    · exact absurd lt' (Nat.not_lt.2 le)
    · exact .inr ⟨rfl, congrArg Object.payload hget⟩
  | @work heap heap' statics due running works =>
    refine .inl fun hnative => ?_
    obtain ⟨-, hkind⟩ | ⟨hrecord, -⟩ := works.new id lt le
    · exact hkind
    · have hname : Builtin.recordClass.name ∈ Builtin.nativeClasses.map ClassInfo.name :=
        List.mem_map_of_mem (hrecord ▸ hnative)
      exact absurd hname (by decide +kernel)
  | @write heap statics due running i name v _ =>
    have size : (heap.setField i name v).objects.size = heap.objects.size := Heap.size_modify ..
    exact absurd (size ▸ lt) (Nat.not_lt.2 le)

/-- What a single change keeps of native state. -/
theorem keepsNative (h : Change env s e s') {events : List Event}
    (hk : KeptNative events s.memory.heap) : KeptNative (events ++ [e]) s'.memory.heap := by
  have lasts := h.lasts
  refine ⟨fun id lt hnative => ?_, fun id hmade => ?_⟩
  · by_cases old : id < s.memory.heap.objects.size
    · have hcls := lasts.cls id old
      have kind := h.kind old
      rw [hcls] at hnative
      unfold Heap.HasOwn
      rw [hcls]
      obtain hown | hbare := hk.own id old hnative
      · exact .inl (kind.elim (fun same => same.trans hown) And.right)
      · obtain same | ⟨-, hown⟩ := kind
        · rw [hbare.payload] at same
          have none := Payload.eq_none_of_kind same
          have make : .make id ∈ events ++ [e] := List.mem_append_left _ hbare.make
          by_cases hcon : (s.memory.heap.get id).cls.constructors = []
          · exact .inr ⟨none, make, .inl (by rw [hcls, hcon])⟩
          · -- the end of its creation finds it with the native state of its class
            by_cases he : e = .made id
            · subst he
              cases h with
              | made ready => exact .inl (ready.kind ⟨hnative, hcon⟩)
            · refine .inr ⟨none, make, .inr fun hmade => ?_⟩
              rcases List.mem_append.1 hmade with hmade | hmade
              · exact hbare.completed.elim hcon fun hn => hn hmade
              · exact he (List.mem_singleton.1 hmade).symm
        · exact .inl hown
    · have le := Nat.le_of_not_lt old
      obtain hown | ⟨rfl, none⟩ := h.new lt le
      · exact .inl (hown hnative)
      · refine .inr ⟨none, List.mem_append_right _ List.mem_cons_self, .inr fun hmade => ?_⟩
        rcases List.mem_append.1 hmade with hmade | hmade
        · exact old (hk.made id hmade)
        · cases List.mem_singleton.1 hmade
  · rcases List.mem_append.1 hmade with hmade | hmade
    · exact Nat.lt_of_lt_of_le (hk.made id hmade) lasts.size
    · obtain rfl := List.mem_singleton.1 hmade
      cases h with
      | made ready => exact ready.lt

end Change

namespace Course

variable {env : Env} {s s' : Stage} {moments : List Moment}

theorem keepsNative (h : Course env s moments s') {events : List Event}
    (hk : KeptNative events s.memory.heap) :
    KeptNative (events ++ moments.map Moment.event) s'.memory.heap := by
  induction h generalizing events with
  | done s => simpa using hk
  | next hchange _ ih => simpa using ih (hchange.keepsNative hk)

/-- The kind of native state along a course (module doc). -/
theorem kind {id : ObjectId} (h : Course env s moments s') (lt : id < s.memory.heap.objects.size) :
    (s'.memory.heap.get id).payload.kind = (s.memory.heap.get id).payload.kind ∨
      (s.memory.heap.get id).cls.Constructs ∧
        (s'.memory.heap.get id).payload.kind = (s.memory.heap.get id).cls.name := by
  induction h with
  | done s => exact .inl rfl
  | next hchange _ ih =>
    have lasts := hchange.lasts
    have later := ih (Nat.lt_of_lt_of_le lt lasts.size)
    rw [lasts.cls id lt] at later
    obtain same | constructs := later
    · rw [same]
      exact hchange.kind lt
    · exact .inr constructs

end Course

/-- **Built-in instances carry their own native state, unless they are bare.** Take registered
classes and entry methods that run one after the other on one machine, however each of them ends.
At every moment an instance of a class with native state has that of its class, or it is bare.
Native state that is the object's own stays so; and an instance that is bare stays so if its class
has no constructor. -/
theorem native_state_own_unless_bare {decls : List ClassDecl} {query : Option QueryService}
    {credentials : Credentials} {today : Date} {maxDepth : Nat} {env : Env}
    (henv : Env.make (Registration.registerAll .initial decls).table query credentials today
      maxDepth = .ok env) (sink : Sink) (entries : List (Nat × EntryPoint)) :
    ∀ before μ after, (Machine.start sink).lifetime env entries = before ++ μ :: after →
      ∀ id < μ.memory.heap.objects.size,
        ((μ.memory.heap.get id).cls ∈ Builtin.nativeClasses →
          μ.memory.heap.HasOwn id ∨
            μ.memory.heap.Bare ((before ++ [μ]).map Moment.event) id) ∧
        (μ.memory.heap.HasOwn id → ∀ ν ∈ after,
          (ν.memory.heap.get id).cls = (μ.memory.heap.get id).cls ∧ ν.memory.heap.HasOwn id) ∧
        ((μ.memory.heap.get id).payload = .none → (μ.memory.heap.get id).cls.constructors = [] →
          ∀ ν ∈ after, (ν.memory.heap.get id).cls = (μ.memory.heap.get id).cls ∧
            (ν.memory.heap.get id).payload = .none) := by
  intro before μ after hsplit id lt
  have he := Env.make_registered henv
  obtain ⟨s', course, -⟩ := Machine.start_course he sink entries
  rw [hsplit] at course
  obtain ⟨s₁, s₂, hbefore, hchange, hmemory, hafter⟩ := course.split
  have start : KeptNative [] (Machine.start sink).memory.heap := ⟨nofun, nofun⟩
  have kept := hchange.keepsNative (hbefore.keepsNative start)
  rw [← hmemory] at lt ⊢
  have later : ∀ ν ∈ after, (ν.memory.heap.get id).cls = (s₂.memory.heap.get id).cls ∧
      ((ν.memory.heap.get id).payload.kind = (s₂.memory.heap.get id).payload.kind ∨
        (s₂.memory.heap.get id).cls.Constructs ∧
          (ν.memory.heap.get id).payload.kind = (s₂.memory.heap.get id).cls.name) := by
    intro ν hν
    -- the course from this moment up to the later one
    obtain ⟨between, rest, rfl⟩ := List.append_of_mem hν
    obtain ⟨s₃, s₄, hbetween, hnext, hmem, -⟩ := hafter.split
    have upTo : Course env s₂ (between ++ [⟨ν.event, s₄.memory⟩]) s₄ :=
      hbetween.append (.single hnext)
    rw [← hmem]
    exact ⟨upTo.lasts.cls id lt, upTo.kind lt⟩
  refine ⟨fun hnative => ?_, fun hown ν hν => ?_, fun hnone hcon ν hν => ?_⟩
  · rw [List.map_append]
    exact kept.own id lt hnative
  · obtain ⟨hcls, hkind⟩ := later ν hν
    refine ⟨hcls, ?_⟩
    unfold Heap.HasOwn at hown ⊢
    rw [hcls]
    exact hkind.elim (fun same => same.trans hown) And.right
  · obtain ⟨hcls, hkind⟩ := later ν hν
    refine ⟨hcls, ?_⟩
    obtain same | ⟨constructs, -⟩ := hkind
    · rw [hnone] at same
      exact Payload.eq_none_of_kind same
    · exact absurd hcon constructs.2

/-- `Integer i = new Integer(); return i - i;` -/
def newInteger : List ClassDecl :=
  let integer : TypeRef := ⟨⟨"Integer", .unknown⟩, [], .unknown⟩
  let i : Ident := ⟨"i", .unknown⟩
  let body : List Stmt := [
    .declare ⟨integer, [⟨i, some (.create integer [] .unknown), .unknown⟩], .unknown⟩,
    .ret (some (.binary .sub (.name i) (.name i) .unknown)) .unknown]
  [⟨.pub, [], ⟨"Main", .unknown⟩, none, [],
    [.method ⟨.union .pub .static, some integer, ⟨"action", .unknown⟩, [], some body, .unknown⟩],
    .unknown⟩]

theorem newInteger_checked :
    (Typing.checkTable (Registration.registerAll .initial newInteger).table).1 = [] :=
  List.isEmpty_iff.1 (by decide +kernel)

/-- A run makes an `Integer`, which is completed without native state. -/
theorem newInteger_runs : ∃ env,
    Env.make (Registration.registerAll .initial newInteger).table none {} ⟨2024, 1, 1⟩ 16
      = .ok env ∧
    ∃ before μ μ', (Machine.start {}).lifetime env [(20, ⟨"Main", "action"⟩)] =
        before ++ [μ, μ'] ∧
      μ.event = .make 0 ∧ μ'.event = .made 0 ∧ 0 < μ.memory.heap.objects.size ∧
      (μ.memory.heap.get 0).cls = Builtin.integerClass ∧ (μ.memory.heap.get 0).payload = .none ∧
      μ'.memory = μ.memory :=
  ⟨_, rfl, [_, _], _, _, rfl, rfl, rfl, by decide, rfl, rfl, rfl⟩

/-- The `Integer` stays without native state. -/
theorem native_state_own_unless_bare_new : ∃ env before μ μ',
    Env.make (Registration.registerAll .initial newInteger).table none {} ⟨2024, 1, 1⟩ 16
      = .ok env ∧
    (Machine.start {}).lifetime env [(20, ⟨"Main", "action"⟩)] = before ++ [μ, μ'] ∧
    μ'.event = .made 0 ∧ (μ'.memory.heap.get 0).payload = .none := by
  obtain ⟨env, henv, before, μ, μ', hsplit, -, hmade, lt, hcls, hnone, -⟩ := newInteger_runs
  obtain ⟨-, -, hlater⟩ := native_state_own_unless_bare henv {} [(20, ⟨"Main", "action"⟩)] before μ
    [μ'] hsplit 0 lt
  exact ⟨env, before, μ, μ', henv, hsplit, hmade,
    (hlater hnone (by rw [hcls]; rfl) μ' List.mem_cons_self).2⟩

/-- Not every instance of a class with native state has it once its creation is completed, in
checked classes either. -/
theorem new_integer_without_state : ¬ ∀ (decls : List ClassDecl) (env : Env)
    (entries : List (Nat × EntryPoint)) (before after : List Moment) (μ : Moment) (id : ObjectId),
    (Typing.checkTable (Registration.registerAll .initial decls).table).1 = [] →
    Env.make (Registration.registerAll .initial decls).table none {} ⟨2024, 1, 1⟩ 16 = .ok env →
    (Machine.start {}).lifetime env entries = before ++ μ :: after → μ.event = .made id →
    (μ.memory.heap.get id).cls ∈ Builtin.nativeClasses → μ.memory.heap.HasOwn id := by
  intro hasOwn_of_made
  obtain ⟨env, henv, before, μ, μ', hsplit, -, hmade, -, hcls, hnone, hmemory⟩ := newInteger_runs
  have hsplit' : (Machine.start {}).lifetime env [(20, ⟨"Main", "action"⟩)] =
      (before ++ [μ]) ++ μ' :: [] := by
    rw [hsplit, List.append_assoc]
    rfl
  have hown := hasOwn_of_made newInteger env _ _ _ μ' 0 newInteger_checked henv hsplit' hmade (by
    rw [hmemory, hcls]
    exact List.mem_cons_self)
  unfold Heap.HasOwn at hown
  rw [hmemory, hcls, hnone] at hown
  exact absurd hown (by decide)

end ClassScript
