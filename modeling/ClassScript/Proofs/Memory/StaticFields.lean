import ClassScript.Proofs.Memory.Evaluation
import ClassScript.Proofs.Memory.FieldTables

/-!
# Static fields over whole runs

A static initializer starts at most once, however many entry methods run and however they end. The
reason is that a chain that is touched makes its initializers due together with the tables they are
for, and a class with a table makes none due again. So along every course (`Course.keepsStatics`)

* the fields of the initializers that have started or are due are all different, and their classes
  have tables;
* a table has an entry for each static field of its class and no others;
* what is running has started.

Main statement: `static_fields_initialized_once`.
-/

namespace ClassScript

/-- The initializer that starts. -/
def Event.starts? : Event → Option PendingStatic
  | .start p => some p
  | _ => none

/-- The static initializers that start, in order. -/
def started (moments : List Moment) : List PendingStatic :=
  moments.filterMap fun μ => μ.event.starts?

/-- The initializer of a static field of a class of the table. -/
def PendingStatic.Declared (t : ClassTable) (p : PendingStatic) : Prop :=
  ∃ c, t.Has c ∧ c.path = p.owner ∧ ∃ f, (p.name, f) ∈ c.staticFields.entries ∧ f.init = some p.init

/-- Each table has an entry for each static field of its class and no others. -/
def Statics.Complete (t : ClassTable) (s : Statics) : Prop :=
  ∀ c, t.Has c → ∀ table, s.table? c.path = some table → table.names = c.staticFields.names

/-- The event is the completion of the field's initializer, or a store to the field, with this
value. -/
def Event.Stores (owner : List String) (name : String) (v : Value) : Event → Prop
  | .finish p w => p.owner = owner ∧ sameName p.name name = true ∧ w = v
  | .assign o n w => o = owner ∧ sameName n name = true ∧ w = v
  | _ => False

/-- The tables stay, and a value changes only if the event stores it. -/
def Statics.Becomes (s : Statics) (e : Event) (s' : Statics) : Prop :=
  ∀ owner table, s.table? owner = some table → ∃ table', s'.table? owner = some table' ∧
    ∀ name, table'.get? name = table.get? name ∨
      ∃ v, e.Stores owner name v ∧ table'.get? name = some v

/-! ## What changes keep -/

/-- What is kept of the static fields, with the initializers that have started (module doc). -/
structure KeptStatics (t : ClassTable) (before : List PendingStatic) (s : Stage) : Prop where
  complete : s.memory.statics.Complete t
  declared : ∀ p ∈ before ++ s.due, p.Declared t
  tabled : ∀ p ∈ before ++ s.due, s.memory.statics.contains p.owner = true
  once : ((before ++ s.due).map PendingStatic.field).Nodup
  running : ∀ p ∈ s.running, p ∈ before

theorem Statics.declared_of_pending {t : ClassTable} {c : ClassInfo} {p : PendingStatic}
    (hc : t.Has c) (h : p ∈ pending c) : p.Declared t := by
  obtain ⟨⟨name, f⟩, hmem, hp⟩ := List.mem_filterMap.1 h
  obtain ⟨e, hinit, rfl⟩ := Option.map_eq_some_iff.1 hp
  exact ⟨c, hc, rfl, f, hmem, hinit⟩

theorem PendingStatic.Declared.contains {t : ClassTable} {p : PendingStatic} (h : p.Declared t) :
    ∃ c, t.Has c ∧ c.path = p.owner ∧ c.staticFields.contains p.name = true := by
  obtain ⟨c, hc, hpath, f, hmem, -⟩ := h
  exact ⟨c, hc, hpath, NameTable.contains_of_mem (List.mem_map_of_mem hmem)⟩

/-- A path leads to one class of a chain at most. -/
theorem Env.Registered.find?_path {env : Env} {decls : List ClassDecl} (he : env.Registered decls)
    {c d d' : ClassInfo} (hc : env.classes.Has c) (hd : env.classes.Has d)
    (hfind : (c.chain env.classes).find? (fun e => e.path == d.path) = some d') : d' = d := by
  have hpath : d'.path = d.path := by simpa using List.find?_some hfind
  have hd' := hc.of_chain (List.mem_of_find?_eq_some hfind)
  rw [he.classes] at hd hd'
  exact hd'.path_inj hd hpath

namespace Statics

variable {s : Statics}

theorem contains_touch {owner : List String} (chain : List ClassInfo)
    (h : s.contains owner = true) : (s.touch chain).1.contains owner = true := by
  unfold contains at h ⊢
  obtain ⟨table, htable⟩ := Option.isSome_iff_exists.1 h
  rw [table?_touch, htable]
  rfl

theorem contains_touch_of_mem {chain : List ClassInfo} {c : ClassInfo} (hc : c ∈ chain) :
    (s.touch chain).1.contains c.path = true := by
  have found : (chain.find? fun d => d.path == c.path).isSome = true :=
    List.find?_isSome.2 ⟨c, hc, beq_self_eq_true c.path⟩
  unfold contains
  rw [table?_touch, Option.isSome_or, Option.isSome_map, found, Bool.or_true]

/-- What becomes due is of classes that have tables then. -/
theorem contains_of_due {chain : List ClassInfo} {p : PendingStatic} (h : p ∈ (s.touch chain).2) :
    (s.touch chain).1.contains p.owner = true := by
  obtain ⟨c, hc, hpc, -⟩ := mem_touch h
  rw [owner_of_pending hpc]
  exact contains_touch_of_mem hc

variable {decls : List ClassDecl} {env : Env} (he : env.Registered decls)
include he

/-- A field that is set is one of its class, so the table keeps its names. -/
theorem Complete.set (h : s.Complete env.classes) {c : ClassInfo} {name : String} (v : Value)
    (hc : env.classes.Has c) (hname : c.staticFields.contains name = true) :
    (s.set c.path name v).Complete env.classes := by
  intro d hd table' htable'
  rw [table?_set] at htable'
  split at htable'
  · rename_i hpath
    rw [he.classes] at hc hd
    obtain rfl := hd.path_inj hc hpath
    rw [← he.classes] at hd
    obtain ⟨table, htable, rfl⟩ := Option.map_eq_some_iff.1 htable'
    have names := h d hd table htable
    rw [NameTable.names_insert_of_contains, names]
    rw [NameTable.contains_of_names names, hname]
  · exact h d hd table' htable'

theorem Complete.touch (h : s.Complete env.classes) {c : ClassInfo} (hc : env.classes.Has c) :
    ((s.touch (c.chain env.classes)).1).Complete env.classes := by
  intro d hd table htable
  rw [table?_touch] at htable
  cases hs : s.table? d.path with
  | some table' =>
    rw [hs] at htable
    cases htable
    exact h d hd _ hs
  | none =>
    rw [hs, Option.none_or] at htable
    obtain ⟨d', hfind, rfl⟩ := Option.map_eq_some_iff.1 htable
    obtain rfl := he.find?_path hc hd hfind
    rw [he.classes] at hd
    exact names_nulls _

end Statics

/-- What becomes due had no table before, and has one then. -/
theorem KeptStatics.touch {env : Env} {decls : List ClassDecl} (he : env.Registered decls)
    {before due running : List PendingStatic} {heap : Heap} {statics : Statics}
    (hk : KeptStatics env.classes before ⟨⟨heap, statics⟩, due, running⟩) {c : ClassInfo}
    (hc : env.classes.Has c) : KeptStatics env.classes before
      ⟨⟨heap, (statics.touch (c.chain env.classes)).1⟩,
        (statics.touch (c.chain env.classes)).2 ++ due, running⟩ := by
  obtain ⟨complete, declared, tabled, once, hrunning⟩ := hk
  -- what is new stands between what has started and what was due before; here it is put first
  have perm := List.perm_append_comm_assoc before (statics.touch (c.chain env.classes)).2 due
  refine ⟨complete.touch he hc, fun p hp => ?_, fun p hp => ?_, ?_, hrunning⟩
  · rcases List.mem_append.1 (perm.mem_iff.1 hp) with hp | hp
    · obtain ⟨d, hd, hpd, -⟩ := Statics.mem_touch hp
      exact Statics.declared_of_pending (hc.of_chain hd) hpd
    · exact declared p hp
  · rcases List.mem_append.1 (perm.mem_iff.1 hp) with hp | hp
    · exact Statics.contains_of_due hp
    · exact Statics.contains_touch _ (tabled p hp)
  · rw [(perm.map PendingStatic.field).nodup_iff, List.map_append, List.nodup_append]
    refine ⟨Statics.touch_nodup _ statics, once, ?_⟩
    -- a field that was due before would be of a class with a table, but this one had none
    intro k hk k' hk' hkk
    obtain ⟨p, hp, rfl⟩ := List.mem_map.1 hk
    obtain ⟨q, hq, rfl⟩ := List.mem_map.1 hk'
    obtain ⟨d, -, hpd, hnone⟩ := Statics.mem_touch hp
    have howner : d.path = q.owner := by
      rw [← Statics.owner_of_pending hpd]
      exact (Prod.mk.inj hkk).1
    have htable : statics.contains q.owner = true := tabled q hq
    rw [← howner, Statics.contains, hnone] at htable
    cases htable

theorem Statics.becomes_set (s : Statics) (owner : List String) (name : String) (v : Value)
    {e : Event} (h : ∀ n, sameName name n = true → e.Stores owner n v) :
    s.Becomes e (s.set owner name v) := by
  intro owner' table htable
  rw [table?_set]
  split
  · rename_i ho
    subst ho
    refine ⟨table.insert name v, by rw [htable]; rfl, fun n => ?_⟩
    rw [NameTable.get?_insert]
    split
    · rename_i hn
      exact .inr ⟨v, h n hn, rfl⟩
    · exact .inl rfl
  · exact ⟨table, htable, fun _ => .inl rfl⟩

theorem Statics.Becomes.refl (s : Statics) (e : Event) : s.Becomes e s := fun _ table htable =>
  ⟨table, htable, fun _ => .inl rfl⟩

namespace Change

variable {env : Env} {s s' : Stage} {e : Event} {before : List PendingStatic}

/-- What a single change keeps of the static fields. -/
theorem keepsStatics {decls : List ClassDecl} (he : env.Registered decls)
    (h : Change env s e s') (hk : KeptStatics env.classes before s) :
    KeptStatics env.classes (before ++ e.starts?.toList) s' := by
  cases h with
  | touch hc => exact (List.append_nil before).symm ▸ hk.touch he hc
  | @start memory due running p =>
    -- what starts goes from those that are due to those that have started
    have assoc : before ++ p :: due = before ++ [p] ++ due := by simp
    obtain ⟨complete, declared, tabled, once, hrunning⟩ := hk
    dsimp only at declared tabled once
    rw [assoc] at declared tabled once
    refine ⟨complete, declared, tabled, once, fun q hq => ?_⟩
    rcases List.mem_cons.1 hq with rfl | hq
    · exact List.mem_append_right _ List.mem_cons_self
    · exact List.mem_append_left _ (hrunning q hq)
  | @finish heap statics due running p v =>
    obtain ⟨complete, declared, tabled, once, hrunning⟩ := hk
    -- the innermost one that is running has started, so it is for a field that is declared
    have hp := declared p (List.mem_append_left _ (hrunning p List.mem_cons_self))
    obtain ⟨c, hc, hpath, hname⟩ := hp.contains
    refine (List.append_nil before).symm ▸ ⟨?_, declared, fun q hq => ?_, once,
      fun q hq => hrunning q (List.mem_cons_of_mem p hq)⟩
    · rw [← hpath]
      exact complete.set he v hc hname
    · exact (Statics.contains_set _ _ _ _ _).trans (tabled q hq)
  | @assign heap statics due running c name v hc hname =>
    obtain ⟨complete, declared, tabled, once, hrunning⟩ := hk
    exact (List.append_nil before).symm ▸ ⟨complete.set he v hc hname, declared,
      fun q hq => (Statics.contains_set _ _ _ _ _).trans (tabled q hq), once, hrunning⟩
  | make _ | made _ | write _ | work _ =>
    exact (List.append_nil before).symm ▸
      ⟨hk.complete, hk.declared, hk.tabled, hk.once, hk.running⟩

theorem becomes (h : Change env s e s') : s.memory.statics.Becomes e s'.memory.statics := by
  cases h with
  | @touch heap statics due running c hc =>
    intro owner table htable
    refine ⟨table, ?_, fun _ => .inl rfl⟩
    rw [Statics.table?_touch, htable]
    rfl
  | finish => exact Statics.becomes_set _ _ _ _ fun n hn => ⟨rfl, hn, rfl⟩
  | assign _ _ => exact Statics.becomes_set _ _ _ _ fun n hn => ⟨rfl, hn, rfl⟩
  | start | make _ | made _ | write _ | work _ => exact .refl _ _

end Change

/-- What a course keeps of the static fields (module doc). -/
theorem Course.keepsStatics {env : Env} {decls : List ClassDecl} (he : env.Registered decls)
    {s s' : Stage} {moments : List Moment} (h : Course env s moments s')
    {before : List PendingStatic} (hk : KeptStatics env.classes before s) :
    KeptStatics env.classes (before ++ started moments) s' := by
  induction h generalizing before with
  | done s => exact (List.append_nil before).symm ▸ hk
  | @next s s₁ s₂ e moments hc _ ih =>
    have hstarts : started (⟨e, s₁.memory⟩ :: moments) = e.starts?.toList ++ started moments := by
      unfold started
      rw [List.filterMap_cons]
      cases e.starts? <;> rfl
    rw [hstarts, ← List.append_assoc]
    exact ih (hc.keepsStatics he hk)

/-- **Static initialization happens at most once and is never lost.** Take registered classes and
entry methods that run one after the other on one machine, however each of them ends. No field has
an initializer started twice. At every moment the tables of the classes that have one hold an entry
for each static field and no others; a table stays, and a value of it changes only when the
initializer of the field, which has started before, is completed, or when the field is stored to.
What the entries leave is what the last moment left. -/
theorem static_fields_initialized_once {decls : List ClassDecl} {query : Option QueryService}
    {credentials : Credentials} {today : Date} {maxDepth : Nat} {env : Env}
    (henv : Env.make (Registration.registerAll .initial decls).table query credentials today
      maxDepth = .ok env) (sink : Sink) (entries : List (Nat × EntryPoint)) :
    let start := Machine.start sink
    let history := start.lifetime env entries
    ((started history).map PendingStatic.field).Nodup ∧
    (∀ p ∈ started history, p.Declared env.classes) ∧
    (∀ before μ after, history = before ++ μ :: after →
      μ.memory.statics.Complete env.classes ∧
      (start.memory.after before).statics.Becomes μ.event μ.memory.statics ∧
      ∀ p v, μ.event = .finish p v → p ∈ started before) ∧
    (start.afterEntries env entries).memory = start.memory.after history := by
  intro start history
  have he := Env.make_registered henv
  obtain ⟨s', course, memory⟩ := Machine.start_course he sink entries
  have hk : KeptStatics env.classes [] ⟨start.memory, [], []⟩ :=
    ⟨nofun, nofun, nofun, List.nodup_nil, nofun⟩
  -- the invariant holds of the start, so of every state that a part of the course leads to
  have last := course.keepsStatics he hk
  refine ⟨?_, fun p hp => ?_, fun before μ after hsplit => ?_, ?_⟩
  · have once := last.once
    rw [List.map_append, List.nodup_append] at once
    exact once.1
  · exact last.declared p (List.mem_append_left _ hp)
  · change start.lifetime env entries = _ at hsplit
    rw [hsplit] at course
    obtain ⟨s₁, s₂, hbefore, hchange, hmemory, -⟩ := course.split
    have hk₁ := hbefore.keepsStatics he hk
    have hk₂ := hchange.keepsStatics he hk₁
    rw [← hbefore.memory_after, ← hmemory]
    refine ⟨hk₂.complete, hchange.becomes, fun p v hevent => ?_⟩
    rw [hevent] at hchange
    cases hchange with
    | finish => exact hk₁.running p List.mem_cons_self
  · exact memory.symm.trans course.memory_after

/-- Two classes whose static fields are initialized with one another. -/
def mutualStatics : List ClassDecl :=
  let integer : TypeRef := ⟨⟨"Integer", .unknown⟩, [], .unknown⟩
  let other (cls field : String) : Expr :=
    .member (.name ⟨cls, .unknown⟩) ⟨field, .unknown⟩ .unknown
  let field (name : String) (init : Expr) : Member ClassDecl :=
    .field ⟨.union .pub .static, integer, ⟨name, .unknown⟩, some init, .unknown⟩
  [⟨.none, [], ⟨"A", .unknown⟩, none, [],
      [field "x" (other "B" "y"), .method ⟨.union .pub .static, some integer, ⟨"run", .unknown⟩, [],
        some [.ret (some (other "B" "y")) .unknown], .unknown⟩], .unknown⟩,
    ⟨.none, [], ⟨"B", .unknown⟩, none, [], [field "y" (other "A" "x")], .unknown⟩]

/-- The one initializer starts the other, which finds the first field still `null`; nothing starts
again in the second run. -/
theorem static_fields_initialized_once_mutual : ∃ env,
    Env.make (Registration.registerAll .initial mutualStatics).table none {} ⟨2024, 1, 1⟩ 16
      = .ok env ∧
    let history := (Machine.start {}).lifetime env [(20, ⟨"A", "run"⟩), (20, ⟨"A", "run"⟩)]
    ((started history).map PendingStatic.field).Nodup ∧
    (started history).map PendingStatic.field = [(["A"], ['x']), (["B"], ['y'])] := by
  obtain ⟨env, henv, hstarted⟩ : ∃ env,
      Env.make (Registration.registerAll .initial mutualStatics).table none {} ⟨2024, 1, 1⟩ 16
        = .ok env ∧
      (started ((Machine.start {}).lifetime env [(20, ⟨"A", "run"⟩), (20, ⟨"A", "run"⟩)])).map
        PendingStatic.field = [(["A"], ['x']), (["B"], ['y'])] :=
    ⟨_, rfl, by decide +kernel⟩
  exact ⟨env, henv, (static_fields_initialized_once henv {} _).1, hstarted⟩

end ClassScript
