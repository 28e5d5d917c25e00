import ClassScript.Proofs.Memory.StaticFields

/-!
# The order of static initializers

The first use of a class runs its static initializers and those of its superclasses, one after the
other, nearest class first and for each class in the order of its declarations
(`Statics.touch_due`). An initializer is completed before the next one starts, whatever it does
itself (`OneByOne`): the classes that it uses for the first time had no table, so what is
initialized meanwhile is none of what was due already (`Course.initializes_new`). Therefore all that
is due starts in its turn (`OneByOne.inTurn`).

So a class is initialized before its superclasses are, and an initializer finds the fields that it
inherits still `null` unless they were assigned.

Main statement: `static_initializers_nearest_first`.
-/

namespace ClassScript

/-- The event is the start or the completion of this initializer. -/
def Event.initializes? : Event → Option PendingStatic
  | .start p | .finish p _ => some p
  | _ => none

/-- The event completes the initializer. -/
def Event.Finishes (e : Event) (p : PendingStatic) : Prop := ∃ v, e = .finish p v

theorem Event.initializes?_of_starts {e : Event} {p : PendingStatic} (h : e.starts? = some p) :
    e.initializes? = some p := by
  cases e <;> cases h
  rfl

theorem mem_started {moments : List Moment} {p : PendingStatic} (h : p ∈ started moments) :
    ∃ μ ∈ moments, μ.event.initializes? = some p := by
  obtain ⟨μ, hμ, hp⟩ := List.mem_filterMap.1 h
  exact ⟨μ, hμ, Event.initializes?_of_starts hp⟩

/-! ## What becomes due -/

namespace Statics

/-- The classes of a chain that have no table, each where it stands first. -/
def untouched (s : Statics) (chain : List ClassInfo) : List ClassInfo :=
  (chain.filter fun c => !s.contains c.path).eraseDupsBy fun c d => c.path == d.path

/-- What becomes due are the initializers of the classes without a table, nearest class first. -/
theorem touch_due : ∀ (chain : List ClassInfo) (s : Statics),
    (s.touch chain).2 = (s.untouched chain).flatMap pending
  | [], _ => rfl
  | c :: cs, s => by
    unfold touch untouched
    split
    · rename_i hc
      rw [List.filter_cons_of_neg (by simp [hc])]
      exact touch_due cs s
    · rename_i hc
      have rest : ∀ d : ClassInfo,
          (!(⟨s.tables ++ [(c.path, nulls c)]⟩ : Statics).contains d.path) =
            ((d.path == c.path) = false && !s.contains d.path : Bool) := by
        intro d
        unfold contains table?
        rw [List.lookup_append, Option.isSome_or]
        by_cases hd : d.path == c.path <;> simp [List.lookup_cons, hd]
      rw [List.filter_cons_of_pos (by simp [hc]), List.eraseDupsBy_cons, List.filter_filter,
        List.flatMap_cons]
      refine congrArg (pending c ++ ·) ((touch_due cs _).trans ?_)
      unfold untouched
      rw [List.filter_congr fun d _ => rest d]

/-- Where a chain has no class twice and none with a table, all of it is untouched. -/
theorem untouched_eq_self {s : Statics} {chain : List ClassInfo}
    (hnew : ∀ c ∈ chain, s.contains c.path = false) (hnodup : (chain.map ClassInfo.path).Nodup) :
    s.untouched chain = chain := by
  unfold untouched
  rw [List.filter_eq_self.2 fun c hc => by rw [hnew c hc]; rfl]
  refine eraseDupsBy_of_pairwise ((List.pairwise_map.1 hnodup).imp fun hne => ?_)
  simpa using hne.symm

/-- Every field of a new table is `null`. -/
theorem get?_nulls {c : ClassInfo} {name : String} (h : c.staticFields.contains name = true) :
    (nulls c).get? name = some .null := by
  rw [NameTable.contains_eq_any, List.any_eq_true] at h
  exact NameTable.get?_foldl_insert (·) (fun _ => Value.null) _ (fun _ _ _ => rfl) (.inl h)

end Statics

/-! ## What happens while an initializer runs -/

/-- The stage has the tables of `old`, and what is due or runs is of classes without one there. -/
structure Stage.NewTo (old : Statics) (s : Stage) : Prop where
  tables : ∀ owner, old.contains owner = true → s.memory.statics.contains owner = true
  fresh : ∀ p ∈ s.due ++ s.running, ¬ old.contains p.owner = true

variable {env : Env}

theorem Change.keepsNew {s s' : Stage} {e : Event} {old : Statics} (h : Change env s e s')
    (hs : s.NewTo old) :
    s'.NewTo old ∧ ∀ p, e.initializes? = some p → ¬ old.contains p.owner = true := by
  obtain ⟨tables, fresh⟩ := hs
  have started : ∀ p : PendingStatic, ¬ old.contains p.owner = true →
      ∀ q, some p = some q → ¬ old.contains q.owner = true := fun p hp q h => by
    cases h
    exact hp
  have nothing : ∀ q : PendingStatic, none = some q → ¬ old.contains q.owner = true :=
    fun q h => by cases h
  cases h with
  | @touch heap statics due running c hc =>
    refine ⟨⟨fun owner ho => Statics.contains_touch _ (tables owner ho), fun p hp => ?_⟩, nothing⟩
    rw [List.append_assoc] at hp
    rcases List.mem_append.1 hp with hp | hp
    · -- what a touch makes due belongs to a class without a table, and so to none of `old`
      obtain ⟨d, -, hpd, hnone⟩ := Statics.mem_touch hp
      intro hold
      have htable := tables p.owner hold
      rw [Statics.owner_of_pending hpd, Statics.contains, hnone] at htable
      cases htable
    · exact fresh p hp
  | @start memory due running p =>
    have moved : (p :: due ++ running).Perm (due ++ p :: running) := List.perm_middle.symm
    exact ⟨⟨tables, fun q hq => fresh q (moved.mem_iff.2 hq)⟩,
      started p (fresh p List.mem_cons_self)⟩
  | @finish heap statics due running p v =>
    refine ⟨⟨fun owner ho => (Statics.contains_set _ _ _ _ _).trans (tables owner ho),
      fun q hq => fresh q ?_⟩, started p (fresh p (List.mem_append_right _ List.mem_cons_self))⟩
    exact List.perm_middle.mem_iff.2 (List.mem_cons_of_mem p hq)
  | assign _ _ =>
    exact ⟨⟨fun owner ho => (Statics.contains_set _ _ _ _ _).trans (tables owner ho), fresh⟩,
      nothing⟩
  | make _ | made _ | write _ | work _ => exact ⟨⟨tables, fresh⟩, nothing⟩

/-- What is initialized along a course is of classes that had no table. -/
theorem Course.initializes_new {s s' : Stage} {moments : List Moment} {old : Statics}
    (h : Course env s moments s') (hs : s.NewTo old) :
    ∀ μ ∈ moments, ∀ p, μ.event.initializes? = some p → ¬ old.contains p.owner = true := by
  induction h with
  | done s => exact nofun
  | next hc _ ih =>
    obtain ⟨hnew, hinit⟩ := hc.keepsNew hs
    intro μ hμ
    rcases List.mem_cons.1 hμ with rfl | hμ
    · exact hinit
    · exact ih hnew μ hμ

theorem Course.contains {s s' : Stage} {moments : List Moment} (h : Course env s moments s')
    {owner : List String} (ho : s.memory.statics.contains owner = true) :
    s'.memory.statics.contains owner = true := by
  induction h with
  | done s => exact ho
  | @next s s₁ s₂ e moments hc _ ih =>
    refine ih ?_
    obtain ⟨table, htable⟩ := Option.isSome_iff_exists.1 ho
    obtain ⟨table', htable', -⟩ := hc.becomes owner table htable
    exact Option.isSome_iff_exists.2 ⟨table', htable'⟩

/-- A static field keeps its value along a course on which nothing is stored to it. -/
theorem Course.get?_static {s s' : Stage} {moments : List Moment} (h : Course env s moments s')
    {owner : List String} {name : String} {v : Value}
    (hv : s.memory.statics.get? owner name = some v) :
    s'.memory.statics.get? owner name = some v ∨
      ∃ μ ∈ moments, ∃ w, μ.event.Stores owner name w := by
  induction h with
  | done s => exact .inl hv
  | @next s s₁ s₂ e moments hc _ ih =>
    unfold Statics.get? at hv
    split at hv
    · rename_i table htable
      obtain ⟨table', htable', hvalues⟩ := hc.becomes owner table htable
      rcases hvalues name with same | ⟨w, hstores, -⟩
      · refine (ih ?_).imp_right fun ⟨μ, hμ, hw⟩ => ⟨μ, List.mem_cons_of_mem _ hμ, hw⟩
        unfold Statics.get?
        rw [htable']
        exact same.trans hv
      · exact .inr ⟨_, List.mem_cons_self, w, hstores⟩
    · cases hv

/-! ## One after the other -/

/-- The initializer starts, and what is initialized while it runs is of classes without a table in
`old`. -/
def Initializing (old : Statics) (p : PendingStatic) (moments : List Moment) : Prop :=
  ∃ memory inner, moments = ⟨.start p, memory⟩ :: inner ∧
    ∀ μ ∈ inner, ∀ p', μ.event.initializes? = some p' → ¬ old.contains p'.owner = true

/-- The initializers run one after the other: each is completed before the next one starts, and if
one fails the others do not start. -/
inductive OneByOne (old : Statics) : List PendingStatic → List Moment → Prop
  | done : OneByOne old [] []
  | failed {p : PendingStatic} {ps : List PendingStatic} {moments : List Moment} :
      Initializing old p moments → OneByOne old (p :: ps) moments
  | next {p : PendingStatic} {ps : List PendingStatic} {moments rest : List Moment} {v : Value}
      {memory : Memory} : Initializing old p moments → OneByOne old ps rest →
      OneByOne old (p :: ps) (moments ++ ⟨.finish p v, memory⟩ :: rest)

/-- An initializer starts in its turn: those that are due before it are completed, and for those
that are due after it nothing has started. -/
def InTurn (due : List PendingStatic) (before : List Moment) (p : PendingStatic) : Prop :=
  ∃ nearer further, due = nearer ++ p :: further ∧
    (∀ q ∈ nearer, ∃ μ ∈ before, μ.event.Finishes q) ∧
    ∀ q ∈ further, ∀ μ ∈ before, ∀ p', μ.event.initializes? = some p' → p'.field ≠ q.field

theorem InTurn.first (p : PendingStatic) (ps : List PendingStatic) : InTurn (p :: ps) [] p :=
  ⟨[], ps, rfl, nofun, nofun⟩

/-- One more is due at first, and is completed before everything else. -/
theorem InTurn.later {p q : PendingStatic} {due : List PendingStatic}
    {earlier before : List Moment} (h : InTurn due before p)
    (finished : ∃ μ ∈ earlier, μ.event.Finishes q)
    (others : ∀ μ ∈ earlier, ∀ p', μ.event.initializes? = some p' → ∀ r ∈ due, p'.field ≠ r.field) :
    InTurn (q :: due) (earlier ++ before) p := by
  obtain ⟨nearer, further, rfl, hnearer, hfurther⟩ := h
  refine ⟨q :: nearer, further, rfl, fun r hr => ?_, fun r hr μ hμ p' hp' => ?_⟩
  · rcases List.mem_cons.1 hr with rfl | hr
    · obtain ⟨μ, hμ, hfin⟩ := finished
      exact ⟨μ, List.mem_append_left _ hμ, hfin⟩
    · obtain ⟨μ, hμ, hfin⟩ := hnearer r hr
      exact ⟨μ, List.mem_append_right _ hμ, hfin⟩
  · rcases List.mem_append.1 hμ with hμ | hμ
    · exact others μ hμ p' hp' r (List.mem_append_right _ (List.mem_cons_of_mem p hr))
    · exact hfurther r hr μ hμ p' hp'

section

variable {old : Statics} {p : PendingStatic} {due : List PendingStatic} {moments : List Moment}

theorem Initializing.initializes (h : Initializing old p moments) {μ : Moment} (hμ : μ ∈ moments)
    {p' : PendingStatic} (hp' : μ.event.initializes? = some p') :
    p' = p ∨ ¬ old.contains p'.owner = true := by
  obtain ⟨memory, inner, rfl, hinner⟩ := h
  rcases List.mem_cons.1 hμ with rfl | hμ
  · cases hp'
    exact .inl rfl
  · exact .inr (hinner μ hμ p' hp')

/-- An initializer of a class with a table is the one that is running or starts later. -/
theorem Initializing.split (h : Initializing old p moments) {rest before after : List Moment}
    {μ : Moment} {p' : PendingStatic} (hsplit : moments ++ rest = before ++ μ :: after)
    (hμ : μ.event = .start p') (hp' : old.contains p'.owner = true) :
    (before = [] ∧ p' = p) ∨ ∃ later, before = moments ++ later ∧ rest = later ++ μ :: after := by
  obtain ⟨memory, inner, rfl, hinner⟩ := h
  cases before with
  | nil =>
    cases (List.cons.inj hsplit).1
    cases hμ
    exact .inl ⟨rfl, rfl⟩
  | cons ν before =>
    obtain ⟨rfl, htail⟩ := List.cons.inj hsplit
    obtain ⟨later, rfl, hrest⟩ | ⟨later, rfl, hrest⟩ := List.append_eq_append_iff.1 htail
    · exact .inr ⟨later, rfl, hrest⟩
    · cases later with
      | nil => exact .inr ⟨[], by simp, hrest.symm⟩
      | cons κ later =>
        obtain ⟨rfl, -⟩ := List.cons.inj hrest
        exact absurd hp' (hinner μ (by simp) p' (by rw [hμ]; rfl))

theorem OneByOne.initializes (h : OneByOne old due moments) : ∀ μ ∈ moments, ∀ p,
    μ.event.initializes? = some p → p ∈ due ∨ ¬ old.contains p.owner = true := by
  induction h with
  | done => exact nofun
  | failed hrunning =>
    exact fun μ hμ p hp => (hrunning.initializes hμ hp).imp_left fun he => List.mem_cons.2 (.inl he)
  | next hrunning _ ih =>
    intro μ hμ p hp
    rcases List.mem_append.1 hμ with hμ | hμ
    · exact (hrunning.initializes hμ hp).imp_left fun he => List.mem_cons.2 (.inl he)
    · rcases List.mem_cons.1 hμ with rfl | hμ
      · cases hp
        exact .inl List.mem_cons_self
      · exact (ih μ hμ p hp).imp_left (List.mem_cons_of_mem _)

/-- Initializers of classes that have tables in `old`, each for another field, start in turn. -/
theorem OneByOne.inTurn (h : OneByOne old due moments)
    (tabled : ∀ p ∈ due, old.contains p.owner = true) (once : (due.map PendingStatic.field).Nodup)
    {before after : List Moment} {μ : Moment} (hsplit : moments = before ++ μ :: after)
    (hμ : μ.event = .start p) (hp : p ∈ due) : InTurn due before p := by
  induction h generalizing before with
  | done => cases hp
  | failed hrunning =>
    obtain ⟨rfl, rfl⟩ | ⟨later, -, hlater⟩ :=
      hrunning.split ((List.append_nil _).trans hsplit) hμ (tabled p hp)
    · exact .first p _
    · exact absurd hlater.symm (by simp)
  | @next p₀ ps running rest v memory hrunning hrest ih =>
    obtain ⟨hp₀, once'⟩ := List.nodup_cons.1 once
    have tabled' := fun q hq => tabled q (List.mem_cons_of_mem p₀ hq)
    obtain ⟨rfl, rfl⟩ | ⟨later, rfl, hlater⟩ := hrunning.split hsplit hμ (tabled p hp)
    · exact .first p ps
    · cases later with
      | nil =>
        cases (List.cons.inj hlater).1
        cases hμ
      | cons κ later =>
        obtain ⟨rfl, rfl⟩ := List.cons.inj hlater
        -- the first one does not start again: it is not due any more, and its class has a table
        have hps : p ∈ ps := (hrest.initializes μ (by simp) p (by rw [hμ]; rfl)).resolve_right
          fun fresh => fresh (tabled p hp)
        have finished : ∃ κ ∈ running ++ [⟨.finish p₀ v, memory⟩], κ.event.Finishes p₀ :=
          ⟨_, List.mem_append_right _ List.mem_cons_self, v, rfl⟩
        rw [List.append_cons]
        refine (ih tabled' once' rfl hps).later finished fun κ hκ p' hp' r hr hfield => ?_
        have own : p' = p₀ ∨ ¬ old.contains p'.owner = true := by
          rcases List.mem_append.1 hκ with hκ | hκ
          · exact hrunning.initializes hκ hp'
          · rw [List.mem_singleton.1 hκ] at hp'
            cases hp'
            exact .inl rfl
        rcases own with rfl | fresh
        · exact hp₀ (hfield ▸ List.mem_map_of_mem hr)
        · refine fresh ?_
          rw [show p'.owner = r.owner from (Prod.mk.inj hfield).1]
          exact tabled' r hr

end

namespace Histories

variable {calls : Calls} (hist : Histories calls)

/-- The first initializer runs, and the others once it is completed. -/
theorem initStatics_cons (p : PendingStatic) (ps : List PendingStatic) (m : Machine) :
    (∃ v m₁, calls.eval p.init m = .ok v m₁ ∧
      let m₂ : Machine := { m₁ with statics := m₁.statics.set p.owner p.name v }
      calls.initStatics (p :: ps) m = calls.initStatics ps m₂ ∧
      (hist.initStatics (p :: ps)).moments m = ⟨.start p, m.memory⟩ ::
        ((hist.eval p.init).moments m ++ ⟨.finish p v, m₂.memory⟩ ::
          (hist.initStatics ps).moments m₂)) ∨
    ∃ r m₁, calls.eval p.init m = .error r m₁ ∧ calls.initStatics (p :: ps) m = .error r m₁ ∧
      (hist.initStatics (p :: ps)).moments m = ⟨.start p, m.memory⟩ ::
        (hist.eval p.init).moments m := by
  have run : calls.initStatics (p :: ps) m = _ := Run.bind_eq
  cases hx : calls.eval p.init m with
  | ok v m₁ =>
    rw [hx] at run
    refine .inl ⟨v, m₁, rfl, run, ?_⟩
    simp only [initStatics, History.bind, History.note, History.mark, hx]
    rfl
  | error r m₁ =>
    rw [hx] at run
    refine .inr ⟨r, m₁, rfl, run, ?_⟩
    simp only [initStatics, History.bind, History.note, hx, List.append_nil]

variable {hist} in
/-- The history of initializers that run in any state. -/
theorem initStatics_oneByOne (h : hist.Charted env) {old : Statics} :
    ∀ (ps : List PendingStatic) {m : Machine}, m.Placed env.classes →
      (∀ owner, old.contains owner = true → m.statics.contains owner = true) →
      OneByOne old ps ((hist.initStatics ps).moments m)
  | [], _, _, _ => .done
  | p :: ps, m, hm, tables => by
    obtain ⟨s', course, ends⟩ := h.eval p.init m hm [] []
    have newTo : Stage.NewTo old ⟨m.memory, [], []⟩ := ⟨tables, nofun⟩
    have inner := course.initializes_new newTo
    obtain ⟨v, m₁, hx, -, hmoments⟩ | ⟨r, m₁, -, -, hmoments⟩ := initStatics_cons hist p ps m
    · rw [hmoments]
      unfold Run.Ends at ends
      rw [hx] at ends
      obtain ⟨hm₁, rfl, -⟩ := ends
      rw [← List.cons_append]
      refine .next ⟨_, _, rfl, inner⟩ (initStatics_oneByOne h ps ⟨hm₁.frames, hm₁.heap⟩ ?_)
      exact fun owner ho => (Statics.contains_set _ _ _ _ _).trans (course.contains (tables owner ho))
    · rw [hmoments]
      exact .failed ⟨_, _, rfl, inner⟩

/-- If the run of the initializers succeeds, each of them is completed. -/
theorem initStatics_completes : ∀ (ps : List PendingStatic) {m m' : Machine} {u : Unit},
    calls.initStatics ps m = .ok u m' →
      ∀ p ∈ ps, ∃ μ ∈ (hist.initStatics ps).moments m, μ.event.Finishes p
  | p :: ps, m, m', u, hrun, q, hq => by
    obtain ⟨v, m₁, -, hrest, hmoments⟩ | ⟨r, m₁, -, herror, -⟩ :=
      initStatics_cons hist p ps m
    · rw [hmoments]
      rcases List.mem_cons.1 hq with rfl | hq
      · exact ⟨_, List.mem_cons_of_mem _ (List.mem_append_right _ List.mem_cons_self), v, rfl⟩
      · obtain ⟨μ, hμ, hfin⟩ := initStatics_completes ps (hrest ▸ hrun) q hq
        exact ⟨μ, by simp [hμ], hfin⟩
    · rw [herror] at hrun
      cases hrun

/-- The chain is touched, and then the initializers that are due run in a frame of their own. -/
theorem ensureStatics_moments (env : Env) (c : ClassInfo) (m : Machine) :
    ∃ m₁, m₁.memory = ⟨m.world.heap, (m.statics.touch (c.chain env.classes)).1⟩ ∧
      m₁.frames = Frame.make c none :: m.frames ∧
      (hist.ensureStatics env c).moments m = ⟨.touch c, m₁.memory⟩ ::
        (hist.initStatics (m.statics.touch (c.chain env.classes)).2).moments m₁ ∧
      ∀ u m', calls.ensureStatics env c m = .ok u m' → ∃ m₂,
        calls.initStatics (m.statics.touch (c.chain env.classes)).2 m₁ = .ok () m₂ := by
  obtain ⟨⟨heap, sink, log⟩, frames, statics⟩ := m
  let m₁ : Machine := ⟨⟨heap, sink, log.push (.staticsInitializing c.name)⟩,
    Frame.make c none :: frames, (statics.touch (c.chain env.classes)).1⟩
  refine ⟨m₁, rfl, rfl, ?_, fun u m' hrun => ?_⟩
  · unfold ensureStatics History.bind History.mark
    dsimp only [Run.touchStatics]
    split
    · rename_i hempty
      -- nothing is due: no frame is entered
      have none : (hist.initStatics (statics.touch (c.chain env.classes)).2).moments m₁ = [] := by
        rw [List.isEmpty_iff.1 hempty]
        rfl
      rw [none]
      rfl
    · rfl
  · cases hx : calls.initStatics (statics.touch (c.chain env.classes)).2 m₁ with
    | ok v m₂ => exact ⟨m₂, rfl⟩
    | error r m₂ =>
      have hpending : ¬ (statics.touch (c.chain env.classes)).2.isEmpty = true := by
        intro hempty
        rw [List.isEmpty_iff.1 hempty] at hx
        cases hx
      unfold Calls.ensureStatics at hrun
      rw [Run.bind_eq] at hrun
      dsimp only [Run.touchStatics] at hrun
      rw [if_neg hpending] at hrun
      change Run.ending (calls.initStatics _) Run.popFrame m₁ = _ at hrun
      unfold Run.ending at hrun
      rw [hx] at hrun
      cases hrun

end Histories

/-! ## The order of static initializers -/

/-- A static field whose initializer is yet to start has its value until it is assigned. -/
theorem Course.get?_until_started {s s' : Stage} {moments : List Moment}
    (h : Course env s moments s') {q : PendingStatic} {v : Value}
    (hv : s.memory.statics.get? q.owner q.name = some v)
    (hq : ∀ μ ∈ moments, ∀ p, μ.event.initializes? = some p → p.field ≠ q.field) :
    s'.memory.statics.get? q.owner q.name = some v ∨ ∃ μ ∈ moments, ∃ name w,
      μ.event = .assign q.owner name w ∧ sameName name q.name = true := by
  refine (h.get?_static hv).imp_right fun ⟨μ, hμ, w, hstores⟩ => ⟨μ, hμ, ?_⟩
  have other := hq μ hμ
  cases hevent : μ.event with
  | assign owner name w' =>
    rw [hevent] at hstores
    obtain ⟨rfl, hname, rfl⟩ := hstores
    exact ⟨name, _, rfl, hname⟩
  | finish p w' =>
    rw [hevent] at hstores other
    obtain ⟨howner, hname, -⟩ := hstores
    exact absurd (Prod.ext howner (sameName_iff.1 hname)) (other p rfl)
  | touch _ | start _ | make _ | made _ | write _ _ | work =>
    rw [hevent] at hstores
    cases hstores

/-- The course up to the start of an initializer, which changes nothing. -/
theorem Course.split_start {s s' : Stage} {before after : List Moment} {μ : Moment}
    {p : PendingStatic} (h : Course env s (before ++ μ :: after) s') (hμ : μ.event = .start p) :
    ∃ s₁, Course env s before s₁ ∧ s₁.memory = μ.memory := by
  obtain ⟨s₁, s₂, hbefore, hchange, hmemory, -⟩ := h.split
  rw [hμ] at hchange
  cases hchange
  exact ⟨_, hbefore, hmemory⟩

/-- What is due starts in turn, and a field whose turn is yet to come keeps its value unless it is
assigned. -/
theorem Histories.initStatics_inTurn {calls : Calls} {hist : Histories calls}
    (h : hist.Charted env) {due : List PendingStatic} {m : Machine} (hm : m.Placed env.classes)
    (tabled : ∀ p ∈ due, m.statics.contains p.owner = true)
    (once : (due.map PendingStatic.field).Nodup) {before after : List Moment} {μ : Moment}
    {p : PendingStatic} (hsplit : (hist.initStatics due).moments m = before ++ μ :: after)
    (hμ : μ.event = .start p) (hp : p ∈ due) :
    ∃ nearer further, due = nearer ++ p :: further ∧
      (∀ q ∈ nearer, ∃ ν ∈ before, ν.event.Finishes q) ∧
      ∀ q ∈ further, q ∉ started before ∧
        ∀ v, m.statics.get? q.owner q.name = some v →
          μ.memory.statics.get? q.owner q.name = some v ∨ ∃ ν ∈ before, ∃ name w,
            ν.event = .assign q.owner name w ∧ sameName name q.name = true := by
  have order := initStatics_oneByOne h due hm fun _ ho => ho
  obtain ⟨nearer, further, hdue, hnearer, hfurther⟩ := order.inTurn tabled once hsplit hμ hp
  refine ⟨nearer, further, hdue, hnearer, fun q hq => ⟨fun hstarted => ?_, fun v hv => ?_⟩⟩
  · obtain ⟨ν, hν, hinit⟩ := mem_started hstarted
    exact hfurther q hq ν hν q hinit rfl
  · obtain ⟨s', course, -⟩ := initStatics_leads h due hm [] []
    rw [hsplit] at course
    obtain ⟨s₁, hbefore, hmemory⟩ := course.split_start hμ
    rw [← hmemory]
    exact hbefore.get?_until_started hv (hfurther q hq)

/-- The field of an initializer that becomes due is `null`. -/
theorem Statics.get?_touch {decls : List ClassDecl} (he : env.Registered decls) {s : Statics}
    {c : ClassInfo} (hc : env.classes.Has c) {p : PendingStatic}
    (hp : p ∈ (s.touch (c.chain env.classes)).2) :
    (s.touch (c.chain env.classes)).1.get? p.owner p.name = some .null := by
  obtain ⟨d, hd, hpd, hnone⟩ := mem_touch hp
  have howner := owner_of_pending hpd
  have htable : (s.touch (c.chain env.classes)).1.table? p.owner = some (nulls d) := by
    have found : ((c.chain env.classes).find? fun e => e.path == d.path).isSome = true :=
      List.find?_isSome.2 ⟨d, hd, beq_self_eq_true d.path⟩
    obtain ⟨e, hfind⟩ := Option.isSome_iff_exists.1 found
    obtain rfl := he.find?_path hc (hc.of_chain hd) hfind
    rw [table?_touch, howner, hnone, hfind]
    rfl
  obtain ⟨⟨name, f⟩, hmem, hpending⟩ := List.mem_filterMap.1 hpd
  obtain ⟨e, -, rfl⟩ := Option.map_eq_some_iff.1 hpending
  unfold get?
  rw [htable]
  exact get?_nulls (NameTable.contains_of_mem (List.mem_map_of_mem hmem))

/-- **Static initializers run nearest class first.** Take registered classes, one of them, and any
state of a run, and let the class be used. What is due are the initializers of the classes of its
chain that have no table, nearest class first and in the order of the declarations. When one of them
starts, those before it are completed; those after it have not started, and their fields are still
`null` unless they were assigned. If the use succeeds, all of them are completed. Where none of the
chain had a table and no class comes twice, all of the chain is due. -/
theorem static_initializers_nearest_first {decls : List ClassDecl} {query : Option QueryService}
    {credentials : Credentials} {today : Date} {maxDepth : Nat} {env : Env}
    (henv : Env.make (Registration.registerAll .initial decls).table query credentials today
      maxDepth = .ok env) (fuel : Nat) {c : ClassInfo} (hc : env.classes.Has c) {m : Machine}
    (hm : m.Placed env.classes) :
    let chain := c.chain env.classes
    let due := (m.statics.untouched chain).flatMap Statics.pending
    let history := ((Calls.histories env fuel).ensureStatics env c).moments m
    (∀ before μ after p, history = before ++ μ :: after → μ.event = .start p → p ∈ due →
      ∃ nearer further, due = nearer ++ p :: further ∧
        (∀ q ∈ nearer, ∃ ν ∈ before, ν.event.Finishes q) ∧
        ∀ q ∈ further, q ∉ started before ∧
          (μ.memory.statics.get? q.owner q.name = some .null ∨ ∃ ν ∈ before, ∃ name v,
            ν.event = .assign q.owner name v ∧ sameName name q.name = true)) ∧
    (∀ m', (Calls.withFuel env fuel).ensureStatics env c m = .ok () m' →
      ∀ p ∈ due, ∃ μ ∈ history, μ.event.Finishes p) ∧
    ((∀ d ∈ chain, m.statics.contains d.path = false) → (chain.map ClassInfo.path).Nodup →
      due = chain.flatMap Statics.pending) := by
  intro chain due history
  have he := Env.make_registered henv
  have charted := Calls.histories_charted he fuel
  have hdue : (m.statics.touch chain).2 = due := Statics.touch_due chain m.statics
  obtain ⟨m₁, memory, frames, hmoments, completes⟩ :=
    (Calls.histories env fuel).ensureStatics_moments env c m
  have hhistory : history =
      ⟨.touch c, m₁.memory⟩ :: ((Calls.histories env fuel).initStatics _).moments m₁ := hmoments
  have hstatics : m₁.statics = (m.statics.touch chain).1 := congrArg Memory.statics memory
  have heap : m₁.world.heap = m.world.heap := congrArg Memory.heap memory
  have hm₁ : m₁.Placed env.classes :=
    ⟨frames ▸ (hm.enter hc none).frames, heap ▸ hm.heap⟩
  have tabled : ∀ q ∈ (m.statics.touch chain).2, m₁.statics.contains q.owner = true := by
    rw [hstatics]
    exact fun q hq => Statics.contains_of_due hq
  refine ⟨fun before μ after p hsplit hμ hp => ?_, fun m' hrun p hp => ?_, fun hnew hnodup => ?_⟩
  · rw [hhistory] at hsplit
    rw [← hdue] at hp ⊢
    -- the touch comes first; what starts is one of the initializers that it made due
    cases before with
    | nil =>
      cases (List.cons.inj hsplit).1
      cases hμ
    | cons ν before =>
      obtain ⟨rfl, htail⟩ := List.cons.inj hsplit
      obtain ⟨nearer, further, hparts, hnearer, hfurther⟩ := Histories.initStatics_inTurn charted
        hm₁ tabled (Statics.touch_nodup _ m.statics) htail hμ hp
      refine ⟨nearer, further, hparts, fun q hq => ?_, fun q hq => ⟨(hfurther q hq).1, ?_⟩⟩
      · obtain ⟨κ, hκ, hfinishes⟩ := hnearer q hq
        exact ⟨κ, List.mem_cons_of_mem _ hκ, hfinishes⟩
      · have null : m₁.statics.get? q.owner q.name = some .null := by
          rw [hstatics]
          refine Statics.get?_touch he hc ?_
          rw [hparts]
          exact List.mem_append_right _ (List.mem_cons_of_mem p hq)
        refine ((hfurther q hq).2 _ null).imp_right ?_
        rintro ⟨κ, hκ, hassign⟩
        exact ⟨κ, List.mem_cons_of_mem _ hκ, hassign⟩
  · obtain ⟨m₂, hrun⟩ := completes () m' hrun
    rw [← hdue] at hp
    obtain ⟨κ, hκ, hfinishes⟩ := (Calls.histories env fuel).initStatics_completes _ hrun p hp
    exact ⟨κ, hhistory ▸ List.mem_cons_of_mem _ hκ, hfinishes⟩
  · show (m.statics.untouched chain).flatMap _ = _
    rw [Statics.untouched_eq_self hnew hnodup]

/-- A static field that is initialized with one that is inherited. -/
def inheritedStatic : List ClassDecl :=
  let ref (name : String) : TypeRef := ⟨⟨name, .unknown⟩, [], .unknown⟩
  let field (name : String) (init : Expr) : Member ClassDecl :=
    .field ⟨.union .pub .static, ref "Integer", ⟨name, .unknown⟩, some init, .unknown⟩
  [⟨.none, [], ⟨"Base", .unknown⟩, none, [], [field "x" (.literal (.integer 1) .unknown)],
      .unknown⟩,
    ⟨.none, [], ⟨"Derived", .unknown⟩, some (ref "Base"), [],
      [field "y" (.name ⟨"x", .unknown⟩)], .unknown⟩,
    ⟨.none, [], ⟨"Main", .unknown⟩, none, [],
      [.method ⟨.union .pub .static, some (ref "Integer"), ⟨"action", .unknown⟩, [],
        some [.ret (some (.member (.name ⟨"Derived", .unknown⟩) ⟨"y", .unknown⟩ .unknown))
          .unknown], .unknown⟩], .unknown⟩]

/-- The use of the class makes both initializers due, and starts the one of the superclass. -/
theorem inheritedStatic_runs : ∃ env c before μ after p q,
    Env.make (Registration.registerAll .initial inheritedStatic).table none {} ⟨2024, 1, 1⟩ 16
      = .ok env ∧
    env.classes.resolve? "Derived" = some c ∧
    ((Machine.start {}).statics.untouched (c.chain env.classes)).flatMap Statics.pending = [q, p] ∧
    q.field = (["Derived"], ['y']) ∧ p.field = (["Base"], ['x']) ∧
    ((Calls.histories env 20).ensureStatics env c).moments (.start {}) = before ++ μ :: after ∧
    μ.event = .start p :=
  ⟨_, _, [_, _, _, _], _, _, _, _, rfl, rfl, rfl, rfl, rfl, rfl, rfl⟩

/-- The initializer of the superclass starts once the other one is completed. -/
theorem static_initializers_nearest_first_derived : ∃ env c before μ after p q,
    Env.make (Registration.registerAll .initial inheritedStatic).table none {} ⟨2024, 1, 1⟩ 16
      = .ok env ∧
    env.classes.resolve? "Derived" = some c ∧
    ((Calls.histories env 20).ensureStatics env c).moments (.start {}) = before ++ μ :: after ∧
    μ.event = .start p ∧ p.field = (["Base"], ['x']) ∧
    q.field = (["Derived"], ['y']) ∧ ∃ ν ∈ before, ν.event.Finishes q := by
  obtain ⟨env, c, before, μ, after, p, q, henv, hc, hdue, hq, hp, hsplit, hμ⟩ :=
    inheritedStatic_runs
  have placed : (Machine.start {}).Placed env.classes := ⟨nofun, nofun⟩
  obtain ⟨order, -, -⟩ :=
    static_initializers_nearest_first henv 20 (ClassTable.Has.of_resolve? hc) placed
  rw [hdue] at order
  obtain ⟨nearer, further, hparts, hnearer, -⟩ :=
    order before μ after p hsplit hμ (List.mem_cons_of_mem q List.mem_cons_self)
  refine ⟨env, c, before, μ, after, p, q, henv, hc, hsplit, hμ, hp, hq, hnearer q ?_⟩
  cases nearer with
  | nil =>
    rw [(List.cons.inj hparts).1, hp] at hq
    exact absurd hq (by decide)
  | cons r nearer =>
    rw [(List.cons.inj hparts).1]
    exact List.mem_cons_self

/-- **A derived class may read an inherited static field too early.** A static field that is
initialized with an inherited one is `null` for good, although the use of its class initializes that
one, too. -/
theorem inherited_static_read_early : ∃ env,
    Env.make (Registration.registerAll .initial inheritedStatic).table none {} ⟨2024, 1, 1⟩ 16
      = .ok env ∧
    (started ((Machine.start {}).lifetime env [(20, ⟨"Main", "action"⟩)])).map
      PendingStatic.field = [(["Derived"], ['y']), (["Base"], ['x'])] ∧
    ∃ m id, Machine.runEntry env 20 "Main" "action" (.start {}) = .ok (some .null) m ∧
      m.statics.get? ["Base"] "x" = some (.object id) ∧
      m.statics.get? ["Derived"] "y" = some .null :=
  ⟨_, rfl, by decide +kernel, _, _, rfl, rfl, rfl⟩

end ClassScript
