import ClassScript.Proofs.Arithmetic.Integers
import ClassScript.Proofs.Collections.Keys
import ClassScript.Proofs.Memory.InitializationOrder

/-!
# Steps there and back

`++` and `--` read the place of their target, and store there the number that is one more or one
less. Reading may run the initializers of a static field; then they have run, and reading a second
time changes nothing (`Calls.load_again`). Where a number was read, one can be stored
(`Calls.store_after_load`), and it is read back since places obey get-put. So a step always succeeds
(`Calls.evalStep_holds`), and a step back restores the number, at the limits too, where both wrap.

Main statement: `integer_arithmetic_exact`, for steps and for the operators.
-/

namespace ClassScript

/-- `++` and `--` in front of a target or behind it. -/
def Expr.step (behind up : Bool) (target : Expr) (span : Span) : Expr :=
  match behind, up with
  | false, true => .unary .inc target span
  | false, false => .unary .dec target span
  | true, true => .post .inc target span
  | true, false => .post .dec target span

/-- An Integer stays what it is when a location is set. -/
theorem Machine.Sets.integer? {m m' : Machine} {l : Location} {v : Value} (h : m.Sets l v m')
    (u : Value) : m'.world.heap.integer? u = m.world.heap.integer? u := by
  have of_blank : ∀ (h : Heap) (u : Value),
      (⟨h.objects.map Object.blank⟩ : Heap).integer? u = h.integer? u := by
    intro h u
    cases u with
    | null => rfl
    | object id =>
      simp only [Heap.integer?, Heap.payload?, Heap.get_map_blank]
      cases hp : (h.get id).payload <;> simp [Object.blank, hp, Payload.blank]
  rw [← of_blank, ← of_blank m.world.heap]
  exact congrArg (fun b : Machine => b.world.heap.integer? u) h.rest

namespace Heap

variable {h : Heap} {id : ObjectId} (o : Object)

theorem list_alloc {items : Array Value} (hl : h.list id = .ok items) :
    (h.alloc o).2.list id = .ok items := by
  have hp := list_eq_ok.1 hl
  rw [list_eq_ok, get_alloc_of_lt h o (lt_of_payload (by simp [hp])), hp]

theorem map_alloc {entries : List MapEntry} (hl : h.map id = .ok entries) :
    (h.alloc o).2.map id = .ok entries := by
  have hp := map_eq_ok.1 hl
  rw [map_eq_ok, get_alloc_of_lt h o (lt_of_payload (by simp [hp])), hp]

end Heap

/-- A place that is ready is ready when there is one more object. -/
theorem Place.Ready.alloc {t : ClassTable} {m : Machine} {p : Place} (hp : p.Ready t m)
    (o : Object) : p.Ready t (m.withHeap (m.world.heap.alloc o).2) := by
  cases p with
  | var name => exact hp
  | field id name =>
    show id < (m.world.heap.alloc o).2.objects.size
    rw [Heap.size_alloc]
    exact Nat.lt_succ_of_lt hp
  | static c name => exact hp
  | slot id i span =>
    obtain ⟨items, hl, hi⟩ := hp
    exact ⟨items, Heap.list_alloc o hl, hi⟩
  | entry id key =>
    obtain ⟨entries, hl⟩ := hp
    exact ⟨entries, Heap.map_alloc o hl⟩

namespace Histories

variable {env : Env} {calls : Calls} {hist : Histories calls}

/-- When static fields are there, the chain of their class has been touched. -/
theorem contains_of_ensureStatics (h : hist.Charted env) {c d : ClassInfo}
    (hc : env.classes.Has c) {m m' : Machine} (hm : m.Placed env.classes)
    (hrun : calls.ensureStatics env c m = .ok () m') (hd : d ∈ c.chain env.classes) :
    m'.statics.contains d.path = true := by
  obtain ⟨s', course, ends⟩ := ensureStatics_charts h hc m hm [] []
  obtain ⟨m₁, hmemory, -, hmoments, -⟩ := hist.ensureStatics_moments env c m
  obtain ⟨-, rfl, -⟩ := ends.ok hrun
  rw [hmoments, ← List.nil_append (_ :: _)] at course
  obtain ⟨s₁, s₂, -, -, hs, rest⟩ := course.split
  refine rest.contains ?_
  rw [hs, hmemory]
  exact Statics.contains_touch_of_mem hd

end Histories

/-! ## Reading a place -/

namespace Calls

variable {env : Env} {calls : Calls} {p : Place} {m m' : Machine} {u : Value}

/-- Only a static field may have initializers that run when it is read. -/
theorem load_reads (hp : ∀ c name, p ≠ .static c name) : (calls.load env p).Reads := by
  cases p with
  | static c name => exact absurd rfl (hp c name)
  | var name =>
    refine .bind .frame fun f => ?_
    split
    · exact .pure _
    · exact .fault _
  | field id name => exact .bind .heap fun _ => .pure _
  | slot id i span => exact .bind .heap fun _ => .bind (.ofNative _) fun _ => .pure _
  | entry id key =>
    exact .bind .heap fun _ => .bind (.ofNative _) fun _ => .bind (.ofNative _) fun _ => .pure _

/-- A static field that has a value has it where its class and the classes above are touched. -/
theorem load_static_again {hist : Histories calls} (h : hist.Charted env) {c : ClassInfo}
    {name : String} (hc : env.classes.Has c) (hm : m.Placed env.classes) (hu : u ≠ .null)
    (hload : calls.load env (.static c name) m = .ok u m') :
    calls.load env (.static c name) m' = .ok u m' ∧
      (Place.static c name).Initialized env.classes m' := by
  change (calls.readStatic env c name >>= fun v => pure (v.getD .null)) m = _ at hload
  unfold readStatic at hload
  cases hf : c.staticField? env.classes name with
  | none =>
    rw [hf] at hload
    cases hload
    exact absurd rfl hu
  | some found =>
    obtain ⟨owner, f⟩ := found
    rw [hf] at hload
    dsimp only at hload
    rw [bind_assoc, Run.bind_eq] at hload
    cases hens : calls.ensureStatics env c m with
    | error r m₁ =>
      rw [hens] at hload
      cases hload
    | ok _ m₁ =>
      rw [hens] at hload
      -- a chain that has tables is left as it is by the next touch
      have touched : ∀ d ∈ c.chain env.classes, m₁.statics.contains d.path = true :=
        fun d hd => Histories.contains_of_ensureStatics h hc hm hens hd
      obtain ⟨hvalue, rfl⟩ : (m₁.statics.get? owner.path name).getD .null = u ∧ m₁ = m' := by
        cases hload
        exact ⟨rfl, rfl⟩
      cases hv : m₁.statics.get? owner.path name with
      | none =>
        rw [hv] at hvalue
        exact absurd hvalue.symm hu
      | some v =>
        rw [hv] at hvalue
        obtain rfl : v = u := hvalue
        exact ⟨load_static hf touched hv, touched⟩

/-- Reading a place a second time gives the same value and changes nothing. -/
theorem load_again {hist : Histories calls} (h : hist.Charted env) (hm : m.Placed env.classes)
    (hp : p.Stands env.classes m.world.heap) (hu : u ≠ .null)
    (hload : calls.load env p m = .ok u m') :
    calls.load env p m' = .ok u m' ∧ p.Initialized env.classes m' ∧
      (p.Ready env.classes m → p.Ready env.classes m') := by
  cases p with
  | static c name =>
    obtain ⟨again, touched⟩ := load_static_again h hp hm hu hload
    exact ⟨again, touched, id⟩
  | var _ | field _ _ | slot _ _ _ | entry _ _ =>
    obtain rfl := ((load_reads (by simp)).ends m).ok hload
    exact ⟨hload, trivial, id⟩

/-! ## A step -/

/-- Reading the place gives the Integer. -/
def Holds (env : Env) (calls : Calls) (p : Place) (a : Int64) (m : Machine) : Prop :=
  (calls.load env p).GivesInteger a m

theorem mapKey_of_load_entry {id : ObjectId} {key : Value}
    (hload : calls.load env (.entry id key) m = .ok u m') :
    ∃ k, m.world.heap.mapKey key = .ok k := by
  change (Run.heap >>= _) m = _ at hload
  rw [Run.heap_bind] at hload
  cases hk : m.world.heap.mapKey key with
  | ok k => exact ⟨k, rfl⟩
  | error e =>
    rw [hk] at hload
    cases hload

/-- A value can be stored where one was read, also when there is one more object. -/
theorem store_after_load (o : Object) (v : Value) (hload : calls.load env p m = .ok u m)
    (ready : p.Ready env.classes m) (touched : p.Initialized env.classes m) :
    ∃ m', calls.store env v p (m.withHeap (m.world.heap.alloc o).2) = .ok () m' := by
  rcases store_ready v (ready.alloc o) touched with stored | ⟨id, key, e, rfl, hk⟩
  · exact stored
  · obtain ⟨k, hk'⟩ := mapKey_of_load_entry hload
    have kept := Heap.keepsKeys_alloc m.world.heap o key k hk'
    exact absurd (kept.symm.trans hk) nofun

/-- A step of a target makes the number that its place holds one more or one less. -/
theorem evalStep_holds {hist : Histories calls} (h : hist.Charted env) {target : Expr} {a : Int64}
    {m₁ : Machine} (hm : m.Placed env.classes) (hp : calls.place env target m = .ok p m₁)
    (ha : calls.Holds env p a m₁) (up : Bool) (span : Span) :
    ∃ r m', calls.evalStep env target up span m = .ok r m' ∧
      calls.Holds env p (a + if up then 1 else -1) m' := by
  obtain ⟨s', -, ends⟩ := Histories.place_charted hm h target [] []
  obtain ⟨placed, -, stands⟩ := ends.ok hp
  obtain ⟨u, m₂, hload, hu⟩ := ha
  have hnull : u ≠ .null := by
    rintro rfl
    cases hu
  obtain ⟨again, touched, ready⟩ := load_again h placed stands hnull hload
  have ready₂ := ready ((place_ready target m).ok hp)
  obtain ⟨o, ho, hnew⟩ : ∃ o : Object, _ ∧ constant env (.integer (a + if up then 1 else -1)) m₂ =
    _ := constant_integer _ m₂
  obtain ⟨m₄, hstore⟩ := store_after_load o (.object m₂.world.heap.objects.size) again ready₂ touched
  obtain ⟨hback, l, -, sets⟩ :=
    (stores_of_found _ ((ready₂.alloc o).found (Nat.le_refl _)) touched).ok hstore
  refine ⟨(u, .object m₂.world.heap.objects.size), m₄, ?_, ⟨_, m₄, hback, ?_⟩⟩
  · unfold evalStep
    have hstep : Run.ofExcept (Operator.step m₂.world.heap u up span) m₂ =
        .ok (.integer (a + if up then 1 else -1)) m₂ := by
      rw [Operator.step_integer hu]
      rfl
    rw [Run.bind_ok hp, Run.bind_ok hload, Run.heap_bind, Run.bind_ok hstep, Run.bind_ok hnew,
      Run.bind_ok hstore]
    rfl
  · rw [sets.integer?]
    exact Heap.integer?_alloc ho

theorem stepEval_step {hist : Histories calls} (h : hist.Charted env) {target : Expr} {a : Int64}
    {m₁ : Machine} (hm : m.Placed env.classes) (hp : calls.place env target m = .ok p m₁)
    (ha : calls.Holds env p a m₁) (behind up : Bool) (span : Span) :
    ∃ v m', calls.stepEval env (.step behind up target span) m = .ok v m' ∧
      calls.Holds env p (a + if up then 1 else -1) m' := by
  obtain ⟨r, m', hrun, hholds⟩ := evalStep_holds h hm hp ha up span
  refine ⟨if behind then r.1 else r.2, m', ?_, hholds⟩
  cases behind <;> cases up <;> exact Run.bind_ok hrun

/-- A step one way and a step back, before or behind the target, leave the place what it was. -/
theorem steps_restore {hist : Histories calls} (h : hist.Charted env)
    {decls : List ClassDecl} (he : env.Registered decls) {target target' : Expr} {a : Int64}
    {m₁ : Machine} (hm : m.Placed env.classes) (hp : calls.place env target m = .ok p m₁)
    (ha : calls.Holds env p a m₁) (behind behind' up : Bool) (span span' : Span) :
    ∃ v m₂, calls.stepEval env (.step behind up target span) m = .ok v m₂ ∧
      calls.Holds env p (a + if up then 1 else -1) m₂ ∧
      ∀ m₃, calls.place env target' m₂ = .ok p m₃ →
        calls.Holds env p (a + if up then 1 else -1) m₃ →
        ∃ v' m₄, calls.stepEval env (.step behind' (!up) target' span') m₂ = .ok v' m₄ ∧
          calls.Holds env p a m₄ := by
  obtain ⟨v, m₂, hrun, hholds⟩ := stepEval_step h hm hp ha behind up span
  refine ⟨v, m₂, hrun, hholds, fun m₃ hp' hholds' => ?_⟩
  obtain ⟨s', -, ends⟩ := Histories.stepEval_charts he h (.step behind up target span) m hm [] []
  obtain ⟨placed, -⟩ := ends.ok hrun
  obtain ⟨v', m₄, hrun', hback⟩ := stepEval_step h placed hp' hholds' behind' (!up) span'
  refine ⟨v', m₄, hrun', ?_⟩
  have restored : (a + if up then 1 else -1) + (if (!up) = true then 1 else -1) = a := by
    cases up <;> rw [Int64.add_assoc] <;> exact Int64.add_zero a
  rwa [restored] at hback

end Calls

/-! ## Integer arithmetic -/

/-- **Integer arithmetic is exact modulo 2^64 and never traps.** Let the operands of an expression
evaluate to Integers. Then `+ - *` and the negation give the one Integer that is congruent to the
exact result. Division and remainder fail exactly if the divisor is zero. Otherwise they make up the
dividend; the remainder is smaller than the divisor, and it is zero or has the sign of the dividend;
and the quotient is truncated, but the least Integer divided by -1 is itself.

If a target is resolved to a place that holds an Integer, then a step of the target makes the number
one more or one less. A step back, of any target that is resolved to this place while it holds the
number, restores it. -/
theorem integer_arithmetic_exact {decls : List ClassDecl} {query : Option QueryService}
    {credentials : Credentials} {today : Date} {maxDepth : Nat} {env : Env}
    (henv : Env.make (Registration.registerAll .initial decls).table query credentials today
      maxDepth = .ok env) (fuel : Nat) :
    (∀ (op : BinaryOp) (f : Int → Int → Int) (left right : Expr) (span : Span) (a b : Int64)
      (m m' : Machine), op.onInts? = some f →
      (Calls.withFuel env fuel).Integers left right a b m m' →
      ∃ c, ((Calls.withFuel env fuel).stepEval env (.binary op left right span)).GivesInteger c m ∧
        ∀ d : Int64, d = c ↔ d.toInt ≡ f a.toInt b.toInt [ZMOD 2 ^ 64]) ∧
    (∀ (e : Expr) (span : Span) (u : Value) (a : Int64) (m m' : Machine),
      (Calls.withFuel env fuel).eval e m = .ok u m' → m'.world.heap.integer? u = some a →
      ∃ c, ((Calls.withFuel env fuel).stepEval env (.unary .neg e span)).GivesInteger c m ∧
        ∀ d : Int64, d = c ↔ d.toInt ≡ -a.toInt [ZMOD 2 ^ 64]) ∧
    (∀ (left right : Expr) (span : Span) (a b : Int64) (m m' : Machine),
      (Calls.withFuel env fuel).Integers left right a b m m' →
      (∀ op, op = .div ∨ op = .rem →
        ((Calls.withFuel env fuel).stepEval env (.binary op left right span) m =
          .error (.fault (.divisionByZero span)) m' ↔ b = 0)) ∧
      (b ≠ 0 → ∃ q r,
        ((Calls.withFuel env fuel).stepEval env (.binary .div left right span)).GivesInteger q m ∧
        ((Calls.withFuel env fuel).stepEval env (.binary .rem left right span)).GivesInteger r m ∧
        q * b + r = a ∧ r.toInt.natAbs < b.toInt.natAbs ∧
        (r = 0 ∨ r.toInt.sign = a.toInt.sign) ∧
        if a = .minValue ∧ b = -1 then q = .minValue else q.toInt = a.toInt.tdiv b.toInt)) ∧
    (∀ (target target' : Expr) (p : Place) (a : Int64) (m m₁ : Machine) (up behind behind' : Bool)
      (span span' : Span), m.Placed env.classes →
      (Calls.withFuel env fuel).place env target m = .ok p m₁ →
      (Calls.withFuel env fuel).Holds env p a m₁ →
      ∃ v m₂,
        (Calls.withFuel env fuel).stepEval env (.step behind up target span) m = .ok v m₂ ∧
        (Calls.withFuel env fuel).Holds env p (a + if up then 1 else -1) m₂ ∧
        ∀ m₃, (Calls.withFuel env fuel).place env target' m₂ = .ok p m₃ →
          (Calls.withFuel env fuel).Holds env p (a + if up then 1 else -1) m₃ →
          ∃ v' m₄, (Calls.withFuel env fuel).stepEval env (.step behind' (!up) target' span') m₂ =
              .ok v' m₄ ∧
            (Calls.withFuel env fuel).Holds env p a m₄) := by
  have he := Env.make_registered henv
  refine ⟨fun op f left right span a b m m' hop h => Calls.stepEval_onInts hop h span,
    fun e span u a m m' hv ha => Calls.stepEval_neg hv ha span,
    fun left right span a b m m' h => ⟨fun op hop => ⟨fun failed => ?_, fun hb => ?_⟩, fun hb => ?_⟩,
    fun target target' p a m m₁ up behind behind' span span' hm hp ha =>
      Calls.steps_restore (Calls.histories_charted he fuel) he hm hp ha behind behind' up span span'⟩
  · -- any other divisor gives an Integer, and no fault
    by_contra hb
    have given : ((Calls.withFuel env fuel).stepEval env (.binary op left right span)).GivesInteger
        (if op = .div then a / b else a % b) m := by
      rcases hop with rfl | rfl
      · exact Calls.stepEval_div hb h span
      · exact Calls.stepEval_rem hb h span
    obtain ⟨v, m'', hrun, -⟩ := given
    rw [failed] at hrun
    cases hrun
  · subst hb
    exact Calls.stepEval_by_zero hop h span
  · exact ⟨a / b, a % b, Calls.stepEval_div hb h span, Calls.stepEval_rem hb h span,
      Operator.div_mul_add_mod a b, Operator.natAbs_toInt_mod_lt a hb,
      Operator.mod_eq_zero_or_sign a b, Operator.div_truncates a b⟩

/-- A method with the greatest Integer in the variable `n`. -/
def greatestRunning : Machine where
  world := { heap := ⟨#[.make Builtin.integerClass [] (.integer .maxValue)]⟩ }
  frames := [{ cls := Builtin.integerClass, this := none,
               block := NameTable.empty.insert "n" (.object 0) }]

theorem greatestRunning_placed {env : Env} {decls : List ClassDecl} (he : env.Registered decls) :
    greatestRunning.Placed env.classes := by
  have has : env.classes.Has Builtin.integerClass := he.has_native (by simp [Builtin.nativeClasses])
  refine ⟨fun f hf => ?_, fun id lt => ?_⟩
  · rw [List.mem_singleton.1 hf]
    exact has
  · obtain rfl : id = 0 := Nat.lt_one_iff.1 lt
    exact has

def nName : Expr := .name ⟨"n", .unknown⟩

/-- The least Integer and -1, as constants. -/
def leastLiteral : Expr := .literal (.integer .minValue) .unknown

def minusOneLiteral : Expr := .literal (.integer (-1)) .unknown

/-- The least Integer divided by -1 is itself, their sum is the greatest one, and `n++` and `--n`
lead there and back. -/
theorem integer_arithmetic_exact_limits : ∃ env v v' m₂ m₄,
    Env.make (Registration.registerAll .initial []).table none {} ⟨2024, 1, 1⟩ 16 = .ok env ∧
    ((Calls.withFuel env 4).stepEval env
      (.binary .add leastLiteral minusOneLiteral .unknown)).GivesInteger .maxValue greatestRunning ∧
    ((Calls.withFuel env 4).stepEval env (.unary .neg leastLiteral .unknown)).GivesInteger .minValue
      greatestRunning ∧
    ((Calls.withFuel env 4).stepEval env
      (.binary .div leastLiteral minusOneLiteral .unknown)).GivesInteger .minValue greatestRunning ∧
    ((Calls.withFuel env 4).stepEval env
      (.binary .rem leastLiteral minusOneLiteral .unknown)).GivesInteger 0 greatestRunning ∧
    (Calls.withFuel env 4).stepEval env (.step true true nName .unknown) greatestRunning =
      .ok v m₂ ∧
    (Calls.withFuel env 4).Holds env (.var "n") .minValue m₂ ∧
    (Calls.withFuel env 4).stepEval env (.step false false nName .unknown) m₂ = .ok v' m₄ ∧
    (Calls.withFuel env 4).Holds env (.var "n") .maxValue m₄ := by
  have made : ∃ env,
      Env.make (Registration.registerAll .initial []).table none {} ⟨2024, 1, 1⟩ 16 = .ok env :=
    ⟨_, rfl⟩
  obtain ⟨env, henv⟩ := made
  obtain ⟨ring, neg, div, steps⟩ := integer_arithmetic_exact henv 4
  have operands : (Calls.withFuel env 4).Integers leastLiteral minusOneLiteral .minValue (-1)
      greatestRunning _ := ⟨_, _, _, rfl, rfl, rfl, rfl⟩
  obtain ⟨c, hadd, hc⟩ := ring .add _ _ _ .unknown _ _ _ _ rfl operands
  obtain rfl := (hc .maxValue).2 (by decide)
  obtain ⟨d, hneg, hd⟩ := neg leastLiteral .unknown _ .minValue greatestRunning _ rfl rfl
  obtain rfl := (hd .minValue).2 (by decide)
  obtain ⟨q, r, hdiv, hrem, -, hlt, -, hq⟩ := (div _ _ .unknown _ _ _ _ operands).2 (by decide)
  rw [if_pos ⟨rfl, rfl⟩] at hq
  obtain rfl : r = 0 := by
    have hr : r.toInt = 0 := Int.natAbs_eq_zero.1 (Nat.lt_one_iff.1 hlt)
    exact Int64.toInt_inj.1 hr
  subst hq
  have holds : (Calls.withFuel env 4).Holds env (.var "n") .maxValue greatestRunning :=
    ⟨_, _, rfl, rfl⟩
  obtain ⟨v, m₂, hinc, hholds, back⟩ := steps nName nName (.var "n") .maxValue _ _ true true false
    .unknown .unknown (greatestRunning_placed (Env.make_registered henv)) rfl holds
  have resolved : ∃ v m₂,
      (Calls.withFuel env 4).stepEval env (.step true true nName .unknown) greatestRunning =
        .ok v m₂ ∧ (Calls.withFuel env 4).place env nName m₂ = .ok (.var "n") m₂ :=
    ⟨_, _, rfl, rfl⟩
  obtain ⟨w, m, hrun, hplace⟩ := resolved
  obtain ⟨rfl, rfl⟩ := EStateM.Result.ok.inj (hrun.symm.trans hinc)
  obtain ⟨v', m₄, hdec, hback⟩ := back m hplace hholds
  exact ⟨env, w, v', m, m₄, henv, hadd, hneg, hdiv, hrem, hinc, hholds, hdec, hback⟩

end ClassScript
