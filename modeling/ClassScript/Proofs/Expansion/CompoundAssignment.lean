import ClassScript.Proofs.Machine.Fuel
import ClassScript.Proofs.Memory.Places
import ClassScript.Proofs.Typing.CheckRun

/-!
# Compound assignment is its expansion

`x op= e` for a bare name `x` is checked and evaluated as `x = x op e`, whatever the name denotes.

In checking both forms ask for the same: the name and the right-hand side report nothing, and the
operator takes their types to one that fits the name (`Typing.compoundType_clean_iff`).

In evaluation both resolve the name to a place first. The compound form then loads from the place,
and the expansion evaluates the name; these come to the same (`Calls.evalName_of_namePlace`).
The expansion nests deeper, so it takes more fuel.

Main statement: `compoundAssignment_iff_expansion`.
-/

namespace ClassScript

/-! ## Checking -/

namespace Typing

open Check

variable {cx : CheckContext} {s : CheckState} {op : AssignOp} {bop : BinaryOp}

/-- The operators of compound assignments are arithmetic. -/
theorem arithmetic_of_binary? (hop : op.binary? = some bop) :
    bop.isEquality = false ∧ bop.isLogical = false := by
  cases op <;> cases hop <;> decide

theorem binaryType_of_binary? (hop : op.binary? = some bop) (l r : DataType) (span : Span) :
    binaryType bop (some l) (some r) span = arithmeticType bop l r span := by
  cases op <;> cases hop <;> rfl

/-- A compound assignment is typed like an assignment of what the operator gives. -/
theorem compoundType_clean_iff (hop : op.binary? = some bop) (t v : Option DataType)
    (span span' : Span) :
    Clean (compoundType bop t v span) s ↔ Clean (binaryType bop t v span) s ∧
      Clean (requireFits (binaryType bop t v span s).1 t span') s := by
  obtain ⟨equality, logical⟩ := arithmetic_of_binary? hop
  cases t with
  | none =>
    rw [binaryType_unknown equality logical (.inl rfl)]
    exact ⟨fun _ => ⟨rfl, rfl⟩, fun _ => rfl⟩
  | some t =>
    cases v with
    | none =>
      rw [binaryType_unknown equality logical (.inr rfl)]
      exact ⟨fun _ => ⟨rfl, rfl⟩, fun _ => rfl⟩
    | some v =>
      rw [binaryType_of_binary? hop]
      unfold compoundType
      rw [(arithmeticType_quiet bop t v span).clean_bind_iff fun r => ?_]
      · refine and_congr_right fun _ => ?_
        cases (arithmeticType bop t v span s).1 with
        | none => exact Iff.rfl
        | some result =>
          unfold requireFits
          dsimp only
          split
          · exact Iff.rfl
          · exact iff_of_false clean_report clean_report
      · split
        · exact .pure _
        · split
          · exact .pure _
          · exact (Quiet.report _ _).bind fun _ => .pure _

theorem denote_binary_clean_iff (l r : Expr) (span : Span) :
    Clean (denote cx .value (.binary bop l r span)) s ↔
      Clean (denote cx .value l) s ∧ Clean (denote cx .value r) s ∧
        Clean (binaryType bop (denote cx .value l s).1.type? (denote cx .value r s).1.type? span)
          s := by
  rw [denote, Quiet.clean_operands_iff (denote_quiet cx .value l) (denote_quiet cx .value r)
    fun _ _ => typed_quiet (binaryType_quiet ..)]
  exact Iff.rfl

theorem denote_binary_type (l r : Expr) (span : Span) :
    (denote cx .value (.binary bop l r span) s).1.type? =
      (binaryType bop (denote cx .value l s).1.type? (denote cx .value r s).1.type? span s).1 := by
  rw [denote, Quiet.result_operands (denote_quiet cx .value l) (denote_quiet cx .value r)
    fun _ _ => typed_quiet (binaryType_quiet ..)]
  exact Denotation.type?_ofType? _

theorem denote_assign_clean_iff (hop : op.binary? = none) {target : Expr}
    (ht : target.isAssignable = true) (value : Expr) (span : Span) :
    Clean (denote cx .value (.assign op target value span)) s ↔
      Clean (denote cx .value target) s ∧ Clean (denote cx .value value) s ∧
        Clean (requireFits (denote cx .value value s).1.type? (denote cx .value target s).1.type?
          value.span) s := by
  rw [denote, if_pos ht, hop, Quiet.clean_operands_iff (denote_quiet cx .value target)
    (denote_quiet cx .value value) fun _ _ => (requireFits_quiet ..).bind fun _ => .pure _]
  exact Iff.rfl

theorem denote_compound_clean_iff (hop : op.binary? = some bop) {target : Expr}
    (ht : target.isAssignable = true) (value : Expr) (span : Span) :
    Clean (denote cx .value (.assign op target value span)) s ↔
      Clean (denote cx .value target) s ∧ Clean (denote cx .value value) s ∧
        Clean (compoundType bop (denote cx .value target s).1.type?
          (denote cx .value value s).1.type? span) s := by
  rw [denote, if_pos ht, hop, Quiet.clean_operands_iff (denote_quiet cx .value target)
    (denote_quiet cx .value value) fun _ _ => typed_quiet (compoundType_quiet ..)]
  exact Iff.rfl

theorem infer_clean_iff {e : Expr} : Clean (infer cx e) s ↔ Clean (denote cx .value e) s :=
  Iff.rfl

/-- The compound form and the expansion report something in the same states. -/
theorem infer_compound_clean_iff (hop : op.binary? = some bop) {target : Expr}
    (ht : target.isAssignable = true) (e : Expr) (span : Span) :
    Clean (infer cx (.assign op target e span)) s ↔
      Clean (infer cx (.assign .set target (.binary bop target e span) span)) s := by
  rw [infer_clean_iff, infer_clean_iff, denote_compound_clean_iff hop ht,
    denote_assign_clean_iff rfl ht, denote_binary_clean_iff, denote_binary_type,
    compoundType_clean_iff hop _ _ span span]
  constructor
  · rintro ⟨ht, hv, hb, hf⟩
    exact ⟨ht, ⟨ht, hv, hb⟩, hf⟩
  · rintro ⟨ht, ⟨-, hv, hb⟩, hf⟩
    exact ⟨ht, hv, hb, hf⟩

end Typing

/-! ## Evaluation -/

namespace Calls

open Run

variable {env : Env}

theorem load_field_of_readField? {calls : Calls} {m : Machine} {id : ObjectId} {name : String}
    {v : Value} (hv : Machine.readField? env.classes m.world.heap id name = some v) :
    calls.load env (.field id name) m = .ok v m := by
  show EStateM.Result.ok ((Machine.readField? env.classes m.world.heap id name).getD .null) m = _
  rw [hv]
  rfl

/-- A name is read as its place is. -/
theorem evalName_of_namePlace (calls : Calls) {name : String} {p : Place} {m m' : Machine}
    (hp : Calls.namePlace env name m = .ok p m') :
    m' = m ∧ calls.evalName env name m = calls.load env p m := by
  unfold namePlace at hp
  cases hm : m.frames with
  | nil =>
    rw [Run.bind_eq, Run.frame, hm] at hp
    cases hp
  | cons f fs =>
    rw [Run.frame_bind hm, Run.heap_bind] at hp
    unfold evalName
    rw [Run.frame_bind hm]
    -- both ask for a local first, then for a field of the receiver, and then for a static field
    split at hp
    · rename_i hl
      obtain ⟨v, hv⟩ := Option.isSome_iff_exists.1 hl
      cases hp
      refine ⟨rfl, ?_⟩
      rw [hv, load_var hm hv]
      rfl
    · rename_i hl
      have hnone : f.lookup? name = none := by simpa [Frame.isLocal] using hl
      rw [hnone]
      dsimp only
      rw [Run.heap_bind]
      cases hid : f.this.filter fun id => hasField env m.world.heap id name with
      | some id =>
        rw [hid] at hp
        cases hp
        obtain ⟨hthis, hfield⟩ := Option.filter_eq_some_iff.1 hid
        obtain ⟨v, hv⟩ := Option.isSome_iff_exists.1 hfield
        refine ⟨rfl, ?_⟩
        rw [hthis, Option.bind_some, hv, load_field_of_readField? hv]
        rfl
      | none =>
        rw [hid] at hp
        have hread : (f.this.bind fun id =>
            Machine.readField? env.classes m.world.heap id name) = none :=
          Option.bind_eq_none_iff.2 fun id hthis =>
            Option.not_isSome_iff_eq_none.1 (Option.filter_eq_none_iff.1 hid id hthis)
        rw [hread]
        dsimp only at hp ⊢
        split at hp
        · rename_i hs
          cases hp
          obtain ⟨⟨owner, field⟩, howner⟩ := Option.isSome_iff_exists.1 hs
          refine ⟨rfl, ?_⟩
          show _ = (calls.readStatic env f.cls name >>= _) m
          unfold readStatic
          rw [howner]
          simp only [bind_assoc, pure_bind, Option.getD_some]
        · cases hp

/-- Two operands one after the other, and an operator on their values. -/
def applied (env : Env) (op : BinaryOp) (left right : Run Value) (span : Span) : Run Value := do
  let l ← left
  let r ← right
  applyBinary env op l r span

theorem applied_within {op : BinaryOp} {left left' right right' : Run Value} {span : Span}
    {m : Machine} (hl : Run.WithinAt m left left') (hr : Run.Within _ right right') :
    Run.WithinAt m (applied env op left right span) (applied env op left' right' span) :=
  .bind hl fun _ m' _ => .bind (hr m') fun _ _ _ => .inl rfl

variable {op : AssignOp} {bop : BinaryOp} (hop : op.binary? = some bop) (i : Ident) (e : Expr)
  (span : Span)
include hop

theorem eval_compound (n : Nat) :
    (withFuel env (n + 1)).eval (.assign op (.name i) e span) = (do
      let p ← Calls.namePlace env i.name
      let v ← applied env bop ((withFuel env n).load env p) ((withFuel env n).eval e) span
      (withFuel env n).store env v p
      return v) := by
  show (withFuel env n).evalAssign env op (.name i) e span = _
  rw [evalAssign_eq]
  unfold rightHandSide
  rw [hop]
  rfl

theorem eval_expansion (n : Nat) :
    (withFuel env (n + 3)).eval (.assign .set (.name i) (.binary bop (.name i) e span) span) = (do
      let p ← Calls.namePlace env i.name
      let v ← applied env bop ((withFuel env n).evalName env i.name)
        ((withFuel env (n + 1)).eval e) span
      (withFuel env (n + 2)).store env v p
      return v) := by
  have hlogical : ¬ bop.isLogical = true := by simp [(Typing.arithmetic_of_binary? hop).2]
  show (withFuel env (n + 2)).evalAssign env .set (.name i) _ span = _
  rw [evalAssign_eq]
  show (Calls.namePlace env i.name >>= fun p =>
    (if bop.isLogical then _ else _) >>= _) = _
  rw [if_neg hlogical]
  rfl

/-- The expansion does what the compound form does. -/
theorem compound_within (n : Nat) :
    Run.Within _ ((withFuel env (n + 1)).eval (.assign op (.name i) e span))
      ((withFuel env (n + 3)).eval
        (.assign .set (.name i) (.binary bop (.name i) e span) span)) := by
  intro m
  rw [eval_compound hop, eval_expansion hop]
  refine .bind (.inl rfl) fun p m' hp => ?_
  obtain ⟨rfl, hread⟩ := evalName_of_namePlace (withFuel env n) hp
  refine .bind ?_ fun v m₁ _ => .bind ?_ fun _ _ _ => .inl rfl
  · exact applied_within (.inl hread) ((withFuel_within env (Nat.le_succ n)).eval e)
  · exact store_congr Run.within_congruence (.refl env)
      (withFuel_within env (Nat.le_add_right n 2)) v p m₁

/-- The compound form does what the expansion does. -/
theorem expansion_within (n : Nat) :
    Run.Within _
      ((withFuel env (n + 3)).eval (.assign .set (.name i) (.binary bop (.name i) e span) span))
      ((withFuel env (n + 3)).eval (.assign op (.name i) e span)) := by
  intro m
  rw [eval_compound hop, eval_expansion hop]
  refine .bind (.inl rfl) fun p m' hp => .bind ?_ fun _ _ _ => .inl rfl
  obtain ⟨rfl, hread⟩ := evalName_of_namePlace (withFuel env n) hp
  refine applied_within ?_ ((withFuel_within env (Nat.le_succ (n + 1))).eval e)
  have hload := load_congr Run.within_congruence (.refl env)
    (withFuel_within env (Nat.le_add_right n 2)) p m'
  exact .trans (.inl hread.symm) hload

theorem finishes_compound_iff (m : Machine) (o : EStateM.Result Halt Machine Value) :
    Run.Finishes (fun n => (withFuel env n).eval (.assign op (.name i) e span)) m o ↔
      Run.Finishes (fun n => (withFuel env n).eval
        (.assign .set (.name i) (.binary bop (.name i) e span) span)) m o := by
  refine Run.finishes_iff (k := 2) (l := 3) (fun n => ?_) fun n => ?_
  · cases n with
    | zero => exact fun m => .inr ⟨m, rfl⟩
    | succ n => exact compound_within hop i e span n
  · exact ((withFuel_within env (Nat.le_add_right n 3)).eval _).trans
      (expansion_within hop i e span n)

end Calls

/-! ## Both -/

/-- **Compound assignment to a name is its expansion.** For `op` one of `+ - * /`, a bare name `x`
and any expression `e`, and in every state: `x op= e` is checked without an error exactly if
`x = x op e` is, and either both terminate or neither does, with the same value or fault and the
same machine after it. -/
theorem compoundAssignment_iff_expansion {op : AssignOp} {bop : BinaryOp}
    (hop : op.binary? = some bop) (x : Ident) (e : Expr) (span : Span) :
    (∀ (cx : CheckContext) (s : CheckState),
      Check.Clean (Typing.infer cx (.assign op (.name x) e span)) s ↔
        Check.Clean (Typing.infer cx
          (.assign .set (.name x) (.binary bop (.name x) e span) span)) s) ∧
    ∀ (env : Env) (m : Machine) (o : EStateM.Result Halt Machine Value),
      Run.Finishes (fun n => (Calls.withFuel env n).eval (.assign op (.name x) e span)) m o ↔
        Run.Finishes (fun n => (Calls.withFuel env n).eval
          (.assign .set (.name x) (.binary bop (.name x) e span) span)) m o :=
  have assignable : (Expr.name x).isAssignable = true := rfl
  ⟨fun _ _ => Typing.infer_compound_clean_iff hop assignable e span,
    fun _ m o => Calls.finishes_compound_iff hop x e span m o⟩

/-- A method with the Integer 1 in the variable `count`. -/
def countRunning : Machine where
  world := { heap := ⟨#[.make Builtin.integerClass [] (.integer 1)]⟩ }
  frames := [{ cls := Builtin.integerClass, this := none,
               block := NameTable.empty.insert "count" (.object 0) }]

/-- `count` -/
def countName : Ident := ⟨"count", .unknown⟩

/-- `count = 2` -/
def countToTwo : Expr := .assign .set (.name countName) (.literal (.integer 2) .unknown) .unknown

/-- `count += (count = 2)` adds to the value that `count` has before: it gives 3. -/
theorem compoundAssignment_iff_expansion_count : ∃ env v m,
    Env.make (Registration.registerAll .initial []).table none {} ⟨2024, 1, 1⟩ 16 = .ok env ∧
    AssignOp.add.binary? = some .add ∧ m.world.heap.integer? v = some 3 ∧
    Run.Finishes (fun n => (Calls.withFuel env n).eval
      (.assign .add (.name countName) countToTwo .unknown)) countRunning (.ok v m) ∧
    Run.Finishes (fun n => (Calls.withFuel env n).eval
      (.assign .set (.name countName) (.binary .add (.name countName) countToTwo .unknown)
        .unknown)) countRunning (.ok v m) := by
  have running : ∃ env v m,
      Env.make (Registration.registerAll .initial []).table none {} ⟨2024, 1, 1⟩ 16 = .ok env ∧
      m.world.heap.integer? v = some 3 ∧ (Calls.withFuel env 4).eval
        (.assign .add (.name countName) countToTwo .unknown) countRunning = .ok v m :=
    ⟨_, _, _, rfl, rfl, rfl⟩
  obtain ⟨env, v, m, henv, hv, hrun⟩ := running
  have finishes : Run.Finishes (fun n => (Calls.withFuel env n).eval
      (.assign .add (.name countName) countToTwo .unknown)) countRunning (.ok v m) :=
    ⟨4, hrun, fun ⟨_, h⟩ => by simp [hrun] at h⟩
  have hadd : AssignOp.add.binary? = some .add := rfl
  obtain ⟨-, run⟩ := compoundAssignment_iff_expansion hadd countName countToTwo .unknown
  exact ⟨env, v, m, henv, hadd, hv, finishes, (run env countRunning _).1 finishes⟩

end ClassScript
