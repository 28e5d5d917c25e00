import ClassScript.Typing.Program

/-!
# Rules that only report

Most of checking looks at the local variables, reports and logs, and does nothing else to its state:
all rules for expressions, and those for statements that neither declare a variable nor enclose or
leave a loop. `Check.Plain x` says that `x` is built in this way, and that what it reports is not
about loop control. What holds of the building blocks then holds of all these rules, by induction on
how they are built.
-/

namespace ClassScript

/-- `x` is built of looking at the local variables, reporting and logging (module doc). -/
inductive Check.Plain : ∀ {α : Type}, Check α → Prop
  | pure {α : Type} (a : α) : Plain (Pure.pure a)
  | bind {α β : Type} {x : Check α} {f : α → Check β} : Plain x → (∀ a, Plain (f a)) →
    Plain (x >>= f)
  | report (v : Violation) (span : Span) : v.kind ≠ .loopControl → Plain (Check.report v span)
  | log (event : LogEvent) : Plain (Check.log event)
  | get {α : Type} {f : CheckState → Check α} : (∀ s, Plain (f s)) →
    (∀ {s s' : CheckState}, s'.scope = s.scope → f s' = f s) → Plain (MonadState.get >>= f)

namespace Check.Plain

variable {α : Type}

theorem reports {v : Violation} {span : Span} {a : α} (h : v.kind ≠ .loopControl) :
    Plain (do Check.report v span; return a : Check α) :=
  (report v span h).bind fun _ => .pure a

theorem forM {f : α → Check PUnit} (hf : ∀ a, Plain (f a)) : ∀ as : List α, Plain (as.forM f)
  | [] => .pure _
  | a :: as => (hf a).bind fun _ => forM hf as

end Check.Plain

namespace Typing

open Check (Plain)

variable (cx : CheckContext)

/-! ## Requirements and names -/

theorem requireCondition_plain (t : Option DataType) (span : Span) :
    Plain (requireCondition t span) := by
  unfold requireCondition
  split
  · split
    · exact .pure _
    · exact .report _ _ nofun
  · exact .pure _

theorem requireFits_plain (a d : Option DataType) (span : Span) : Plain (requireFits a d span) := by
  unfold requireFits
  split
  · split
    · exact .pure _
    · exact .report _ _ nofun
  · exact .pure _

theorem resolveType_plain (t : DataType) (span : Span) : Plain (cx.resolveType t span) := by
  unfold CheckContext.resolveType
  split
  · exact .reports fun h => by cases h
  · exact .pure _

theorem valueOfName_plain (i : Ident) : Plain (valueOfName cx i) := by
  refine Plain.get (fun s => ?_) fun h => by rw [h]
  split
  · exact .pure _
  · split
    · split
      · exact .reports nofun
      · exact .pure _
    · split <;> exact .pure _

theorem denoteName_plain (role : Role) (i : Ident) : Plain (denoteName cx role i) := by
  refine (valueOfName_plain cx i).bind fun found => ?_
  split
  · exact .pure _
  · split
    · exact .pure _
    · exact .reports nofun

theorem denoteThis_plain (role : Role) (span : Span) : Plain (denoteThis cx role span) := by
  unfold denoteThis
  split
  · exact .reports nofun
  · cases role <;> exact .pure _

theorem undefinedField_plain (m : Ident) : Plain (undefinedField m) :=
  .reports nofun

theorem memberType_plain (outer : Denotation) (m : Ident) : Plain (memberType cx outer m) := by
  cases outer with
  | cls c =>
    simp only [memberType]
    split
    · exact .pure _
    · split
      · exact .reports nofun
      · exact undefinedField_plain m
  | this =>
    simp only [memberType]
    split
    · exact .pure _
    · exact undefinedField_plain m
  | value t =>
    simp only [memberType]
    split
    · exact .pure _
    · split
      · exact .pure _
      · split
        · exact .pure _
        · exact undefinedField_plain m
  | unknown => exact .pure _

theorem denoteMember_plain (role : Role) (outer : Denotation) (m : Ident) :
    Plain (denoteMember cx role outer m) := by
  unfold denoteMember
  split
  · split
    · exact .pure _
    · exact (memberType_plain cx _ m).bind fun _ => .pure _
  · exact (memberType_plain cx _ m).bind fun _ => .pure _

/-! ## Calls -/

theorem implicitTarget_plain (name : String) (span : Span) :
    Plain (implicitTarget cx name span) := by
  unfold implicitTarget
  dsimp only
  split
  · split
    · exact .reports nofun
    · exact .pure _
  · exact .pure _

theorem select_plain (name : String) (b : TypeBindings) (group : List MethodInfo)
    (args : List (Option DataType)) (span : Span) : Plain (select cx name b group args span) := by
  unfold select
  split
  · exact .pure _
  · split
    · refine (Plain.log _).bind fun _ => ?_
      split
      · exact .pure _
      · exact .reports nofun
    · exact .pure _

theorem callType_plain (target : Option CallTarget) (method : Ident)
    (args : List (Option DataType)) (span : Span) :
    Plain (callType cx target method args span) := by
  unfold callType
  split
  · exact .pure _
  · exact .reports nofun
  · refine (select_plain cx _ _ _ _ _).bind fun found => ?_
    split
    · exact .pure _
    · split
      · exact .reports nofun
      · exact .pure _

theorem createType_plain (type : Option DataType) (args : List (Option DataType)) (span : Span) :
    Plain (createType cx type args span) := by
  unfold createType
  split
  · exact .pure _
  · split
    · exact .pure _
    · split
      · split
        · exact .pure _
        · exact .reports nofun
      · refine (select_plain cx _ _ _ _ _).bind fun found => ?_
        split
        · exact .pure _
        · split
          · exact .reports nofun
          · exact .pure _

/-! ## Operators -/

theorem comparison?_kind {l r : DataType} {v : Violation} (h : comparison? l r = some v) :
    v.kind ≠ .loopControl := by
  unfold comparison? at h
  split at h
  · cases h
    exact nofun
  split at h
  · cases h
    exact nofun
  split at h
  · cases h
    exact nofun
  · cases h

theorem arithmetic_kind {op : BinaryOp} {l r : DataType} {v : Violation}
    (h : arithmetic op l r = .error v) : v.kind ≠ .loopControl := by
  unfold arithmetic at h
  split at h
  · split at h
    · rename_i hc
      cases h
      exact comparison?_kind hc
    · cases h
  · split at h
    · cases h
      exact nofun
    split at h
    · cases h
      exact nofun
    · cases h

theorem arithmeticType_plain (op : BinaryOp) (l r : DataType) (span : Span) :
    Plain (arithmeticType op l r span) := by
  unfold arithmeticType
  split
  · exact .pure _
  · rename_i h
    exact .reports (arithmetic_kind h)

theorem requireLogical_plain (l r : Option DataType) (span : Span) :
    Plain (requireLogical l r span) := by
  unfold requireLogical
  split
  · exact .report _ _ nofun
  · exact .pure _

theorem binaryType_plain (op : BinaryOp) (l r : Option DataType) (span : Span) :
    Plain (binaryType op l r span) := by
  unfold binaryType
  split
  · exact .pure _
  split
  · exact (requireLogical_plain l r span).bind fun _ => .pure _
  split
  · split
    · split
      · rename_i h
        exact .reports (comparison?_kind h)
      · exact .pure _
    · exact arithmeticType_plain _ _ _ _
  · exact .pure _

theorem unaryType_plain (op : UnaryOp) (t : Option DataType) (span : Span) :
    Plain (unaryType op t span) := by
  unfold unaryType
  split
  · exact .pure _
  · split <;> first | exact .pure _ | skip
    all_goals
      split
      · exact .pure _
      · exact .reports nofun

theorem stepType_plain (operand : Expr) (t : Option DataType) (span : Span) :
    Plain (stepType operand t span) := by
  unfold stepType
  split
  · exact .pure _
  · split
    · exact .reports nofun
    · split
      · exact .reports nofun
      · exact .pure _

theorem compoundType_plain (op : BinaryOp) (t v : Option DataType) (span : Span) :
    Plain (compoundType op t v span) := by
  unfold compoundType
  split
  · refine (arithmeticType_plain _ _ _ _).bind fun result => ?_
    split
    · exact .pure _
    · split
      · exact .pure _
      · exact .reports nofun
  · exact .pure _

theorem conditionalType_plain (y n : Option DataType) (span : Span) :
    Plain (conditionalType cx y n span) := by
  unfold conditionalType
  split
  · split
    · exact .pure _
    · split
      · exact .pure _
      · exact .reports nofun
  · exact .pure _

theorem indexType_plain (object key : Option DataType) (keySpan span : Span) :
    Plain (indexType object key keySpan span) := by
  unfold indexType
  split
  · split
    · exact .reports nofun
    · exact .pure _
  · split
    · exact .reports nofun
    · split
      · exact .pure _
      · split
        · exact .pure _
        · exact .reports nofun

/-! ## Expressions -/

mutual

theorem denote_plain (role : Role) : ∀ e : Expr, Plain (denote cx role e)
  | .literal value span => by unfold denote; exact .pure _
  | .name i => by unfold denote; exact denoteName_plain cx role i
  | .this span => by unfold denote; exact denoteThis_plain cx role span
  | .member object m span => by
    unfold denote
    exact (denote_plain .receiver object).bind fun outer => denoteMember_plain cx role outer m
  | .call method args span => by
    unfold denote
    exact (implicitTarget_plain cx _ _).bind fun target => (inferAll_plain args).bind fun types =>
      (callType_plain cx target method types span).bind fun _ => .pure _
  | .callOn receiver method args span => by
    unfold denote
    exact (denote_plain .receiver receiver).bind fun outer =>
      (inferAll_plain args).bind fun types =>
        (callType_plain cx _ method types span).bind fun _ => .pure _
  | .create type args span => by
    unfold denote
    exact (resolveType_plain cx _ _).bind fun t => (inferAll_plain args).bind fun types =>
      (createType_plain cx t types span).bind fun _ => .pure _
  | .index object key span => by
    unfold denote
    exact (denote_plain .value object).bind fun t => (denote_plain .value key).bind fun k =>
      (indexType_plain _ _ _ _).bind fun _ => .pure _
  | .binary op left right span => by
    unfold denote
    exact (denote_plain .value left).bind fun l => (denote_plain .value right).bind fun r =>
      (binaryType_plain _ _ _ _).bind fun _ => .pure _
  | .unary op operand span => by
    unfold denote
    refine (denote_plain .value operand).bind fun t => ?_
    split
    · exact (stepType_plain _ _ _).bind fun _ => .pure _
    · exact (unaryType_plain _ _ _).bind fun _ => .pure _
  | .post op operand span => by
    unfold denote
    exact (denote_plain .value operand).bind fun t => (stepType_plain _ _ _).bind fun _ =>
      .pure _
  | .assign op target value span => by
    unfold denote
    split
    · refine (denote_plain .value target).bind fun t => (denote_plain .value value).bind fun v => ?_
      split
      · exact (requireFits_plain _ _ _).bind fun _ => .pure _
      · exact (compoundType_plain _ _ _ _).bind fun _ => .pure _
    · exact (Plain.report .notAssignable _ nofun).bind fun _ =>
        (denote_plain .value value).bind fun _ => .pure _
  | .conditional condition yes no span => by
    unfold denote
    exact (denote_plain .value condition).bind fun c => (requireCondition_plain _ _).bind fun _ =>
      (denote_plain .value yes).bind fun y => (denote_plain .value no).bind fun n =>
        (conditionalType_plain cx _ _ _).bind fun _ => .pure _
  | .query text span => by unfold denote; exact .pure _

theorem inferAll_plain : ∀ es : List Expr, Plain (inferAll cx es)
  | [] => by unfold inferAll; exact .pure _
  | e :: es => by
    unfold inferAll
    exact (denote_plain .value e).bind fun d => (inferAll_plain es).bind fun types => .pure _

end

theorem infer_plain (e : Expr) : Plain (infer cx e) :=
  (denote_plain cx .value e).bind fun _ => .pure _

/-! ## Statements -/

theorem checkCondition_plain (e : Expr) : Plain (checkCondition cx e) :=
  (infer_plain cx e).bind fun _ => requireCondition_plain _ _

theorem checkStored_plain (e : Expr) (declared : Option DataType) :
    Plain (checkStored cx e declared) :=
  (infer_plain cx e).bind fun _ => requireFits_plain _ _ _

theorem checkExpr_plain (e : Expr) : Plain (checkExpr cx e) :=
  (infer_plain cx e).bind fun _ => .pure _

theorem requireElements_plain (collection declared : Option DataType) (iterable span : Span) :
    Plain (requireElements collection declared iterable span) := by
  unfold requireElements
  split
  · exact .pure _
  · split
    · exact requireFits_plain _ _ _
    · exact .report _ _ nofun

theorem checkReturn_plain (value : Option Expr) (span : Span) :
    Plain (checkReturn cx value span) := by
  unfold checkReturn
  split
  · exact .pure _
  · exact checkExpr_plain cx _
  · split
    · exact .pure _
    · exact .report _ _ nofun
  · refine (infer_plain cx _).bind fun t => ?_
    split
    · exact .pure _
    · split
      · exact .pure _
      · exact .report _ _ nofun

end Typing

end ClassScript
