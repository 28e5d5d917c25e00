import ClassScript.Proofs.Resolution.Dispatch

/-!
# Runs follow checked code

One lemma for each step of evaluation and execution, over calls that follow checked code already:
the step stays at its place, and what it evaluates in turn is checked at the same place. By
induction on the fuel all of evaluation follows checked code, also under a probe that stops at no
checked expression (`Calls.probing_follows`). So whatever a run evaluates, checking came to it in a
context and with local variables that fit the state (`Machine.Evaluates.site`).
-/

namespace ClassScript

open Run (Balanced Steady Safe)
open Typing (Checks Code)

/-! ## Places -/

/-- A place that may be read and written: a field that its object has or declares, and a static
field of a class of the table. -/
def Place.Ok (t : ClassTable) (h : Heap) : Place → Prop
  | .field id name => id < h.objects.size ∧
      ((h.get id).Tidy t → ((h.get id).cls.instanceField? t name).isSome = true)
  | .static c _ => t.Has c
  | .var _ | .slot .. | .entry .. => True

theorem Place.Ok.evolves {t : ClassTable} {h h' : Heap} {p : Place} (hp : p.Ok t h)
    (he : h.Evolves t h') : p.Ok t h' := by
  cases p with
  | field id name =>
    obtain ⟨lt, hn⟩ := hp
    refine ⟨Nat.lt_of_lt_of_le lt he.size, fun ht => ?_⟩
    rw [he.cls id lt]
    exact hn ((he.tidy id lt).1 ht)
  | static c name => exact hp
  | var name | slot id i span | entry id key => trivial

/-- A field that an object has is declared, or the object is none of the classes' own. -/
theorem Place.ok_field {t : ClassTable} {h : Heap} {id : ObjectId} {name : String}
    (hf : (Machine.readField? t h id name).isSome = true) : (Place.field id name).Ok t h := by
  have declared : (h.get id).Tidy t → ((h.get id).cls.instanceField? t name).isSome = true := by
    intro ht
    unfold Machine.readField? at hf
    cases hg : (h.get id).fields.get? name with
    | some v => exact ht name (by rw [NameTable.contains_eq, hg]; rfl)
    | none =>
      rw [hg] at hf
      simpa using hf
  exact ⟨Machine.lt_of_readField? hf, declared⟩

namespace Machine

variable {t : ClassTable} {cx : CheckContext} {scope : LocalScope} {m : Machine}

theorem At.head (hm : m.At t cx scope) : ∀ f ∈ m.frames.head?, t.Has f.cls := by
  obtain ⟨f, fs, hf, hr⟩ := hm.frame
  rintro g hg
  rw [hf] at hg
  cases hg
  exact hr.cls

theorem At.lookupClass?_has (hm : m.At t cx scope) {name : String} {c : ClassInfo}
    (hc : m.lookupClass? t name = some c) : t.Has c :=
  Machine.lookupClass?_has hm.head hc

theorem At.classRef?_has (hm : m.At t cx scope) {e : Expr} {c : ClassInfo}
    (hc : m.classRef? t e = some c) : t.Has c :=
  Machine.classRef?_has hm.head hc

end Machine

namespace Calls

variable {env : Env} {calls : Calls} {m : Machine} {cx : CheckContext} {scope : LocalScope}

section

variable (hm : m.At env.classes cx scope)
include hm

theorem namePlace_safe (name : String) :
    Safe env.classes (namePlace env name) (fun p m' => m' = m ∧ p.Ok env.classes m.world.heap) m := by
  obtain ⟨f, fs, hf, hr⟩ := hm.frame
  unfold namePlace
  refine Safe.frame_bind hf (Safe.heap_bind ?_)
  split
  · exact Safe.pure hm.heap ⟨rfl, trivial⟩
  · split
    · rename_i id hid
      obtain ⟨-, hfield⟩ := Option.filter_eq_some_iff.1 hid
      exact Safe.pure hm.heap ⟨rfl, Place.ok_field hfield⟩
    · split
      · exact Safe.pure hm.heap ⟨rfl, hr.cls⟩
      · exact Safe.fault hm.heap trivial

end

theorem staticPlace_safe (hb : m.world.heap.Belongs env.classes) {c : ClassInfo}
    (hc : env.classes.Has c) (name : String) :
    Safe env.classes (staticPlace env c name)
      (fun p m' => m' = m ∧ p.Ok env.classes m.world.heap) m := by
  unfold staticPlace
  split
  · exact Safe.pure hb ⟨rfl, hc⟩
  · exact Safe.fault hb trivial

section

variable (he : env.Checked) (h : calls.Follows env.classes)
  (hm : m.At env.classes cx scope)
include h hm

theorem memberPlace_safe {object : Expr} (ho : ExprAt env.classes cx scope object) (name : String)
    (span : Span) : Safe env.classes (calls.memberPlace env object name span)
      (fun p m' => m'.At env.classes cx scope ∧ p.Ok env.classes m'.world.heap) m := by
  unfold memberPlace
  refine Safe.get_bind ?_
  split
  · rename_i c hc
    refine (staticPlace_safe hm.heap (hm.classRef?_has hc) name).mono ?_
    rintro p m' ⟨rfl, hp⟩
    exact ⟨hm, hp⟩
  · refine (h.eval ho hm).bind fun v m₁ hb₁ _ hm₁ => ?_
    cases v with
    | null => exact Safe.fault hb₁ trivial
    | object id =>
      refine Safe.heap_bind ?_
      split
      · rename_i hfield
        exact Safe.pure hb₁ ⟨hm₁, Place.ok_field hfield⟩
      · by_cases lt : id < m₁.world.heap.objects.size
        · refine (staticPlace_safe hb₁ (hb₁ id lt).cls name).mono ?_
          rintro p m' ⟨rfl, hp⟩
          exact ⟨hm₁, hp⟩
        · -- outside the heap there is no static field
          have none : (default : ClassInfo).staticField? env.classes name = none := by
            unfold ClassInfo.staticField?
            rw [ClassInfo.chain_of_no_superclass rfl]
            rfl
          rw [Heap.get_of_le (Nat.le_of_not_lt lt)]
          unfold staticPlace
          rw [show (default : Object).cls = default from rfl, none]
          exact Safe.fault hb₁ trivial

theorem indexPlace_safe {object key : Expr} (ho : ExprAt env.classes cx scope object)
    (hk : ExprAt env.classes cx scope key) (span : Span) :
    Safe env.classes (calls.indexPlace object key span)
      (fun p m' => m'.At env.classes cx scope ∧ p.Ok env.classes m'.world.heap) m := by
  unfold indexPlace
  refine (h.eval ho hm).bind fun v m₁ _ _ hm₁ => (h.eval hk hm₁).bind fun k m₂ hb₂ _ hm₂ => ?_
  cases v with
  | null => exact Safe.fault hb₂ trivial
  | object id =>
    refine Safe.heap_bind ?_
    split
    · refine (Safe.ofExcept hb₂ (listSlot_faults _ _ _ _ _)).bind fun i m₃ hb₃ _ hi => ?_
      subst hi
      exact Safe.pure hb₃ ⟨hm₂, trivial⟩
    · exact Safe.pure hb₂ ⟨hm₂, trivial⟩
    · exact Safe.fault hb₂ trivial

/-- A target is resolved to a place that may be read and written. -/
theorem place_safe {e : Expr} (hx : ExprAt env.classes cx scope e) :
    Safe env.classes (calls.place env e)
      (fun p m' => m'.At env.classes cx scope ∧ p.Ok env.classes m'.world.heap) m := by
  unfold place
  split
  · refine (namePlace_safe hm _).mono ?_
    rintro p m' ⟨rfl, hp⟩
    exact ⟨hm, hp⟩
  · exact memberPlace_safe h hm (hx.operand (by simp [Expr.operands])) _ _
  · exact indexPlace_safe h hm (hx.operand (by simp [Expr.operands]))
      (hx.operand (by simp [Expr.operands])) _
  · exact Safe.fault hm.heap trivial

include he

theorem load_safe {p : Place} (hp : p.Ok env.classes m.world.heap) :
    Safe env.classes (calls.load env p) (fun _ m' => m'.At env.classes cx scope) m := by
  refine ((?_ : Safe env.classes (calls.load env p) (fun _ _ => True) m).stays
    (load_steady env h.steady p) hm).mono fun _ _ hq => hq.1
  have hb := hm.heap
  cases p with
  | var name =>
    obtain ⟨f, fs, hf, -⟩ := hm.frame
    refine Safe.frame_bind hf ?_
    split
    · exact Safe.pure hb trivial
    · exact Safe.fault hb trivial
  | field id name => exact Safe.heap_bind (Safe.pure hb trivial)
  | static c name =>
    exact (readStatic_safe he h hb hp name).bind fun _ m₁ hb₁ _ _ => Safe.pure hb₁ trivial
  | slot id i span =>
    exact Safe.heap_bind ((Safe.ofNative hb _).bind fun _ m₁ hb₁ _ _ => Safe.pure hb₁ trivial)
  | entry id key =>
    exact Safe.heap_bind ((Safe.ofNative hb _).bind fun _ m₁ hb₁ _ _ =>
      (Safe.ofNative hb₁ _).bind fun _ m₂ hb₂ _ _ => Safe.pure hb₂ trivial)

theorem store_safe (v : Value) {p : Place} (hp : p.Ok env.classes m.world.heap) :
    Safe env.classes (calls.store env v p) (fun _ m' => m'.At env.classes cx scope) m := by
  refine ((?_ : Safe env.classes (calls.store env v p) (fun _ _ => True) m).stays
    (store_steady env h.steady v p) hm).mono fun _ _ hq => hq.1
  have hb := hm.heap
  cases p with
  | var name =>
    obtain ⟨f, fs, hf, -⟩ := hm.frame
    refine Safe.frame_bind hf ?_
    split
    · unfold Safe
      rw [Run.ends_modifyFrame, hf]
      exact ⟨hb, .refl _ _, trivial⟩
    · exact Safe.fault hb trivial
  | field id name =>
    exact (Safe.modifyHeap (hb.setField v fun _ ht => hp.2 ht)).mono fun _ _ _ => trivial
  | static c name => exact writeStatic_safe he h hb hp name v
  | slot id i span =>
    refine Safe.heap_bind ((Safe.ofNative hb _).bind fun items m₁ hb₁ _ _ => ?_)
    split
    · exact (Safe.native hb₁ (.modifyItems _ _)).mono fun _ _ _ => trivial
    · exact Safe.fault hb₁ trivial
  | entry id key =>
    exact Safe.heap_bind ((Safe.ofNative hb _).bind fun _ m₁ hb₁ _ _ =>
      (Safe.ofNative hb₁ _).bind fun _ m₂ hb₂ _ _ =>
        (Safe.native hb₂ (.setPayload _ _)).mono fun _ _ _ => trivial)

end

/-! ## Expressions -/

/-- A computation that keeps the frame ends at the place where it started. -/
theorem safe_at {t : ClassTable} {α : Type} {x : Run α} (hs : Steady [] x) (hm : m.At t cx scope)
    (hx : Safe t x (fun _ _ => True) m) : Safe t x (fun _ m' => m'.At t cx scope) m :=
  (hx.stays hs hm).mono fun _ _ hq => hq.1

section

variable (he : env.Checked) (hm : m.At env.classes cx scope)
include hm

theorem native_safe {α : Type} {x : Native α} (hx : Native.Keeps env.classes x) :
    Safe env.classes (Run.native x) (fun _ m' => m'.At env.classes cx scope) m :=
  safe_at ((Balanced.native x).steady _) hm ((Safe.native hm.heap hx).mono fun _ _ _ => trivial)

include he

theorem constant_safe (l : Literal) :
    Safe env.classes (constant env l) (fun _ m' => m'.At env.classes cx scope) m := by
  cases l with
  | integer n => exact native_safe hm (Native.integer_keeps he.proper n)
  | double x => exact native_safe hm (Native.double_keeps he.proper x)
  | boolean b => exact native_safe hm (Native.boolean_keeps he.proper b)
  | string s => exact native_safe hm (Native.string_keeps he.proper s)
  | null => exact Safe.pure hm.heap hm

/-- A constant that an operator computes. -/
theorem operator_safe {x : Except RuntimeError Literal} (hx : FaultsOnOperands x) :
    Safe env.classes (do constant env (← Run.ofExcept x))
      (fun _ m' => m'.At env.classes cx scope) m := by
  refine (Safe.ofExcept hm.heap hx).bind fun l m₁ _ _ hl => ?_
  subst hl
  exact constant_safe he hm l

theorem applyBinary_safe (op : BinaryOp) (l r : Value) (span : Span) :
    Safe env.classes (applyBinary env op l r span) (fun _ m' => m'.At env.classes cx scope) m :=
  Safe.heap_bind (operator_safe he hm (Operator.binary_faults _ _ _ _ _))

omit he in
theorem evalThis_safe (span : Span) :
    Safe env.classes (evalThis span) (fun _ m' => m'.At env.classes cx scope) m := by
  obtain ⟨f, fs, hf, -⟩ := hm.frame
  refine Safe.frame_bind hf ?_
  split
  · exact Safe.pure hm.heap hm
  · exact Safe.fault hm.heap trivial

/-- A class that a call goes to belongs to the table. -/
def Target.Ok (t : ClassTable) : Target → Prop
  | .static c => t.Has c
  | .instance _ => True

omit he in
theorem implicitTarget_safe (name : String) :
    Safe env.classes (implicitTarget env name)
      (fun target m' => m'.At env.classes cx scope ∧ target.Ok env.classes) m := by
  obtain ⟨f, fs, hf, hr⟩ := hm.frame
  refine Safe.frame_bind hf ?_
  split
  · refine Safe.heap_bind ?_
    dsimp only
    split
    · exact Safe.pure hm.heap ⟨hm, trivial⟩
    · exact Safe.pure hm.heap ⟨hm, hr.cls⟩
  · split
    · exact Safe.fault hm.heap trivial
    · exact Safe.pure hm.heap ⟨hm, hr.cls⟩

end

section

variable (he : env.Checked) (h : calls.Follows env.classes) (hm : m.At env.classes cx scope)
include he h hm

theorem evalName_safe (name : String) :
    Safe env.classes (calls.evalName env name) (fun _ m' => m'.At env.classes cx scope) m := by
  refine safe_at (evalName_steady env h.steady name) hm ?_
  obtain ⟨f, fs, hf, hr⟩ := hm.frame
  refine Safe.frame_bind hf ?_
  split
  · exact Safe.pure hm.heap trivial
  · refine Safe.heap_bind ?_
    split
    · exact Safe.pure hm.heap trivial
    · refine (readStatic_safe he h hm.heap hr.cls name).bind fun found m₁ hb₁ _ _ => ?_
      split
      · exact Safe.pure hb₁ trivial
      · exact Safe.fault hb₁ trivial

omit he in
theorem explicitTarget_safe {receiver : Expr} (hx : ExprAt env.classes cx scope receiver) :
    Safe env.classes (calls.explicitTarget env receiver)
      (fun target m' => m'.At env.classes cx scope ∧ target.Ok env.classes) m := by
  refine Safe.get_bind ?_
  split
  · rename_i c hc
    exact Safe.pure hm.heap ⟨hm, hm.classRef?_has hc⟩
  · refine (h.eval hx hm).bind fun v m₁ hb₁ _ hm₁ => ?_
    cases v with
    | object id => exact Safe.pure hb₁ ⟨hm₁, trivial⟩
    | null => exact Safe.fault hb₁ trivial

theorem callTarget_safe {target : Target} (ht : target.Ok env.classes) (name : String)
    (args : List Value) : Safe env.classes (calls.callTarget env target name args)
      (fun _ m' => m'.At env.classes cx scope) m := by
  refine safe_at ((callTarget_balanced env h.steady target name args).steady _) hm ?_
  match target with
  | .static c =>
    exact (callStatic_safe he h hm.heap ht name args).bind fun _ m₁ hb₁ _ _ => Safe.pure hb₁ trivial
  | .instance id =>
    exact (callInstance_safe he h hm.heap id name args).bind fun _ m₁ hb₁ _ _ =>
      Safe.pure hb₁ trivial

/-- A class that `new` does not find is excused: checking found it in the class of the code. -/
theorem evalCreate_safe {type : TypeRef} {args : List Expr} {span : Span}
    (hx : ExprAt env.classes cx scope (.create type args span)) :
    Safe env.classes (calls.evalCreate env type.dataType args)
      (fun _ m' => m'.At env.classes cx scope) m := by
  refine Safe.get_bind ?_
  split
  · rename_i hnone
    refine ⟨hm.heap, fun hp => (by cases hp), fun name hname => ?_⟩
    cases hname
    obtain ⟨role, s, hc, -⟩ := hx
    obtain ⟨f, fs, hf, hr⟩ := hm.frame
    refine hc.create_known.imp_right fun hfound => ?_
    -- neither the running class nor the table has the class, so it is an inner class of the code's
    unfold Machine.lookupClass? at hnone
    rw [hf] at hnone
    unfold CheckContext.lookupClass? at hfound
    rw [hc.classes] at hfound
    split at hnone
    · cases hnone
    · rename_i hinner
      refine ⟨f.cls, cx.cls, hr.cls, hr.code, ?_, hinner, hnone⟩
      split at hfound
      · rename_i d hd
        rw [hd]
        rfl
      · rw [hnone] at hfound
        cases hfound
  · rename_i c hc
    refine (evalAll_safe h (fun e hmem => hx.operand hmem) hm).bind fun vs m₁ _ _ hm₁ => ?_
    have hnew := safe_at ((instantiate_balanced env h.steady c type.dataType.args vs).steady _) hm₁
      (instantiate_safe he h hm₁.heap (hm.lookupClass?_has hc) type.dataType.args vs)
    exact hnew.bind fun id m₂ hb₂ _ hm₂ => Safe.pure hb₂ hm₂

theorem evalLogical_safe (op : BinaryOp) {left right : Expr}
    (hl : ExprAt env.classes cx scope left) (hr : ExprAt env.classes cx scope right) :
    Safe env.classes (calls.evalLogical env op left right)
      (fun _ m' => m'.At env.classes cx scope) m := by
  refine (evalCondition_safe h hl hm).bind fun l m₁ _ _ hm₁ => ?_
  split
  · exact constant_safe he hm₁ _
  · exact (evalCondition_safe h hr hm₁).bind fun _ m₂ _ _ hm₂ => constant_safe he hm₂ _

theorem evalStep_safe {target : Expr} (hx : ExprAt env.classes cx scope target) (up : Bool)
    (span : Span) : Safe env.classes (calls.evalStep env target up span)
      (fun _ m' => m'.At env.classes cx scope) m := by
  refine (place_safe h hm hx).bind fun p m₁ _ _ hp => ?_
  refine (load_safe he h hp.1 hp.2).bind fun before m₂ hb₂ he₂ hm₂ => Safe.heap_bind ?_
  refine (Safe.ofExcept hb₂ (Operator.step_faults _ _ _ _)).bind fun l m₃ _ _ hl => ?_
  subst hl
  refine (constant_safe he hm₂ l).bind fun after m₄ _ he₄ hm₄ => ?_
  refine (store_safe he h hm₄ after ((hp.2.evolves he₂).evolves he₄)).bind fun _ m₅ hb₅ _ hm₅ => ?_
  exact Safe.pure hb₅ hm₅

theorem evalUnary_safe (op : UnaryOp) {operand : Expr} (hx : ExprAt env.classes cx scope operand)
    (span : Span) : Safe env.classes (calls.evalUnary env op operand span)
      (fun _ m' => m'.At env.classes cx scope) m := by
  cases op with
  | plus => exact h.eval hx hm
  | neg =>
    exact (h.eval hx hm).bind fun v m₁ _ _ hm₁ => Safe.heap_bind
      (operator_safe he hm₁ (Operator.negate_faults _ _ _))
  | not =>
    refine (h.eval hx hm).bind fun v m₁ hb₁ _ hm₁ => Safe.heap_bind ?_
    refine (Safe.ofExcept hb₁ (Operator.truth_faults _ _ _)).bind fun b m₂ _ _ hb => ?_
    subst hb
    exact constant_safe he hm₁ _
  | inc | dec =>
    exact (evalStep_safe he h hm hx _ span).bind fun _ m₁ hb₁ _ hm₁ => Safe.pure hb₁ hm₁

theorem evalAssign_safe (op : AssignOp) {target value : Expr}
    (ht : ExprAt env.classes cx scope target) (hv : ExprAt env.classes cx scope value)
    (span : Span) : Safe env.classes (calls.evalAssign env op target value span)
      (fun _ m' => m'.At env.classes cx scope) m := by
  refine (place_safe h hm ht).bind fun p m₁ _ _ hp => ?_
  have rest : ∀ {v : Value} {m₂ : Machine}, m₂.At env.classes cx scope →
      m₁.world.heap.Evolves env.classes m₂.world.heap →
      Safe env.classes (do calls.store env v p; pure v : Run Value)
        (fun _ m' => m'.At env.classes cx scope) m₂ := fun hm₂ he₂ =>
    (store_safe he h hm₂ _ (hp.2.evolves he₂)).bind fun _ m₃ hb₃ _ hm₃ => Safe.pure hb₃ hm₃
  dsimp only
  split
  · exact (h.eval hv hp.1).bind fun v m₂ _ he₂ hm₂ => rest hm₂ he₂
  · refine (load_safe he h hp.1 hp.2).bind fun before m₂ _ he₂ hm₂ => ?_
    refine (h.eval hv hm₂).bind fun operand m₃ _ he₃ hm₃ => ?_
    exact (applyBinary_safe he hm₃ _ _ _ _).bind fun v m₄ _ he₄ hm₄ =>
      rest hm₄ ((he₂.trans he₃).trans he₄)

/-- A checked expression is evaluated at its place. -/
theorem stepEval_safe {e : Expr} (hx : ExprAt env.classes cx scope e) :
    Safe env.classes (calls.stepEval env e) (fun _ m' => m'.At env.classes cx scope) m := by
  have part : ∀ {p : Expr}, p ∈ e.operands → ExprAt env.classes cx scope p := fun hp => hx.operand hp
  cases e with
  | literal value span => exact constant_safe he hm value
  | name i => exact evalName_safe he h hm i.name
  | this span => exact evalThis_safe hm span
  | member object i span =>
    exact (place_safe h hm hx).bind fun p m₁ _ _ hp => load_safe he h hp.1 hp.2
  | index object key span =>
    exact (place_safe h hm hx).bind fun p m₁ _ _ hp => load_safe he h hp.1 hp.2
  | call method args span =>
    refine (implicitTarget_safe hm method.name).bind fun target m₁ _ _ ht => ?_
    exact (evalAll_safe h (fun _ hp => part hp) ht.1).bind fun vs m₂ _ _ hm₂ =>
      callTarget_safe he h hm₂ ht.2 method.name vs
  | callOn receiver method args span =>
    refine (explicitTarget_safe h hm (part List.mem_cons_self)).bind fun target m₁ _ _ ht => ?_
    exact (evalAll_safe h (fun _ hp => part (List.mem_cons_of_mem _ hp)) ht.1).bind
      fun vs m₂ _ _ hm₂ => callTarget_safe he h hm₂ ht.2 method.name vs
  | create type args span => exact evalCreate_safe he h hm hx
  | binary op left right span =>
    have hl : ExprAt env.classes cx scope left := part (by simp [Expr.operands])
    have hr : ExprAt env.classes cx scope right := part (by simp [Expr.operands])
    simp only [stepEval]
    split
    · exact evalLogical_safe he h hm op hl hr
    · exact (h.eval hl hm).bind fun l m₁ _ _ hm₁ => (h.eval hr hm₁).bind fun r m₂ _ _ hm₂ =>
        applyBinary_safe he hm₂ op l r span
  | unary op operand span => exact evalUnary_safe he h hm op (part (by simp [Expr.operands])) span
  | post op operand span =>
    exact (evalStep_safe he h hm (part (by simp [Expr.operands])) _ span).bind
      fun _ m₁ hb₁ _ hm₁ => Safe.pure hb₁ hm₁
  | assign op target value span =>
    exact evalAssign_safe he h hm op (part (by simp [Expr.operands]))
      (part (by simp [Expr.operands])) span
  | conditional condition yes no span =>
    refine (evalCondition_safe h (part (by simp [Expr.operands])) hm).bind fun b m₁ _ _ hm₁ => ?_
    split
    · exact h.eval (part (by simp [Expr.operands])) hm₁
    · exact h.eval (part (by simp [Expr.operands])) hm₁
  | query text span => exact native_safe hm (Native.runQuery_keeps he.proper text)

end

/-! ## Statements -/

/-- A declared variable that checking accepts. -/
theorem checkDeclarator_declares {declared : Option DataType} {v : Declarator} {s : CheckState}
    (hc : Check.Clean (Typing.checkDeclarator cx declared v) s) :
    ∃ scope', s.scope.declare v.name.name declared v.name.span = .ok scope' ∧
      (Typing.checkDeclarator cx declared v s).2.scope = scope' := by
  unfold Typing.checkDeclarator at hc ⊢
  have rest : ∀ {s' : CheckState}, s'.scope = s.scope →
      Check.Clean (Check.declare v.name.name declared v.name.span) s' →
      ∃ scope', s.scope.declare v.name.name declared v.name.span = .ok scope' ∧
        (Check.declare v.name.name declared v.name.span s').2.scope = scope' := by
    intro s' hs hd
    obtain ⟨scope', hd, hrun⟩ := Check.declare_clean hd
    exact ⟨scope', hs ▸ hd, by rw [hrun]⟩
  cases hi : v.init with
  | some e =>
    rw [hi] at hc
    have hq := Typing.checkStored_quiet cx e declared
    obtain ⟨-, hd⟩ := hc.bind hq.errors fun _ => (Check.Nested.declare _ _ _).errors
    exact rest (hq.scope s) hd
  | none =>
    rw [hi] at hc
    exact rest rfl hc

/-- Both sides declare a variable. -/
theorem declare_safe {t : ClassTable} {declared : Option DataType} {v : Declarator}
    {vs : List Declarator} {s : CheckState} {m : Machine} {value : Value}
    (hc : Checks t cx (.vars declared (v :: vs)) s) (hm : m.At t cx s.scope) :
    Safe t (Run.modifyFrame (·.declare v.name.name value))
      (fun _ m' => m'.At t cx (Typing.checkDeclarator cx declared v s).2.scope) m := by
  have hclean : Check.Clean (Typing.checkDeclarator cx declared v) s :=
    (Check.Clean.bind (x := Typing.checkDeclarator cx declared v)
      (f := fun _ => vs.forM (Typing.checkDeclarator cx declared)) hc.clean
      (Typing.checkDeclarator_nested cx declared v).errors fun _ =>
        (Check.Nested.forM (Typing.checkDeclarator_nested cx declared) vs).errors).1
  obtain ⟨scope', hd, hscope⟩ := checkDeclarator_declares hclean
  obtain ⟨f, fs, hf, -⟩ := hm.frame
  unfold Safe
  rw [Run.ends_modifyFrame, hf, hscope]
  exact ⟨hm.heap, .refl _ _, hm.declare hf value hd⟩

section

variable {t : ClassTable} (h : calls.Follows t)
include h

/-- Both sides declare the variables of a declaration. -/
theorem declareVars_safe {declared : Option DataType} : ∀ {vs : List Declarator} {s : CheckState}
    {m : Machine}, Checks t cx (.vars declared vs) s → m.At t cx s.scope →
    Safe t (calls.declareVars vs)
      (fun _ m' => m'.At t cx (vs.forM (Typing.checkDeclarator cx declared) s).2.scope) m
  | [], s, m, _, hm => Safe.pure hm.heap hm
  | v :: vs, s, m, hc, hm => by
    have hvs : Checks t cx (.vars declared vs) (Typing.checkDeclarator cx declared v s).2 :=
      .part hc (List.mem_append_right _ List.mem_cons_self)
    have declare : ∀ {value : Value} {m₁ : Machine}, m₁.At t cx s.scope →
        Safe t (do Run.modifyFrame (·.declare v.name.name value); calls.declareVars vs)
          (fun _ m' => m'.At t cx
            (vs.forM (Typing.checkDeclarator cx declared)
              (Typing.checkDeclarator cx declared v s).2).2.scope) m₁ := fun hm₁ =>
      (declare_safe hc hm₁).bind fun _ m₂ _ _ hm₂ => declareVars_safe hvs hm₂
    unfold declareVars
    split
    · rename_i e hi
      have hx : ExprAt t cx s.scope e := exprAt_part hc (by simp [Code.parts, hi]) fun _ => rfl
      exact (h.eval hx hm).bind fun value m₁ _ _ hm₁ => declare hm₁
    · exact Safe.bind (Q := fun _ m' => m'.At t cx s.scope) (Safe.pure hm.heap hm)
        fun value m₁ _ _ hm₁ => declare hm₁

variable {m : Machine} (hm : m.At t cx scope)
include hm

/-- A branch runs in a block of its own and ends where it started. -/
theorem execBranch_safe {b : Stmt} (hb : StmtAt t cx scope b) :
    Safe t (calls.execBranch b) (fun _ m' => m'.At t cx scope) m := by
  refine safe_at (h.steady.exec b).inBlock hm ?_
  obtain ⟨s, hc, hs⟩ := hb
  obtain ⟨f, fs, hf, -⟩ := hm.frame
  exact Safe.inBlock hf (h.exec hc ((hm.push hf).of_lookup hs))

theorem execBody_safe {b : Stmt} (hb : StmtAt t cx scope b) :
    Safe t (calls.execBody b) (fun _ m' => m'.At t cx scope) m := by
  refine (execBranch_safe h hm hb).bind fun flow m₁ hb₁ _ hm₁ => ?_
  cases flow <;> exact Safe.pure hb₁ hm₁

theorem stepIterate_safe {l : Loop} (hl : LoopAt t cx scope l) :
    Safe t (calls.stepIterate l) (fun _ m' => m'.At t cx scope) m := by
  have pass : ∀ {go : Bool} {m₁ : Machine}, m₁.At t cx scope →
      Safe t (calls.pass l go) (fun _ m' => m'.At t cx scope) m₁ := by
    intro go m₁ hm₁
    cases go with
    | false => exact Safe.pure hm₁.heap hm₁
    | true =>
      refine (execBody_safe h hm₁ hl.body).bind fun flow m₂ hb₂ _ hm₂ => ?_
      cases flow with
      | some flow => exact Safe.pure hb₂ hm₂
      | none =>
        exact (evalAll_safe h hl.update hm₂).bind fun _ m₃ _ _ hm₃ => h.iterate hl hm₃
  cases hc : l.condition with
  | some e =>
    rw [stepIterate_of_some calls hc]
    exact (evalCondition_safe h (hl.condition e hc) hm).bind fun go m₁ _ _ hm₁ => pass hm₁
  | none =>
    rw [stepIterate_of_none calls hc]
    exact pass hm

/-- The loop variable is declared in a block of its own in each pass. -/
theorem execEach_safe {name : String} {declared : Option DataType} {span : Span} {body : Stmt}
    {inner scope' : LocalScope} (hi : ∀ n, inner.lookup? n = scope.lookup? n)
    (hd : inner.declare name declared span = .ok scope') (hb : StmtAt t cx scope' body)
    (vs : List Value) : Safe t (calls.execEach name body vs) (fun _ m' => m'.At t cx scope) m := by
  induction vs generalizing m with
  | nil => exact Safe.pure hm.heap hm
  | cons v vs ih =>
    have pass : Safe t (Run.inBlock do
        Run.modifyFrame (·.declare name v)
        calls.execBody body) (fun _ m' => m'.At t cx scope) m := by
      refine safe_at ((Steady.modifyFrame fun f => f.keeps_declare name v).append fun _ =>
        execBody_steady h.steady body).inBlock hm ?_
      obtain ⟨f, fs, hf, -⟩ := hm.frame
      have step : Safe t (Run.modifyFrame (·.declare name v)) (fun _ m' => m'.At t cx scope')
          { m with frames := f.push :: fs } :=
        ⟨hm.heap, .refl _ _, ((hm.push hf).of_lookup hi).declare rfl v hd⟩
      exact Safe.inBlock hf (step.bind fun _ m₁ _ _ hm₁ => execBody_safe h hm₁ hb)
    refine pass.bind fun flow m₁ hb₁ _ hm₁ => ?_
    cases flow with
    | some flow => exact Safe.pure hb₁ hm₁
    | none => exact ih hm₁

end

/-- The first clause of a `for` loop declares its variables on both sides. -/
theorem execForInit_safe {t : ClassTable} (h : calls.Follows t) {init : Option ForInit}
    {condition : Option Expr} {update : List Expr} {body : Stmt} {span : Span} {s : CheckState}
    (hc : Checks t cx (.stmt (.forLoop init condition update body span)) s) {m : Machine}
    (hm : m.At t cx s.scope) : Safe t (calls.execForInit init)
      (fun _ m' => m'.At t cx (Typing.checkForInit cx init (Typing.pushed s)).2.scope) m := by
  match init with
  | some (.declare d) =>
    have hq := Typing.resolveType_quiet cx d.type.dataType d.type.span
    have hvars : Checks t cx
        (.vars (cx.resolveType d.type.dataType d.type.span (Typing.pushed s)).1 d.vars)
        (cx.resolveType d.type.dataType d.type.span (Typing.pushed s)).2 :=
      hc.forInit List.mem_cons_self
    have hat : m.At t cx (cx.resolveType d.type.dataType d.type.span (Typing.pushed s)).2.scope := by
      rw [hq.scope]
      exact hm.of_lookup fun _ => rfl
    exact declareVars_safe h hvars hat
  | some (.exprs es) =>
    have hq := Check.Quiet.forM (Typing.checkExpr_quiet cx) es
    refine Safe.bind (evalAll_safe h hc.forInit_exprs hm) fun _ m₁ hb₁ _ hm₁ =>
      Safe.pure hb₁ (hm₁.of_lookup fun name => ?_)
    show (es.forM (Typing.checkExpr cx) (Typing.pushed s)).2.scope.lookup? name = _
    rw [hq.scope]
    rfl
  | none => exact Safe.pure hm.heap (hm.of_lookup fun _ => rfl)

/-- A checked statement is executed at its place. -/
theorem stepExec_safe {t : ClassTable} (h : calls.Follows t) {b : Stmt} {s : CheckState}
    (hc : Checks t cx (.stmt b) s) {m : Machine} (hm : m.At t cx s.scope) :
    Safe t (calls.stepExec b)
      (fun flow m' => flow = .normal → m'.At t cx (Typing.checkStmt cx b s).2.scope) m := by
  -- only a declaration changes what checking sees
  have same : (∀ d, b ≠ .declare d) → Safe t (calls.stepExec b) (fun _ m' => m'.At t cx s.scope) m →
      Safe t (calls.stepExec b)
        (fun flow m' => flow = .normal → m'.At t cx (Typing.checkStmt cx b s).2.scope) m := by
    intro hb hx
    exact hx.mono fun _ _ hm' _ =>
      hm'.of_lookup (hc.lookup?_restores (Typing.checkStmt_restores cx b hb))
  cases b with
  | declare d =>
    have hvars : Checks t cx (.vars (cx.resolveType d.type.dataType d.type.span s).1 d.vars)
        (cx.resolveType d.type.dataType d.type.span s).2 := .part hc List.mem_cons_self
    have hq := Typing.resolveType_quiet cx d.type.dataType d.type.span
    refine (declareVars_safe h hvars (hq.scope s ▸ hm)).bind fun _ m₁ hb₁ _ hm₁ => ?_
    refine Safe.pure hb₁ fun _ => ?_
    unfold Typing.checkStmt
    exact hm₁
  | expr e span =>
    refine same (by simp) ?_
    exact (h.eval (exprAt_part hc List.mem_cons_self fun _ => rfl) hm).bind fun _ m₁ hb₁ _ hm₁ =>
      Safe.pure hb₁ hm₁
  | block stmts span =>
    refine same (by simp) (safe_at (execAll_steady h.steady stmts).inBlock hm ?_)
    obtain ⟨f, fs, hf, -⟩ := hm.frame
    have hss : Checks t cx (.stmts stmts) (Typing.pushed s) := .part hc List.mem_cons_self
    exact Safe.inBlock hf (execAll_safe h hss ((hm.push hf).of_lookup fun _ => rfl))
  | ifElse condition yes no span =>
    obtain ⟨hcond, hyes, hno⟩ := hc.ifElse
    refine same (by simp) ?_
    refine (evalCondition_safe h hcond hm).bind fun b m₁ hb₁ _ hm₁ => ?_
    split
    · exact execBranch_safe h hm₁ hyes
    · split
      · exact execBranch_safe h hm₁ (hno _ rfl)
      · exact Safe.pure hb₁ hm₁
  | whileLoop condition body span => exact same (by simp) (h.iterate hc.whileLoop hm)
  | doWhile body condition span =>
    refine same (by simp) ?_
    refine (execBody_safe h hm hc.doWhile.body).bind fun flow m₁ hb₁ _ hm₁ => ?_
    cases flow with
    | some flow => exact Safe.pure hb₁ hm₁
    | none => exact h.iterate hc.doWhile hm₁
  | forLoop init condition update body span =>
    obtain ⟨vars, hi⟩ := execForInit_steady h.steady init
    refine same (by simp) (safe_at (hi.append fun _ => h.steady.iterate _).inBlock hm ?_)
    obtain ⟨f, fs, hf, -⟩ := hm.frame
    refine Safe.inBlock (Q := fun _ _ => True) hf ?_
    exact (execForInit_safe h hc (hm.push hf)).bind fun _ m₁ _ _ hm₁ =>
      (h.iterate hc.forLoop hm₁).mono fun _ _ _ => trivial
  | foreach type var iterable body span =>
    obtain ⟨hx, declared, inner, scope', hi, hd, hb⟩ := hc.foreach
    refine same (by simp) ((h.eval hx hm).bind fun v m₁ hb₁ _ hm₁ => ?_)
    cases v with
    | null => exact Safe.fault hb₁ trivial
    | object id =>
      refine Safe.heap_bind ((Safe.ofNative hb₁ _).bind fun items m₂ _ _ hm₂ => ?_)
      subst hm₂
      exact execEach_safe h hm₁ hi hd hb _
  | ret value span =>
    refine same (by simp) ?_
    cases value with
    | some e =>
      exact (h.eval (exprAt_part hc List.mem_cons_self fun _ => rfl) hm).bind fun _ m₁ hb₁ _ hm₁ =>
        Safe.pure hb₁ hm₁
    | none => exact Safe.pure hm.heap hm
  | brk span => exact same (by simp) (Safe.pure hm.heap hm)
  | cont span => exact same (by simp) (Safe.pure hm.heap hm)

/-! ## All of evaluation -/

/-- Evaluation follows checked code, under a probe that stops at no checked expression. -/
theorem probing_follows (he : env.Checked) {stop : Expr → Machine → Prop}
    (hstop : ∀ {cx scope e m}, ExprAt env.classes cx scope e → m.At env.classes cx scope →
      ¬ stop e m) : ∀ n, (probing env stop n).Follows env.classes
  | 0 =>
    have halts : ∀ {α : Type} {Q : α → Machine → Prop} {m : Machine} {cx scope},
        m.At env.classes cx scope → Safe env.classes (throw .outOfFuel : Run α) Q m := fun hm =>
      Safe.halt hm.heap ⟨fun hp => (by cases hp), fun _ hc => (by cases hc)⟩
    ⟨probing_steady env stop 0, fun _ hm => halts hm, fun _ hm => halts hm, fun _ hm => halts hm⟩
  | n + 1 => by
    have ih := probing_follows he hstop n
    refine ⟨probing_steady env stop (n + 1), fun {cx scope e m} hx hm => ?_,
      fun hc hm => stepExec_safe ih hc hm, fun hl hm => stepIterate_safe ih hm hl⟩
    have hstep := stepEval_safe he ih hm hx
    unfold Safe Run.Ends at hstep ⊢
    have hrun : (probing env stop (n + 1)).eval e m = (probing env stop n).stepEval env e m :=
      if_neg (hstop hx hm)
    rwa [hrun]

end Calls

end ClassScript
