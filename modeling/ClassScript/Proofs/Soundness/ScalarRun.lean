import ClassScript.Proofs.Soundness.ScalarChecked
import ClassScript.Proofs.Soundness.ScalarState

/-!
# Scalar code that is checked runs without surprises

Typed expressions evaluate to values of their type and typed statements end as their method allows
(`Calls.Sound`). One lemma for each step, over calls that are sound already; `Calls.withFuel_sound`
is the induction on the fuel. With the derivations that checking finds, `scalar_body_sound` follows.
-/

namespace ClassScript

open Run (Keeps)

/-! ## How a statement may end -/

/-- How a statement of a method with the declared result `ret` may end, in a loop or not. -/
def FlowFits (ret : Option DataType) (loop : Bool) (h : Heap) : Flow → Prop
  | .normal => True
  | .ret none => ∀ d, ret = some d → d.isVoid = true
  | .ret (some v) =>
    (∃ t, h.HasType v t) ∧ ∀ d, ret = some d → d.isVoid = false ∧ h.HasType v d
  | .brk => loop = true
  | .cont => loop = true

theorem FlowFits.mono {ret : Option DataType} {loop : Bool} {h : Heap} {flow : Flow}
    (hf : FlowFits ret false h flow) : FlowFits ret loop h flow := by
  cases flow with
  | normal => trivial
  | ret v => cases v <;> exact hf
  | brk => cases hf
  | cont => cases hf

/-- A loop with a typed condition, typed updates and a typed body. -/
structure LoopTyped (classes : ClassTable) (ret : Option DataType) (bs : BlockStack) (l : Loop) :
    Prop where
  condition : ∀ e, l.condition = some e → ConditionTyped classes bs e
  update : ∀ e ∈ l.update, ∃ t, ExprTyped classes bs e t
  body : ∃ b, StmtTyped classes ret true bs .empty l.body b

/-- A statement keeps the types of the frame: those after it if it ends normally, and otherwise
those of some point inside it. -/
def Run.KeepsBlock (m : Machine) (ret : Option DataType) (loop : Bool) (bs : BlockStack)
    (b' : NameTable LocalVar) (x : Run Flow) : Prop :=
  x.Ends (fun flow m' => m.world.heap.Grows m'.world.heap ∧ FlowFits ret loop m'.world.heap flow ∧
      (flow = .normal → m'.Fits (b' :: bs)) ∧ ∃ b, m'.Fits (b :: bs))
    (fun r _ => ScalarHalt r) m

/-- Evaluation and execution of typed code. -/
structure Calls.Sound (calls : Calls) (classes : ClassTable) (ret : Option DataType) : Prop where
  eval : ∀ {m bs e t}, m.Fits bs → ExprTyped classes bs e t →
    Keeps m bs (calls.eval e) fun v h => h.HasType v t
  exec : ∀ {m bs b b' loop s}, m.Fits (b :: bs) → StmtTyped classes ret loop bs b s b' →
    Run.KeepsBlock m ret loop bs b' (calls.exec s)
  iterate : ∀ {m bs l}, m.Fits bs → LoopTyped classes ret bs l →
    Keeps m bs (calls.iterate l) fun flow h => FlowFits ret false h flow

namespace Calls

variable {env : Env} {calls : Calls} {ret : Option DataType} {m : Machine} {bs : BlockStack}
  (he : env.Standard)

/-! ## Expressions -/

section
include he

theorem applyBinary_keeps {op : BinaryOp} {l r : Value} {t : DataType} {span : Span}
    (hm : m.Fits bs)
    (hy : Operator.Yields (Operator.binary m.world.heap op l r span) fun c => c.dataType = t) :
    Keeps m bs (applyBinary env op l r span) fun v h => h.HasType v t := by
  unfold applyBinary
  refine Keeps.heap_bind ((Keeps.ofExcept hm hy).bind fun c m' hm' _ hc => ?_)
  rw [← hc]
  exact Run.constant_keeps he hm' c

variable (hc : calls.Sound env.classes ret)
include hc

omit he in
theorem evalCondition_keeps {e : Expr} (hm : m.Fits bs) (ht : ConditionTyped env.classes bs e) :
    Keeps m bs (calls.evalCondition e) fun _ _ => True := by
  obtain ⟨t, ht, hb⟩ := ht
  unfold evalCondition
  refine (hc.eval hm ht).bind fun v m' hm' _ hv => Keeps.heap_bind ?_
  exact Keeps.ofExcept hm' (Operator.truth_yields hv hb _)

theorem evalLogical_keeps {op : BinaryOp} {left right : Expr} (hm : m.Fits bs)
    (hl : ConditionTyped env.classes bs left) (hr : ConditionTyped env.classes bs right) :
    Keeps m bs (calls.evalLogical env op left right) fun v h => h.HasType v .boolean := by
  unfold evalLogical
  refine (evalCondition_keeps hc hm hl).bind fun l m' hm' _ _ => ?_
  split
  · exact Run.constant_keeps he hm' (.boolean l)
  · refine (evalCondition_keeps hc hm' hr).bind fun r m'' hm'' _ _ => ?_
    exact Run.constant_keeps he hm'' (.boolean r)

theorem binary_keeps {op : BinaryOp} {left right : Expr} {span : Span} {a b t : DataType}
    (hm : m.Fits bs) (hl : ExprTyped env.classes bs left a) (hr : ExprTyped env.classes bs right b)
    (rule : BinaryRule op a b t) :
    Keeps m bs (calls.stepEval env (.binary op left right span)) fun v h => h.HasType v t := by
  have strict : op.isLogical = false → (∀ {h l r}, h.HasType l a → h.HasType r b →
      Operator.Yields (Operator.binary h op l r span) fun c => c.dataType = t) →
      Keeps m bs (calls.stepEval env (.binary op left right span)) fun v h => h.HasType v t := by
    intro hop hy
    simp only [stepEval, hop, Bool.false_eq_true, if_false]
    refine (hc.eval hm hl).bind fun l m₁ hm₁ _ hvl => ?_
    refine (hc.eval hm₁ hr).bind fun r m₂ hm₂ g hvr => ?_
    exact applyBinary_keeps he hm₂ (hy (hvl.grows g) hvr)
  cases rule with
  | equality ho =>
    exact strict (by cases op <;> first | rfl | cases ho) fun _ _ => Operator.binary_equality ho span
  | relational ho hcmp =>
    exact strict (by cases op <;> first | rfl | cases ho)
      fun hl hr => Operator.binary_relational hl hr ho hcmp span
  | arithmetic ho ht =>
    exact strict ho.2.1 fun hl hr => Operator.binary_arithmetic hl hr ho ht span
  | logical ho ha hb =>
    simp only [stepEval, ho, if_true]
    exact evalLogical_keeps he hc hm ⟨a, hl, ha⟩ ⟨b, hr, hb⟩

theorem evalUnary_keeps {op : UnaryOp} {e : Expr} {span : Span} {t : DataType} (hm : m.Fits bs)
    (ht : ExprTyped env.classes bs e t) (rule : UnaryRule op t) :
    Keeps m bs (calls.evalUnary env op e span) fun v h => h.HasType v t := by
  cases rule with
  | plus _ => exact hc.eval hm ht
  | neg hi =>
    refine (hc.eval hm ht).bind fun v m₁ hm₁ _ hv => Keeps.heap_bind ?_
    refine (Keeps.ofExcept hm₁ (Operator.negate_yields hv hi span)).bind fun c m₂ hm₂ _ hs => ?_
    exact (Run.constant_keeps he hm₂ c).mono fun _ _ hv => hv.of_same hs
  | not hb =>
    refine (hc.eval hm ht).bind fun v m₁ hm₁ _ hv => Keeps.heap_bind ?_
    -- the constant is made only if the operand is there, and then the operand's type is Boolean
    rcases hv.scalar (k := .boolean) hb with rfl | ⟨-, hs⟩
    · exact .fault (.null span)
    · refine (Keeps.ofExcept hm₁ (Operator.truth_yields hv hb span)).bind fun x m₂ hm₂ _ _ => ?_
      exact (Run.constant_keeps he hm₂ (.boolean !x)).mono fun _ _ hv => hv.of_same hs

omit hc in
theorem evalStep_keeps {i : Ident} {up : Bool} {span : Span} {var : LocalVar} {t : DataType}
    (hm : m.Fits bs) (hv : bs.find? i.name = some var) (ht : var.type = some t)
    (hi : t.isInteger = true) :
    Keeps m bs (calls.evalStep env (.name i) up span) fun p h => h.HasType p.1 t ∧ h.HasType p.2 t := by
  unfold evalStep
  refine (Run.namePlace_keeps hm hv ht).bind fun p m₁ hm₁ _ hp => ?_
  subst hp
  refine (Run.load_var_keeps calls hm₁ hv ht).bind fun before m₂ hm₂ _ hb => Keeps.heap_bind ?_
  refine (Keeps.ofExcept hm₂ (Operator.step_yields hb hi up span)).bind fun c m₃ hm₃ g₃ hs => ?_
  refine (Run.constant_keeps he hm₃ c).bind fun after m₄ hm₄ g₄ ha => ?_
  have ha := ha.of_same hs
  refine (Run.store_var_keeps calls hm₄ hv ht ha).bind fun _ m₅ hm₅ g₅ _ => ?_
  exact Keeps.pure hm₅ ⟨hb.grows (g₃.trans (g₄.trans g₅)), ha.grows g₅⟩

theorem evalAssign_keeps {op : AssignOp} {i : Ident} {value : Expr} {span : Span} {t : DataType}
    (hm : m.Fits bs) (ht : ExprTyped env.classes bs (.assign op (.name i) value span) t) :
    Keeps m bs (calls.evalAssign env op (.name i) value span) fun v h => h.HasType v t := by
  have stored : ∀ {v : Value} {m' : Machine} {var : LocalVar}, bs.find? i.name = some var →
      var.type = some t → m'.Fits bs → m'.world.heap.HasType v t →
      Keeps m' bs (do calls.store env v (.var i.name); pure v : Run Value)
        fun v h => h.HasType v t := by
    intro v m' var hv hvt hm' hty
    refine (Run.store_var_keeps calls hm' hv hvt hty).bind fun _ m'' hm'' g _ => ?_
    exact Keeps.pure hm'' (hty.grows g)
  unfold evalAssign
  cases ht with
  | assign ho hi hval hf =>
    cases hi with
    | name hv hvt =>
      refine (Run.namePlace_keeps hm hv hvt).bind fun p m₁ hm₁ _ hp => ?_
      subst hp
      rw [ho]
      refine (hc.eval hm₁ hval).bind fun v m₂ hm₂ _ hty => ?_
      exact stored hv hvt hm₂ (hty.fits hf)
  | compound ho hi hval hr hf =>
    rename_i o a r
    cases hi with
    | name hv hvt =>
      have hop : o.isEquality = false ∧ o.isLogical = false ∧ o.isRelational = false := by
        cases op <;> cases ho <;> decide
      refine (Run.namePlace_keeps hm hv hvt).bind fun p m₁ hm₁ _ hp => ?_
      subst hp
      rw [ho]
      refine (Run.load_var_keeps calls hm₁ hv hvt).bind fun before m₂ hm₂ _ hb => ?_
      refine (hc.eval hm₂ hval).bind fun operand m₃ hm₃ g₃ ho' => ?_
      refine (applyBinary_keeps he hm₃ (Operator.binary_arithmetic (hb.grows g₃) ho' hop hr span)).bind
        fun v m₄ hm₄ _ hty => ?_
      exact stored hv hvt hm₄ (hty.fits hf)

/-- A typed expression evaluates to a value of its type. -/
theorem stepEval_keeps {e : Expr} {t : DataType} (hm : m.Fits bs)
    (ht : ExprTyped env.classes bs e t) :
    Keeps m bs (calls.stepEval env e) fun v h => h.HasType v t := by
  cases ht with
  | literal => exact Run.constant_keeps he hm _
  | name hv hvt =>
    refine Run.frame_bind_keeps hm hv hvt fun fr v hl hty => ?_
    rw [hl]
    exact Keeps.pure hm hty
  | binary hl hr rule => exact binary_keeps he hc hm hl hr rule
  | unary ht rule => exact evalUnary_keeps he hc hm ht rule
  | @step op i span _ ho hi hint =>
    cases hi with
    | name hv hvt =>
      have stepped : ∀ up, Keeps m bs (do
          return (← calls.evalStep env (.name i) up span).2 : Run Value) fun v h => h.HasType v t :=
        fun up => (evalStep_keeps he hm hv hvt hint).bind fun p m' hm' _ hp => Keeps.pure hm' hp.2
      cases op with
      | inc => exact stepped true
      | dec => exact stepped false
      | _ => cases ho
  | post hi hint =>
    cases hi with
    | name hv hvt =>
      exact (evalStep_keeps he hm hv hvt hint).bind fun p m' hm' _ hp => Keeps.pure hm' hp.1
  | assign ho hi hval hf => exact evalAssign_keeps he hc hm (.assign ho hi hval hf)
  | compound ho hi hval hr hf => exact evalAssign_keeps he hc hm (.compound ho hi hval hr hf)
  | conditional hcond hk hy hn rule =>
    refine (evalCondition_keeps hc hm ⟨_, hcond, hk⟩).bind fun b m' hm' _ _ => ?_
    split
    · exact (hc.eval hm' hy).mono fun _ _ hv => .join he.classes rule (.inl hv)
    · exact (hc.eval hm' hn).mono fun _ _ hv => .join he.classes rule (.inr hv)

end

/-! ## Statements -/

/-- Running in a block of its own: what the block declares is gone, the rest keeps its types. -/
theorem inBlock_keeps {loop : Bool} (b' : NameTable LocalVar) {x : Run Flow} (hm : m.Fits bs)
    (hx : ∀ m', m'.Fits (.empty :: bs) → m'.world.heap = m.world.heap →
      Run.KeepsBlock m' ret loop bs b' x) :
    Keeps m bs (Run.inBlock x) fun flow h => FlowFits ret loop h flow := by
  obtain ⟨f, fs, hf, hb⟩ := hm
  have hx := hx { m with frames := f.push :: fs } ⟨f.push, fs, rfl, .cons (.empty _) hb⟩ rfl
  unfold Keeps
  rw [Run.ends_inBlock, hf]
  refine Run.Ends.mono hx (fun flow m' ⟨hg, hflow, _, b, g, gs, hg', hgb⟩ => ?_) fun _ _ hr => hr
  obtain ⟨world, frames, statics⟩ := m'
  obtain rfl : frames = g :: gs := hg'
  refine ⟨⟨g.pop, gs, rfl, ?_⟩, hg, hflow⟩
  unfold Frame.blocks at hgb
  cases hgb with
  | cons _ htl =>
    unfold Frame.pop
    cases ho : g.outer with
    | nil =>
      rw [ho] at htl
      cases htl
      cases hb
    | cons block outer =>
      rw [ho] at htl
      exact htl

theorem keepsBlock_of_keeps {loop : Bool} {b : NameTable LocalVar} {x : Run Flow}
    (h : Keeps m (b :: bs) x fun flow h => FlowFits ret loop h flow) :
    Run.KeepsBlock m ret loop bs b x :=
  Run.Ends.mono h (fun _ _ ⟨hm, hg, hf⟩ => ⟨hg, hf, fun _ => hm, b, hm⟩) fun _ _ hr => hr

section
variable (hc : calls.Sound env.classes ret)
include hc

theorem execBranch_keeps {loop : Bool} {st : Stmt} {b' : NameTable LocalVar} (hm : m.Fits bs)
    (ht : StmtTyped env.classes ret loop bs .empty st b') :
    Keeps m bs (calls.execBranch st) fun flow h => FlowFits ret loop h flow :=
  inBlock_keeps b' hm fun _ hm' _ => hc.exec hm' ht

/-- A pass of a loop takes up `break` and `continue`. -/
theorem execBody_keeps {body : Stmt} {b' : NameTable LocalVar} (hm : m.Fits bs)
    (ht : StmtTyped env.classes ret true bs .empty body b') :
    Keeps m bs (calls.execBody body) fun flow h => ∀ f, flow = some f → FlowFits ret false h f := by
  refine (execBranch_keeps hc hm ht).bind fun flow m' hm' _ hf => ?_
  cases flow with
  | normal | cont => exact Keeps.pure hm' (by simp)
  | brk => exact Keeps.pure hm' fun f hf => by cases hf; trivial
  | ret v => exact Keeps.pure hm' fun f hf' => by cases hf'; cases v <;> exact hf

theorem evalAll_keeps : ∀ es : List Expr, ∀ {m : Machine}, m.Fits bs →
    (∀ e ∈ es, ∃ t, ExprTyped env.classes bs e t) →
    Keeps m bs (calls.evalAll es) fun _ _ => True
  | [], _, hm, _ => Keeps.pure hm trivial
  | e :: es, m, hm, ht => by
    obtain ⟨t, hte⟩ := ht e List.mem_cons_self
    refine (hc.eval hm hte).bind fun v m₁ hm₁ _ _ => ?_
    refine (evalAll_keeps es hm₁ fun e' he' => ht e' (List.mem_cons_of_mem _ he')).bind
      fun vs m₂ hm₂ _ _ => ?_
    exact Keeps.pure hm₂ trivial

/-- One pass of a loop and all that follow. -/
theorem stepIterate_keeps {l : Loop} (hm : m.Fits bs) (ht : LoopTyped env.classes ret bs l) :
    Keeps m bs (calls.stepIterate l) fun flow h => FlowFits ret false h flow := by
  have pass : ∀ (go : Bool) (m : Machine), m.Fits bs →
      Keeps m bs (calls.pass l go) fun flow h => FlowFits ret false h flow := by
    intro go m hm
    cases go with
    | false => exact Keeps.pure hm trivial
    | true =>
      obtain ⟨b, hb⟩ := ht.body
      refine (execBody_keeps hc hm hb).bind fun flow m₁ hm₁ _ hf => ?_
      cases flow with
      | some flow => exact Keeps.pure hm₁ (hf flow rfl)
      | none => exact (evalAll_keeps hc l.update hm₁ ht.update).bind fun _ m₂ hm₂ _ _ =>
          hc.iterate hm₂ ht
  cases hcond : l.condition with
  | some e =>
    rw [stepIterate_of_some calls hcond]
    exact (evalCondition_keeps hc hm (ht.condition e hcond)).bind fun go m' hm' _ _ => pass go m' hm'
  | none =>
    rw [stepIterate_of_none calls hcond]
    exact pass true m hm

omit hc in
/-- A declared variable is added to the innermost block. -/
theorem declare_fits {b : NameTable LocalVar} {var : LocalVar} {t : DataType} {v : Value}
    (name : String) (hm : m.Fits (b :: bs)) (ht : var.type = some t)
    (hv : m.world.heap.HasType v t) :
    (Run.modifyFrame (·.declare name v)).Ends
      (fun _ m' => m.world.heap.Grows m'.world.heap ∧ m'.Fits (b.insert name var :: bs))
      (fun r _ => ScalarHalt r) m := by
  obtain ⟨f, fs, hf, hb⟩ := hm
  rw [Run.ends_modifyFrame, hf]
  unfold Frame.blocks at hb
  cases hb with
  | cons hblock htl =>
    exact ⟨.refl _, f.declare name v, fs, rfl, .cons (hblock.insert ⟨t, ht, hv⟩ name) htl⟩

theorem declareVars_fits {t : DataType} (vs : List Declarator) {m : Machine}
    {b b' : NameTable LocalVar} (hm : m.Fits (b :: bs)) (ht : VarsTyped env.classes t bs b vs b') :
    (calls.declareVars vs).Ends
      (fun _ m' => m.world.heap.Grows m'.world.heap ∧ m'.Fits (b' :: bs))
      (fun r _ => ScalarHalt r) m := by
  induction ht generalizing m with
  | nil => exact ⟨.refl _, hm⟩
  | @cons b v vs var b' hi hvar _ ih =>
    have declared : ∀ (value : Value) (m' : Machine), m.world.heap.Grows m'.world.heap →
        m'.Fits (b :: bs) → m'.world.heap.HasType value t →
        (do Run.modifyFrame (·.declare v.name.name value); calls.declareVars vs : Run Unit).Ends
          (fun _ m'' => m.world.heap.Grows m''.world.heap ∧ m''.Fits (b' :: bs))
          (fun r _ => ScalarHalt r) m' := by
      intro value m' g hm' hv
      rw [Run.ends_bind]
      refine (declare_fits v.name.name hm' hvar hv).mono (fun _ m₁ h₁ => ?_) fun _ _ hr => hr
      obtain ⟨g₁, hm₁⟩ := h₁
      exact (ih hm₁).mono (fun _ _ h₂ => ⟨g.trans (g₁.trans h₂.1), h₂.2⟩) fun _ _ hr => hr
    unfold declareVars
    split
    · rename_i e hie
      obtain ⟨a, ha, hf⟩ := hi e hie
      rw [Run.ends_bind]
      refine Run.Ends.mono (hc.eval hm ha) (fun value m' h => ?_) fun _ _ hr => hr
      obtain ⟨hm', g, hv⟩ := h
      exact declared value m' g hm' (hv.fits hf)
    · exact declared .null m (.refl _) hm (.null _ _)

theorem execForInit_fits {init : Option ForInit} {b b' : NameTable LocalVar} (hm : m.Fits (b :: bs))
    (ht : InitTyped env.classes bs b init b') :
    (calls.execForInit init).Ends
      (fun _ m' => m.world.heap.Grows m'.world.heap ∧ m'.Fits (b' :: bs))
      (fun r _ => ScalarHalt r) m := by
  cases ht with
  | none => exact ⟨.refl _, hm⟩
  | declare hd => exact declareVars_fits hc _ hm hd
  | exprs hes =>
    have h := (evalAll_keeps hc _ hm hes).bind fun _ m' hm' _ _ =>
      Keeps.pure (P := fun _ _ => True) (a := ()) hm' trivial
    exact Run.Ends.mono h (fun _ _ ⟨hm', g, _⟩ => ⟨g, hm'⟩) fun _ _ hr => hr

/-- Statements in order end as the first that does not end normally, or normally after the last. -/
theorem execAll_fits : ∀ ss : List Stmt, ∀ {m : Machine} {b b' : NameTable LocalVar} {loop : Bool},
    m.Fits (b :: bs) → StmtsTyped env.classes ret loop bs b ss b' →
    Run.KeepsBlock m ret loop bs b' (calls.execAll ss)
  | [], m, b, b', loop, hm, ht => by
    cases ht
    exact ⟨.refl _, trivial, fun _ => hm, b, hm⟩
  | st :: ss, m, b, b', loop, hm, ht => by
    cases ht with
    | cons hst hss =>
    unfold execAll Run.KeepsBlock
    rw [Run.ends_bind]
    refine Run.Ends.mono (hc.exec hm hst) (fun flow m₁ ⟨g, hflow, hnext, hsome⟩ => ?_) fun _ _ hr => hr
    cases flow with
    | normal =>
      exact Run.Ends.mono (execAll_fits ss (hnext rfl) hss)
        (fun _ _ ⟨g', h'⟩ => ⟨g.trans g', h'⟩) fun _ _ hr => hr
    | ret v => exact ⟨g, hflow, nofun, hsome⟩
    | brk => exact ⟨g, hflow, nofun, hsome⟩
    | cont => exact ⟨g, hflow, nofun, hsome⟩

/-- A typed statement ends as its method allows, in a frame of the types after it. -/
theorem stepExec_fits {st : Stmt} {loop : Bool} {b b' : NameTable LocalVar} (hm : m.Fits (b :: bs))
    (ht : StmtTyped env.classes ret loop bs b st b') :
    Run.KeepsBlock m ret loop bs b' (calls.stepExec st) := by
  cases ht with
  | expr hte =>
    exact keepsBlock_of_keeps ((hc.eval hm hte).bind fun _ m' hm' _ _ => Keeps.pure hm' trivial)
  | declare hd =>
    unfold stepExec Run.KeepsBlock
    rw [Run.ends_bind]
    refine (declareVars_fits hc _ hm hd).mono (fun _ m' ⟨g, hm'⟩ => ?_) fun _ _ hr => hr
    exact ⟨g, trivial, fun _ => hm', _, hm'⟩
  | block hss => exact keepsBlock_of_keeps (inBlock_keeps _ hm fun _ hm' _ => execAll_fits hc _ hm' hss)
  | ifThen hcond hy =>
    refine keepsBlock_of_keeps ((evalCondition_keeps hc hm hcond).bind fun go m' hm' _ _ => ?_)
    split
    · exact execBranch_keeps hc hm' hy
    · exact Keeps.pure hm' trivial
  | ifElse hcond hy hn =>
    refine keepsBlock_of_keeps ((evalCondition_keeps hc hm hcond).bind fun go m' hm' _ _ => ?_)
    split
    · exact execBranch_keeps hc hm' hy
    · exact execBranch_keeps hc hm' hn
  | whileLoop hcond hb =>
    refine keepsBlock_of_keeps ((hc.iterate hm ⟨?_, by simp, _, hb⟩).mono fun _ _ hf => hf.mono)
    intro e hce
    cases hce
    exact hcond
  | doWhile hcond hb =>
    refine keepsBlock_of_keeps ((execBody_keeps hc hm hb).bind fun flow m' hm' _ hf => ?_)
    cases flow with
    | some flow => exact Keeps.pure hm' (hf flow rfl).mono
    | none =>
      refine (hc.iterate hm' ⟨?_, by simp, _, hb⟩).mono fun _ _ hf => hf.mono
      intro e hce
      cases hce
      exact hcond
  | @forLoop _ _ _ _ _ _ _ _ b₁ _ hi hcond hu hb =>
    -- the variables of the first clause last for all rounds
    refine keepsBlock_of_keeps (inBlock_keeps b₁ hm fun m' hm' _ => ?_)
    unfold Run.KeepsBlock
    rw [Run.ends_bind]
    refine (execForInit_fits hc hm' hi).mono (fun _ m₁ ⟨g, hm₁⟩ => ?_) fun _ _ hr => hr
    refine Run.Ends.mono (hc.iterate hm₁ ⟨hcond, hu, _, hb⟩) (fun flow m₂ ⟨hm₂, g₂, hf⟩ => ?_)
      fun _ _ hr => hr
    exact ⟨g.trans g₂, hf.mono, fun _ => hm₂, _, hm₂⟩
  | retVoid hr => exact ⟨.refl _, hr, nofun, b, hm⟩
  | ret hte hr =>
    refine keepsBlock_of_keeps ((hc.eval hm hte).bind fun v m' hm' _ hv => ?_)
    exact Keeps.pure hm' ⟨⟨_, hv⟩, fun d hd => ⟨(hr d hd).1, hv.fits (hr d hd).2⟩⟩
  | brk => exact ⟨.refl _, rfl, nofun, b, hm⟩
  | cont => exact ⟨.refl _, rfl, nofun, b, hm⟩

end

/-- Typed code is evaluated and executed as its types say, with any fuel. -/
theorem withFuel_sound (he : env.Standard) (ret : Option DataType) :
    ∀ n, (Calls.withFuel env n).Sound env.classes ret
  | 0 => ⟨fun _ _ => .outOfFuel, fun _ _ => .outOfFuel, fun _ _ => .outOfFuel⟩
  | n + 1 =>
    have ih := withFuel_sound he ret n
    ⟨stepEval_keeps he ih, stepExec_fits ih, stepIterate_keeps ih⟩

end Calls

/-! ## Bodies of methods -/

/-- Parameters hold the arguments they are bound to. -/
theorem declareParams_fits {h : Heap} {bs : BlockStack} : ∀ (ps : List ParamInfo) {args : List Value}
    {f : Frame} {b b' : NameTable LocalVar},
    List.Forall₂ (fun p v => h.HasType v p.type) ps args → ParamsTyped b ps b' →
    BlocksFit h (b :: bs) f.blocks → BlocksFit h (b' :: bs) (f.declareParams ps args).blocks
  | [], _, f, b, b', hargs, ht, hf => by
    cases hargs
    cases ht
    exact hf
  | p :: ps, _, f, b, b', hargs, ht, hf => by
    cases hargs with
    | @cons _ v _ args hv hargs =>
    cases ht with
    | @cons _ _ _ var _ hvar hrest =>
    refine declareParams_fits ps (f := f.declare p.name v) hargs hrest ?_
    unfold Frame.blocks at hf ⊢
    cases hf with
    | cons hblock htl => exact .cons (hblock.insert ⟨p.type, hvar, hv⟩ p.name) htl

/-- **Checked scalar bodies are sound.** Take a class table that registration makes from the
built-in classes, and a body of scalar code whose parameters and statements are checked without an
error. Run it in a frame that binds the parameters to arguments of their types. It ends normally;
or with no result, if the method is `void`; or with a result of the declared type; or it halts
because of a `null` or a division by zero, or because the fuel was not enough. Nothing else can go
wrong, and no `break` or `continue` leaves the body. -/
theorem scalar_body_sound (decls : List ClassDecl) {query : Option QueryService}
    {credentials : Credentials} {today : Date} {maxDepth : Nat} {env : Env}
    (henv : Env.make (Registration.registerAll .initial decls).table query credentials today maxDepth
      = .ok env)
    (cls : ClassInfo) (result : Option DataType) (isStatic : Bool) (params : List ParamInfo)
    (body : List Stmt) (span : Span) (s : CheckState)
    (hbody : Stmt.allScalar (params.map ParamInfo.name) body = true)
    (hcheck : (Check.inMethod do
      Typing.declareParams ⟨env.classes, cls, result, isStatic⟩ params span
      Typing.checkStmts ⟨env.classes, cls, result, isStatic⟩ body).Clean s)
    (running : ClassInfo) (this : Option ObjectId) (args : List Value) (m : Machine)
    (hargs : List.Forall₂ (fun p v => m.world.heap.HasType v p.type) params args) (fuel : Nat) :
    ((Calls.withFuel env fuel).execAll body).Ends
      (fun flow m' => FlowFits result false m'.world.heap flow) (fun r _ => ScalarHalt r)
      { m with frames := (Frame.make running this).declareParams params args :: m.frames } := by
  obtain ⟨he, -⟩ := Env.make_standard (Registration.registerAll_extends _ _) henv
  have hstart : Typing.View LocalScope.empty [] [.empty] :=
    ⟨LocalScope.models_empty.lookup, by simp, by simp⟩
  obtain ⟨hcp, hcb⟩ := Check.Clean.bind (s := { s with scope := .empty, loopDepth := 0 }) hcheck
    (Typing.declareParams_nested _ params span).errors fun _ => (Typing.checkStmts_nested _ body).errors
  obtain ⟨b, hb, hv⟩ := Typing.declareParams_typed _ span params hstart hcp
  obtain ⟨c, hm⟩ := (Typing.declareParams_nested _ params span).scope
    { s with scope := .empty, loopDepth := 0 } _ _ LocalScope.models_empty
  obtain ⟨b', hb', -⟩ := Typing.checkStmts_typed _ body hbody (hv.sub (by simp)) hm hcb
  rw [(Typing.declareParams_nested _ params span).loopDepth] at hb'
  have hfits : Machine.Fits { m with
      frames := (Frame.make running this).declareParams params args :: m.frames } [b] :=
    ⟨_, _, rfl, declareParams_fits params hargs hb (.cons (.empty _) .nil)⟩
  exact Run.Ends.mono (Calls.execAll_fits (Calls.withFuel_sound he result fuel) body hfits hb')
    (fun _ _ h => h.2.1) fun _ _ hr => hr

section

-- the run below is not to be carried out by unification
attribute [local irreducible] Run.Ends

/-- A method `Integer total(integer n, Object o)` that shadows, counts down to a `break` and mixes
both kinds of assignment: checked without an error, and run on the Integer 5 and a text. -/
theorem scalar_body_sound_total : ∃ env : Env,
    Env.make (Registration.registerAll .initial []).table none {} ⟨2024, 1, 1⟩ 16 = .ok env ∧
    let n : Expr := .name ⟨"n", .unknown⟩
    let acc : Expr := .name ⟨"ACC", .unknown⟩
    let body : List Stmt :=
      [.declare ⟨⟨⟨"Integer", .unknown⟩, [], .unknown⟩,
          [⟨⟨"acc", .unknown⟩, some (.literal (.integer 1) .unknown), .unknown⟩], .unknown⟩,
        .whileLoop (.binary .greater n (.literal (.integer 0) .unknown) .unknown)
          (.block
            [.declare ⟨⟨⟨"String", .unknown⟩, [], .unknown⟩,
                [⟨⟨"o", .unknown⟩, none, .unknown⟩], .unknown⟩,
              .ifElse (.binary .greater acc (.literal (.integer 50) .unknown) .unknown)
                (.brk .unknown) none .unknown,
              .expr (.assign .mul acc n .unknown) .unknown,
              .expr (.post .dec n .unknown) .unknown] .unknown) .unknown,
        .ret (some (.conditional (.binary .equal (.name ⟨"o", .unknown⟩) (.literal .null .unknown)
          .unknown) acc (.binary .div acc n .unknown) .unknown)) .unknown]
    let heap : Heap := ⟨#[.make Builtin.integerClass [] (.integer 5),
      .make Builtin.stringClass [] (.string "text")]⟩
    let params : List ParamInfo := [⟨"n", .simple "integer"⟩, ⟨"o", .object⟩]
    ((Calls.withFuel env 40).execAll body).Ends
      (fun flow m' => FlowFits (some .integer) false m'.world.heap flow) (fun r _ => ScalarHalt r)
      { world := { heap }
        frames := [(Frame.make Builtin.objectClass none).declareParams params
          [.object 0, .object 1]] } := by
  obtain ⟨env, henv⟩ := Env.make_initial none {} ⟨2024, 1, 1⟩ 16
  obtain ⟨-, hclasses⟩ := Env.make_standard List.prefix_rfl henv
  refine ⟨env, henv, ?_⟩
  refine scalar_body_sound [] henv Builtin.objectClass (some .integer) true
    [⟨"n", .simple "integer"⟩, ⟨"o", .object⟩] _ .unknown {} (by decide +kernel) ?_
    Builtin.objectClass none [.object 0, .object 1]
    { world := { heap := ⟨#[.make Builtin.integerClass [] (.integer 5),
      .make Builtin.stringClass [] (.string "text")]⟩ } }
    (.cons (.inr ⟨.integer, ⟨0, rfl, rfl, rfl⟩, .inl (by decide)⟩)
      (.cons (.inr ⟨.string, ⟨1, rfl, rfl, rfl⟩, .inr (by decide)⟩) .nil)) 40
  rw [hclasses]
  exact List.isEmpty_iff.1 (by decide +kernel)

end

end ClassScript
