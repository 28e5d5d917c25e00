import ClassScript.Proofs.Memory.Calls

/-!
# Evaluation is charted

One lemma for each step of evaluation and execution, over calls that are charted already: the step
takes the course that its history tells. A place of an assignment still stands when it is written,
since objects last (`Place.Stands.lasts`).

By induction on the fuel all of evaluation is charted (`Calls.histories_charted`), and so are entry
methods, one after the other (`Machine.start_course`).
-/

namespace ClassScript

open History (Charts Leads)

/-! ## Places and targets -/

/-- A place that may be read and written. -/
def Place.Stands (t : ClassTable) (h : Heap) : Place → Prop
  | .field id name => (Machine.readField? t h id name).isSome = true
  | .static c _ => t.Has c
  | .var _ | .slot .. | .entry .. => True

theorem Place.Stands.lasts {t : ClassTable} {h h' : Heap} {p : Place} (hp : p.Stands t h)
    (hl : h.Lasts h') : p.Stands t h' := by
  cases p with
  | field id name => exact Machine.readField?_lasts hl hp
  | static c name => exact hp
  | var name | slot id i span | entry id key => trivial

/-- The target of a call: an object, or a class of the table. -/
def Calls.Target.Stands (t : ClassTable) : Calls.Target → Prop
  | .static c => t.Has c
  | .instance _ => True

namespace Histories

variable {env : Env} {calls : Calls} {hist : Histories calls}

section

variable {m : Machine} (hm : m.Placed env.classes)
include hm

theorem staticPlace_charted {c : ClassInfo} (name : String)
    (hc : (c.staticField? env.classes name).isSome = true → env.classes.Has c) :
    (History.quiet (Calls.staticPlace env c name)).Charted env
      (fun p m' => p.Stands env.classes m'.world.heap) m := by
  refine .quiet ?_
  unfold Calls.staticPlace
  split
  · rename_i hs
    exact ⟨rfl, hm, hc hs⟩
  · rfl

theorem namePlace_charted (name : String) :
    (History.quiet (Calls.namePlace env name)).Charted env
      (fun p m' => p.Stands env.classes m'.world.heap) m := by
  refine .quiet ?_
  unfold Calls.namePlace
  rw [Run.ends_bind, Run.ends_frame]
  split
  · rename_i f fs hf
    rw [Run.ends_bind, Run.ends_heap]
    split
    · exact ⟨rfl, hm, trivial⟩
    · split
      · rename_i id hid
        exact ⟨rfl, hm, (Option.filter_eq_some_iff.1 hid).2⟩
      · split
        · exact ⟨rfl, hm, hm.frames f (hf ▸ List.mem_cons_self)⟩
        · rfl
  · rfl

variable (h : hist.Charted env)
include h

theorem memberPlace_charted (object : Expr) (name : String) (span : Span) :
    (hist.memberPlace env object name span).Charted env
      (fun p m' => p.Stands env.classes m'.world.heap) m := by
  refine History.Charted.get_bind ?_
  cases hc : m.classRef? env.classes object with
  | some c => exact staticPlace_charted hm name fun _ => Machine.classRef?_has hm.head hc
  | none =>
    refine (h.eval object m hm).bind fun v m₁ hm₁ _ _ => ?_
    cases v with
    | null => exact .fault
    | object id =>
      refine .quiet (Run.ends_bind.2 (Run.ends_heap.2 ?_))
      split
      · rename_i hf
        exact ⟨rfl, hm₁, hf⟩
      · unfold Calls.staticPlace
        split
        · rename_i hs
          exact ⟨rfl, hm₁, hm₁.heap.has_of_static hs⟩
        · rfl

theorem indexPlace_charted (object key : Expr) (span : Span) :
    (hist.indexPlace object key span).Charted env
      (fun p m' => p.Stands env.classes m'.world.heap) m := by
  refine (h.eval object m hm).bind fun collection m₁ hm₁ _ _ =>
    (h.eval key m₁ hm₁).bind fun k m₂ hm₂ _ _ => ?_
  cases collection with
  | null => exact .fault
  | object id =>
    refine .quiet (Run.ends_bind.2 (Run.ends_heap.2 ?_))
    split
    · rename_i items _
      rw [Run.ends_bind, Run.ends_ofExcept]
      cases Calls.listSlot m₂.world.heap k items.size key.span span with
      | ok i => exact ⟨rfl, hm₂, trivial⟩
      | error e => rfl
    · exact ⟨rfl, hm₂, trivial⟩
    · rfl

theorem place_charted (e : Expr) : (hist.place env e).Charted env
    (fun p m' => p.Stands env.classes m'.world.heap) m := by
  cases e with
  | name i => exact namePlace_charted hm i.name
  | member object i span => exact memberPlace_charted hm h object i.name span
  | index object key span => exact indexPlace_charted hm h object key span
  | literal _ _ | this _ | call _ _ _ | callOn _ _ _ _ | create _ _ _ | binary _ _ _ _
  | unary _ _ _ | post _ _ _ | assign _ _ _ _ | conditional _ _ _ _ | query _ _ => exact .fault

end

section

variable (h : hist.Charted env)
include h

theorem load_charts {heap : Heap} {p : Place} (hp : p.Stands env.classes heap) :
    (hist.load env p).Charts env := by
  cases p with
  | static c name => exact (readStatic_charts h hp name).bind fun _ => .reads (.pure _)
  | var name =>
    refine .reads (.bind .frame fun f => ?_)
    split
    · exact .pure _
    · exact .fault _
  | field id name => exact .reads (.bind .heap fun _ => .pure _)
  | slot id i span =>
    exact .reads (.bind .heap fun _ => .bind (.ofNative _) fun _ => .pure _)
  | entry id key =>
    exact .reads (.bind .heap fun _ => .bind (.ofNative _) fun _ => .bind (.ofNative _) fun _ =>
      .pure _)

variable {decls : List ClassDecl} (he : env.Registered decls)
include he

theorem store_charted {m : Machine} (hm : m.Placed env.classes) (v : Value) {p : Place}
    (hp : p.Stands env.classes m.world.heap) :
    (hist.store env v p).Charted env (fun _ _ => True) m := by
  cases p with
  | static c name => exact writeStatic_charts h hp name v m hm
  | field id name => exact write_charted he hm v hp
  | var name =>
    refine .quiet ?_
    unfold Calls.store
    rw [Run.ends_bind, Run.ends_frame]
    split
    · rename_i f fs hf
      split
      · rw [Run.ends_modifyFrame, hf]
        exact ⟨rfl, hm.modifyFrame hf (f.keeps_assign name v).cls, trivial⟩
      · rfl
    · rfl
  | slot id i span =>
    refine .work hm he ?_
    unfold Calls.store
    rw [Run.ends_bind, Run.ends_heap, Run.ends_bind]
    cases hl : m.world.heap.list id with
    | error e => exact ⟨rfl, .refl _⟩
    | ok items =>
      show Run.Ends (if i < items.size then _ else Run.fault _) _ _ m
      split
      · refine ⟨rfl, rfl, ?_, trivial⟩
        show m.world.heap.Works (m.world.heap.modifyItems id _)
        rw [Heap.modifyItems_eq]
        exact (Heap.Works.refl _).setPayload (.inl (Heap.renews_itemsChanged _ _ _))
      · exact ⟨rfl, .refl _⟩
  | entry id key =>
    refine .work hm he ?_
    unfold Calls.store
    rw [Run.ends_bind, Run.ends_heap, Run.ends_bind]
    cases hk : m.world.heap.mapKey key with
    | error e => exact ⟨rfl, .refl _⟩
    | ok k =>
      show Run.Ends (Run.ofNative (m.world.heap.map id) >>= _) _ _ m
      rw [Run.ends_bind]
      cases hmap : m.world.heap.map id with
      | error e => exact ⟨rfl, .refl _⟩
      | ok entries =>
        refine ⟨rfl, rfl, (Heap.Works.refl _).setPayload (.inl ?_), trivial⟩
        -- what is stored is the map that was found there, with an entry more
        unfold Heap.map at hmap
        split at hmap
        · rename_i he
          cases hmap
          rw [he]
          exact .put v entries hk
        · cases hmap

end

/-! ## Expressions -/

section

variable {decls : List ClassDecl} (he : env.Registered decls)
include he

theorem constant_charts (literal : Literal) : (constant env literal).Charts env := by
  cases literal with
  | integer n => exact .native he fun _ => Native.integer_acts n
  | double x => exact .native he fun _ => Native.double_acts x
  | boolean b => exact .native he fun _ => Native.boolean_acts b
  | string s => exact .native he fun _ => Native.string_acts s
  | null => exact fun m hm => .work hm he ⟨rfl, rfl, .refl _, trivial⟩

theorem applyBinary_charts (op : BinaryOp) (left right : Value) (span : Span) :
    (applyBinary env op left right span).Charts env :=
  Charts.bind (.reads .heap) fun _ => Charts.bind (.reads (.ofExcept _)) fun _ =>
    constant_charts he _

variable (h : hist.Charted env)
include h

omit he in
theorem evalName_charts (name : String) : (hist.evalName env name).Charts env := by
  intro m hm
  refine History.Charted.frame_bind fun f hf => ?_
  have hc := hm.head f hf
  cases hl : f.lookup? name with
  | some v => exact .pure hm trivial
  | none =>
    refine History.Charted.heap_bind ?_
    dsimp only
    cases hr : f.this.bind fun id => Machine.readField? env.classes m.world.heap id name with
    | some v => exact .pure hm trivial
    | none =>
      refine (readStatic_charts h hc name m hm).bind fun v m₁ hm₁ _ _ => ?_
      cases v with
      | some v => exact .pure hm₁ trivial
      | none => exact .fault

omit h he in
theorem evalThis_reads (span : Span) : Run.Reads (Calls.evalThis span) := by
  refine .bind .frame fun f => ?_
  cases f.this with
  | some id => exact .pure _
  | none => exact .fault _

omit h he in
theorem implicitTarget_charted {m : Machine} (hm : m.Placed env.classes) (name : String) :
    (History.quiet (Calls.implicitTarget env name)).Charted env
      (fun target _ => target.Stands env.classes) m := by
  refine .quiet ?_
  unfold Calls.implicitTarget
  rw [Run.ends_bind, Run.ends_frame]
  split
  · rename_i f fs hf
    have hc : env.classes.Has f.cls := hm.frames f (hf ▸ List.mem_cons_self)
    split
    · rw [Run.ends_bind, Run.ends_heap]
      dsimp only
      split
      · exact ⟨rfl, hm, trivial⟩
      · exact ⟨rfl, hm, hc⟩
    · split
      · rfl
      · exact ⟨rfl, hm, hc⟩
  · rfl

omit he in
theorem explicitTarget_charted {m : Machine} (hm : m.Placed env.classes) (receiver : Expr) :
    (hist.explicitTarget env receiver).Charted env
      (fun target _ => target.Stands env.classes) m := by
  refine History.Charted.get_bind ?_
  cases hc : m.classRef? env.classes receiver with
  | some c => exact .pure hm (Machine.classRef?_has hm.head hc)
  | none =>
    refine (h.eval receiver m hm).bind fun v m₁ hm₁ _ _ => ?_
    cases v with
    | object id => exact .pure hm₁ trivial
    | null => exact .fault

theorem callTarget_charts (name : String) (args : List Value) :
    ∀ {target : Calls.Target}, target.Stands env.classes →
      (hist.callTarget env name args target).Charts env
  | .static _, hc => (callStatic_charts he h hc name args).bind fun _ => .reads (.pure _)
  | .instance id, _ => (callInstance_charts he h id name args).bind fun _ => .reads (.pure _)

theorem evalCreate_charts (type : DataType) (args : List Expr) :
    (hist.evalCreate env type args).Charts env := by
  intro m hm
  refine History.Charted.get_bind ?_
  cases hc : m.lookupClass? env.classes type.name with
  | none => exact .fault
  | some c =>
    exact (evalAll_charts h args m hm).bind fun vs m₁ hm₁ _ _ =>
      (instantiate_charts he h (Machine.lookupClass?_has hm.head hc) type.args vs m₁ hm₁).bind
        fun _ m₂ hm₂ _ _ => .pure hm₂ trivial

omit he in
theorem evalCondition_charts (e : Expr) : (hist.evalCondition e).Charts env :=
  (h.eval e).bind fun _ => .reads (.bind .heap fun _ => .ofExcept _)

theorem evalLogical_charts (op : BinaryOp) (left right : Expr) :
    (hist.evalLogical env op left right).Charts env := by
  refine (evalCondition_charts h left).bind fun l => ?_
  split
  · exact .of_eq (constant_charts he _)
  · exact .of_eq ((evalCondition_charts h right).bind fun _ => constant_charts he _)

theorem evalStep_charts (target : Expr) (up : Bool) (span : Span) :
    (hist.evalStep env target up span).Charts env := by
  intro m hm
  refine (place_charted hm h target).bind fun p m₁ hm₁ _ hp =>
    (load_charts h hp m₁ hm₁).bind fun before m₂ hm₂ lasts₂ _ =>
    History.Charted.heap_bind (History.Charted.ofExcept_bind fun literal _ => ?_)
  refine (constant_charts he literal m₂ hm₂).bind fun after m₃ hm₃ lasts₃ _ => ?_
  exact (store_charted h he hm₃ after (hp.lasts (lasts₂.trans lasts₃))).bind
    fun _ m₄ hm₄ _ _ => .pure hm₄ trivial

theorem evalUnary_charts (op : UnaryOp) (operand : Expr) (span : Span) :
    (hist.evalUnary env operand span op).Charts env := by
  cases op with
  | plus => exact h.eval operand
  | neg | not =>
    exact (h.eval operand).bind fun _ => Charts.bind (.reads .heap) fun _ =>
      Charts.bind (.reads (.ofExcept _)) fun _ => constant_charts he _
  | inc => exact (evalStep_charts he h operand true span).bind fun _ => .reads (.pure _)
  | dec => exact (evalStep_charts he h operand false span).bind fun _ => .reads (.pure _)

theorem evalAssign_charts (op : AssignOp) (target value : Expr) (span : Span) :
    (hist.evalAssign env op target value span).Charts env := by
  intro m hm
  refine (place_charted hm h target).bind fun p m₁ hm₁ _ hp => ?_
  -- the place was found before the value, and may be stored to in every later heap
  have stored : ∀ v m', m'.Placed env.classes → m₁.world.heap.Lasts m'.world.heap →
      ((hist.store env v p).bind fun _ => History.quiet (pure v)).Charted env
        (fun _ _ => True) m' :=
    fun v m' hm' lasts => (store_charted h he hm' v (hp.lasts lasts)).bind
      fun _ m'' hm'' _ _ => .pure hm'' trivial
  cases hop : op.binary? with
  | none => exact (h.eval value m₁ hm₁).bind fun v m₂ hm₂ lasts _ => stored v m₂ hm₂ lasts
  | some op =>
    refine (load_charts h hp m₁ hm₁).bind fun before m₂ hm₂ lasts₂ _ =>
      (h.eval value m₂ hm₂).bind fun operand m₃ hm₃ lasts₃ _ =>
      (applyBinary_charts he op before operand span m₃ hm₃).bind fun v m₄ hm₄ lasts₄ _ => ?_
    exact stored v m₄ hm₄ ((lasts₂.trans lasts₃).trans lasts₄)

theorem stepEval_charts (e : Expr) : (hist.stepEval env e).Charts env := by
  cases e with
  | literal value _ => exact constant_charts he value
  | name i => exact evalName_charts h i.name
  | this span => exact .reads (evalThis_reads span)
  | member object i span =>
    exact fun m hm => (place_charted hm h (.member object i span)).bind fun p m₁ hm₁ _ hp =>
      load_charts h hp m₁ hm₁
  | index object key span =>
    exact fun m hm => (place_charted hm h (.index object key span)).bind fun p m₁ hm₁ _ hp =>
      load_charts h hp m₁ hm₁
  | call method args span =>
    exact fun m hm => (implicitTarget_charted hm method.name).bind fun target m₁ hm₁ _ ht =>
      (evalAll_charts h args m₁ hm₁).bind fun vs m₂ hm₂ _ _ =>
        callTarget_charts he h method.name vs ht m₂ hm₂
  | callOn receiver method args span =>
    exact fun m hm => (explicitTarget_charted h hm receiver).bind fun target m₁ hm₁ _ ht =>
      (evalAll_charts h args m₁ hm₁).bind fun vs m₂ hm₂ _ _ =>
        callTarget_charts he h method.name vs ht m₂ hm₂
  | create type args span => exact evalCreate_charts he h type.dataType args
  | binary op left right span =>
    unfold stepEval
    dsimp only
    split
    · exact .of_eq (evalLogical_charts he h op left right)
    · exact .of_eq ((h.eval left).bind fun _ => (h.eval right).bind fun _ =>
        applyBinary_charts he op _ _ span)
  | unary op operand span => exact evalUnary_charts he h op operand span
  | post op operand span =>
    exact (evalStep_charts he h operand (op = .inc) span).bind fun _ => .reads (.pure _)
  | assign op target value span => exact evalAssign_charts he h op target value span
  | conditional condition yes no span =>
    refine (evalCondition_charts h condition).bind fun b => ?_
    cases b with
    | true => exact h.eval yes
    | false => exact h.eval no
  | query text span => exact .native he fun _ => Native.runQuery_acts text

end

/-! ## Statements -/

section

variable (h : hist.Charted env)
include h

theorem declareVars_charts : ∀ vs : List Declarator, (hist.declareVars vs).Charts env
  | [] => .reads (.pure _)
  | v :: vs => by
    have declared := fun value : Value =>
      Charts.bind (.modifyFrame fun f => (f.keeps_declare v.name.name value).cls)
        fun _ => declareVars_charts vs
    unfold declareVars
    split
    · exact .of_eq ((h.eval _).bind declared)
    · exact .of_eq (Charts.bind (.reads (.pure _)) declared)

theorem execBranch_charts (s : Stmt) : (hist.execBranch s).Charts env := (h.exec s).inBlock

theorem execBody_charts (body : Stmt) : (hist.execBody body).Charts env :=
  (execBranch_charts h body).bind fun flow => by
    cases flow <;> exact .reads (.pure _)

theorem execForInit_charts : ∀ init : Option ForInit, (hist.execForInit init).Charts env
  | some (.declare d) => declareVars_charts h d.vars
  | some (.exprs es) => (evalAll_charts h es).bind fun _ => .reads (.pure _)
  | none => .reads (.pure _)

theorem execEach_charts (name : String) (body : Stmt) :
    ∀ vs : List Value, (hist.execEach name body vs).Charts env
  | [] => .reads (.pure _)
  | v :: vs => by
    have once := Charts.bind (.modifyFrame fun f => (f.keeps_declare name v).cls)
      fun _ => execBody_charts h body
    refine once.inBlock.bind fun flow => ?_
    cases flow with
    | some flow => exact .reads (.pure _)
    | none => exact execEach_charts name body vs

theorem execForeach_charts (name : String) (iterable : Expr) (body : Stmt) :
    (hist.execForeach name iterable body).Charts env := by
  refine (h.eval iterable).bind fun v => ?_
  cases v with
  | null => exact .reads (.fault _)
  | object id =>
    exact Charts.bind (.reads .heap) fun _ => Charts.bind (.reads (.ofNative _)) fun items =>
      execEach_charts h name body items.toList

theorem pass_charts (l : Loop) (go : Bool) : (hist.pass l go).Charts env := by
  cases go with
  | false => exact .reads (.pure _)
  | true =>
    refine (execBody_charts h l.body).bind fun flow => ?_
    cases flow with
    | some flow => exact .reads (.pure _)
    | none => exact (evalAll_charts h l.update).bind fun _ => h.iterate l

theorem stepIterate_charts (l : Loop) : (hist.stepIterate l).Charts env := by
  unfold stepIterate
  split
  · exact .of_eq ((evalCondition_charts h _).bind (pass_charts h l))
  · exact .of_eq (pass_charts h l true)

theorem stepExec_charts (s : Stmt) : (hist.stepExec s).Charts env := by
  cases s with
  | expr e _ => exact (h.eval e).bind fun _ => .reads (.pure _)
  | declare d => exact (declareVars_charts h d.vars).bind fun _ => .reads (.pure _)
  | block stmts _ => exact (execAll_charts h stmts).inBlock
  | ifElse condition yes no _ =>
    refine (evalCondition_charts h condition).bind fun b => ?_
    match b, no with
    | true, _ => exact execBranch_charts h yes
    | false, some s => exact execBranch_charts h s
    | false, none => exact .reads (.pure _)
  | whileLoop condition body _ => exact h.iterate _
  | doWhile body condition _ =>
    refine (execBody_charts h body).bind fun flow => ?_
    cases flow with
    | some flow => exact .reads (.pure _)
    | none => exact h.iterate _
  | forLoop init condition update body _ =>
    exact ((execForInit_charts h init).bind fun _ => h.iterate _).inBlock
  | foreach _ var iterable body _ => exact execForeach_charts h var.name iterable body
  | ret value _ =>
    cases value with
    | some e => exact (h.eval e).bind fun _ => .reads (.pure _)
    | none => exact .reads (.pure _)
  | brk _ | cont _ => exact .reads (.pure _)

end

end Histories

/-! ## Runs -/

/-- Evaluation and execution with fuel are charted. -/
theorem Calls.histories_charted {env : Env} {decls : List ClassDecl} (he : env.Registered decls) :
    ∀ n, (Calls.histories env n).Charted env
  | 0 => ⟨fun _ => .reads (.throw _), fun _ => .reads (.throw _), fun _ => .reads (.throw _)⟩
  | n + 1 =>
    have h := histories_charted he n
    ⟨Histories.stepEval_charts he h, Histories.stepExec_charts h, Histories.stepIterate_charts h⟩

namespace Machine

variable {env : Env} {decls : List ClassDecl} (he : env.Registered decls)
include he

theorem entryHistory_charts (fuel : Nat) (className method : String) :
    (entryHistory env fuel className method).Charts env := by
  have h := Calls.histories_charted he fuel
  unfold entryHistory
  dsimp only
  split
  · rename_i hn
    refine .reads ?_
    unfold runEntry
    rw [hn]
    exact .fault _
  · rename_i c hr
    have hc := ClassTable.Has.of_resolve? hr
    refine fun m hm => .of_eq ((History.Charted.log hm _).bind fun _ m₁ hm₁ _ _ => ?_)
    split
    · exact .of_eq (Histories.callStatic_charts he h hc method [] m₁ hm₁)
    · split
      · exact .of_eq ((Histories.instantiate_charts he h hc [] [] m₁ hm₁).bind
          fun id m₂ hm₂ _ _ => Histories.callInstance_charts he h id method [] m₂ hm₂)
      · rename_i hs hi
        refine .quiet ?_
        rw [if_neg hs, if_neg hi]
        rfl

/-- Entry methods take the course that their history tells, one after the other and however each of
them ends. -/
theorem lifetime_course : ∀ (entries : List (Nat × EntryPoint)) {m : Machine},
    m.Placed env.classes → ∀ due running, ∃ s', Course env ⟨m.memory, due, running⟩
      (m.lifetime env entries) s' ∧ s'.memory = (m.afterEntries env entries).memory
  | [], m, _, due, running => ⟨_, .done _, rfl⟩
  | e :: entries, m, hm, due, running => by
    obtain ⟨s₁, course, ends⟩ := entryHistory_charts he e.1 e.2.cls e.2.method m hm due running
    let m₁ := (runEntry env e.1 e.2.cls e.2.method).after m
    -- the machine that goes on is the one that the run left, by its result or by its fault
    have memory : s₁.memory = m₁.memory :=
      (Run.ends_after (P := fun m' => s₁.memory = m'.memory)).1
        (ends.mono (fun _ _ h => congrArg Stage.memory h.2.1) fun _ _ h => h)
    have heap : s₁.memory.heap = m₁.world.heap := congrArg Memory.heap memory
    have hm₁ : m₁.Placed env.classes := by
      refine ⟨?_, heap ▸ course.placed he hm.heap⟩
      rw [(runEntry_balanced env e.1 e.2.cls e.2.method).frames_after m]
      exact hm.frames
    obtain ⟨s₂, course₂, memory₂⟩ := lifetime_course entries hm₁ s₁.due s₁.running
    refine ⟨s₂, course.append ?_, memory₂⟩
    rw [← memory] at course₂
    exact course₂

/-- The course of entry methods on a new machine. -/
theorem start_course (sink : Sink) (entries : List (Nat × EntryPoint)) :
    ∃ s', Course env ⟨(start sink).memory, [], []⟩ ((start sink).lifetime env entries) s' ∧
      s'.memory = ((start sink).afterEntries env entries).memory := by
  have placed : (start sink).Placed env.classes := ⟨nofun, nofun⟩
  exact lifetime_course he entries placed [] []

end Machine

end ClassScript
