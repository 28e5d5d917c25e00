import ClassScript.Machine.Entry
import ClassScript.Proofs.Machine.Outcome
import ClassScript.Proofs.Spelling.Machines

/-!
# Runs in other spellings

Over calls that are tied, the steps of evaluation and execution are tied (`Calls.stepEval_tied`,
`Calls.stepExec_tied`, `Calls.stepIterate_tied`), and so, by induction on the fuel, is everything
that runs (`Calls.withFuel_tied`). Both runs take the same number of steps.

Main statement: `Machine.runEntry_tied`.
-/

namespace ClassScript

variable {τ : Tie}

/-! ## Operators -/

namespace Operator

variable {h h' : Heap} (hh : h.Tied τ h')
include hh

theorem truth_tied (v : Value) (span : Span) : truth h v span = truth h' v span := by
  cases v with
  | null => rfl
  | object id =>
    unfold truth
    dsimp only
    rw [hh.boolean?, hh.mismatch]

theorem number_tied (v : Value) : number h v = number h' v := by
  unfold number
  rw [hh.double?]
  cases v with
  | null => rfl
  | object id =>
    dsimp only
    rw [hh.mismatch]

theorem arithmetic_tied (op : BinaryOp) (left right : Value) (span : Span) :
    arithmetic h op left right span = arithmetic h' op left right span := by
  simp only [arithmetic, hh.integer?, number_tied hh]

theorem order_tied (left right : Value) (span : Span) :
    order h left right span = order h' left right span := by
  simp only [order, hh.string?, hh.integer?, number_tied hh]

theorem binary_tied (op : BinaryOp) (left right : Value) (span : Span) :
    binary h op left right span = binary h' op left right span := by
  simp only [binary, hh.equals, order_tied hh, truth_tied hh, hh.string?, hh.display,
    arithmetic_tied hh]

theorem negate_tied (v : Value) (span : Span) : negate h v span = negate h' v span := by
  simp only [negate, hh.integer?, number_tied hh]

theorem step_tied (v : Value) (up : Bool) (span : Span) :
    step h v up span = step h' v up span := by
  simp only [step, hh.integer?, number_tied hh]

end Operator

/-! ## What steps run over -/

/-- What two runs are given. -/
structure Env.Tied (τ : Tie) (env env' : Env) : Prop where
  host : env.toHost.Tied τ env'.toHost
  maxDepth : env.maxDepth = env'.maxDepth

namespace Env.Tied

variable {env env' : Env} (h : env.Tied τ env')
include h

theorem hold (fields : List (ObjectId × String)) : env.Tied (τ.hold fields) env' :=
  ⟨{ h.host with
      integer := ⟨h.host.integer.twin, h.host.integer.bare⟩
      double := ⟨h.host.double.twin, h.host.double.bare⟩
      string := ⟨h.host.string.twin, h.host.string.bare⟩
      boolean := ⟨h.host.boolean.twin, h.host.boolean.bare⟩
      list := ⟨h.host.list.twin, h.host.list.bare⟩ }, h.maxDepth⟩

theorem classes : env.classes.Twins τ.spelling env'.classes := h.host.classes

theorem like : env.classes.Like (.spelled τ.spelling) env'.classes := h.classes.like

end Env.Tied

/-- A loop in two spellings. -/
structure Loop.Spelled (σ : Spelling) (l l' : Loop) : Prop where
  condition : Option.Rel (Expr.Spelled σ) l.condition l'.condition
  body : l.body.Spelled σ l'.body
  update : List.Forall₂ (Expr.Spelled σ) l.update l'.update

/-- What the calls evaluate and execute is tied, whatever fields are held. -/
structure Calls.Tied (τ : Tie) (calls calls' : Calls) : Prop where
  eval : ∀ fields {e e'}, e.Spelled τ.spelling e' →
    Run.Tied (τ.hold fields) Eq (calls.eval e) (calls'.eval e')
  exec : ∀ fields {s s'}, s.Spelled τ.spelling s' →
    Run.Tied (τ.hold fields) Eq (calls.exec s) (calls'.exec s')
  iterate : ∀ fields {l l'}, l.Spelled τ.spelling l' →
    Run.Tied (τ.hold fields) Eq (calls.iterate l) (calls'.iterate l')

namespace Calls

open Run (Tied PlaceTied)

theorem Tied.hold {calls calls' : Calls} (h : calls.Tied τ calls')
    (fields : List (ObjectId × String)) : calls.Tied (τ.hold fields) calls' where
  eval more _ _ he := by simpa [Tie.hold] using h.eval (more ++ fields) he
  exec more _ _ hs := by simpa [Tie.hold] using h.exec (more ++ fields) hs
  iterate more _ _ hl := by simpa [Tie.hold] using h.iterate (more ++ fields) hl

variable {env env' : Env} (henv : env.Tied τ env') {calls calls' : Calls}
  (hcalls : calls.Tied τ calls')

section

include hcalls

theorem eval_tied {e e' : Expr} (he : e.Spelled τ.spelling e') :
    Run.Tied τ Eq (calls.eval e) (calls'.eval e') :=
  hcalls.eval [] he

theorem exec_tied {s s' : Stmt} (hs : s.Spelled τ.spelling s') :
    Run.Tied τ Eq (calls.exec s) (calls'.exec s') :=
  hcalls.exec [] hs

theorem evalAll_tied {es es' : List Expr} (hes : List.Forall₂ (Expr.Spelled τ.spelling) es es') :
    Run.Tied τ Eq (calls.evalAll es) (calls'.evalAll es') := by
  induction hes with
  | nil => exact .pure rfl
  | cons he _ ih => exact (eval_tied hcalls he).next fun _ => ih.next fun _ => .pure rfl

theorem execAll_tied {ss ss' : List Stmt} (hss : List.Forall₂ (Stmt.Spelled τ.spelling) ss ss') :
    Run.Tied τ Eq (calls.execAll ss) (calls'.execAll ss') := by
  induction hss with
  | nil => exact .pure rfl
  | cons hs _ ih =>
    refine (exec_tied hcalls hs).next fun flow => ?_
    cases flow with
    | normal => exact ih
    | ret _ | brk | cont => exact .pure rfl

/-! ## Static fields -/

theorem initStatics_tied {ps ps' : List PendingStatic}
    (hps : List.Forall₂ (PendingStatic.Twin τ.spelling) ps ps') :
    Run.Tied τ (fun _ _ => True) (calls.initStatics ps) (calls'.initStatics ps') := by
  induction hps with
  | nil => exact .pure trivial
  | cons hp _ ih =>
    unfold initStatics
    rw [hp.owner]
    exact (eval_tied hcalls hp.init).next fun v =>
      (Run.Tied.modifyStatics fun hs => hs.set _ hp.name v).bind fun _ _ _ => ih

include henv

theorem ensureStatics_tied {c d : ClassInfo} (h : c.Twin τ.spelling d) :
    Run.Tied τ (fun _ _ => True) (calls.ensureStatics env c) (calls'.ensureStatics env' d) := by
  unfold ensureStatics
  refine (Run.Tied.touchStatics (ClassInfo.chain_like henv.like h.like)).bind fun ps ps' hps => ?_
  rw [isEmpty_paired hps]
  split
  · exact .pure trivial
  · exact (Run.Tied.log _ _).bind fun _ _ _ => .inFrame (initStatics_tied hcalls hps) (.make h none)

theorem readStatic_tied {c d : ClassInfo} (h : c.Twin τ.spelling d) {n n' : String}
    (hn : sameName n n' = true) :
    Run.Tied τ Eq (calls.readStatic env c n) (calls'.readStatic env' d n') := by
  unfold readStatic
  have hf := ClassInfo.staticField?_like henv.like hn h.like
  generalize c.staticField? env.classes n = x, d.staticField? env'.classes n' = y at hf
  cases hf with
  | none => exact .pure rfl
  | @some f g hf =>
    obtain ⟨owner, f⟩ := f
    obtain ⟨owner', g⟩ := g
    refine (ensureStatics_tied henv hcalls h).bind fun _ _ _ => Run.Tied.get.bind fun m m' hm => ?_
    rw [hf.1.path, hm.statics.get? _ hn]
    exact .pure rfl

theorem writeStatic_tied {c d : ClassInfo} (h : c.Twin τ.spelling d) {n n' : String}
    (hn : τ.spelling.rel n n') (v : Value) :
    Run.Tied τ (fun _ _ => True) (calls.writeStatic env c n v)
      (calls'.writeStatic env' d n' v) := by
  unfold writeStatic
  have hf := ClassInfo.staticField?_like henv.like (τ.spelling.same hn) h.like
  generalize c.staticField? env.classes n = x, d.staticField? env'.classes n' = y at hf
  cases hf with
  | none => exact .pure trivial
  | @some f g hf =>
    obtain ⟨owner, f⟩ := f
    obtain ⟨owner', g⟩ := g
    refine (ensureStatics_tied henv hcalls h).bind fun _ _ _ => Run.Tied.modifyStatics fun hs => ?_
    rw [hf.1.path]
    exact hs.set _ hn v

end

/-! ## Dispatch -/

section

include henv

theorem selectOrFail_tied {b b' : TypeBindings} (hb : b.Spelled τ.spelling b')
    {group group' : Option (List MethodInfo)}
    (hgroup : Option.Rel (MethodInfo.LikeAll (.spelled τ.spelling)) group group')
    (args : List Value) (className className' name name' : String) :
    Run.Tied τ (MethodInfo.Like (.spelled τ.spelling))
      (selectOrFail env b group args className name)
      (selectOrFail env' b' group' args className' name') := by
  have hms : MethodInfo.LikeAll (.spelled τ.spelling) (group.getD []) (group'.getD []) := by
    cases hgroup with
    | none => exact .nil
    | some h => exact h
  have hselect : Run.Tied τ (Option.Rel (MethodInfo.Like (.spelled τ.spelling)))
      (select env b (group.getD []) args) (select env' b' (group'.getD []) args) := by
    refine Run.Tied.heap.bind fun h h' hh => .pure ?_
    have hargs : Overload.SpelledArgs τ.spelling (args.map fun v => some (h.dataType v))
        (args.map fun v => some (h'.dataType v)) :=
      List.rel_map (R := Eq) (fun _ _ hv => hv ▸ .some (hh.dataType _))
        (List.forall₂_eq_eq_eq ▸ rfl)
    exact map_paired (Overload.resolve_like henv.like hb hms hargs) OverloadMatch.Like.method
  refine hselect.bind fun k k' hk => ?_
  cases hk with
  | none => exact .fault rfl
  | some hk => exact .pure hk

include hcalls

theorem invoke_tied {m n : MethodInfo} (hm : m.Like (.spelled τ.spelling) n) {c d : ClassInfo}
    (h : c.Twin τ.spelling d) (receiver : Option ObjectId) (args : List Value) :
    Run.Tied τ Eq (calls.invoke env m c receiver args) (calls'.invoke env' n d receiver args) := by
  refine (Run.Tied.log _ _).bind fun _ _ _ => Run.Tied.get.bind fun s s' hs => ?_
  rw [← henv.maxDepth, show s'.depth = s.depth from hs.frames.length_eq.symm]
  split
  · exact .fault rfl
  · have hbody : m.body.Spelled τ.spelling n.body := hm.body
    generalize m.body = b, n.body = b' at hbody
    cases hbody with
    | native method => exact .native (Native.call_tied henv.host _ method)
    | abstract => exact .fault rfl
    | script hss =>
      dsimp only
      rw [hm.arity]
      split
      · exact (Run.Tied.inFrame (execAll_tied hcalls hss)
          ((Frame.Twin.make h receiver).declareParams hm.params args)).next fun _ => .pure rfl
      · exact .fault rfl

theorem callStatic_tied {c d : ClassInfo} (h : c.Twin τ.spelling d) {n n' : String}
    (hn : sameName n n' = true) (args : List Value) :
    Run.Tied τ Eq (calls.callStatic env c n args) (calls'.callStatic env' d n' args) :=
  (ensureStatics_tied henv hcalls h).bind fun _ _ _ =>
    (selectOrFail_tied henv .none (ClassInfo.staticMethods?_like henv.like hn h.like) args _ _ _
      _).bind fun _ _ hm => invoke_tied henv hcalls hm h none args

theorem callInstance_tied (id : ObjectId) {n n' : String} (hn : sameName n n' = true)
    (args : List Value) :
    Run.Tied τ Eq (calls.callInstance env id n args) (calls'.callInstance env' id n' args) := by
  refine Run.Tied.heap.bind fun h h' hh => ?_
  have ho := hh.object id
  exact (selectOrFail_tied henv ⟨ho.cls.like.own.typeParams, ho.typeArgs⟩
    (ClassInfo.instanceMethods?_like henv.like hn ho.cls.like) args _ _ _ _).bind
      fun _ _ hm => invoke_tied henv hcalls hm ho.cls (some id) args

/-! ## Instances -/

omit hcalls henv in
theorem nullFields_tied {fs gs : List FieldInfo}
    (h : List.Forall₂ (FieldInfo.Like (.spelled τ.spelling)) fs gs) :
    nullFields fs = nullFields gs := by
  unfold nullFields
  generalize (NameTable.empty : NameTable Value) = t
  induction h generalizing t with
  | nil => rfl
  | cons hf _ ih => rw [List.foldl_cons, List.foldl_cons, hf.name, ih]

omit hcalls henv in
/-- A new instance has all fields of its class. -/
theorem complete_new {σ : Spelling} {t t' : ClassTable} (ht : t.Twins σ t') {c d : ClassInfo}
    (h : c.Twin σ d) (typeArgs : List DataType) :
    Object.Complete t ⟨c, typeArgs, nullFields (c.allInstanceFields t), .none⟩ := by
  intro name hn
  obtain ⟨k, hk, hf⟩ := List.findSome?_isSome_iff.1 hn
  obtain ⟨f, hf⟩ := Option.isSome_iff_exists.1 hf
  obtain ⟨key, hkey, hmem⟩ := NameTable.sameName_of_get? hf
  refine (NameTable.contains_foldl_insert _ _ _ _ _).2 (.inl ⟨f, List.mem_flatMap.2 ⟨k,
    List.mem_reverse.2 hk, List.mem_map.2 ⟨_, hmem, rfl⟩⟩, ?_⟩)
  exact sameName_trans (sameName_symm (ht.named_chain h.named hk _ hmem)) hkey

omit henv in
theorem initFields_tied (id : ObjectId) {fs gs : List FieldInfo}
    (h : List.Forall₂ (FieldInfo.Like (.spelled τ.spelling)) fs gs) :
    Run.Tied τ (fun _ _ => True) (calls.initFields id fs) (calls'.initFields id gs) := by
  induction h with
  | nil => exact .pure trivial
  | @cons f g _ _ hf _ ih =>
    have hinit : Option.Rel (Expr.Spelled τ.spelling) f.init g.init := hf.init
    unfold initFields
    generalize f.init = x, g.init = y at hinit
    cases hinit with
    | none => exact ih
    | some he =>
      dsimp only
      rw [hf.name]
      exact (eval_tied hcalls he).next fun v =>
        (Run.Tied.modifyHeap fun _ _ hh => hh.setSameField id _ v).bind fun _ _ _ => ih

theorem construct_tied {c d : ClassInfo} (h : c.Twin τ.spelling d) (id : ObjectId)
    {as bs : List DataType} (hs : List.Forall₂ (DataType.Spelled τ.spelling) as bs)
    (args : List Value) :
    Run.Tied τ (fun _ _ => True) (calls.construct env c id as args)
      (calls'.construct env' d id bs args) := by
  have hk := h.like.own.constructors
  unfold construct
  rw [isEmpty_paired hk]
  split
  · split
    · exact .pure trivial
    · exact .fault rfl
  · exact (selectOrFail_tied henv ⟨h.like.own.typeParams, hs⟩ (.some hk) args _ _ _ _).bind
      fun _ _ hm => (invoke_tied henv hcalls hm h (some id) args).next fun _ => .pure trivial

theorem instantiate_tied {c d : ClassInfo} (h : c.Twin τ.spelling d) {as bs : List DataType}
    (hs : List.Forall₂ (DataType.Spelled τ.spelling) as bs) (args : List Value) :
    Run.Tied τ Eq (calls.instantiate env c as args) (calls'.instantiate env' d bs args) := by
  have hfields := ClassInfo.allInstanceFields_like henv.like h.like
  refine (ensureStatics_tied henv hcalls h).bind fun _ _ _ =>
    Run.Tied.heap.bind fun heap heap' hh => ?_
  dsimp only
  rw [← nullFields_tied hfields, hh.size]
  have hnew : Object.Twin τ.spelling ⟨c, as, nullFields (c.allInstanceFields env.classes), .none⟩
      ⟨d, bs, nullFields (c.allInstanceFields env.classes), .none⟩ := ⟨h, hs, rfl, rfl⟩
  refine (Run.Tied.native (Native.Tied.alloc hnew ?_)).next fun _ => ?_
  · rw [henv.host.first]
    exact complete_new henv.classes h as
  have hinit : Run.Tied τ (fun _ _ => True)
      (Run.inFrame (.make c (some heap'.objects.size))
        (calls.initFields heap'.objects.size (c.allInstanceFields env.classes)))
      (Run.inFrame (.make d (some heap'.objects.size))
        (calls'.initFields heap'.objects.size (d.allInstanceFields env'.classes))) :=
    .inFrame (initFields_tied hcalls _ hfields) (.make h _)
  have hrest : Run.Tied τ Eq
      (calls.construct env c heap'.objects.size as args >>= fun _ => pure heap'.objects.size)
      (calls'.construct env' d heap'.objects.size bs args >>= fun _ => pure heap'.objects.size) :=
    (construct_tied henv hcalls h _ hs args).bind fun _ _ _ => .pure rfl
  rw [any_paired hfields fun hf =>
    isSome_paired (show Option.Rel (Expr.Spelled τ.spelling) _ _ from hf.init)]
  split
  · exact hinit.bind fun _ _ _ => hrest
  · exact hrest

end

/-! ## Places -/

section

include henv

theorem hasField_tied {h h' : Heap} (hh : h.Tied τ h') (id : ObjectId) {n n' : String}
    (hn : sameName n n' = true) : hasField env h id n = hasField env' h' id n' := by
  unfold hasField
  rw [hh.readField? henv.like id hn]

/-- A field that an object has or declares is one to hold. -/
theorem fieldPlace_tied {m m' : Machine} (hm : m.Tied τ m') {id : ObjectId} {n n' : String}
    (hn : sameName n n' = true) (hf : hasField env' m'.world.heap id n' = true) :
    Run.PlaceTiedFrom τ (pure (.field id n)) (pure (.field id n')) m m' := by
  rw [← hasField_tied henv hm.world.heap id hn] at hf
  have hc : (m.world.heap.get id).fields.contains n = true := by
    refine hm.world.heap.contains_of_readField? ?_
    rw [henv.host.first]
    exact hf
  exact ⟨[(id, n)], .field hn List.mem_cons_self, ⟨hm.world.heap.hold hc, hm.world.sink⟩,
    hm.frames, hm.statics⟩

theorem staticPlace_tied {c d : ClassInfo} (h : c.Twin τ.spelling d) {n n' : String}
    (hn : τ.spelling.rel n n') :
    Run.Tied τ (Place.Tied τ) (staticPlace env c n) (staticPlace env' d n') := by
  unfold staticPlace
  rw [isSome_paired (ClassInfo.staticField?_like henv.like (τ.spelling.same hn) h.like)]
  split
  · exact .pure (.static h hn)
  · exact .fault rfl

theorem namePlace_tied {n n' : String} (hn : τ.spelling.rel n n') :
    PlaceTied τ (namePlace env n) (namePlace env' n') := by
  have same := τ.spelling.same hn
  refine .bind Run.Tied.frame fun f g hf => .heap fun m m' hm => ?_
  have hstatic : PlaceTied τ
      (if (f.cls.staticField? env.classes n).isSome then return .static f.cls n
        else Run.fault (.undefinedVariable n))
      (if (g.cls.staticField? env'.classes n').isSome then return .static g.cls n'
        else Run.fault (.undefinedVariable n')) := by
    rw [isSome_paired (ClassInfo.staticField?_like henv.like same hf.cls.like)]
    split
    · exact (Run.Tied.pure (.static hf.cls hn)).place
    · exact PlaceTied.fault rfl
  rw [hf.isLocal same, hf.this,
    show (fun id => hasField env m.world.heap id n) = fun id => hasField env' m'.world.heap id n'
      from funext fun id => hasField_tied henv hm.world.heap id same]
  split
  · exact (Run.Tied.pure (.var same)).place m m' hm
  · split
    · rename_i id hid
      exact fieldPlace_tied henv hm same (Option.filter_eq_some_iff.1 hid).2
    · exact hstatic m m' hm

include hcalls

theorem memberPlace_tied {e e' : Expr} (he : e.Spelled τ.spelling e') {n n' : String}
    (hn : τ.spelling.rel n n') (span : Span) :
    PlaceTied τ (calls.memberPlace env e n span) (calls'.memberPlace env' e' n' span) := by
  refine .bind Run.Tied.get fun s s' hs => ?_
  have hc := Machine.classRef?_tied henv.classes hs he
  generalize s.classRef? env.classes e = x, s'.classRef? env'.classes e' = y at hc
  cases hc with
  | some hc => exact (staticPlace_tied henv hc hn).place
  | none =>
    refine .bind (eval_tied hcalls he) fun v w hv => ?_
    subst hv
    cases v with
    | null => exact PlaceTied.fault rfl
    | object id =>
      refine .heap fun m m' hm => ?_
      rw [hasField_tied henv hm.world.heap id (τ.spelling.same hn)]
      split
      · exact fieldPlace_tied henv hm (τ.spelling.same hn) ‹_›
      · exact (staticPlace_tied henv (hm.world.heap.object id).cls hn).place m m' hm

omit henv hcalls in
theorem listSlot_tied {h h' : Heap} (hh : h.Tied τ h') (key : Value) (len : Nat)
    (keySpan span : Span) : listSlot h key len keySpan span = listSlot h' key len keySpan span := by
  unfold listSlot listPosition
  cases key with
  | null => rfl
  | object id => simp only [hh.integer?, hh.string?]

omit henv in
theorem indexPlace_tied {e e' : Expr} (he : e.Spelled τ.spelling e') {k k' : Expr}
    (hk : k.Spelled τ.spelling k') (span : Span) :
    Run.Tied τ (Place.Tied τ) (calls.indexPlace e k span) (calls'.indexPlace e' k' span) := by
  refine (eval_tied hcalls he).next fun collection => (eval_tied hcalls hk).next fun key => ?_
  cases collection with
  | null => exact .fault rfl
  | object id =>
    refine Run.Tied.heap.bind fun h h' hh => ?_
    rw [(hh.object id).payload, hh.mismatch, hk.span]
    split
    · exact (Run.Tied.ofExcept (listSlot_tied hh key _ _ _)).next fun i => .pure (.slot id i span)
    · exact .pure (.entry id key)
    · exact .fault rfl

theorem place_tied {e e' : Expr} (he : e.Spelled τ.spelling e') :
    PlaceTied τ (calls.place env e) (calls'.place env' e') := by
  cases he with
  | name hi => exact namePlace_tied henv hi.name
  | member he hi => exact memberPlace_tied henv hcalls he hi.name _
  | index he hk => exact (indexPlace_tied hcalls he hk _).place
  | literal | this | call | callOn | create | binary | unary | post | assign | conditional
  | query => exact PlaceTied.fault rfl

/-! ## Reading and writing -/

variable {p q : Place} (hp : p.Tied τ q)
include hp

theorem load_tied : Run.Tied τ Eq (calls.load env p) (calls'.load env' q) := by
  cases hp with
  | var hn =>
    refine Run.Tied.frame.bind fun f g hf => ?_
    rw [hf.lookup? hn]
    split
    · exact .pure rfl
    · exact .fault rfl
  | field hn _ =>
    refine Run.Tied.heap.bind fun h h' hh => ?_
    rw [hh.readField? henv.like _ hn]
    exact .pure rfl
  | static hc hn =>
    exact (readStatic_tied henv hcalls hc (τ.spelling.same hn)).next fun _ => .pure rfl
  | slot id i span =>
    exact Run.Tied.heap.bind fun h h' hh => (Run.Tied.ofNative (hh.list id)).next fun _ => .pure rfl
  | entry id key =>
    exact Run.Tied.heap.bind fun h h' hh => (Run.Tied.ofNative (hh.mapKey key)).next fun _ =>
      (Run.Tied.ofNative (hh.map id)).next fun _ => .pure rfl

theorem store_tied (v : Value) :
    Run.Tied τ (fun _ _ => True) (calls.store env v p) (calls'.store env' v q) := by
  cases hp with
  | var hn =>
    refine Run.Tied.frame.bind fun f g hf => ?_
    rw [hf.isLocal hn]
    split
    · exact .modifyFrame fun hk => hk.assign hn v
    · exact .fault rfl
  | field hn hheld => exact .modifyHeap fun _ _ hh => hh.setField hn hheld v
  | static hc hn => exact writeStatic_tied henv hcalls hc hn v
  | slot id i span =>
    refine Run.Tied.heap.bind fun h h' hh => (Run.Tied.ofNative (hh.list id)).next fun items => ?_
    split
    · exact .modifyHeap fun _ _ hh => hh.modifyItems id _
    · exact .fault rfl
  | entry id key =>
    exact Run.Tied.heap.bind fun h h' hh => (Run.Tied.ofNative (hh.mapKey key)).next fun _ =>
      (Run.Tied.ofNative (hh.map id)).next fun _ => .native (.setPayload id _)

end

/-! ## Expressions -/

section

include henv

theorem constant_tied (l : Literal) : Run.Tied τ Eq (constant env l) (constant env' l) := by
  cases l with
  | integer n => exact .native (Native.integer_tied henv.host n)
  | double x => exact .native (Native.double_tied henv.host x)
  | boolean b => exact .native (Native.boolean_tied henv.host b)
  | string s => exact .native (Native.string_tied henv.host s)
  | null => exact .pure rfl

include hcalls

theorem evalName_tied {n n' : String} (hn : sameName n n' = true) :
    Run.Tied τ Eq (calls.evalName env n) (calls'.evalName env' n') := by
  refine Run.Tied.frame.bind fun f g hf => ?_
  rw [hf.lookup? hn]
  split
  · exact .pure rfl
  · refine Run.Tied.heap.bind fun h h' hh => ?_
    rw [hf.this, show (fun id => Machine.readField? env.classes h id n)
      = fun id => Machine.readField? env'.classes h' id n' from
        funext fun id => hh.readField? henv.like id hn]
    split
    · exact .pure rfl
    · refine (readStatic_tied henv hcalls hf.cls hn).next fun v => ?_
      cases v with
      | some v => exact .pure rfl
      | none => exact .fault rfl

omit henv hcalls in
theorem evalThis_tied (span : Span) : Run.Tied τ Eq (evalThis span) (evalThis span) := by
  refine Run.Tied.frame.bind fun f g hf => ?_
  rw [hf.this]
  split
  · exact .pure rfl
  · exact .fault rfl

/-- The target of a call in the other run. -/
inductive Target.Twin (σ : Spelling) : Target → Target → Prop
  | toClass {c d : ClassInfo} : c.Twin σ d → Target.Twin σ (.static c) (.static d)
  | toObject (id : ObjectId) : Target.Twin σ (.instance id) (.instance id)

omit hcalls in
theorem implicitTarget_tied {n n' : String} (hn : sameName n n' = true) :
    Run.Tied τ (Target.Twin τ.spelling) (implicitTarget env n) (implicitTarget env' n') := by
  refine Run.Tied.frame.bind fun f g hf => ?_
  rw [hf.this]
  split
  · refine Run.Tied.heap.bind fun h h' hh => ?_
    dsimp only
    rw [isSome_paired (ClassInfo.instanceMethods?_like henv.like hn (hh.object _).cls.like)]
    split
    · exact .pure (.toObject _)
    · exact .pure (.toClass hf.cls)
  · rw [isNone_paired (ClassInfo.staticMethods?_like henv.like hn hf.cls.like),
      isSome_paired (ClassInfo.instanceMethods?_like henv.like hn hf.cls.like)]
    split
    · exact .fault rfl
    · exact .pure (.toClass hf.cls)

theorem explicitTarget_tied {e e' : Expr} (he : e.Spelled τ.spelling e') :
    Run.Tied τ (Target.Twin τ.spelling) (calls.explicitTarget env e)
      (calls'.explicitTarget env' e') := by
  refine Run.Tied.get.bind fun s s' hs => ?_
  have hc := Machine.classRef?_tied henv.classes hs he
  generalize s.classRef? env.classes e = x, s'.classRef? env'.classes e' = y at hc
  cases hc with
  | some hc => exact .pure (.toClass hc)
  | none =>
    refine (eval_tied hcalls he).next fun v => ?_
    cases v with
    | null => exact .fault rfl
    | object id => exact .pure (.toObject id)

theorem callTarget_tied {target target' : Target} (ht : target.Twin τ.spelling target')
    {n n' : String} (hn : sameName n n' = true) (args : List Value) :
    Run.Tied τ Eq (calls.callTarget env target n args)
      (calls'.callTarget env' target' n' args) := by
  cases ht with
  | toClass hc => exact (callStatic_tied henv hcalls hc hn args).next fun _ => .pure rfl
  | toObject id => exact (callInstance_tied henv hcalls id hn args).next fun _ => .pure rfl

theorem evalCreate_tied {d d' : DataType} (hd : d.Spelled τ.spelling d') {es es' : List Expr}
    (hes : List.Forall₂ (Expr.Spelled τ.spelling) es es') :
    Run.Tied τ Eq (calls.evalCreate env d es) (calls'.evalCreate env' d' es') := by
  refine Run.Tied.get.bind fun s s' hs => ?_
  have hc := Machine.lookupClass?_tied henv.classes hs hd.sameName
  generalize s.lookupClass? env.classes d.name = x, s'.lookupClass? env'.classes d'.name = y at hc
  cases hc with
  | none => exact .fault rfl
  | some hc =>
    exact (evalAll_tied hcalls hes).next fun vs =>
      (instantiate_tied henv hcalls hc hd.args vs).next fun _ => .pure rfl

omit henv in
theorem evalCondition_tied {e e' : Expr} (he : e.Spelled τ.spelling e') :
    Run.Tied τ Eq (calls.evalCondition e) (calls'.evalCondition e') := by
  refine (eval_tied hcalls he).next fun v => Run.Tied.heap.bind fun h h' hh => ?_
  rw [he.span]
  exact .ofExcept (Operator.truth_tied hh v _)

theorem evalLogical_tied (op : BinaryOp) {l l' r r' : Expr} (hl : l.Spelled τ.spelling l')
    (hr : r.Spelled τ.spelling r') :
    Run.Tied τ Eq (calls.evalLogical env op l r) (calls'.evalLogical env' op l' r') := by
  refine (evalCondition_tied hcalls hl).next fun b => ?_
  split
  · exact constant_tied henv _
  · exact (evalCondition_tied hcalls hr).next fun _ => constant_tied henv _

omit hcalls in
theorem applyBinary_tied (op : BinaryOp) (l r : Value) (span : Span) :
    Run.Tied τ Eq (applyBinary env op l r span) (applyBinary env' op l r span) :=
  Run.Tied.heap.bind fun _ _ hh =>
    (Run.Tied.ofExcept (Operator.binary_tied hh op l r span)).next fun _ => constant_tied henv _

theorem evalStep_tied {e e' : Expr} (he : e.Spelled τ.spelling e') (up : Bool) (span : Span) :
    Run.Tied τ Eq (calls.evalStep env e up span) (calls'.evalStep env' e' up span) := by
  refine (place_tied henv hcalls he).next fun fields p q hp => ?_
  have henv := henv.hold fields
  have hcalls := hcalls.hold fields
  exact (load_tied henv hcalls hp).next fun before => Run.Tied.heap.bind fun _ _ hh =>
    (Run.Tied.ofExcept (Operator.step_tied hh before up span)).next fun _ =>
    (constant_tied henv _).next fun after => (store_tied henv hcalls hp after).bind fun _ _ _ =>
    .pure rfl

theorem evalUnary_tied (op : UnaryOp) {e e' : Expr} (he : e.Spelled τ.spelling e') (span : Span) :
    Run.Tied τ Eq (calls.evalUnary env op e span) (calls'.evalUnary env' op e' span) := by
  unfold evalUnary
  cases op with
  | plus => exact eval_tied hcalls he
  | neg =>
    exact (eval_tied hcalls he).next fun v => Run.Tied.heap.bind fun _ _ hh =>
      (Run.Tied.ofExcept (Operator.negate_tied hh v span)).next fun _ => constant_tied henv _
  | not =>
    exact (eval_tied hcalls he).next fun v => Run.Tied.heap.bind fun _ _ hh =>
      (Run.Tied.ofExcept (Operator.truth_tied hh v span)).next fun _ => constant_tied henv _
  | inc => exact (evalStep_tied henv hcalls he true span).next fun _ => .pure rfl
  | dec => exact (evalStep_tied henv hcalls he false span).next fun _ => .pure rfl

theorem evalAssign_tied (op : AssignOp) {e e' : Expr} (he : e.Spelled τ.spelling e') {v v' : Expr}
    (hv : v.Spelled τ.spelling v') (span : Span) :
    Run.Tied τ Eq (calls.evalAssign env op e v span) (calls'.evalAssign env' op e' v' span) := by
  refine (place_tied henv hcalls he).next fun fields p q hp => ?_
  have henv := henv.hold fields
  have hcalls := hcalls.hold fields
  have hstore : ∀ w : Value, Run.Tied (τ.hold fields) Eq
      (calls.store env w p >>= fun _ => pure w) (calls'.store env' w q >>= fun _ => pure w) :=
    fun w => (store_tied henv hcalls hp w).bind fun _ _ _ => .pure rfl
  split
  · exact (eval_tied hcalls hv).next hstore
  · exact (load_tied henv hcalls hp).next fun before => (eval_tied hcalls hv).next fun operand =>
      (applyBinary_tied henv _ before operand span).next hstore

theorem stepEval_tied {e e' : Expr} (he : e.Spelled τ.spelling e') :
    Run.Tied τ Eq (calls.stepEval env e) (calls'.stepEval env' e') := by
  unfold stepEval
  cases he with
  | literal => exact constant_tied henv _
  | name hi => exact evalName_tied henv hcalls (τ.spelling.same hi.name)
  | this => exact evalThis_tied _
  | member he hi =>
    exact (place_tied henv hcalls (.member he hi)).next fun fields p q hp =>
      load_tied (henv.hold fields) (hcalls.hold fields) hp
  | index he hk =>
    exact (place_tied henv hcalls (.index he hk)).next fun fields p q hp =>
      load_tied (henv.hold fields) (hcalls.hold fields) hp
  | call hi hes =>
    have hn := τ.spelling.same hi.name
    exact (implicitTarget_tied henv hn).bind fun _ _ ht => (evalAll_tied hcalls hes).next fun vs =>
      callTarget_tied henv hcalls ht hn vs
  | callOn he hi hes =>
    exact (explicitTarget_tied henv hcalls he).bind fun _ _ ht =>
      (evalAll_tied hcalls hes).next fun vs =>
        callTarget_tied henv hcalls ht (τ.spelling.same hi.name) vs
  | create ht hes => exact evalCreate_tied henv hcalls ht.dataType hes
  | binary hl hr =>
    dsimp only
    split
    · exact evalLogical_tied henv hcalls _ hl hr
    · exact (eval_tied hcalls hl).next fun l => (eval_tied hcalls hr).next fun r =>
        applyBinary_tied henv _ l r _
  | unary he => exact evalUnary_tied henv hcalls _ he _
  | post he => exact (evalStep_tied henv hcalls he _ _).next fun _ => .pure rfl
  | assign he hv => exact evalAssign_tied henv hcalls _ he hv _
  | conditional hc hy hn =>
    refine (evalCondition_tied hcalls hc).next fun b => ?_
    cases b with
    | true => exact eval_tied hcalls hy
    | false => exact eval_tied hcalls hn
  | query => exact .native (Native.runQuery_tied henv.host _)

end

/-! ## Statements -/

section

include hcalls

theorem declareVars_tied {vs ws : List Declarator}
    (h : List.Forall₂ (Declarator.Spelled τ.spelling) vs ws) :
    Run.Tied τ (fun _ _ => True) (calls.declareVars vs) (calls'.declareVars ws) := by
  induction h with
  | nil => exact .pure trivial
  | @cons v w _ _ hv _ ih =>
    have hinit := hv.init
    unfold declareVars
    rw [hv.name]
    have hdeclare : ∀ x : Value, Run.Tied τ (fun _ _ => True)
        (Run.modifyFrame (·.declare w.name.name x) >>= fun _ => calls.declareVars _)
        (Run.modifyFrame (·.declare w.name.name x) >>= fun _ => calls'.declareVars _) :=
      fun x => (Run.Tied.modifyFrame fun hf => hf.declare _ x).bind fun _ _ _ => ih
    generalize v.init = x, w.init = y at hinit
    cases hinit with
    | none => exact hdeclare .null
    | some he => exact (eval_tied hcalls he).next hdeclare

theorem execBranch_tied {s s' : Stmt} (hs : s.Spelled τ.spelling s') :
    Run.Tied τ Eq (calls.execBranch s) (calls'.execBranch s') :=
  .inBlock (exec_tied hcalls hs)

theorem execBody_tied {s s' : Stmt} (hs : s.Spelled τ.spelling s') :
    Run.Tied τ Eq (calls.execBody s) (calls'.execBody s') := by
  refine (execBranch_tied hcalls hs).next fun flow => ?_
  cases flow <;> exact .pure rfl

theorem execForInit_tied {init init' : Option ForInit}
    (h : Option.Rel (ForInit.Spelled τ.spelling) init init') :
    Run.Tied τ (fun _ _ => True) (calls.execForInit init) (calls'.execForInit init') := by
  unfold execForInit
  cases h with
  | none => exact .pure trivial
  | some h =>
    cases h with
    | declare hd => exact declareVars_tied hcalls hd.vars
    | exprs hes => exact (evalAll_tied hcalls hes).next fun _ => .pure trivial

theorem execEach_tied (name : String) {s s' : Stmt} (hs : s.Spelled τ.spelling s') :
    ∀ vs : List Value, Run.Tied τ Eq (calls.execEach name s vs) (calls'.execEach name s' vs)
  | [] => .pure rfl
  | v :: vs => by
    unfold execEach
    refine (Run.Tied.inBlock ((Run.Tied.modifyFrame fun hf => hf.declare name v).bind fun _ _ _ =>
      execBody_tied hcalls hs)).next fun flow => ?_
    cases flow with
    | some flow => exact .pure rfl
    | none => exact execEach_tied name hs vs

theorem execForeach_tied (name : String) {e e' : Expr} (he : e.Spelled τ.spelling e') {s s' : Stmt}
    (hs : s.Spelled τ.spelling s') :
    Run.Tied τ Eq (calls.execForeach name e s) (calls'.execForeach name e' s') := by
  refine (eval_tied hcalls he).next fun v => ?_
  cases v with
  | null => exact .fault rfl
  | object id =>
    exact Run.Tied.heap.bind fun _ _ hh => (Run.Tied.ofNative (hh.list id)).next fun items =>
      execEach_tied hcalls name hs _

theorem stepIterate_tied {l l' : Loop} (h : l.Spelled τ.spelling l') :
    Run.Tied τ Eq (calls.stepIterate l) (calls'.stepIterate l') := by
  have pass : ∀ go : Bool, Run.Tied τ Eq (calls.pass l go) (calls'.pass l' go) := by
    intro go
    cases go with
    | false => exact .pure rfl
    | true =>
      refine (execBody_tied hcalls h.body).next fun flow => ?_
      cases flow with
      | some flow => exact .pure rfl
      | none => exact (evalAll_tied hcalls h.update).next fun _ => hcalls.iterate [] h
  have hcondition := h.condition
  generalize hx : l.condition = x, hy : l'.condition = y at hcondition
  cases hcondition with
  | none =>
    rw [stepIterate_of_none calls hx, stepIterate_of_none calls' hy]
    exact pass true
  | some he =>
    rw [stepIterate_of_some calls hx, stepIterate_of_some calls' hy]
    exact (evalCondition_tied hcalls he).next pass

theorem stepExec_tied {s s' : Stmt} (hs : s.Spelled τ.spelling s') :
    Run.Tied τ Eq (calls.stepExec s) (calls'.stepExec s') := by
  unfold stepExec
  cases hs with
  | expr he => exact (eval_tied hcalls he).next fun _ => .pure rfl
  | declare hd => exact (declareVars_tied hcalls hd.vars).bind fun _ _ _ => .pure rfl
  | block hss => exact .inBlock (execAll_tied hcalls hss)
  | ifElse hc hy hn =>
    refine (evalCondition_tied hcalls hc).next fun b => ?_
    cases b with
    | true => exact execBranch_tied hcalls hy
    | false =>
      cases hn with
      | none => exact .pure rfl
      | some hn => exact execBranch_tied hcalls hn
  | whileLoop hc hb => exact hcalls.iterate [] ⟨.some hc, hb, .nil⟩
  | doWhile hb hc =>
    refine (execBody_tied hcalls hb).next fun flow => ?_
    cases flow with
    | some flow => exact .pure rfl
    | none => exact hcalls.iterate [] ⟨.some hc, hb, .nil⟩
  | forLoop hinit hc hus hb =>
    exact .inBlock ((execForInit_tied hcalls hinit).bind fun _ _ _ =>
      hcalls.iterate [] ⟨hc, hb, hus⟩)
  | foreach _ he hb => exact execForeach_tied hcalls _ he hb
  | ret he =>
    cases he with
    | none => exact .pure rfl
    | some he => exact (eval_tied hcalls he).next fun _ => .pure rfl
  | brk => exact .pure rfl
  | cont => exact .pure rfl

end

/-! ## Whole runs -/

include henv in
/-- With the same fuel, both runs do the same. -/
theorem withFuel_tied : ∀ n, (withFuel env n).Tied τ (withFuel env' n)
  | 0 => ⟨fun _ _ _ _ => .throw .outOfFuel, fun _ _ _ _ => .throw .outOfFuel,
      fun _ _ _ _ => .throw .outOfFuel⟩
  | n + 1 => ⟨fun fields _ _ he =>
        stepEval_tied (henv.hold fields) ((withFuel_tied n).hold fields) he,
      fun fields _ _ hs => stepExec_tied ((withFuel_tied n).hold fields) hs,
      fun fields _ _ hl => stepIterate_tied ((withFuel_tied n).hold fields) hl⟩

end Calls

theorem Machine.start_tied (σ : Spelling) (t : ClassTable) (sink : Sink) :
    (start sink).Tied ⟨σ, t, []⟩ (start sink) :=
  ⟨⟨.empty σ t, rfl⟩, .nil, .nil⟩

/-- **Runs do not depend on the spelling of references.** Entered by spellings of one name, both
runs give the same value or stop for the same kind of reason, with the same output. -/
theorem Machine.runEntry_tied {env env' : Env} (henv : env.Tied τ env') (fuel : Nat)
    {cls cls' method method' : String} (hcls : sameName cls cls' = true)
    (hmethod : sameName method method' = true) :
    Run.Tied τ Eq (runEntry env fuel cls method) (runEntry env' fuel cls' method') := by
  have hcalls := Calls.withFuel_tied henv fuel
  have hc := henv.classes.resolve? hcls
  unfold runEntry
  dsimp only
  generalize env.classes.resolve? cls = x, env'.classes.resolve? cls' = y at hc
  cases hc with
  | none => exact .fault rfl
  | some hc =>
    refine (Run.Tied.log _ _).bind fun _ _ _ => ?_
    rw [isSome_paired (ClassInfo.staticMethods?_like henv.like hmethod hc.like),
      isSome_paired (ClassInfo.instanceMethods?_like henv.like hmethod hc.like)]
    split
    · exact Calls.callStatic_tied henv hcalls hc hmethod []
    · split
      · exact (Calls.instantiate_tied henv hcalls hc .nil []).next fun id =>
          Calls.callInstance_tied henv hcalls id hmethod []
      · exact .fault rfl

end ClassScript
