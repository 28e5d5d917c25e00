import ClassScript.Proofs.Scope.Walk

/-!
# Checking and running agree on the local names

`Frame.Binds f scope`: the frame `f` has local variables of exactly the names that are declared in
`scope`. `Shows scope base`: the running frame does so, over the frames `base`. Code on the walk of
checking is run in frames that show the names which checking has declared there (`Calls.Tracks`);
everything else runs in deeper frames.

Main statement: `local_names_agree`. A statement that starts in a frame which binds the names that
checking has declared there starts every part of itself in such a frame, and leaves such a frame
when it ends normally. So every test of a bare name for a local variable, in whatever loop, branch
or pass it is made, answers as it did when the name was checked.
-/

namespace ClassScript

open Run (Balanced Steady Passes)
open Typing (Code Stacked Walk Visits)

/-! ## Names that are bound -/

/-- The frame binds the names that the scope declares (module doc). -/
def Frame.Binds (f : Frame) (scope : LocalScope) : Prop :=
  ∀ name, f.isLocal name = scope.isDeclared name

/-- The running frame, over `base`, binds the names of `scope` (module doc). -/
def Shows (scope : LocalScope) (base fs : List Frame) : Prop :=
  ∃ f : Frame, fs = f :: base ∧ f.Binds scope

variable {scope scope' : LocalScope} {base : List Frame}

theorem Shows.of_sameNames {fs : List Frame} (h : Shows scope base fs)
    (hs : scope.SameNames scope') : Shows scope' base fs := by
  obtain ⟨f, hf, hb⟩ := h
  exact ⟨f, hf, fun name => (hb name).trans (hs name)⟩

theorem shows_kept : Kept (Shows scope base) := by
  rintro fs gs hk ⟨f, rfl, hb⟩
  cases hk with
  | running hk => exact ⟨_, rfl, fun name => (hk.isLocal name).trans (hb name)⟩

/-- The frame of a call binds the names that are declared at the start of the method's body. -/
theorem Frame.binds_bodyStart (t : ClassTable) (d : ClassInfo) (k : MethodInfo) (s : CheckState)
    (c : ClassInfo) (receiver : Option ObjectId) {args : List Value} (h : args.length = k.arity) :
    ((Frame.make c receiver).declareParams k.params args).Binds (Typing.bodyStart t d k s).scope := by
  intro name
  rw [isLocal_declareParams _ _ _ _ h, Typing.bodyStart, Typing.isDeclared_declareParams,
    (Typing.declaredResult_quiet k).scope]
  rfl

namespace Run

variable {α β : Type} {m : Machine}

/-- `x` ends in `Q` or halts, but at no watch. -/
def Clears (x : Run α) (Q : α → Machine → Prop) (m : Machine) : Prop :=
  x.Ends Q (fun r _ => r ≠ .probe) m

theorem Clears.bind {Q : α → Machine → Prop} {R : β → Machine → Prop} {x : Run α} {f : α → Run β}
    (hx : Clears x Q m) (hf : ∀ a m', Q a m' → Clears (f a) R m') : Clears (x >>= f) R m := by
  unfold Clears
  rw [ends_bind]
  exact Ends.mono hx hf fun _ _ hr => hr

theorem Clears.mono {Q R : α → Machine → Prop} {x : Run α} (hx : Clears x Q m)
    (h : ∀ a m', Q a m' → R a m') : Clears x R m :=
  Ends.mono hx h fun _ _ hr => hr

theorem Clears.outOfFuel {Q : α → Machine → Prop} : Clears (throw .outOfFuel) Q m :=
  fun hr => by cases hr

/-- What runs in a block of its own may declare variables there. -/
theorem Passes.block {vars : List String} {x : Run α} (hs : Steady vars x)
    (h : ∀ m, Shows scope base m.frames → Clears x (fun _ _ => True) m) :
    Passes (Shows scope base) (Run.inBlock x) := by
  intro m hm
  have frames := hs.inBlock m
  have halts : (Run.inBlock x).Ends (fun _ _ => True) (fun r _ => r ≠ .probe) m := by
    obtain ⟨f, hf, hb⟩ := hm
    rw [ends_inBlock, hf]
    refine Ends.mono (h { m with frames := f.push :: base } ⟨_, rfl, fun name => ?_⟩)
      (fun _ _ _ => trivial) fun _ _ hr => hr
    rw [Frame.isLocal_push, hb]
  unfold Ends
  split <;> rename_i hx
  · exact shows_kept (frames.ok hx) hm
  · exact halts.error hx

end Run

open Run (Clears)

/-- Both sides declare a variable. -/
theorem Shows.declare {m : Machine} {s : CheckState} (h : Shows s.scope base m.frames)
    (name : String) (type : Option DataType) (span : Span) (v : Value) :
    Clears (Run.modifyFrame (·.declare name v))
      (fun _ m' => Shows (Check.declare name type span s).2.scope base m'.frames) m := by
  obtain ⟨f, hf, hb⟩ := h
  unfold Clears
  rw [Run.ends_modifyFrame, hf]
  refine ⟨_, rfl, fun n => ?_⟩
  rw [Frame.isLocal_declare, Check.isDeclared_declare, hb]

/-! ## Code on the walk -/

/-- Code on the walk runs in frames that show its names. A statement that ends normally leaves the
names that checking has declared after it. -/
structure Calls.Tracks (cx : CheckContext) (V : Code → CheckState → Prop) (base : List Frame)
    (calls : Calls) : Prop where
  steady : calls.IsSteady
  eval : ∀ {scope e}, ExprIn V scope e → Passes (Shows scope base) (calls.eval e)
  exec : ∀ {b s m}, V (.stmt b) s → Shows s.scope base m.frames → Clears (calls.exec b)
    (fun flow m' => flow = .normal → Shows (Typing.checkStmt cx b s).2.scope base m'.frames) m
  iterate : ∀ {scope l}, LoopIn V scope l → Passes (Shows scope base) (calls.iterate l)

namespace Calls

variable {cx : CheckContext} {V : Code → CheckState → Prop} {calls : Calls} {m : Machine}
  {s : CheckState}

theorem Tracks.branch (h : calls.Tracks cx V base) {b : Stmt} (hb : StmtIn V scope b) :
    Passes (Shows scope base) (calls.execBranch b) := by
  obtain ⟨s, hv, hs⟩ := hb
  refine Passes.block (h.steady.exec b) fun m hm => ?_
  exact (h.exec hv (hm.of_sameNames fun name => (hs name).symm)).mono fun _ _ _ => trivial

section
variable (hV : Walk cx V) (h : calls.Tracks cx V base)
include h

theorem execBody_tracks {b : Stmt} (hb : StmtIn V scope b) :
    Passes (Shows scope base) (calls.execBody b) := by
  refine (h.branch hb).bind fun flow => ?_
  cases flow <;> exact Passes.pure _

theorem stepIterate_tracks {l : Loop} (hl : LoopIn V scope l) :
    Passes (Shows scope base) (calls.stepIterate l) := by
  have pass : ∀ go : Bool, Passes (Shows scope base) (calls.pass l go) := by
    intro go
    cases go with
    | false => exact Passes.pure _
    | true =>
      refine (execBody_tracks h hl.body).bind fun flow => ?_
      cases flow with
      | some flow => exact Passes.pure _
      | none =>
        exact (evalAll_passes fun e he => h.eval (hl.update e he)).bind fun _ => h.iterate hl
  cases hc : l.condition with
  | some e =>
    rw [stepIterate_of_some calls hc]
    exact (evalCondition_passes (h.eval (hl.condition e hc))).bind pass
  | none =>
    rw [stepIterate_of_none calls hc]
    exact pass true

/-- The loop variable is bound in a block of its own in each pass. -/
theorem execEach_tracks {name : String} {body : Stmt}
    (hs : ∀ n, scope'.isDeclared n = (sameName name n || scope.isDeclared n))
    (hb : StmtIn V scope' body) :
    ∀ vs : List Value, Passes (Shows scope base) (calls.execEach name body vs)
  | [] => Passes.pure _
  | v :: vs => by
    have steady : Steady [name] (do
        Run.modifyFrame (·.declare name v)
        calls.execBody body : Run (Option Flow)) :=
      (Steady.modifyFrame fun f => f.keeps_declare name v).append fun _ =>
        execBody_steady h.steady body
    refine (Passes.block steady fun m hm => ?_).bind fun flow => ?_
    · refine Clears.bind (Q := fun _ m' => Shows scope' base m'.frames) ?_ fun _ m' hm' =>
        Clears.mono (execBody_tracks h hb m' hm') fun _ _ _ => trivial
      obtain ⟨f, hf, hbinds⟩ := hm
      unfold Clears
      rw [Run.ends_modifyFrame, hf]
      refine ⟨_, rfl, fun n => ?_⟩
      rw [Frame.isLocal_declare, hs, hbinds]
    · cases flow with
      | some flow => exact Passes.pure _
      | none => exact execEach_tracks hs hb vs

include hV

theorem declareVars_tracks {declared : Option DataType} : ∀ {vs : List Declarator}
    {s : CheckState} {m : Machine}, V (.vars declared vs) s → Shows s.scope base m.frames →
    Clears (calls.declareVars vs) (fun _ m' =>
      Shows (vs.forM (Typing.checkDeclarator cx declared) s).2.scope base m'.frames) m
  | [], s, m, _, hm => hm
  | v :: vs, s, m, hv, hm => by
    have rest : V (.vars declared vs) (Typing.checkDeclarator cx declared v s).2 :=
      hV.part hv (List.mem_append_right _ List.mem_cons_self)
    -- the initializer does not change the names; the declaration does so on both sides
    have declare : ∀ (s' : CheckState) {m' : Machine} (value : Value),
        (Typing.checkDeclarator cx declared v s).2 =
          (Check.declare v.name.name declared v.name.span s').2 → Shows s'.scope base m'.frames →
        Clears (do
            Run.modifyFrame (·.declare v.name.name value)
            calls.declareVars vs : Run Unit) (fun _ m'' =>
          Shows ((v :: vs).forM (Typing.checkDeclarator cx declared) s).2.scope base m''.frames)
          m' := by
      intro s' m' value hs' hm'
      refine (hm'.declare v.name.name declared v.name.span value).bind fun _ m'' hm'' => ?_
      rw [← hs'] at hm''
      exact declareVars_tracks rest hm''
    unfold declareVars
    cases hi : v.init with
    | some e =>
      have hx : ExprIn V s.scope e :=
        hV.exprIn hv (List.mem_append_left _ (by simp [hi])) fun _ => rfl
      have hq := Typing.checkStored_quiet cx e declared
      refine Clears.bind (h.eval hx m hm) fun value m' hm' => ?_
      refine declare (Typing.checkStored cx e declared s).2 value ?_ ?_
      · simp only [Typing.checkDeclarator, hi]
        rfl
      · rw [hq.scope]
        exact hm'
    | none =>
      refine Clears.bind (Q := fun _ m' => Shows s.scope base m'.frames) hm fun value m' hm' =>
        declare s value ?_ hm'
      simp only [Typing.checkDeclarator, hi]

theorem execAll_tracks : ∀ {ss : List Stmt} {s : CheckState} {m : Machine}, V (.stmts ss) s →
    Shows s.scope base m.frames → Clears (calls.execAll ss) (fun _ _ => True) m
  | [], _, _, _, _ => trivial
  | b :: ss, s, m, hv, hm => by
    have hb : V (.stmt b) s := hV.part hv List.mem_cons_self
    have hss : V (.stmts ss) (Typing.checkStmt cx b s).2 :=
      hV.part hv (List.mem_cons_of_mem _ List.mem_cons_self)
    refine (h.exec hb hm).bind fun flow m' hm' => ?_
    cases flow with
    | normal => exact execAll_tracks hss (hm' rfl)
    | ret _ | brk | cont => exact trivial

theorem execForInit_tracks {init : Option ForInit} {condition : Option Expr} {update : List Expr}
    {body : Stmt} {span : Span} (hv : V (.stmt (.forLoop init condition update body span)) s)
    (hm : Shows s.scope base m.frames) :
    Clears (calls.execForInit init) (fun _ m' =>
      Shows (Typing.checkForInit cx init (Typing.pushed s)).2.scope base m'.frames) m := by
  have part : ∀ {y s'}, (y, s') ∈ Typing.forInitParts cx init (Typing.pushed s) → V y s' :=
    fun hy => hV.part hv
      (List.mem_append_left _ (List.mem_append_left _ (List.mem_append_left _ hy)))
  match init with
  | some (.declare d) =>
    have hq := Typing.resolveType_quiet cx d.type.dataType d.type.span
    have hat : Shows (cx.resolveType d.type.dataType d.type.span (Typing.pushed s)).2.scope base
        m.frames := by
      rw [hq.scope]
      exact hm
    exact declareVars_tracks hV h (part List.mem_cons_self) hat
  | some (.exprs es) =>
    have hq := Check.Quiet.forM (Typing.checkExpr_quiet cx) es
    have hes : ∀ e ∈ es, ExprIn V s.scope e := fun e he => by
      obtain ⟨s', hs'⟩ := Typing.mem_valueParts cx (Typing.pushed s) he
      exact ⟨.value, s', part hs', fun name => by rw [Typing.valueParts_scope hs']; rfl⟩
    refine Clears.bind (evalAll_passes (fun e he => h.eval (hes e he)) m hm) fun _ m' hm' => ?_
    show Shows (es.forM (Typing.checkExpr cx) (Typing.pushed s)).2.scope base m'.frames
    rw [hq.scope]
    exact hm'
  | none => exact hm

/-- A statement on the walk runs in frames that show its names. -/
theorem stepExec_tracks {b : Stmt} (hv : V (.stmt b) s) (hm : Shows s.scope base m.frames) :
    Clears (calls.stepExec b)
      (fun flow m' => flow = .normal → Shows (Typing.checkStmt cx b s).2.scope base m'.frames) m := by
  -- only a declaration changes the names
  have same : (∀ d, b ≠ .declare d) → Passes (Shows s.scope base) (calls.stepExec b) →
      Clears (calls.stepExec b) (fun flow m' => flow = .normal →
        Shows (Typing.checkStmt cx b s).2.scope base m'.frames) m := by
    intro hb hx
    exact Clears.mono (hx m hm) fun _ _ hm' _ => hm'.of_sameNames fun name =>
      ((hV.stacked hv).restores (Typing.checkStmt_restores cx b hb) name).symm
  cases b with
  | declare d =>
    have hq := Typing.resolveType_quiet cx d.type.dataType d.type.span
    have hvars : V (.vars (cx.resolveType d.type.dataType d.type.span s).1 d.vars)
        (cx.resolveType d.type.dataType d.type.span s).2 := hV.part hv List.mem_cons_self
    refine (declareVars_tracks hV h hvars (hq.scope s ▸ hm)).bind fun _ m' hm' _ => ?_
    unfold Typing.checkStmt
    exact hm'
  | expr e span =>
    refine same (by simp) ?_
    exact (h.eval (hV.exprIn hv List.mem_cons_self fun _ => rfl)).bind fun _ => Passes.pure _
  | block stmts span =>
    refine same (by simp) (Passes.block (execAll_steady h.steady stmts) fun m' hm' => ?_)
    have hss : V (.stmts stmts) (Typing.pushed s) := hV.part hv List.mem_cons_self
    exact execAll_tracks hV h hss hm'
  | ifElse condition yes no span =>
    obtain ⟨hcond, hyes, hno⟩ := hV.ifElse hv
    refine same (by simp) ((evalCondition_passes (h.eval hcond)).bind fun b => ?_)
    split
    · exact h.branch hyes
    · split
      · exact h.branch (hno _ rfl)
      · exact Passes.pure _
  | whileLoop condition body span => exact same (by simp) (h.iterate (hV.whileLoop hv))
  | doWhile body condition span =>
    have hl := hV.doWhile hv
    refine same (by simp) ((execBody_tracks h hl.body).bind fun flow => ?_)
    cases flow with
    | some flow => exact Passes.pure _
    | none => exact h.iterate hl
  | forLoop init condition update body span =>
    obtain ⟨vars, hi⟩ := execForInit_steady h.steady init
    have steady := hi.append fun _ => h.steady.iterate ⟨condition, body, update⟩
    refine same (by simp) (Passes.block steady fun m' hm' => ?_)
    exact (execForInit_tracks hV h hv hm').bind fun _ m'' hm'' =>
      Clears.mono (h.iterate (hV.forLoop hv) m'' hm'') fun _ _ _ => trivial
  | foreach type var iterable body span =>
    obtain ⟨hx, inner, hs, hb⟩ := hV.foreach hv
    refine same (by simp) ((h.eval hx).bind fun v => ?_)
    cases v with
    | null => exact Passes.fault (by simp)
    | object id =>
      exact Passes.heap.bind fun _ => (Passes.ofNative _).bind fun items =>
        execEach_tracks h hs hb _
  | ret value span =>
    refine same (by simp) ?_
    cases value with
    | some e =>
      exact (h.eval (hV.exprIn hv List.mem_cons_self fun _ => rfl)).bind fun _ => Passes.pure _
    | none => exact Passes.pure _
  | brk span => exact same (by simp) (Passes.pure _)
  | cont span => exact same (by simp) (Passes.pure _)

end

end Calls

/-! ## All of a run -/

/-- The task is checked where the names of the running frame are declared. -/
def Task.Site (V : Code → CheckState → Prop) (base : List Frame) (m : Machine) : Task → Prop
  | .eval e => ∃ scope, ExprIn V scope e ∧ Shows scope base m.frames
  | .exec b => ∃ s, V (.stmt b) s ∧ Shows s.scope base m.frames
  | .iterate l => ∃ scope, LoopIn V scope l ∧ Shows scope base m.frames

namespace Calls

variable {cx : CheckContext} {V : Code → CheckState → Prop}

/-- A watch that stops at no site, and nowhere in deeper frames, is passed on the walk. -/
theorem watching_tracks (env : Env) (hV : Walk cx V) {stop : Task → Machine → Prop}
    (hdeep : ∀ task m, base.length + 1 < m.depth → ¬ stop task m)
    (hsite : ∀ task m, task.Site V base m → ¬ stop task m) :
    ∀ n, (watching env stop n).Tracks cx V base
  | 0 =>
    ⟨watching_steady env stop 0, fun _ => Passes.outOfFuel,
      fun _ _ => Clears.outOfFuel,
      fun _ => Passes.outOfFuel⟩
  | n + 1 => by
    have ih := watching_tracks env hV hdeep hsite n
    -- what is called runs in deeper frames, where nothing stops
    have deeper := watching_deeper env hdeep n
    have enters : ∀ scope, (watching env stop n).Enters env (Shows scope base) := fun scope =>
      deeper.enters ih.steady (fun _ _ _ h => h) fun f fs ⟨_, hfs, _⟩ => by simp [hfs]
    refine ⟨watching_steady env stop (n + 1), fun {scope e} hx => ?_, fun {b s m} hv hm => ?_,
      fun {scope l} hl => ?_⟩
    · refine Passes.watched (stepEval_passes shows_kept ih.steady (enters scope) fun p hp => ?_)
        fun m hm => hsite (.eval e) m ⟨scope, hx, hm⟩
      obtain ⟨role, s, hv, hs⟩ := hx
      obtain ⟨role', s', hv', hs'⟩ := hV.evaluated hv hp
      exact ih.eval ⟨role', s', hv', fun name => by rw [hs', hs]⟩
    · have hrun : (watching env stop (n + 1)).exec b m = (watching env stop n).stepExec b m :=
        if_neg (hsite (.exec b) m ⟨s, hv, hm⟩)
      have hstep := stepExec_tracks hV ih hv hm
      unfold Clears Run.Ends at hstep ⊢
      rwa [hrun]
    · exact (stepIterate_tracks ih hl).watched fun m hm => hsite (.iterate l) m ⟨scope, hl, hm⟩

/-- A statement that starts at its names starts every part of itself at a site. -/
theorem StartsIn.site {env : Env} {fuel : Nat} {b : Stmt} {m m' : Machine} {task : Task}
    {s : CheckState} (h : StartsIn env fuel b m task m') (hV : Walk cx V) (hv : V (.stmt b) s)
    (hm : Shows s.scope base m.frames) (hdepth : m'.depth = m.depth) : task.Site V base m' := by
  obtain ⟨f, hf, -⟩ := id hm
  refine Classical.byContradiction fun hno => ?_
  have hdeep : ∀ t s', base.length + 1 < Machine.depth s' → ¬ (t = task ∧ s' = m') := by
    rintro t s' hlt ⟨-, rfl⟩
    rw [hdepth, Machine.depth, hf] at hlt
    exact Nat.lt_irrefl _ hlt
  have hsite : ∀ t s', Task.Site V base s' t → ¬ (t = task ∧ s' = m') := by
    rintro t s' ht ⟨rfl, rfl⟩
    exact hno ht
  obtain ⟨last, hrun⟩ := h
  exact ((watching_tracks env hV hdeep hsite fuel).exec hv hm).error hrun rfl

end Calls

/-- **Checking and running agree on the local names.** A call starts in a frame that binds the names
declared at the start of the body. A statement that starts in a frame which binds the names declared
before it, and ends normally, leaves a frame which binds the names declared after it. And every
expression it evaluates in that frame was checked where the names of the frame are declared; in
particular the name that the expression tests is a local variable of the frame if and only if it was
declared when checking came to it. -/
theorem local_names_agree (t : ClassTable) (c : ClassInfo) (k : MethodInfo) (s₀ : CheckState)
    (body : List Stmt) :
    let cx := Typing.bodyContext t c k s₀
    let start := Typing.bodyStart t c k s₀
    (∀ running receiver (args : List Value), args.length = k.arity →
      ((Frame.make running receiver).declareParams k.params args).Binds start.scope) ∧
    ∀ b s, Visits cx (.stmts body) start (.stmt b) s → ∀ (env : Env) fuel (m : Machine) f fs,
      m.frames = f :: fs → f.Binds s.scope →
      (∀ m', (Calls.withFuel env fuel).exec b m = .ok .normal m' →
        ∃ f', m'.frames = f' :: fs ∧ f'.Binds (Typing.checkStmt cx b s).2.scope) ∧
      (∀ e m₁, Calls.StartsIn env fuel b m (.eval e) m₁ → m₁.depth = m.depth →
        ∃ f₁ role s₁, m₁.frames = f₁ :: fs ∧ Visits cx (.stmt b) s (.expr role e) s₁ ∧
          f₁.Binds s₁.scope ∧ ∀ i, e.tested? = some i →
            ∃ role' s₂, Visits cx (.expr role e) s₁ (.expr role' (.name i)) s₂ ∧
              f₁.isLocal i.name = s₂.scope.isDeclared i.name) := by
  intro cx start
  refine ⟨fun running receiver args h => Frame.binds_bodyStart t c k s₀ running receiver h, ?_⟩
  intro b s hvisit env fuel m f fs hf hbinds
  have hs : Stacked s := (Typing.visits_walk (Typing.bodyStart_stacked t c k s₀)).stacked hvisit
  have hwalk : Walk cx (Visits cx (.stmt b) s) := Typing.visits_walk hs
  have hm : Shows s.scope fs m.frames := ⟨f, hf, hbinds⟩
  refine ⟨fun m' hrun => ?_, fun e m₁ hstart hdepth => ?_⟩
  · have h : (Calls.withFuel env fuel).Tracks cx (Visits cx (.stmt b) s) fs :=
      Calls.watching_never env fuel ▸
        Calls.watching_tracks env hwalk (fun _ _ _ => id) (fun _ _ _ => id) fuel
    exact (h.exec .here hm).ok hrun rfl
  · obtain ⟨scope, ⟨role, s₁, hv, hnames⟩, f₁, hf₁, hb₁⟩ := hstart.site hwalk .here hm hdepth
    have hb : f₁.Binds s₁.scope := fun name => (hb₁ name).trans (hnames name).symm
    refine ⟨f₁, role, s₁, hf₁, hv, hb, fun i hi => ?_⟩
    have hparts : Walk cx (Visits cx (.expr role e) s₁) := Typing.visits_walk (hwalk.stacked hv)
    obtain ⟨role', s₂, hv', hs'⟩ := hparts.tested .here hi
    exact ⟨role', s₂, hv', by rw [hs', hb]⟩

/-! ### A variable that hides a parameter -/

/-- A block that declares a variable and then reads it in other letters. -/
def declareAndRead : Stmt :=
  .block [.declare ⟨⟨⟨"Integer", .unknown⟩, [], .unknown⟩, [⟨⟨"Total", .unknown⟩, none, .unknown⟩],
    .unknown⟩, .expr (.name ⟨"total", .unknown⟩) .unknown] .unknown

/-- A method with a parameter that the block of its body hides. -/
def hidingMethod : MethodInfo :=
  ⟨"run", .none, none, [⟨"total", .integer⟩], .script [declareAndRead], .unknown⟩

/-- The block runs in the frame of a call, and reads its variable in that frame. -/
theorem local_names_agree_hiding : ∃ env f m' f' m₁ f₁, ∃ s₁ : CheckState,
    Env.make .initial none {} ⟨2024, 1, 1⟩ 16 = .ok env ∧
    f = (Frame.make default none).declareParams hidingMethod.params [.null] ∧
    f.Binds (Typing.bodyStart .initial default hidingMethod {}).scope ∧
    (Calls.withFuel env 4).exec declareAndRead { frames := [f] } = .ok .normal m' ∧
    m'.frames = [f'] ∧
    f'.Binds (Typing.checkStmt (Typing.bodyContext .initial default hidingMethod {}) declareAndRead
      (Typing.bodyStart .initial default hidingMethod {})).2.scope ∧
    Calls.StartsIn env 4 declareAndRead { frames := [f] } (.eval (.name ⟨"total", .unknown⟩)) m₁ ∧
    m₁.frames = [f₁] ∧ f₁.isLocal "total" = s₁.scope.isDeclared "total" := by
  obtain ⟨hstart, hall⟩ :=
    local_names_agree .initial default hidingMethod {} [declareAndRead]
  obtain ⟨f, hf⟩ : ∃ f, f = (Frame.make default none).declareParams hidingMethod.params [.null] :=
    ⟨_, rfl⟩
  have hbinds : f.Binds (Typing.bodyStart .initial default hidingMethod {}).scope :=
    hf ▸ hstart default none [.null] rfl
  obtain ⟨env, henv⟩ : ∃ env, Env.make .initial none {} ⟨2024, 1, 1⟩ 16 = .ok env := ⟨_, rfl⟩
  obtain ⟨hleave, hread⟩ := hall declareAndRead _ (.part .here List.mem_cons_self) env 4
    { frames := [f] } f [] rfl hbinds
  obtain ⟨m', hrun⟩ :
      ∃ m', (Calls.withFuel env 4).exec declareAndRead { frames := [f] } = .ok .normal m' :=
    ⟨_, rfl⟩
  have hstarts : Calls.StartsIn env 4 declareAndRead { frames := [f] }
      (.eval (.name ⟨"total", .unknown⟩)) { frames := [f.push.declare "Total" .null] } := by
    refine ⟨Run.popBlock { frames := [f.push.declare "Total" .null] }, ?_⟩
    simp [declareAndRead, Calls.watching, Run.watched, Calls.stepExec, Run.inBlock,
      Run.modifyFrame, bind, EStateM.bind, Run.ending, Calls.execAll, Calls.declareVars, pure,
      EStateM.pure]
  obtain ⟨f', hf', hb'⟩ := hleave m' hrun
  obtain ⟨f₁, role, s₁, hf₁, -, -, htest⟩ := hread _ _ hstarts rfl
  obtain ⟨role', s₂, -, hlocal⟩ := htest ⟨"total", .unknown⟩ rfl
  exact ⟨env, f, m', f', _, f₁, s₂, henv, hf, hbinds, hrun, hf', hb', hstarts, hf₁, hlocal⟩

end ClassScript
