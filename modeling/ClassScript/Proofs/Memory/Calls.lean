import ClassScript.Proofs.Memory.Charted
import ClassScript.Proofs.Resolution.Dispatch

/-!
# Calls and instances are charted

What runs in frames of its own takes the course that its history tells, over calls that are charted
already (`Histories.Charted`): static initializers, method bodies, field initializers and
constructors.

Static initializers are due before they start, and none is left when they end
(`Histories.initStatics_leads`). A method that gives its receiver native state runs only as a
constructor of a new instance (`Histories.construct_charted`).
-/

namespace ClassScript

open History (Charts Leads)

/-! ## What the state has to offer -/

/-- An object that has more than the default class is in the heap. -/
theorem Heap.Placed.has {t : ClassTable} {h : Heap} (hp : h.Placed t) {id : ObjectId}
    (hne : (h.get id).cls ≠ default) : t.Has (h.get id).cls := by
  refine hp id (Nat.lt_of_not_le fun le => hne ?_)
  rw [get_of_le le]
  rfl

theorem Heap.Placed.has_of_methods {t : ClassTable} {h : Heap} (hp : h.Placed t) {id : ObjectId}
    {name : String} {g : List MethodInfo} (hg : (h.get id).cls.instanceMethods? t name = some g) :
    t.Has (h.get id).cls := by
  refine hp.has fun he => ?_
  rw [he, ClassInfo.instanceMethods?_default] at hg
  cases hg

theorem Heap.Placed.has_of_static {t : ClassTable} {h : Heap} (hp : h.Placed t) {id : ObjectId}
    {name : String} (hs : ((h.get id).cls.staticField? t name).isSome = true) :
    t.Has (h.get id).cls := by
  refine hp.has fun he => ?_
  rw [he] at hs
  unfold ClassInfo.staticField? at hs
  rw [ClassInfo.chain_of_no_superclass rfl] at hs
  cases hs

namespace Machine

variable {t : ClassTable} {h h' : Heap} {id : ObjectId} {name : String}

theorem readField?_isSome : (readField? t h id name).isSome = true ↔
    (h.get id).fields.contains name = true ∨
      ((h.get id).cls.instanceField? t name).isSome = true := by
  unfold readField?
  rw [NameTable.contains_eq]
  cases (h.get id).fields.get? name <;> simp

/-- A field that an object has, or that its class declares, it has for good. -/
theorem readField?_lasts (hl : h.Lasts h') (hr : (readField? t h id name).isSome = true) :
    (readField? t h' id name).isSome = true := by
  have lt := lt_of_readField? hr
  rw [readField?_isSome] at hr ⊢
  rw [hl.cls id lt]
  exact hr.imp_left (hl.fields id lt name)

end Machine

namespace Env.Registered

variable {env : Env} {decls : List ClassDecl} (he : env.Registered decls) {c : ClassInfo}
  {name : String} {g : List MethodInfo} {k : MethodInfo} {method : NativeMethod}
include he

/-- Instance methods start no native state. -/
theorem instance_starts (hc : env.classes.Has c) (hg : c.instanceMethods? env.classes name = some g)
    (hk : k ∈ g) (hb : k.body = .native method) : method.start? = none := by
  obtain ⟨d, hd, hgroup⟩ := List.exists_of_findSome?_eq_some hg
  exact (he.startsOwn (hc.of_chain hd)).methods name g hgroup k hk method hb

end Env.Registered

/-- The method is a built-in one that gives the receiver this native state whatever it had. -/
def MethodInfo.StartsOn (k : MethodInfo) (receiver : Option ObjectId) (id : ObjectId)
    (p : Payload) : Prop :=
  receiver = some id ∧ ∃ method, k.body = .native method ∧ method.start? = some p

namespace Histories

variable {env : Env} {calls : Calls} {hist : Histories calls}

/-- What the calls evaluate and execute is charted. -/
structure Charted (env : Env) (hist : Histories calls) : Prop where
  eval : ∀ e, (hist.eval e).Charts env
  exec : ∀ s, (hist.exec s).Charts env
  iterate : ∀ l, (hist.iterate l).Charts env

section

variable (h : hist.Charted env)
include h

theorem evalAll_charts (es : List Expr) : (hist.evalAll es).Charts env := by
  induction es with
  | nil => exact .reads (.pure _)
  | cons e es ih => exact (h.eval e).bind fun _ => ih.bind fun _ => .reads (.pure _)

theorem execAll_charts (ss : List Stmt) : (hist.execAll ss).Charts env := by
  induction ss with
  | nil => exact .reads (.pure _)
  | cons s ss ih =>
    refine (h.exec s).bind fun flow => ?_
    cases flow with
    | normal => exact ih
    | ret _ | brk | cont => exact .reads (.pure _)

/-! ## Static fields -/

/-- Initializers that are due are due no longer once they are run. -/
theorem initStatics_leads : ∀ (ps : List PendingStatic) {m : Machine}, m.Placed env.classes →
    ∀ due running, (hist.initStatics ps).Leads env ⟨m.memory, ps ++ due, running⟩
      (fun _ m' s' => s' = ⟨m'.memory, due, running⟩) m
  | [], m, hm, due, running => ⟨_, .done _, hm, rfl⟩
  | p :: ps, m, hm, due, running => by
    -- while the first one runs, the others are due before everything else
    refine Leads.bind (.note .start rfl (h.eval p.init m hm (ps ++ due) (p :: running))) ?_
    rintro v m₁ _ hm₁ - ⟨rfl, -⟩
    refine Leads.bind (T := fun _ m' s' => s' = ⟨m'.memory, ps ++ due, running⟩)
      (.mark .finish ⟨⟨hm₁.frames, hm₁.heap⟩, rfl, rfl⟩) ?_
    rintro _ m₂ _ hm₂ - rfl
    exact initStatics_leads ps hm₂ due running

theorem ensureStatics_charts {c : ClassInfo} (hc : env.classes.Has c) :
    (hist.ensureStatics env c).Charts env := by
  intro m hm due running
  refine Leads.bind (T := fun pending m' s' => s' = ⟨m'.memory, pending ++ due, running⟩)
    (.mark (.touch hc) ⟨⟨hm.frames, hm.heap⟩, rfl, rfl⟩) ?_
  rintro pending m₁ _ hm₁ - rfl
  split
  · rename_i hp
    obtain rfl := List.isEmpty_iff.1 hp
    exact .of_eq ⟨_, .done _, hm₁, rfl, trivial⟩
  · refine .of_eq (Leads.bind (T := fun _ m' s' => s' = ⟨m'.memory, pending ++ due, running⟩)
      ⟨_, .done _, ⟨hm₁.frames, hm₁.heap⟩, rfl⟩ ?_)
    rintro _ m₂ _ hm₂ - rfl
    have leads := initStatics_leads h pending (hm₂.enter hc none) due running
    exact leads.inFrame fun _ _ _ hs => ⟨hs, trivial⟩

theorem readStatic_charts {c : ClassInfo} (hc : env.classes.Has c) (name : String) :
    (hist.readStatic env c name).Charts env := by
  unfold readStatic
  split
  · rename_i hn
    refine .reads ?_
    unfold Calls.readStatic
    rw [hn]
    exact .pure _
  · exact .of_eq ((ensureStatics_charts h hc).bind fun _ => .reads (.bind .get fun _ => .pure _))

theorem writeStatic_charts {c : ClassInfo} (hc : env.classes.Has c) (name : String) (v : Value) :
    (hist.writeStatic env c name v).Charts env := by
  unfold writeStatic
  split
  · rename_i hn
    refine .reads ?_
    unfold Calls.writeStatic
    rw [hn]
    exact .pure _
  · rename_i owner f hf
    obtain ⟨hchain, hget⟩ := ClassInfo.staticField?_owner hf
    have howner := hc.of_chain hchain
    have hname : owner.staticFields.contains name = true := by rw [NameTable.contains_eq, hget]; rfl
    refine .of_eq ((ensureStatics_charts h hc).bind fun _ m hm => .mark ?_)
    exact ⟨⟨hm.frames, hm.heap⟩, fun due running => .assign howner hname, trivial⟩

end

/-! ## Calls -/

theorem selectOrFail_charted {m : Machine} (hm : m.Placed env.classes) (b : TypeBindings)
    (group : Option (List MethodInfo)) (args : List Value) (className name : String) :
    (History.quiet (Calls.selectOrFail env b group args className name)).Charted env
      (fun k m' => m' = m ∧ ∃ g, group = some g ∧ k ∈ g) m := by
  refine .quiet ((Calls.selectOrFail_ends b group args className name).mono ?_ ?_)
  · rintro k _ ⟨rfl, hk⟩
    exact ⟨rfl, hm, rfl, hk⟩
  · rintro r _ ⟨rfl, -⟩
    rfl

section

variable {decls : List ClassDecl} (he : env.Registered decls) (h : hist.Charted env)
include he h

omit h in
/-- A built-in method gives native state to its receiver, where it starts any. -/
theorem nativeCall_charted {m : Machine} (hm : m.Placed env.classes) (receiver : Option ObjectId)
    (args : List Value) (method : NativeMethod)
    (hs : ∀ id p, Native.Starts ⟨receiver, args⟩ method id p → m.world.heap.Starts id p) :
    (native (Native.call env.toHost ⟨receiver, args⟩ method)).Charted env
      (fun _ m' => ∀ id p, Native.Starts ⟨receiver, args⟩ method id p →
        (m'.world.heap.get id).payload = p) m := by
  refine (History.Charted.native hm he ((Native.call_acts _ method m.world).mono hs)).mono ?_
  rintro a m' hrun id p ⟨rfl, hp⟩
  have lt := (hs id p ⟨rfl, hp⟩).lt
  rw [Native.call_starts hp] at hrun
  injection hrun with _ hworld
  rw [← hworld]
  show ((m.world.heap.setPayload id p).get id).payload = p
  rw [Heap.get_setPayload _ _ _ lt, if_pos rfl]

/-- A method that starts native state may run on an object that is to have it, and does give it. -/
theorem invoke_charted {k : MethodInfo} {c : ClassInfo} (hc : env.classes.Has c)
    {receiver : Option ObjectId} (args : List Value) {m : Machine} (hm : m.Placed env.classes)
    (hs : ∀ id p, k.StartsOn receiver id p → m.world.heap.Starts id p) :
    (hist.invoke env k c receiver args).Charted env
      (fun _ m' => ∀ id p, k.StartsOn receiver id p → (m'.world.heap.get id).payload = p) m := by
  refine (History.Charted.log hm _).bind fun _ m₁ hm₁ _ hmem => History.Charted.get_bind ?_
  have hheap : m₁.world.heap = m.world.heap := congrArg Memory.heap hmem
  split
  · rename_i hd
    refine .quiet ?_
    rw [if_pos hd]
    rfl
  · rename_i hd
    obtain ⟨name, modifiers, returnType, params, body, span⟩ := k
    cases body with
    | native method =>
      have starts : ∀ id p, Native.Starts ⟨receiver, args⟩ method id p →
          m₁.world.heap.Starts id p := fun id p hst => by
        rw [hheap]
        exact hs id p ⟨hst.1, method, rfl, hst.2⟩
      refine .of_eq ((nativeCall_charted he hm₁ receiver args method starts).mono ?_)
      rintro a m₂ hstate id p ⟨hid, _, ⟨⟩, hp⟩
      exact hstate id p ⟨hid, hp⟩
    | script stmts =>
      dsimp only
      split
      · have hf : env.classes.Has ((Frame.make c receiver).declareParams params args).cls := by
          rw [(Frame.declareParams_keeps params args _).1]
          exact hc
        refine .of_eq ((History.Charted.inFrame (execAll_charts h stmts _ (hm₁.push hf))).bind
          fun _ m₂ hm₂ _ _ => .pure hm₂ ?_)
        -- statements start no native state of a receiver
        rintro id p ⟨-, _, ⟨⟩, -⟩
      · rename_i ha
        refine .quiet ?_
        rw [if_neg hd]
        show Run.Ends (if _ then _ else Run.fault _) _ _ m₁
        rw [if_neg ha]
        rfl
    | abstract =>
      refine .quiet ?_
      rw [if_neg hd]
      rfl

theorem callStatic_charts {c : ClassInfo} (hc : env.classes.Has c) (name : String)
    (args : List Value) : (hist.callStatic env c name args).Charts env := by
  intro m hm
  refine (ensureStatics_charts h hc m hm).bind fun _ m₁ hm₁ _ _ =>
    (selectOrFail_charted hm₁ _ _ _ _ _).bind fun k m₂ hm₂ _ _ => ?_
  refine (invoke_charted he h hc args hm₂ ?_).mono fun _ _ _ => trivial
  -- there is no receiver that could be given anything
  rintro id p ⟨hid, -⟩
  cases hid

theorem callInstance_charts (id : ObjectId) (name : String) (args : List Value) :
    (hist.callInstance env id name args).Charts env := by
  intro m hm
  refine History.Charted.heap_bind
    ((selectOrFail_charted hm _ _ _ _ _).bind fun k m₁ hm₁ _ hk => ?_)
  obtain ⟨rfl, g, hg, hk⟩ := hk
  have hc := hm.heap.has_of_methods hg
  refine (invoke_charted he h hc args hm₁ ?_).mono fun _ _ _ => trivial
  rintro i p ⟨-, method, hb, hp⟩
  rw [he.instance_starts hc hg hk hb] at hp
  cases hp

/-! ## Instances -/

omit h in
theorem write_charted {m : Machine} (hm : m.Placed env.classes) {id : ObjectId} {name : String}
    (v : Value) (hr : (Machine.readField? env.classes m.world.heap id name).isSome = true) :
    (History.mark (.write id name)
      (Run.native (Native.modifyHeap (·.setField id name v)))).Charted env (fun _ _ => True) m := by
  have change : ∀ due running, Change env ⟨m.memory, due, running⟩ (.write id name)
      ⟨⟨m.world.heap.setField id name v, m.statics⟩, due, running⟩ := fun _ _ => .write hr
  exact .mark ⟨⟨hm.frames, (change [] []).placed he hm.heap⟩, change, trivial⟩

theorem initFields_charted (id : ObjectId) : ∀ (fs : List FieldInfo) {m : Machine},
    m.Placed env.classes →
    (∀ f ∈ fs, (Machine.readField? env.classes m.world.heap id f.name).isSome = true) →
    (hist.initFields id fs).Charted env (fun _ _ => True) m
  | [], m, hm, _ => .pure hm trivial
  | f :: fs, m, hm, hf => by
    have rest := fun g hg => hf g (List.mem_cons_of_mem f hg)
    unfold initFields
    split
    · exact .of_eq (initFields_charted id fs hm rest)
    · refine .of_eq ((h.eval _ m hm).bind fun v m₁ hm₁ lasts₁ _ => ?_)
      have hw := Machine.readField?_lasts lasts₁ (hf f List.mem_cons_self)
      refine (write_charted he hm₁ v hw).bind fun _ m₂ hm₂ lasts₂ _ =>
        initFields_charted id fs hm₂ fun g hg => ?_
      exact Machine.readField?_lasts (lasts₁.trans lasts₂) (rest g hg)

/-- A constructor gives a new instance the native state of its class. -/
theorem construct_charted {c : ClassInfo} (hc : env.classes.Has c) {id : ObjectId}
    (typeArgs : List DataType) (args : List Value) {m : Machine} (hm : m.Placed env.classes)
    (hcls : (m.world.heap.get id).cls = c) (lt : id < m.world.heap.objects.size) :
    (hist.construct env c id typeArgs args).Charted env (fun _ m' => m'.world.heap.Ready id) m := by
  unfold construct
  split
  · rename_i hempty
    refine .quiet ?_
    unfold Calls.construct
    rw [if_pos hempty]
    split
    · refine ⟨rfl, hm, lt, fun hcon => ?_⟩
      rw [hcls] at hcon
      exact absurd (List.isEmpty_iff.1 hempty) hcon.2
    · rfl
  · refine .of_eq ((selectOrFail_charted hm _ _ _ _ _).bind fun k m₁ hm₁ _ hk => ?_)
    obtain ⟨rfl, _, ⟨⟩, hk⟩ := hk
    have own := (he.startsOwn hc).constructors k hk
    have starts : ∀ i p, k.StartsOn (some id) i p → m₁.world.heap.Starts i p := by
      rintro _ p ⟨⟨⟩, method, hb, hp⟩
      obtain ⟨hnative, hkind⟩ := own method p hb hp
      unfold Heap.Starts
      rw [hcls]
      exact ⟨⟨.of_mem hnative hk, hkind⟩, method, hp⟩
    refine (invoke_charted he h hc args hm₁ starts).bind fun _ m₂ hm₂ lasts hstate =>
      .pure hm₂ ⟨Nat.lt_of_lt_of_le lt lasts.size, fun hcon => ?_⟩
    rw [lasts.cls id lt, hcls] at hcon ⊢
    obtain ⟨method, p, hb, hp⟩ := ClassInfo.native_constructor hcon.1 hk
    rw [hstate id p ⟨rfl, method, hb, hp⟩]
    exact (own method p hb hp).2

omit h in
/-- A new instance has the fields of its class, and room of its own. -/
theorem make_charted {c : ClassInfo} (hc : env.classes.Has c) (typeArgs : List DataType)
    {m : Machine} (hm : m.Placed env.classes) :
    (History.mark (.make m.world.heap.objects.size) (Run.native (Native.alloc
      ⟨c, typeArgs, Calls.nullFields (c.allInstanceFields env.classes), .none⟩))).Charted env
      (fun _ m' => m.world.heap.objects.size < m'.world.heap.objects.size ∧
        m'.world.heap.get m.world.heap.objects.size =
          ⟨c, typeArgs, Calls.nullFields (c.allInstanceFields env.classes), .none⟩) m := by
  let o : Object := ⟨c, typeArgs, Calls.nullFields (c.allInstanceFields env.classes), .none⟩
  have change : ∀ due running, Change env ⟨m.memory, due, running⟩
      (.make m.world.heap.objects.size)
      ⟨⟨(m.world.heap.alloc o).2, m.statics⟩, due, running⟩ := fun _ _ => .make hc
  have room : m.world.heap.objects.size < (m.world.heap.alloc o).2.objects.size := by
    rw [Heap.size_alloc]
    exact Nat.lt_succ_self _
  exact .mark ⟨⟨hm.frames, (change [] []).placed he hm.heap⟩, change, room,
    m.world.heap.get_alloc_self o⟩

/-- A new instance is handed out once its constructor is done. -/
theorem complete_charted {c : ClassInfo} (hc : env.classes.Has c) {id : ObjectId}
    (typeArgs : List DataType) (args : List Value) {m : Machine} (hm : m.Placed env.classes)
    (hcls : (m.world.heap.get id).cls = c) (lt : id < m.world.heap.objects.size) :
    ((hist.construct env c id typeArgs args).bind fun _ =>
      History.note (.made id) (History.quiet (pure id))).Charted env (fun _ _ => True) m :=
  (construct_charted he h hc typeArgs args hm hcls lt).bind fun _ _ hm' _ ready _ _ =>
    .note (.made ready) rfl ⟨_, .done _, hm', rfl, trivial⟩

theorem instantiate_charts {c : ClassInfo} (hc : env.classes.Has c) (typeArgs : List DataType)
    (args : List Value) : (hist.instantiate env c typeArgs args).Charts env := by
  intro m hm
  refine (ensureStatics_charts h hc m hm).bind fun _ m₁ hm₁ _ _ => History.Charted.heap_bind
    ((make_charted he hc typeArgs hm₁).bind fun _ m₂ hm₂ _ hnew => ?_)
  obtain ⟨lt, hget⟩ := hnew
  have hcls : (m₂.world.heap.get m₁.world.heap.objects.size).cls = c := by rw [hget]
  split
  · have fields : ∀ f ∈ c.allInstanceFields env.classes, (Machine.readField? env.classes
        m₂.world.heap m₁.world.heap.objects.size f.name).isSome = true := by
      intro f hf
      have hname := Calls.contains_nullFields.2 ⟨f, hf, sameName_self f.name⟩
      refine Machine.readField?_isSome.2 (.inl ?_)
      rw [hget]
      exact hname
    refine .of_eq ((History.Charted.inFrame
      (initFields_charted he h _ _ (hm₂.enter hc _) fields)).bind fun _ m₃ hm₃ lasts _ => ?_)
    exact complete_charted he h hc typeArgs args hm₃ ((lasts.cls _ lt).trans hcls)
      (Nat.lt_of_lt_of_le lt lasts.size)
  · exact .of_eq (complete_charted he h hc typeArgs args hm₂ hcls lt)

end

end Histories

end ClassScript
