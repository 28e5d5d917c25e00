import ClassScript.Proofs.Class.Registered
import ClassScript.Proofs.Spelling.CheckedClasses

/-!
# Registering in other spellings

A batch of declarations in another spelling is registered in the same way: the same declarations are
rejected for the same reasons, the log is the same, and the classes of the others look alike
(`Registration.registerAll_like`). Errors and log entries only name what is declared, and declared
names keep their spelling.

`ClassTable.Twins σ t t'`: the classes of both tables look alike, and their instance fields stand
under their own names. The tables of both batches are such (`Registration.registerAll_twins`).
-/

namespace ClassScript

/-- Both succeed with related results, or both fail in the same way. -/
inductive ExceptRel {ε α β : Type} (R : α → β → Prop) : Except ε α → Except ε β → Prop
  | ok {a : α} {b : β} : R a b → ExceptRel R (.ok a) (.ok b)
  | error (e : ε) : ExceptRel R (.error e) (.error e)

namespace ExceptRel

variable {ε α β γ δ : Type} {R : α → β → Prop} {S : γ → δ → Prop}

theorem bind {x : Except ε α} {y : Except ε β} (h : ExceptRel R x y) {f : α → Except ε γ}
    {g : β → Except ε δ} (hfg : ∀ a b, R a b → ExceptRel S (f a) (g b)) :
    ExceptRel S (x >>= f) (y >>= g) := by
  cases h with
  | ok h => exact hfg _ _ h
  | error e => exact .error e

theorem foldlM {f : α → γ → Except ε α} {g : β → δ → Except ε β} {cs : List γ} {ds : List δ}
    (h : List.Forall₂ S cs ds)
    (hfg : ∀ {a b c d}, R a b → S c d → ExceptRel R (f a c) (g b d)) :
    ∀ {a b}, R a b → ExceptRel R (cs.foldlM f a) (ds.foldlM g b) := by
  induction h with
  | nil => exact fun hab => .ok hab
  | cons hcd _ ih =>
    intro a b hab
    rw [List.foldlM_cons, List.foldlM_cons]
    exact (hfg hab hcd).bind fun _ _ h => ih h

end ExceptRel

/-! ## Declarations -/

section

variable {σ : Spelling}

theorem FieldDecl.Spelled.info {f g : FieldDecl} (h : f.Spelled σ g) :
    f.info.Like (.spelled σ) g.info where
  name := congrArg Ident.name h.name
  type := h.type.dataType
  modifiers := h.modifiers
  init := h.init
  span := h.span

theorem Param.Spelled.info {p q : Param} (h : p.Spelled σ q) :
    ParamInfo.Like (.spelled σ) ⟨p.name.name, p.type.dataType⟩ ⟨q.name.name, q.type.dataType⟩ :=
  ⟨congrArg Ident.name h.name, h.type.dataType⟩

theorem MethodDecl.Spelled.info {m n : MethodDecl} (h : m.Spelled σ n) :
    m.info.Like (.spelled σ) n.info where
  name := congrArg Ident.name h.name
  modifiers := h.modifiers
  returnType :=
    optionFilter_paired (map_paired h.returnType fun ht => TypeRef.Spelled.dataType ht) fun ht =>
      congrArg Bool.not ht.isVoid
  params := List.rel_map (fun _ _ hp => Param.Spelled.info hp) h.params
  body := by
    have hb := h.body
    unfold MethodDecl.info
    dsimp only
    generalize m.body = b, n.body = b' at hb
    cases hb with
    | none => exact .abstract
    | some hs => exact .script hs
  span := h.span

namespace ClassDecl.Spelled

variable {c d : ClassDecl} (h : c.Spelled σ d)
include h

theorem name : c.name = d.name := by
  cases h
  rfl

theorem members : List.Forall₂ (Member.Spelled σ (ClassDecl.Spelled σ)) c.members d.members := by
  cases h
  assumption

theorem fields : List.Forall₂ (FieldDecl.Spelled σ) c.fields d.fields := by
  refine List.rel_filterMap (fun _ _ hm => ?_) h.members
  cases hm with
  | field hf => exact .some hf
  | method _ | constructor _ | inner _ => exact .none

theorem methods : List.Forall₂ (MethodDecl.Spelled σ) c.methods d.methods := by
  refine List.rel_filterMap (fun _ _ hm => ?_) h.members
  cases hm with
  | method hm => exact .some hm
  | field _ | constructor _ | inner _ => exact .none

theorem constructors : List.Forall₂ (MethodDecl.Spelled σ) c.constructors d.constructors := by
  refine List.rel_filterMap (fun _ _ hm => ?_) h.members
  cases hm with
  | constructor hm => exact .some hm
  | field _ | method _ | inner _ => exact .none

end ClassDecl.Spelled

end

/-! ## Adding members -/

section

variable {ρ : Likeness}

theorem MethodInfo.Like.sameSignature {m m' n n' : MethodInfo} (hm : m.Like ρ m')
    (hn : n.Like ρ n') : m.sameSignature n = m'.sameSignature n' := by
  have hpm := DataType.Spelled.sameAll hm.paramTypes
  have hpn := DataType.Spelled.sameAll hn.paramTypes
  unfold MethodInfo.sameSignature
  rw [Bool.eq_iff_iff]
  constructor
  · intro h
    rw [DataType.sameAll_comm] at hpm
    exact DataType.sameAll_trans hpm (DataType.sameAll_trans h hpn)
  · intro h
    rw [DataType.sameAll_comm] at hpn
    exact DataType.sameAll_trans hpm (DataType.sameAll_trans h hpn)

theorem MethodTable.add_like {t t' : MethodTable}
    (ht : NameTable.Paired ρ.spelling (MethodInfo.LikeAll ρ) t t') {m n : MethodInfo}
    (hm : m.Like ρ n) :
    NameTable.Paired ρ.spelling (MethodInfo.LikeAll ρ) (t.add m) (t'.add n) := by
  unfold MethodTable.add
  rw [hm.name, ht.contains (sameName_self n.name)]
  split
  · exact ht.modify (sameName_self _) fun hs => List.rel_append hs (.cons hm .nil)
  · exact ht.insert (ρ.spelling.refl _) (.cons hm .nil)

namespace ClassInfo.LikeOwn

variable {c d : ClassInfo} (h : c.LikeOwn ρ d)
include h

theorem addField {f g : FieldInfo} (hf : f.Like ρ g) :
    (c.addField f).LikeOwn ρ (d.addField g) := by
  unfold ClassInfo.addField
  rw [hf.isStatic, hf.name]
  split
  · exact { h with staticFields := h.staticFields.insert (ρ.spelling.refl _) hf }
  · exact { h with instanceFields := h.instanceFields.insert (ρ.spelling.refl _) hf }

theorem addMethod {m n : MethodInfo} (hm : m.Like ρ n) :
    (c.addMethod m).LikeOwn ρ (d.addMethod n) := by
  unfold ClassInfo.addMethod
  rw [hm.isStatic]
  split
  · exact { h with staticMethods := MethodTable.add_like h.staticMethods hm }
  · exact { h with instanceMethods := MethodTable.add_like h.instanceMethods hm }

theorem addConstructor {m n : MethodInfo} (hm : m.Like ρ n) :
    (c.addConstructor m).LikeOwn ρ (d.addConstructor n) :=
  { h with constructors := List.rel_append h.constructors (.cons hm .nil) }

end ClassInfo.LikeOwn

end

/-! ## One class -/

namespace Registration

variable {σ : Spelling}

section

variable {c d : ClassInfo} (h : c.LikeOwn (.spelled σ) d)
include h

theorem addField_like {f g : FieldDecl} (hf : f.Spelled σ g) :
    ExceptRel (ClassInfo.LikeOwn (.spelled σ)) (addField c f) (addField d g) := by
  unfold addField
  rw [hf.name, h.instanceFields.contains (sameName_self _),
    h.staticFields.contains (sameName_self _)]
  split
  · exact .error _
  · exact .ok (h.addField hf.info)

theorem overloads_like (name : String) :
    MethodInfo.LikeAll (.spelled σ) (overloads c name) (overloads d name) := by
  have group : ∀ {x y : Option (List MethodInfo)},
      Option.Rel (MethodInfo.LikeAll (.spelled σ)) x y →
      MethodInfo.LikeAll (.spelled σ) (x.getD []) (y.getD []) := by
    intro x y hxy
    cases hxy with
    | none => exact .nil
    | some h => exact h
  exact List.rel_append (group (h.instanceMethods.get? (sameName_self name)))
    (group (h.staticMethods.get? (sameName_self name)))

theorem addMethod_like {m n : MethodDecl} (hm : m.Spelled σ n) :
    ExceptRel (ClassInfo.LikeOwn (.spelled σ)) (addMethod c m) (addMethod d n) := by
  unfold addMethod
  dsimp only
  rw [hm.info.name, hm.info.span,
    any_paired (overloads_like h _) fun ho => ho.sameSignature hm.info]
  split
  · exact .error _
  · exact .ok (h.addMethod hm.info)

theorem addConstructor_like {m n : MethodDecl} (hm : m.Spelled σ n) :
    ExceptRel (ClassInfo.LikeOwn (.spelled σ)) (addConstructor c m) (addConstructor d n) := by
  unfold addConstructor
  dsimp only
  rw [hm.info.name, hm.info.span,
    any_paired h.constructors fun ho => ho.sameSignature hm.info]
  split
  · exact .error _
  · exact .ok (h.addConstructor hm.info)

end

theorem checkParams_like {ps qs : List Param} (h : List.Forall₂ (Param.Spelled σ) ps qs) :
    ∀ seen, checkParams seen ps = checkParams seen qs := by
  induction h with
  | nil => exact fun _ => rfl
  | cons hp _ ih =>
    intro seen
    unfold checkParams
    rw [hp.name, hp.span, ih]

theorem forM_checkParams_like {ms ns : List MethodDecl}
    (h : List.Forall₂ (MethodDecl.Spelled σ) ms ns) :
    ms.forM (fun m => checkParams [] m.params) = ns.forM fun m => checkParams [] m.params := by
  induction h with
  | nil => rfl
  | cons hm _ ih => simp only [List.forM, checkParams_like hm.params, ih]

theorem ownMembers_like (outer : List String) {decl decl' : ClassDecl} (h : decl.Spelled σ decl') :
    ExceptRel (ClassInfo.LikeOwn (.spelled σ)) (ownMembers outer decl)
      (ownMembers outer decl') := by
  have start : ClassInfo.LikeOwn (.spelled σ)
      { ClassInfo.blank decl.name.name decl.modifiers with
        outer
        annotations := decl.annotations
        superclass := decl.superclass.map TypeRef.dataType
        interfaces := decl.interfaces.map TypeRef.dataType
        span := decl.span }
      { ClassInfo.blank decl'.name.name decl'.modifiers with
        outer
        annotations := decl'.annotations
        superclass := decl'.superclass.map TypeRef.dataType
        interfaces := decl'.interfaces.map TypeRef.dataType
        span := decl'.span } := by
    cases h with
    | intro hs hi _ =>
      exact {
        name := rfl
        outer := rfl
        modifiers := rfl
        annotations := rfl
        superclass := map_paired hs fun ht => ht.dataType
        interfaces := List.rel_map (fun _ _ ht => TypeRef.Spelled.dataType ht) hi
        typeParams := rfl
        instanceFields := .empty
        staticFields := .empty
        instanceMethods := .empty
        staticMethods := .empty
        constructors := .nil
        span := rfl }
  unfold ownMembers
  rw [forM_checkParams_like (List.rel_append h.methods h.constructors)]
  refine ExceptRel.bind (ExceptRel.foldlM h.fields (fun h => addField_like h) start) fun _ _ h₁ => ?_
  refine ExceptRel.bind (ExceptRel.foldlM h.methods (fun h => addMethod_like h) h₁) fun _ _ h₂ => ?_
  refine ExceptRel.bind (ExceptRel.foldlM h.constructors (fun h => addConstructor_like h) h₂)
    fun _ _ h₃ => ?_
  cases (decl'.methods ++ decl'.constructors).forM fun m => checkParams [] m.params with
  | error e => exact .error e
  | ok _ => exact .ok h₃

/-! ## Classes with their inner classes -/

/-- Both leave the same log and succeed with related results, or fail in the same way. -/
def Like {α β : Type} (Q : α → β → Prop) (x : Registration α) (y : Registration β) : Prop :=
  ∀ log, match x log, y log with
    | .ok a l, .ok b l' => Q a b ∧ l = l'
    | .error e l, .error e' l' => e = e' ∧ l = l'
    | _, _ => False

namespace Like

variable {α β γ δ : Type} {Q : α → β → Prop} {R : γ → δ → Prop}

theorem pure {a : α} {b : β} (h : Q a b) :
    Like Q (Pure.pure a : Registration α) (Pure.pure b : Registration β) :=
  fun _ => ⟨h, rfl⟩

theorem throw (e : RegistrationError) :
    Like Q (MonadExcept.throw e : Registration α) (MonadExcept.throw e : Registration β) :=
  fun _ => ⟨rfl, rfl⟩

theorem bind {x : Registration α} {y : Registration β} (h : Like Q x y) {f : α → Registration γ}
    {g : β → Registration δ} (hfg : ∀ a b, Q a b → Like R (f a) (g b)) :
    Like R (x >>= f) (y >>= g) := by
  intro log
  have hl := h log
  simp only [Bind.bind, EStateM.bind]
  generalize x log = r, y log = r' at hl
  cases r <;> cases r'
  · obtain ⟨hq, rfl⟩ := hl
    exact hfg _ _ hq _
  · exact hl.elim
  · exact hl.elim
  · exact hl

theorem ofExcept {x : Except RegistrationError α} {y : Except RegistrationError β}
    (h : ExceptRel Q x y) :
    Like Q (MonadExcept.ofExcept x : Registration α) (MonadExcept.ofExcept y) := by
  cases h with
  | ok h => exact .pure h
  | error e => exact .throw e

end Like

mutual

theorem register_like : ∀ (outer : List String) {decl decl' : ClassDecl}, decl.Spelled σ decl' →
    Like (ClassInfo.Like (.spelled σ)) (register outer decl) (register outer decl')
  | outer, ⟨_, _, name, _, _, members, _⟩, ⟨_, _, _, _, _, members', _⟩, h => by
    have own := ownMembers_like outer h
    cases h with
    | intro _ _ hm =>
      unfold register
      refine (Like.ofExcept own).bind fun c d hc =>
        (registerInner_like (outer ++ [name.name]) .nil hm).bind fun cs ds hcs => ?_
      have whole : ClassInfo.Like (.spelled σ) { c with inner := cs } { d with inner := ds } :=
        .intro { hc with } hcs
      intro log
      refine ⟨whole, congrArg log.push ?_⟩
      simp only [registered, hc.name, hc.instanceFields.size, hc.staticFields.size,
        hc.instanceMethods.size, hc.staticMethods.size, hc.constructors.length_eq, hcs.length_eq]

theorem registerInner_like : ∀ (outer : List String) {done done' : List ClassInfo},
    List.Forall₂ (ClassInfo.Like (.spelled σ)) done done' →
    ∀ {members members' : List (Member ClassDecl)},
    List.Forall₂ (Member.Spelled σ (ClassDecl.Spelled σ)) members members' →
    Like (List.Forall₂ (ClassInfo.Like (.spelled σ))) (registerInner outer done members)
      (registerInner outer done' members')
  | outer, done, done', hd, [], [], _ => by
    unfold registerInner
    exact .pure hd
  | outer, done, done', hd, .inner decl :: members, .inner decl' :: members',
      .cons (.inner hdecl) hm => by
    unfold registerInner
    refine (register_like outer hdecl).bind fun c d hc => ?_
    rw [hc.name, hdecl.name, any_paired hd fun {a b} ha => by rw [ha.name]]
    split
    · exact .throw _
    · exact registerInner_like outer (List.rel_append hd (.cons hc .nil)) hm
  | outer, done, done', hd, .field _ :: members, .field _ :: members', .cons _ hm => by
    unfold registerInner
    exact registerInner_like outer hd hm
  | outer, done, done', hd, .method _ :: members, .method _ :: members', .cons _ hm => by
    unfold registerInner
    exact registerInner_like outer hd hm
  | outer, done, done', hd, .constructor _ :: members, .constructor _ :: members', .cons _ hm => by
    unfold registerInner
    exact registerInner_like outer hd hm

end

/-! ## Batches -/

/-- Into tables of classes that look alike. -/
theorem registerInto_like {t t' : ClassTable}
    (ht : List.Forall₂ (ClassInfo.Like (.spelled σ)) t.classes t'.classes) {decl decl' : ClassDecl}
    (h : decl.Spelled σ decl') :
    Like (fun t t' => List.Forall₂ (ClassInfo.Like (.spelled σ)) t.classes t'.classes)
      (registerInto t decl) (registerInto t' decl') := by
  unfold registerInto
  rw [h.name, (ClassTable.Like.of_classes ht).contains (sameName_self _)]
  split
  · exact .throw _
  · exact (register_like [] h).bind fun c d hc => .pure (List.rel_append ht (.cons hc .nil))

/-- Two batches ended in the same way, with classes that look alike. -/
structure Outcome.Like (out out' : Outcome) : Prop where
  classes : List.Forall₂ (ClassInfo.Like (.spelled σ)) out.table.classes out'.table.classes
  accepted : out.accepted = out'.accepted
  errors : out.errors = out'.errors
  log : out.log = out'.log

/-- **Registration does not depend on the spelling of references.** -/
theorem registerAll_like {decls decls' : List ClassDecl}
    (h : List.Forall₂ (ClassDecl.Spelled σ) decls decls') {t t' : ClassTable}
    (ht : List.Forall₂ (ClassInfo.Like (.spelled σ)) t.classes t'.classes) :
    Outcome.Like (σ := σ) (registerAll t decls) (registerAll t' decls') := by
  refine List.rel_foldl (R := ClassDecl.Spelled σ) (fun out out' hout decl decl' hdecl => ?_)
    ⟨ht, rfl, rfl, rfl⟩ h
  have hr := registerInto_like hout.classes hdecl out.log
  rw [← hout.log]
  simp only [EStateM.run]
  generalize registerInto out.table decl out.log = r,
    registerInto out'.table decl' out.log = r' at hr
  cases r <;> cases r'
  · exact ⟨hr.1, congrArg (· + 1) hout.accepted, hout.errors, hr.2⟩
  · exact hr.elim
  · exact hr.elim
  · exact ⟨hout.classes, hout.accepted, by rw [hout.errors, hr.1], hr.2⟩

end Registration

/-! ## Fields under their own names -/

theorem NameTable.forall_insert {α : Type} {P : String × α → Prop} {t : NameTable α} {name : String}
    {v : α} (h : ∀ e ∈ t.entries, P e) (hv : ∀ n, sameName n name = true → P (n, v)) :
    ∀ e ∈ (t.insert name v).entries, P e := by
  rw [entries_insert]
  generalize t.entries = es at h ⊢
  induction es with
  | nil => simpa [insertEntry] using hv name (sameName_self name)
  | cons e es ih =>
    unfold insertEntry
    rw [List.forall_mem_cons] at h
    split
    · rename_i hs
      exact List.forall_mem_cons.2 ⟨hv e.1 hs, h.2⟩
    · exact List.forall_mem_cons.2 ⟨h.1, ih h.2⟩

namespace ClassInfo

/-- Every instance field stands under its own name. -/
def Named (c : ClassInfo) : Prop := ∀ e ∈ c.instanceFields.entries, sameName e.1 e.2.name = true

theorem named_of_ownMembers : Registration.HoldsOfOwn Named := by
  intro outer decl c inner h
  have hc : c.Named := by
    refine Registration.ownMembers_keeps (P := Named) ?_ ?_ ?_ ?_ h
    · intro d _ _ hd _ _ _ e he
      rw [hd] at he
      cases he
    · intro d f hd
      unfold addField
      split
      · exact hd
      · exact NameTable.forall_insert hd fun n hn => hn
    · intro d m hd
      unfold addMethod
      split <;> exact hd
    · intro d m hd
      exact hd
  exact hc

end ClassInfo

theorem ClassTable.initial_named : ∀ c ∈ initial.classes, ClassInfo.Deep ClassInfo.Named c := by
  have named : initial.classes.all (fun c => c.inner.isEmpty &&
      c.instanceFields.entries.all fun e => sameName e.1 e.2.name) = true := by
    decide +kernel
  intro c hc
  have hn := List.all_eq_true.1 named c hc
  rw [Bool.and_eq_true, List.isEmpty_iff, List.all_eq_true] at hn
  exact .intro hn.2 (by simp [hn.1])

/-- Tables of two runs (module doc). -/
structure ClassTable.Twins (σ : Spelling) (t t' : ClassTable) : Prop where
  classes : List.Forall₂ (ClassInfo.Like (.spelled σ)) t.classes t'.classes
  named : ∀ c ∈ t.classes, ClassInfo.Deep ClassInfo.Named c

theorem ClassTable.Twins.refl {σ : Spelling} {t : ClassTable}
    (h : ∀ c ∈ t.classes, ClassInfo.Deep ClassInfo.Named c) : t.Twins σ t :=
  ⟨List.forall₂_same.2 fun c _ => .spelled_refl c, h⟩

theorem Registration.registerAll_twins {σ : Spelling} {decls decls' : List ClassDecl}
    (h : List.Forall₂ (ClassDecl.Spelled σ) decls decls') {t t' : ClassTable} (ht : t.Twins σ t') :
    (registerAll t decls).table.Twins σ (registerAll t' decls').table :=
  ⟨(registerAll_like h ht.classes).classes,
    registerAll_deep ClassInfo.named_of_ownMembers ht.named decls⟩

end ClassScript
