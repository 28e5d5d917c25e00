import ClassScript.Proofs.Machine.Acts
import ClassScript.Proofs.Registration.Origin

/-!
# Classes whose instances have native state

Eight built-in classes have instances with native state, each of a kind of its own
(`Builtin.nativeClasses`). Three of them have a constructor, which gives a new instance that state
(`ClassInfo.Constructs`); no other method of any class gives its receiver native state whatever it
had (`ClassInfo.StartsOwn`). What built-in methods make is an instance of one of the eight with
native state of its kind, or a record without any (`Host.Makes.own`).

All of this holds of the tables that registration makes, and of the runs over them
(`Env.Registered`).
-/

namespace ClassScript

/-- The classes whose instances have native state. -/
def Builtin.nativeClasses : List ClassInfo :=
  [integerClass, doubleClass, stringClass, booleanClass, listClass, mapClass, dateClass,
    requestClass]

theorem Builtin.nativeClasses_initial {c : ClassInfo} (h : c ∈ nativeClasses) :
    c ∈ ClassTable.initial.classes := by
  simp only [nativeClasses, ClassTable.initial, List.mem_cons, List.not_mem_nil, or_false] at h ⊢
  tauto

namespace ClassInfo

/-- A constructor gives the instances of the class their native state. -/
def Constructs (c : ClassInfo) : Prop := c ∈ Builtin.nativeClasses ∧ c.constructors ≠ []

/-- The constructors of the class give new instances native state of its kind, and none of its
methods gives its receiver native state whatever was there. -/
structure StartsOwn (c : ClassInfo) : Prop where
  methods : ∀ name g, c.instanceMethods.get? name = some g →
    ∀ k ∈ g, ∀ m, k.body = .native m → m.start? = none
  constructors : ∀ k ∈ c.constructors, ∀ m p, k.body = .native m → m.start? = some p →
    c ∈ Builtin.nativeClasses ∧ p.kind = c.name

theorem Constructs.of_mem {c : ClassInfo} {k : MethodInfo} (h : c ∈ Builtin.nativeClasses)
    (hk : k ∈ c.constructors) : c.Constructs :=
  ⟨h, List.ne_nil_of_mem hk⟩

/-- The constructors of a class with native state start it. -/
theorem native_constructor {c : ClassInfo} {k : MethodInfo} (h : c ∈ Builtin.nativeClasses)
    (hk : k ∈ c.constructors) : ∃ m p, k.body = .native m ∧ m.start? = some p := by
  have starts : Builtin.nativeClasses.all (fun c => c.constructors.all fun k =>
      match k.body with
      | .native m => m.start?.isSome
      | _ => false) = true := by
    decide +kernel
  have hstart := List.all_eq_true.1 (List.all_eq_true.1 starts c h) k hk
  split at hstart
  · rename_i m hm
    obtain ⟨p, hp⟩ := Option.isSome_iff_exists.1 hstart
    exact ⟨m, p, hm, hp⟩
  · cases hstart

/-- A method whose body is no built-in one that starts native state. -/
def startsNothing (k : MethodInfo) : Bool :=
  match k.body with
  | .native m => m.start?.isNone
  | _ => true

theorem startsNothing_iff {k : MethodInfo} :
    startsNothing k = true ↔ ∀ m, k.body = .native m → m.start? = none := by
  unfold startsNothing
  cases hk : k.body with
  | native m => simp
  | script _ | abstract => simp

/-- No declared method is built in. -/
theorem startsNothing_info (m : MethodDecl) : startsNothing m.info = true := by
  unfold startsNothing MethodDecl.info
  cases m.body <;> rfl

theorem startsOwn_initial {c : ClassInfo} (h : c ∈ ClassTable.initial.classes) : c.StartsOwn := by
  have groups : ClassTable.initial.classes.all (fun c =>
      c.instanceMethods.values.all fun g => g.all startsNothing) = true := by
    decide +kernel
  have hg := List.all_eq_true.1 (List.all_eq_true.1 groups c h)
  refine ⟨fun name g hget k hk => startsNothing_iff.1 ?_, fun k hk m p hm hp => ?_⟩
  · obtain ⟨key, -, hmem⟩ := NameTable.sameName_of_get? hget
    exact List.all_eq_true.1 (hg g (List.mem_map.2 ⟨_, hmem, rfl⟩)) k hk
  · simp only [ClassTable.initial, List.mem_cons, List.not_mem_nil, or_false] at h
    rcases h with rfl | rfl | rfl | rfl | rfl | rfl | rfl | rfl | rfl | rfl | rfl | rfl
    case inr.inr.inr.inr.inr.inl | inr.inr.inr.inr.inr.inr.inl |
        inr.inr.inr.inr.inr.inr.inr.inr.inr.inl =>
      obtain rfl := List.mem_singleton.1 hk
      cases hm
      cases hp
      exact ⟨by simp [Builtin.nativeClasses], rfl⟩
    all_goals cases hk

theorem startsOwn_described {outer : List String} {decl : ClassDecl} {c : ClassInfo}
    (h : decl.Describes outer c) : c.StartsOwn := by
  refine ⟨fun name g hget k hk => startsNothing_iff.1 ?_, fun k hk m p hm hp => ?_⟩
  · have hgroup := h.own.instanceMethods.group name
    rw [hget, Option.getD_some] at hgroup
    rw [hgroup] at hk
    obtain ⟨m, -, rfl⟩ := List.mem_map.1 (List.mem_of_mem_filter hk)
    exact startsNothing_info m
  · rw [h.own.constructors] at hk
    obtain ⟨d, -, rfl⟩ := List.mem_map.1 hk
    rw [startsNothing_iff.1 (startsNothing_info d) m hm] at hp
    cases hp

end ClassInfo

theorem ClassTable.Has.startsOwn {decls : List ClassDecl} {c : ClassInfo}
    (h : (Registration.registerAll .initial decls).table.Has c) : c.StartsOwn := by
  obtain hinit | ⟨outer, decl, -, hdesc⟩ := h.origin
  · exact ClassInfo.startsOwn_initial hinit
  · exact ClassInfo.startsOwn_described hdesc

/-! ## Runs over registered classes -/

/-- What a run over registered classes is given. -/
structure Env.Registered (env : Env) (decls : List ClassDecl) : Prop where
  classes : env.classes = (Registration.registerAll .initial decls).table
  prims : env.prims = Builtin.primitives

theorem Env.make_registered {decls : List ClassDecl} {query : Option QueryService}
    {credentials : Credentials} {today : Date} {maxDepth : Nat} {env : Env}
    (h : Env.make (Registration.registerAll .initial decls).table query credentials today maxDepth
      = .ok env) : env.Registered decls := by
  have prims := Primitives.ofTable_extends (Registration.registerAll_extends .initial decls)
    Primitives.ofTable_initial
  unfold Env.make at h
  rw [prims] at h
  cases h
  exact ⟨rfl, rfl⟩

namespace Env.Registered

variable {env : Env} {decls : List ClassDecl} (he : env.Registered decls)
include he

theorem extends_initial : ClassTable.initial.Extends env.classes :=
  he.classes ▸ Registration.registerAll_extends .initial decls

theorem has_native {c : ClassInfo} (h : c ∈ Builtin.nativeClasses) : env.classes.Has c :=
  .top (he.extends_initial.subset (Builtin.nativeClasses_initial h))

theorem has_record : env.classes.Has Builtin.recordClass :=
  .top (he.extends_initial.subset (by simp [ClassTable.initial]))

theorem startsOwn {c : ClassInfo} (h : env.classes.Has c) : c.StartsOwn := by
  rw [he.classes] at h
  exact h.startsOwn

/-- Values have native state of the kind of their class; records are without. -/
theorem makes {o : Object} (h : env.toHost.Makes o) :
    (o.cls ∈ Builtin.nativeClasses ∧ o.payload.kind = o.cls.name) ∨
      (o.cls = Builtin.recordClass ∧ o.payload = .none) := by
  have native : ∀ i (hi : i < 8), Builtin.nativeClasses[i] ∈ Builtin.nativeClasses :=
    fun _ hi => List.getElem_mem hi
  cases h with
  | integer n => exact .inl (he.prims ▸ ⟨native 0 (by decide), rfl⟩)
  | double x => exact .inl (he.prims ▸ ⟨native 1 (by decide), rfl⟩)
  | string s => exact .inl (he.prims ▸ ⟨native 2 (by decide), rfl⟩)
  | boolean b => exact .inl (he.prims ▸ ⟨native 3 (by decide), rfl⟩)
  | list element items => exact .inl (he.prims ▸ ⟨native 4 (by decide), rfl⟩)
  | @date c d hc =>
    have hdate : ClassTable.initial.resolve? "Date" = some Builtin.dateClass := rfl
    obtain rfl := Option.some.inj (hc.symm.trans (he.extends_initial.resolve? hdate))
    exact .inl ⟨native 6 (by decide), rfl⟩
  | record hc hp =>
    have hrecord : ClassTable.initial.get? Builtin.recordName = some Builtin.recordClass := rfl
    exact .inr ⟨Option.some.inj (hc.symm.trans (he.extends_initial.get? hrecord)), hp⟩

end Env.Registered

end ClassScript
