import ClassScript.Proofs.Memory.Evaluation
import ClassScript.Proofs.Memory.FieldTables

/-!
# The layout of instances

The layout of a class is the names of the instance fields of its chain, those of the topmost class
first and each name once (`ClassInfo.layout`). A new instance has the fields of its layout before
anything runs on it. From then on its fields are set and nothing else: a name that can be written is
one of the layout (`ClassInfo.layout_contains`), and setting a field that is there keeps the names
and their order. So no change takes the layout away (`Change.keepsLayout`).

Main statement: `object_layout_fixed`.
-/

namespace ClassScript

namespace ClassInfo

/-- The names of the instance fields of the chain, each where and as it stands first. -/
def layout (c : ClassInfo) (t : ClassTable) : List String :=
  ((c.allInstanceFields t).map FieldInfo.name).eraseDupsBy sameName

variable {decls : List ClassDecl} {env : Env} (he : env.Registered decls)
include he

/-- What an instance can have set as a field is in the layout. -/
theorem layout_contains {c : ClassInfo} (hc : env.classes.Has c) {table : NameTable Value}
    (ht : table.names = c.layout env.classes) {name : String}
    (hf : (c.instanceField? env.classes name).isSome = true) : table.contains name = true := by
  unfold instanceField? at hf
  rw [List.findSome?_isSome_iff] at hf
  obtain ⟨d, hd, hget⟩ := hf
  obtain ⟨f, hget⟩ := Option.isSome_iff_exists.1 hget
  obtain ⟨key, hkey, hmem⟩ := NameTable.sameName_of_get? hget
  have hhas := hc.of_chain hd
  rw [he.classes] at hhas
  obtain rfl : key = f.name := hhas.instance_name hmem
  have hfield : f ∈ c.allInstanceFields env.classes :=
    List.mem_flatMap.2 ⟨d, List.mem_reverse.2 hd, List.mem_map_of_mem hmem⟩
  have hnew := Calls.contains_nullFields.2 ⟨f, hfield, hkey⟩
  rwa [← NameTable.contains_of_names (ht.trans (Calls.names_nullFields _).symm)] at hnew

end ClassInfo

/-- The object is an instance of the class, with the layout of that class. -/
structure Heap.LaidOut (t : ClassTable) (h : Heap) (c : ClassInfo) (id : ObjectId) : Prop where
  lt : id < h.objects.size
  cls : (h.get id).cls = c
  names : (h.get id).fields.names = c.layout t

section

variable {env : Env} {s s' : Stage} {c : ClassInfo} {id : ObjectId}

/-- A new instance is laid out. -/
theorem Change.laysOut (h : Change env s (.make id) s') :
    ∃ c, env.classes.Has c ∧ s'.memory.heap.LaidOut env.classes c id := by
  cases h with
  | @make heap statics due running c typeArgs hc =>
    have hget := heap.get_alloc_self
      ⟨c, typeArgs, Calls.nullFields (c.allInstanceFields env.classes), .none⟩
    refine ⟨c, hc, ?_, congrArg Object.cls hget, ?_⟩
    · rw [Heap.size_alloc]
      exact Nat.lt_succ_self _
    · exact (congrArg (fun o => o.fields.names) hget).trans (Calls.names_nullFields _)

variable {decls : List ClassDecl} (he : env.Registered decls) (hc : env.classes.Has c)
include he hc

/-- No change takes the layout away. -/
theorem Change.keepsLayout {e : Event} (h : Change env s e s')
    (hl : s.memory.heap.LaidOut env.classes c id) : s'.memory.heap.LaidOut env.classes c id := by
  have lasts := h.lasts
  refine ⟨Nat.lt_of_lt_of_le hl.lt lasts.size, (lasts.cls id hl.lt).trans hl.cls, ?_⟩
  cases h with
  | touch _ | start | finish | assign _ _ | made _ => exact hl.names
  | make _ =>
    show ((Heap.alloc _ _).2.get id).fields.names = _
    rw [Heap.get_alloc_of_lt _ _ hl.lt]
    exact hl.names
  | work works =>
    show ((Heap.get _ id).fields).names = _
    rw [works.fields id hl.lt]
    exact hl.names
  | @write heap statics due running i name v hr =>
    show ((heap.setField i name v).get id).fields.names = _
    unfold Heap.setField
    rw [Heap.get_modify _ _ _ _ hl.lt]
    split
    · rename_i hi
      subst hi
      -- the name is in the table, or its class declares it and so the layout has it
      have there : (heap.get i).fields.contains name = true := by
        refine (Machine.readField?_isSome.1 hr).elim id fun hdecl => ?_
        rw [show (heap.get i).cls = c from hl.cls] at hdecl
        exact ClassInfo.layout_contains he hc hl.names hdecl
      exact (NameTable.names_insert_of_contains there).trans hl.names
    · exact hl.names

theorem Course.keepsLayout {moments : List Moment} (h : Course env s moments s')
    (hl : s.memory.heap.LaidOut env.classes c id) :
    (∀ μ ∈ moments, μ.memory.heap.LaidOut env.classes c id) ∧
      s'.memory.heap.LaidOut env.classes c id := by
  induction h with
  | done s => exact ⟨nofun, hl⟩
  | next hchange _ ih =>
    have kept := hchange.keepsLayout he hc hl
    obtain ⟨hmoments, hlast⟩ := ih kept
    refine ⟨fun μ hμ => ?_, hlast⟩
    rcases List.mem_cons.1 hμ with rfl | hμ
    · exact kept
    · exact hmoments μ hμ

end

/-- **The layout of an object is fixed when it is made.** Take registered classes and entry methods
that run one after the other on one machine, however each of them ends. When an instance is made,
before any of its initializers runs, the names in its field table are those of its layout; and so
they are, with the same class, at every later moment and at the end. -/
theorem object_layout_fixed {decls : List ClassDecl} {query : Option QueryService}
    {credentials : Credentials} {today : Date} {maxDepth : Nat} {env : Env}
    (henv : Env.make (Registration.registerAll .initial decls).table query credentials today
      maxDepth = .ok env) (sink : Sink) (entries : List (Nat × EntryPoint)) :
    let start := Machine.start sink
    ∀ before μ after id, start.lifetime env entries = before ++ μ :: after → μ.event = .make id →
      ∃ c, env.classes.Has c ∧ μ.memory.heap.LaidOut env.classes c id ∧
        (∀ ν ∈ after, ν.memory.heap.LaidOut env.classes c id) ∧
        (start.afterEntries env entries).world.heap.LaidOut env.classes c id := by
  intro start before μ after id hsplit hevent
  have he := Env.make_registered henv
  obtain ⟨s', course, memory⟩ := Machine.start_course he sink entries
  rw [hsplit] at course
  obtain ⟨s₁, s₂, -, hchange, hmemory, hafter⟩ := course.split
  rw [hevent] at hchange
  obtain ⟨c, hc, hl⟩ := hchange.laysOut
  obtain ⟨hmoments, hlast⟩ := hafter.keepsLayout he hc hl
  refine ⟨c, hc, hmemory ▸ hl, hmoments, ?_⟩
  rwa [memory] at hlast

/-- A class that declares a field again, in another spelling, and a method that makes an instance
and writes to that field. -/
def respelledField : List ClassDecl :=
  let ref (name : String) : TypeRef := ⟨⟨name, .unknown⟩, [], .unknown⟩
  let field (name : String) : Member ClassDecl :=
    .field ⟨.pub, ref "Integer", ⟨name, .unknown⟩, none, .unknown⟩
  let write : Expr := .assign .set
    (.member (.create (ref "Point3") [] .unknown) ⟨"x", .unknown⟩ .unknown)
    (.literal (.integer 1) .unknown) .unknown
  [⟨.none, [], ⟨"Point", .unknown⟩, none, [], [field "x", field "y"], .unknown⟩,
    ⟨.none, [], ⟨"Point3", .unknown⟩, some (ref "Point"), [], [field "X", field "z",
      .method ⟨.union .pub .static, none, ⟨"run", .unknown⟩, [], some [.expr write .unknown],
        .unknown⟩], .unknown⟩]

/-- The field that is declared twice has one entry, where and as it is declared first. -/
theorem object_layout_fixed_respelled : ∃ env,
    Env.make (Registration.registerAll .initial respelledField).table none {} ⟨2024, 1, 1⟩ 16
      = .ok env ∧
    (((Machine.start {}).afterEntries env [(20, ⟨"Point3", "run"⟩)]).world.heap.get 0).fields.names
      = ["x", "y", "z"] := by
  obtain ⟨env, henv, before, μ, after, hsplit, hmake, hlayout⟩ : ∃ env,
      Env.make (Registration.registerAll .initial respelledField).table none {} ⟨2024, 1, 1⟩ 16
        = .ok env ∧
      ∃ before μ after,
        (Machine.start {}).lifetime env [(20, ⟨"Point3", "run"⟩)] = before ++ μ :: after ∧
        μ.event = .make 0 ∧
        (μ.memory.heap.get 0).cls.layout env.classes = ["x", "y", "z"] :=
    ⟨_, rfl, [_, _], _, _, rfl, rfl, by decide +kernel⟩
  obtain ⟨c, -, hnew, -, hlast⟩ := object_layout_fixed henv {} _ before μ after 0 hsplit hmake
  refine ⟨env, henv, ?_⟩
  rw [hlast.names, ← hnew.cls, hlayout]

end ClassScript
