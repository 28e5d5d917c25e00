import ClassScript.Proofs.Class.Inheritance
import ClassScript.Proofs.Class.Lookup
import ClassScript.Proofs.Machine.Balance
import ClassScript.Proofs.Soundness.ScalarTyping
import ClassScript.Proofs.Soundness.ScalarValue

/-!
# Machine states of scalar code

`Machine.Fits m bs`: the running frame of `m` has the blocks `bs`, name by name, and every variable
holds a value of its type. `Run.Keeps m bs x P`: from `m`, the computation `x` ends in such a state
again with a result in `P`, or halts for a reason that scalar code may have (`ScalarHalt`). It is
closed under sequence (`Run.Keeps.bind`), so each operation needs one lemma.
-/

namespace ClassScript

/-! ## Blocks and frames -/

/-- A variable of known type holds a value of its type. -/
def VarFits (h : Heap) (var : LocalVar) (v : Value) : Prop := ∃ t, var.type = some t ∧ h.HasType v t

/-- A block has the variables of `g`, each with a value of its type. -/
def BlockFits (h : Heap) (g : NameTable LocalVar) (b : Block) : Prop :=
  ∀ n, Option.Rel (VarFits h) (g.get? n) (b.get? n)

theorem VarFits.grows {h h' : Heap} {var : LocalVar} {v : Value} (hv : VarFits h var v)
    (g : h.Grows h') : VarFits h' var v := by
  obtain ⟨t, ht, hv⟩ := hv
  exact ⟨t, ht, hv.grows g⟩

theorem BlockFits.grows {h h' : Heap} {g : NameTable LocalVar} {b : Block} (hb : BlockFits h g b)
    (hg : h.Grows h') : BlockFits h' g b := by
  intro n
  have hn := hb n
  revert hn
  generalize g.get? n = x, b.get? n = y
  intro hn
  cases hn with
  | none => exact .none
  | some hv => exact .some (hv.grows hg)

theorem BlockFits.empty (h : Heap) : BlockFits h .empty .empty := fun _ => .none

theorem BlockFits.insert {h : Heap} {g : NameTable LocalVar} {b : Block} {var : LocalVar}
    {v : Value} (hb : BlockFits h g b) (hv : VarFits h var v) (name : String) :
    BlockFits h (g.insert name var) (b.insert name v) := by
  intro n
  rw [NameTable.get?_insert, NameTable.get?_insert]
  split
  · exact .some hv
  · exact hb n

/-- A new value of its type for a variable of the block. -/
theorem BlockFits.set {h : Heap} {g : NameTable LocalVar} {b : Block} {var : LocalVar} {v : Value}
    {name : String} (hb : BlockFits h g b) (hg : g.get? name = some var) (hv : VarFits h var v) :
    BlockFits h g (b.insert name v) := by
  intro n
  rw [NameTable.get?_insert]
  split
  · rename_i hn
    rw [← NameTable.get?_congr g hn, hg]
    exact .some hv
  · exact hb n

/-- Block by block, the variables of `bs` hold values of their types. -/
abbrev BlocksFit (h : Heap) (bs : BlockStack) (blocks : List Block) : Prop :=
  List.Forall₂ (BlockFits h) bs blocks

theorem BlocksFit.lookup {h : Heap} {bs : BlockStack} {blocks : List Block}
    (hb : BlocksFit h bs blocks) (n : String) :
    Option.Rel (VarFits h) (bs.find? n) (blocks.findSome? (·.get? n)) := by
  induction hb with
  | nil => exact .none
  | @cons g b bs blocks hgb _ ih =>
    rw [BlockStack.find?_cons, List.findSome?_cons]
    have hn := hgb n
    revert hn
    generalize g.get? n = x, b.get? n = y
    intro hn
    cases hn with
    | none => exact ih
    | some hv => exact .some hv

theorem BlocksFit.assignIn {h : Heap} {bs : BlockStack} {blocks : List Block} {name : String}
    {var : LocalVar} {v : Value} (hb : BlocksFit h bs blocks) (hf : bs.find? name = some var)
    (hv : VarFits h var v) : BlocksFit h bs (Frame.assignIn name v blocks) := by
  induction hb with
  | nil => exact .nil
  | @cons g b bs blocks hgb htl ih =>
    rw [BlockStack.find?_cons] at hf
    unfold Frame.assignIn
    rw [NameTable.contains_eq]
    have hn := hgb name
    revert hn
    generalize hx : g.get? name = x, b.get? name = y
    intro hn
    cases hn with
    | none =>
      rw [hx, Option.none_or] at hf
      exact .cons hgb (ih hf)
    | some _ =>
      rw [hx] at hf
      obtain rfl := Option.some.inj hf
      exact .cons (hgb.set hx hv) htl

/-! ## States -/

/-- The running frame holds values of the types of `bs` (module doc). -/
def Machine.Fits (m : Machine) (bs : BlockStack) : Prop :=
  ∃ f fs, m.frames = f :: fs ∧ BlocksFit m.world.heap bs f.blocks

theorem Machine.Fits.grows {m m' : Machine} {bs : BlockStack} (h : m.Fits bs)
    (hf : m'.frames = m.frames) (hg : m.world.heap.Grows m'.world.heap) : m'.Fits bs := by
  obtain ⟨f, fs, hm, hb⟩ := h
  exact ⟨f, fs, hf.trans hm, hb.imp fun _ _ h => h.grows hg⟩

/-- Why scalar code may halt. -/
inductive ScalarHalt : Halt → Prop
  | fault {e : RuntimeError} (h : ScalarFault e) : ScalarHalt (.fault e)
  | outOfFuel : ScalarHalt .outOfFuel

namespace Run

variable {α β : Type} {m : Machine} {bs : BlockStack}

/-- `x` keeps the types of the running frame (module doc). -/
def Keeps (m : Machine) (bs : BlockStack) (x : Run α) (P : α → Heap → Prop) : Prop :=
  x.Ends (fun a m' => m'.Fits bs ∧ m.world.heap.Grows m'.world.heap ∧ P a m'.world.heap)
    (fun r _ => ScalarHalt r) m

theorem Keeps.pure {P : α → Heap → Prop} {a : α} (hm : m.Fits bs) (h : P a m.world.heap) :
    Keeps m bs (Pure.pure a) P :=
  ⟨hm, .refl _, h⟩

theorem Keeps.bind {P : α → Heap → Prop} {Q : β → Heap → Prop} {x : Run α} {f : α → Run β}
    (hx : Keeps m bs x P)
    (hf : ∀ a m', m'.Fits bs → m.world.heap.Grows m'.world.heap → P a m'.world.heap →
      Keeps m' bs (f a) Q) : Keeps m bs (x >>= f) Q := by
  unfold Keeps at *
  rw [ends_bind]
  refine hx.mono (fun a m' ⟨hfit, hg, hp⟩ => ?_) fun _ _ hr => hr
  exact (hf a m' hfit hg hp).mono (fun _ _ ⟨h1, h2, h3⟩ => ⟨h1, hg.trans h2, h3⟩) fun _ _ hr => hr

theorem Keeps.mono {P Q : α → Heap → Prop} {x : Run α} (hx : Keeps m bs x P)
    (h : ∀ a h', P a h' → Q a h') : Keeps m bs x Q :=
  Ends.mono hx (fun _ _ ⟨h1, h2, h3⟩ => ⟨h1, h2, h _ _ h3⟩) fun _ _ hr => hr

/-- Reading the heap gives the heap at hand. -/
theorem Keeps.heap_bind {Q : β → Heap → Prop} {f : Heap → Run β}
    (h : Keeps m bs (f m.world.heap) Q) : Keeps m bs (Run.heap >>= f) Q :=
  h

theorem Keeps.ofExcept {P : α → Prop} {x : Except RuntimeError α} (hm : m.Fits bs)
    (hx : Operator.Yields x P) : Keeps m bs (Run.ofExcept x) fun a _ => P a := by
  unfold Keeps
  rw [ends_ofExcept]
  cases x with
  | ok a => exact ⟨hm, .refl _, hx⟩
  | error e => exact .fault hx

end Run

/-! ## Making constants -/

/-- The class that scalars of a kind are instances of. -/
def Primitives.scalar (p : Primitives) : Scalar → ClassInfo
  | .integer => p.integer
  | .double => p.double
  | .boolean => p.boolean
  | .string => p.string

/-- The run knows the built-in classes by their names. -/
structure Env.Standard (env : Env) : Prop where
  classes : ClassTable.initial.Extends env.classes
  prims : ∀ k, (env.prims.scalar k).name = k.name

theorem Primitives.require_name {t : ClassTable} (ht : ClassTable.initial.Extends t) {name : String}
    {c : ClassInfo} (hc : Primitives.require t name = .ok c)
    (hn : (ClassTable.initial.get? name).map ClassInfo.name = some name) : c.name = name := by
  obtain ⟨d, hd, hdn⟩ := Option.map_eq_some_iff.1 hn
  unfold Primitives.require at hc
  rw [ht.get? hd] at hc
  obtain rfl := Except.ok.inj hc
  exact hdn

/-- A run over registered classes knows the built-in ones. -/
theorem Env.make_standard {t : ClassTable} (ht : ClassTable.initial.Extends t)
    {query : Option QueryService} {credentials : Credentials} {today : Date} {maxDepth : Nat}
    {env : Env} (h : Env.make t query credentials today maxDepth = .ok env) :
    env.Standard ∧ env.classes = t := by
  unfold Env.make at h
  split at h
  · rename_i prims hp
    obtain rfl := Except.ok.inj h
    refine ⟨⟨ht, ?_⟩, rfl⟩
    unfold Primitives.ofTable at hp
    simp only [bind, Except.bind] at hp
    repeat' split at hp
    all_goals cases hp
    rename_i hi _ _ hd _ _ hs _ _ hb _ _ _ _ _ _
    intro k
    cases k with
    | integer => exact Primitives.require_name ht hi (by decide +kernel)
    | double => exact Primitives.require_name ht hd (by decide +kernel)
    | boolean => exact Primitives.require_name ht hb (by decide +kernel)
    | string => exact Primitives.require_name ht hs (by decide +kernel)
  · cases h

/-- The built-in classes are enough to run. -/
theorem Env.make_initial (query : Option QueryService) (credentials : Credentials) (today : Date)
    (maxDepth : Nat) : ∃ env, Env.make .initial query credentials today maxDepth = .ok env := by
  have hp : (Primitives.ofTable .initial).toBool = true := by decide +kernel
  unfold Env.make
  cases h : Primitives.ofTable .initial with
  | ok prims => exact ⟨_, rfl⟩
  | error e =>
    rw [h] at hp
    cases hp

namespace Run

variable {m : Machine} {bs : BlockStack} {env : Env}

/-- A new scalar has the type of its kind. -/
theorem alloc_scalar (hm : m.Fits bs) {cls : ClassInfo} {k : Scalar} {payload : Payload}
    (hn : cls.name = k.name) (hp : payload.scalar? = some k) :
    Keeps m bs (Run.native (Native.alloc (.make cls [] payload))) fun v h => h.HasType v k.type := by
  have hg := m.world.heap.grows_alloc (.make cls [] payload)
  have hself := m.world.heap.get_alloc_self (.make cls [] payload)
  unfold Keeps
  rw [ends_native]
  refine ⟨hm.grows rfl hg, hg, .inr ⟨k, ⟨_, rfl, ?_, ?_⟩, .inl (DataType.beq_refl _)⟩⟩
  · exact (congrArg (fun o => o.payload.scalar?) hself).trans hp
  · refine (congrArg Object.dataType hself).trans ?_
    simp only [Object.dataType, Object.make, hn]
    rfl

theorem constant_keeps (he : env.Standard) (hm : m.Fits bs) (l : Literal) :
    Keeps m bs (Calls.constant env l) fun v h => h.HasType v l.dataType := by
  cases l with
  | integer n => exact alloc_scalar (k := .integer) hm (he.prims .integer) rfl
  | double x => exact alloc_scalar (k := .double) hm (he.prims .double) rfl
  | boolean b => exact alloc_scalar (k := .boolean) hm (he.prims .boolean) rfl
  | string s => exact alloc_scalar (k := .string) hm (he.prims .string) rfl
  | null => exact Keeps.pure hm (.null _ _)

/-! ## Variables -/

variable {name : String} {var : LocalVar} {t : DataType}

/-- A typed variable is found in the running frame, with a value of its type. -/
theorem frame_bind_keeps {β : Type} {Q : β → Heap → Prop} {f : Frame → Run β} (hm : m.Fits bs)
    (hv : bs.find? name = some var) (ht : var.type = some t)
    (h : ∀ fr v, fr.lookup? name = some v → m.world.heap.HasType v t → Keeps m bs (f fr) Q) :
    Keeps m bs (Run.frame >>= f) Q := by
  obtain ⟨fr, fs, hf, hb⟩ := hm
  have hl := hb.lookup name
  rw [hv] at hl
  change Option.Rel _ _ (fr.lookup? name) at hl
  generalize hx : fr.lookup? name = x at hl
  cases hl with
  | some hfit =>
    rename_i v
    obtain ⟨t', ht', hty⟩ := hfit
    obtain rfl := Option.some.inj (ht.symm.trans ht')
    unfold Keeps at *
    rw [ends_bind, ends_frame, hf]
    exact h fr v hx hty

theorem load_var_keeps (calls : Calls) (hm : m.Fits bs) (hv : bs.find? name = some var)
    (ht : var.type = some t) :
    Keeps m bs (calls.load env (.var name)) fun v h => h.HasType v t := by
  unfold Calls.load
  refine frame_bind_keeps hm hv ht fun fr v hl hty => ?_
  rw [hl]
  exact Keeps.pure hm hty

theorem store_var_keeps (calls : Calls) (hm : m.Fits bs) (hv : bs.find? name = some var)
    (ht : var.type = some t) {v : Value} (hty : m.world.heap.HasType v t) :
    Keeps m bs (calls.store env v (.var name)) fun _ _ => True := by
  unfold Calls.store
  refine frame_bind_keeps hm hv ht fun fr w hl _ => ?_
  rw [if_pos (by simp [Frame.isLocal, hl])]
  obtain ⟨f, fs, hf, hb⟩ := hm
  unfold Keeps
  rw [ends_modifyFrame, hf]
  refine ⟨⟨f.assign name v, fs, rfl, ?_⟩, .refl _, trivial⟩
  rw [Frame.blocks_assign]
  exact hb.assignIn hv ⟨t, ht, hty⟩

theorem namePlace_keeps (hm : m.Fits bs) (hv : bs.find? name = some var) (ht : var.type = some t) :
    Keeps m bs (Calls.namePlace env name) fun p _ => p = .var name := by
  unfold Calls.namePlace
  refine frame_bind_keeps hm hv ht fun fr w hl _ => Keeps.heap_bind ?_
  rw [if_pos (by simp [Frame.isLocal, hl])]
  exact Keeps.pure hm rfl

end Run

/-! ## Passing for another type -/

/-- A class that stands alone is a subclass of itself only. -/
theorem ClassInfo.isSubclassOf_alone {c : ClassInfo} (t : ClassTable) (hs : c.superclass = none)
    (hi : c.interfaces = []) (name : String) : c.isSubclassOf t name = sameName c.name name := by
  unfold isSubclassOf
  rw [chain_of_no_superclass hs, hi]
  simp

/-- Whether a built-in class has no superclass and no interfaces. -/
def Builtin.isAlone (name : String) : Bool :=
  (ClassTable.initial.resolve? name).any fun c =>
    c.superclass.isNone && c.interfaces.isEmpty && c.name == name

theorem Builtin.resolve_alone {name : String} (h : Builtin.isAlone name = true) :
    ∃ c, ClassTable.initial.resolve? name = some c ∧ c.superclass = none ∧ c.interfaces = [] ∧
      c.name = name := by
  obtain ⟨c, hc, ha⟩ := (Option.any_eq_true _ _).1 h
  simp only [Bool.and_eq_true, Option.isNone_iff_eq_none, List.isEmpty_iff, beq_iff_eq] at ha
  exact ⟨c, hc, ha.1.1, ha.1.2, ha.2⟩

theorem Scalar.isAlone (k : Scalar) : Builtin.isAlone k.name = true := by
  cases k <;> decide +kernel

/-- A scalar that may be passed for a type is of that type. -/
theorem Heap.HasType.assignable {h : Heap} {t : ClassTable} (ht : ClassTable.initial.Extends t)
    {v : Value} {a b : DataType} (hv : h.HasType v a) (hab : a.isAssignable t b = true) :
    h.HasType v b := by
  rcases hv with rfl | ⟨k, hk, hs⟩
  · exact .null _ _
  unfold DataType.isAssignable at hab
  split at hab
  · rename_i hfo
    rcases Bool.or_eq_true _ _ ▸ hfo with hf | ho
    · exact HasType.fits (.inr ⟨k, hk, hs⟩) hf
    · exact .inr ⟨k, hk, .inr ho⟩
  split at hab
  · cases hab
  rename_i hargs
  simp only [Bool.or_eq_true, Bool.not_eq_true', not_or, Bool.not_eq_false, List.isEmpty_iff]
    at hargs
  -- a class that stands alone has no subclass but itself
  have alone : ∀ {n : String}, sameName a.name n = true → Builtin.isAlone n = true →
      sameName n b.name = true := by
    intro n hn ha
    obtain ⟨c, hc, hsup, hint, rfl⟩ := Builtin.resolve_alone ha
    rw [t.resolve?_congr hn, ht.resolve? hc] at hab
    rwa [← c.isSubclassOf_alone t hsup hint]
  rcases hs with hs | ho
  · have hkb := alone (sameName_symm (DataType.beq_iff.1 hs).1) k.isAlone
    refine .inr ⟨k, hk, .inl (DataType.beq_iff.2 ⟨hkb, ?_⟩)⟩
    rw [hargs.1]
    rfl
  · exact .inr ⟨k, hk, .inr (sameName_symm (alone ho (by decide +kernel)))⟩

theorem Heap.HasType.join {h : Heap} {t : ClassTable} (ht : ClassTable.initial.Extends t)
    {v : Value} {y n r : DataType} (rule : JoinRule t y n r) (hv : h.HasType v y ∨ h.HasType v n) :
    h.HasType v r := by
  cases rule with
  | second hs => exact hv.elim (fun hv => hv.assignable ht hs) id
  | first hf =>
    split
    · rename_i hn
      exact hv.elim (fun hv => hv.eq_null hn ▸ .null _ _) id
    · exact hv.elim id fun hv => hv.assignable ht hf

end ClassScript
