import ClassScript.Proofs.Machine.Balance

/-!
# Empty blocks are invisible

A machine is *padded* at a spot if there is one more empty block around some block of some frame
(`Machine.Padded`). Names are looked up and assigned past it, so a computation does the same with it
and without it, and leaves it where it is (`Run.Ignores`). Only a declaration has to stand in another
block than the empty one. Evaluation has no declarations, and statements declare in the innermost
block only; so evaluation ignores empty blocks everywhere, and execution ignores them everywhere but
innermost in the running frame (`Calls.withFuel_ignores`).

Hence a block of its own makes no difference to what ignores empty blocks everywhere
(`Run.Ignores.inBlock_eq`).
-/

namespace ClassScript

/-! ## One more block -/

/-- The blocks `cs` are `bs` with an empty block after the first `k` and before another. -/
inductive Block.Padded : Nat → List Block → List Block → Prop
  | here {b : Block} {bs : List Block} : Padded 0 (b :: bs) (.empty :: b :: bs)
  | under {k : Nat} {b : Block} {bs cs : List Block} :
      Padded k bs cs → Padded (k + 1) (b :: bs) (b :: cs)

/-- The frame `g` is `f` with an empty block after the first `k`. -/
structure Frame.Padded (k : Nat) (f g : Frame) : Prop where
  cls : g.cls = f.cls
  this : g.this = f.this
  blocks : Block.Padded k f.blocks g.blocks

namespace Block.Padded

variable {k : Nat} {bs cs : List Block}

theorem findSome? (h : Padded k bs cs) (name : String) :
    cs.findSome? (·.get? name) = bs.findSome? (·.get? name) := by
  induction h with
  | here => rfl
  | under _ ih => rw [List.findSome?_cons, List.findSome?_cons, ih]

theorem ne_nil (h : Padded k bs cs) : bs ≠ [] ∧ cs ≠ [] := by
  cases h <;> simp

theorem assignIn (h : Padded k bs cs) (name : String) (v : Value) :
    Padded k (Frame.assignIn name v bs) (Frame.assignIn name v cs) := by
  induction h with
  | @here b bs =>
    have past : Frame.assignIn name v (.empty :: b :: bs) =
      .empty :: Frame.assignIn name v (b :: bs) := rfl
    rw [past]
    unfold Frame.assignIn
    split <;> exact .here
  | under h ih =>
    unfold Frame.assignIn
    split
    · exact .under h
    · exact .under ih

end Block.Padded

/-- A variable is local by what the names stand for. -/
theorem Frame.isLocal_congr {f g : Frame} (h : ∀ name, g.lookup? name = f.lookup? name)
    (name : String) : g.isLocal name = f.isLocal name := by
  unfold Frame.isLocal
  rw [h]

namespace Frame.Padded

variable {k : Nat} {f g : Frame}

theorem lookup? (h : f.Padded k g) (name : String) : g.lookup? name = f.lookup? name :=
  h.blocks.findSome? name

theorem assign (h : f.Padded k g) (name : String) (v : Value) :
    (f.assign name v).Padded k (g.assign name v) := by
  have cls : ∀ f : Frame, (f.assign name v).cls = f.cls ∧ (f.assign name v).this = f.this := by
    intro f
    unfold Frame.assign
    split <;> exact ⟨rfl, rfl⟩
  refine ⟨(cls g).1.trans (h.cls.trans (cls f).1.symm),
    (cls g).2.trans (h.this.trans (cls f).2.symm), ?_⟩
  rw [blocks_assign, blocks_assign]
  exact h.blocks.assignIn name v

theorem outer (h : f.Padded (k + 1) g) :
    g.block = f.block ∧ Block.Padded k f.outer g.outer := by
  obtain ⟨-, -, blocks⟩ := h
  unfold Frame.blocks at blocks
  generalize f.block = b, f.outer = bs, g.block = b', g.outer = bs' at blocks
  cases blocks with
  | under h => exact ⟨rfl, h⟩

/-- A declaration does not see an empty block that is not the innermost one. -/
theorem declare (h : f.Padded (k + 1) g) (name : String) (v : Value) :
    (f.declare name v).Padded (k + 1) (g.declare name v) := by
  obtain ⟨same, outer⟩ := h.outer
  refine ⟨h.cls, h.this, ?_⟩
  show Block.Padded (k + 1) (f.block.insert name v :: f.outer) (g.block.insert name v :: g.outer)
  rw [same]
  exact .under outer

theorem push (h : f.Padded k g) : f.push.Padded (k + 1) g.push := ⟨h.cls, h.this, .under h.blocks⟩

theorem blocks_pop (f : Frame) : f.pop.blocks = if f.outer = [] then f.blocks else f.outer := by
  unfold Frame.pop
  cases hf : f.outer with
  | nil => simp
  | cons b bs => simp [Frame.blocks]

theorem pop (h : f.Padded (k + 1) g) : f.pop.Padded k g.pop := by
  obtain ⟨-, outer⟩ := h.outer
  have more := outer.ne_nil
  have kept : ∀ f : Frame, f.pop.cls = f.cls ∧ f.pop.this = f.this := by
    intro f
    unfold Frame.pop
    split <;> exact ⟨rfl, rfl⟩
  refine ⟨(kept g).1.trans (h.cls.trans (kept f).1.symm),
    (kept g).2.trans (h.this.trans (kept f).2.symm), ?_⟩
  rw [blocks_pop, blocks_pop, if_neg more.1, if_neg more.2]
  exact outer

/-- A block that is entered is an empty one. -/
theorem of_push (f : Frame) : f.Padded 0 f.push := ⟨rfl, rfl, .here⟩

theorem pop_eq (h : f.Padded 0 g) : g.pop = f := by
  obtain ⟨cls, this, block, outer⟩ := f
  obtain ⟨cls', this', block', outer'⟩ := g
  obtain ⟨hcls, hthis, blocks⟩ := h
  cases hcls
  cases hthis
  cases blocks
  rfl

end Frame.Padded

/-! ## Machines -/

/-- In the frames `gs`, the one after the first `j` is padded. -/
inductive Frame.PaddedIn (k : Nat) : Nat → List Frame → List Frame → Prop
  | here {f g : Frame} {fs : List Frame} : f.Padded k g → PaddedIn k 0 (f :: fs) (g :: fs)
  | under {j : Nat} {f : Frame} {fs gs : List Frame} :
      PaddedIn k j fs gs → PaddedIn k (j + 1) (f :: fs) (f :: gs)

theorem Frame.PaddedIn.length {j k : Nat} {fs gs : List Frame} (h : PaddedIn k j fs gs) :
    gs.length = fs.length := by
  induction h with
  | here => rfl
  | under _ ih => rw [List.length_cons, List.length_cons, ih]

/-- The machine `m'` is `m` with one more empty block: in the frame after the first `j`, after the
first `k` blocks. -/
structure Machine.Padded (j k : Nat) (m m' : Machine) : Prop where
  world : m'.world = m.world
  statics : m'.statics = m.statics
  frames : Frame.PaddedIn k j m.frames m'.frames

namespace Machine.Padded

variable {j k : Nat} {m m' : Machine}

/-- The running frames are the same but for the empty block. -/
theorem running (h : m.Padded j k m') : ∃ f fs g gs, m.frames = f :: fs ∧ m'.frames = g :: gs ∧
    g.cls = f.cls ∧ g.this = f.this ∧ ∀ name, g.lookup? name = f.lookup? name := by
  obtain ⟨-, -, frames⟩ := h
  generalize m.frames = fs, m'.frames = gs at frames
  cases frames with
  | here h => exact ⟨_, _, _, _, rfl, rfl, h.cls, h.this, h.lookup?⟩
  | under h => exact ⟨_, _, _, _, rfl, rfl, rfl, rfl, fun _ => rfl⟩

theorem depth (h : m.Padded j k m') : m'.depth = m.depth := h.frames.length

theorem lookupClass? (h : m.Padded j k m') (t : ClassTable) (name : String) :
    m'.lookupClass? t name = m.lookupClass? t name := by
  obtain ⟨f, fs, g, gs, hf, hg, hcls, -⟩ := h.running
  simp [Machine.lookupClass?, hf, hg, hcls]

theorem namesValue (h : m.Padded j k m') (t : ClassTable) (name : String) :
    m'.namesValue t name = m.namesValue t name := by
  obtain ⟨f, fs, g, gs, hf, hg, hcls, hthis, hlookup⟩ := h.running
  simp [Machine.namesValue, hf, hg, hcls, hthis, h.world, Frame.isLocal_congr hlookup]

theorem classRef? (h : m.Padded j k m') (t : ClassTable) : ∀ e : Expr,
    m'.classRef? t e = m.classRef? t e
  | .name i => by simp only [Machine.classRef?, h.namesValue, h.lookupClass?]
  | .member object i _ => by simp only [Machine.classRef?, classRef? h t object]
  | .literal .. | .this _ | .call .. | .callOn .. | .create .. | .index .. | .binary ..
  | .unary .. | .post .. | .assign .. | .conditional .. | .query .. => rfl

theorem popBlock (h : m.Padded 0 (k + 1) m') :
    (Run.popBlock m).Padded 0 k (Run.popBlock m') := by
  obtain ⟨world, frames, statics⟩ := m
  obtain ⟨world', frames', statics'⟩ := m'
  obtain ⟨hworld, hstatics, hframes⟩ := h
  cases hframes with
  | here hf => exact ⟨hworld, hstatics, .here hf.pop⟩

theorem popBlock_eq (h : m.Padded 0 0 m') : Run.popBlock m' = m := by
  obtain ⟨world, frames, statics⟩ := m
  obtain ⟨world', frames', statics'⟩ := m'
  obtain ⟨rfl, rfl, hframes⟩ := h
  cases hframes with
  | here hf =>
    show Machine.mk _ (Frame.pop _ :: _) _ = _
    rw [hf.pop_eq]

/-- A block is left in a frame above the padded one. -/
theorem popBlock_above (h : m.Padded (j + 1) k m') :
    (Run.popBlock m).Padded (j + 1) k (Run.popBlock m') := by
  obtain ⟨world, frames, statics⟩ := m
  obtain ⟨world', frames', statics'⟩ := m'
  obtain ⟨hworld, hstatics, hframes⟩ := h
  cases hframes with
  | under hf => exact ⟨hworld, hstatics, .under hf⟩

theorem popFrame (h : m.Padded (j + 1) k m') :
    (Run.popFrame m).Padded j k (Run.popFrame m') := by
  obtain ⟨world, frames, statics⟩ := m
  obtain ⟨world', frames', statics'⟩ := m'
  obtain ⟨hworld, hstatics, hframes⟩ := h
  cases hframes with
  | under hf => exact ⟨hworld, hstatics, hf⟩

end Machine.Padded

/-! ## Computations -/

/-- Both end alike, with the empty block where it is. -/
inductive Run.EndsPadded {α : Type} (j k : Nat) :
    EStateM.Result Halt Machine α → EStateM.Result Halt Machine α → Prop
  | ok (a : α) {m m' : Machine} : m.Padded j k m' → EndsPadded j k (.ok a m) (.ok a m')
  | error (r : Halt) {m m' : Machine} : m.Padded j k m' → EndsPadded j k (.error r m) (.error r m')

/-- What is done to both ends afterwards. -/
theorem Run.EndsPadded.ending {α : Type} {x : Run α} {j k j' k' : Nat} {m m' : Machine}
    {f : Machine → Machine} (h : EndsPadded j k (x m) (x m'))
    (hf : ∀ m m', m.Padded j k m' → (f m).Padded j' k' (f m')) :
    EndsPadded j' k' (x.ending f m) (x.ending f m') := by
  unfold Run.ending
  generalize x m = r, x m' = r' at h
  cases h with
  | ok a h => exact .ok a (hf _ _ h)
  | error r h => exact .error r (hf _ _ h)

/-- The computation does the same with one more empty block at least `low` blocks and frames away
from the innermost block of the running frame (module doc). -/
def Run.Ignores {α : Type} (low : Nat) (x : Run α) : Prop :=
  ∀ j k m m', low ≤ j + k → m.Padded j k m' → EndsPadded j k (x m) (x m')

namespace Run.Ignores

variable {α β : Type} {low : Nat} {x : Run α}

theorem pure (a : α) : Ignores low (Pure.pure a) := fun _ _ _ _ _ h => .ok a h

theorem throw (r : Halt) : Ignores low (MonadExcept.throw r : Run α) :=
  fun _ _ _ _ _ h => .error r h

theorem fault (e : RuntimeError) : Ignores low (Run.fault e : Run α) := .throw _

theorem bind {f : α → Run β} (hx : Ignores low x) (hf : ∀ a, Ignores low (f a)) :
    Ignores low (x >>= f) := by
  intro j k m m' hlow h
  have run := hx j k m m' hlow h
  rw [bind_eq, bind_eq]
  generalize x m = r, x m' = r' at run
  cases run with
  | ok a h' => exact hf a j k _ _ hlow h'
  | error r h' => exact .error r h'

theorem native (x : Native α) : Ignores low (Run.native x) := by
  rintro j k ⟨world, frames, statics⟩ ⟨world', frames', statics'⟩ - ⟨rfl, rfl, frames⟩
  unfold Run.native
  dsimp only
  cases x world' with
  | ok a w => exact .ok a ⟨rfl, rfl, frames⟩
  | error e w => exact .error _ ⟨rfl, rfl, frames⟩

theorem log (e : LogEvent) : Ignores low (Run.log e) := .native _

theorem ofExcept (x : Except RuntimeError α) : Ignores low (Run.ofExcept x) := by
  cases x with
  | ok a => exact .pure a
  | error e => exact .fault e

theorem ofNative (x : Except NativeError α) : Ignores low (Run.ofNative x) := by
  cases x with
  | ok a => exact .pure a
  | error e => exact .fault _

theorem heap : Ignores low Run.heap := by
  rintro j k m m' - h
  show EndsPadded j k (.ok m.world.heap m) (.ok m'.world.heap m')
  rw [h.world]
  exact .ok _ h

/-- A look at the machine that goes by what an empty block does not change. -/
theorem get {f : Machine → Run α} (hf : ∀ m, Ignores low (f m))
    (same : ∀ j k m m', m.Padded j k m' → f m' = f m) : Ignores low (MonadState.get >>= f) := by
  intro j k m m' hlow h
  show EndsPadded j k (f m m) (f m' m')
  rw [same j k m m' h]
  exact hf m j k m m' hlow h

/-- A look at the running frame that goes by what an empty block does not change. -/
theorem frame {f : Frame → Run α} (hf : ∀ g, Ignores low (f g))
    (same : ∀ g g' : Frame, g'.cls = g.cls → g'.this = g.this →
      (∀ name, g'.lookup? name = g.lookup? name) → f g' = f g) : Ignores low (Run.frame >>= f) := by
  intro j k m m' hlow h
  obtain ⟨g, gs, g', gs', hm, hm', hcls, hthis, hlookup⟩ := h.running
  rw [frame_bind hm, frame_bind hm', same g g' hcls hthis hlookup]
  exact hf g j k m m' hlow h

theorem assign (name : String) (v : Value) :
    Ignores low (Run.modifyFrame (·.assign name v)) := by
  rintro j k ⟨world, frames, statics⟩ ⟨world', frames', statics'⟩ - ⟨rfl, rfl, frames⟩
  cases frames with
  | here h => exact .ok () ⟨rfl, rfl, .here (h.assign name v)⟩
  | under h => exact .ok () ⟨rfl, rfl, .under h⟩

/-- A declaration ignores empty blocks but an innermost one. -/
theorem declare (name : String) (v : Value) :
    Ignores 1 (Run.modifyFrame (·.declare name v)) := by
  rintro j k ⟨world, frames, statics⟩ ⟨world', frames', statics'⟩ hlow ⟨rfl, rfl, frames⟩
  cases frames with
  | here h =>
    cases k with
    | zero => exact absurd hlow (by decide)
    | succ k => exact .ok () ⟨rfl, rfl, .here (h.declare name v)⟩
  | under h => exact .ok () ⟨rfl, rfl, .under h⟩

theorem modifyStatics (f : Statics → Statics) : Ignores low (Run.modifyStatics f) := by
  rintro j k ⟨world, frames, statics⟩ ⟨world', frames', statics'⟩ - ⟨rfl, rfl, frames⟩
  exact .ok () ⟨rfl, rfl, frames⟩

theorem touchStatics (chain : List ClassInfo) : Ignores low (Run.touchStatics chain) := by
  rintro j k ⟨world, frames, statics⟩ ⟨world', frames', statics'⟩ - ⟨rfl, rfl, frames⟩
  exact .ok _ ⟨rfl, rfl, frames⟩

/-- In a block of its own, a computation declares above the empty block. -/
theorem inBlock (hx : Ignores 1 x) : Ignores low (Run.inBlock x) := by
  rintro j k ⟨world, frames, statics⟩ ⟨world', frames', statics'⟩ - ⟨rfl, rfl, frames⟩
  cases frames with
  | @here f g fs h =>
    have entered : Machine.Padded 0 (k + 1) ⟨world', f.push :: fs, statics'⟩
      ⟨world', g.push :: fs, statics'⟩ := ⟨rfl, rfl, .here h.push⟩
    exact (hx 0 (k + 1) _ _ (by omega) entered).ending fun _ _ => .popBlock
  | @under j f fs gs h =>
    have entered : Machine.Padded (j + 1) k ⟨world', f.push :: fs, statics'⟩
      ⟨world', f.push :: gs, statics'⟩ := ⟨rfl, rfl, .under h⟩
    exact (hx (j + 1) k _ _ (by omega) entered).ending fun _ _ => .popBlock_above

/-- In a frame of its own, a computation has the empty block below it. -/
theorem inFrame (f : Frame) (hx : Ignores 1 x) : Ignores low (Run.inFrame f x) := by
  rintro j k ⟨world, frames, statics⟩ ⟨world', frames', statics'⟩ - ⟨rfl, rfl, hframes⟩
  have entered : Machine.Padded (j + 1) k ⟨world', f :: frames, statics'⟩
    ⟨world', f :: frames', statics'⟩ := ⟨rfl, rfl, .under hframes⟩
  exact (hx (j + 1) k _ _ (by omega) entered).ending fun _ _ => .popFrame

/-- **A block of its own makes no difference** to what ignores empty blocks everywhere. -/
theorem inBlock_eq {m : Machine} (hx : Ignores 0 x) (hm : m.frames ≠ []) :
    Run.inBlock x m = x m := by
  obtain ⟨world, frames, statics⟩ := m
  obtain ⟨f, fs, rfl⟩ := List.exists_cons_of_ne_nil hm
  have entered : Machine.Padded 0 0 ⟨world, f :: fs, statics⟩ ⟨world, f.push :: fs, statics⟩ :=
    ⟨rfl, rfl, .here (.of_push f)⟩
  have run := hx 0 0 _ _ (Nat.zero_le _) entered
  show Run.ending x Run.popBlock ⟨world, f.push :: fs, statics⟩ = _
  unfold Run.ending
  generalize x ⟨world, f :: fs, statics⟩ = r, x ⟨world, f.push :: fs, statics⟩ = r' at run
  cases run with
  | ok a h => exact congrArg (EStateM.Result.ok a) h.popBlock_eq
  | error e h => exact congrArg (EStateM.Result.error e) h.popBlock_eq

end Run.Ignores

end ClassScript
