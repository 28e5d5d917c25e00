import ClassScript.Proofs.Typing.ScopeStack

/-!
# Sequences of operations on local variables

Checking enters blocks, declares variables and leaves blocks (`ScopeStep`). `nesting?` counts the
open blocks along a sequence of such steps and is defined as long as no block is left that was not
entered before. Then the scope still stands for the stack of blocks that the same steps make
(`LocalScope.Models.after`).

A sequence is `Balanced` if it leaves every block that it enters: it changes the innermost block
alone (`BlockStack.after_balanced`). It is `Enclosed` if all it does it does in blocks of its own: it
changes nothing (`BlockStack.after_enclosed`).
-/

namespace ClassScript

/-- An operation on the local variables. -/
inductive ScopeStep where
  | push
  | declare (name : String) (type : Option DataType) (span : Span)
  | pop

namespace ScopeStep

/-- The scope after an operation; a declaration that is refused leaves it as it is. -/
def onScope (s : LocalScope) : ScopeStep → LocalScope
  | .push => s.push
  | .declare name type span => (s.declare name type span).toOption.getD s
  | .pop => s.pop

/-- The blocks after an operation, innermost first. A declaration adds a variable to the innermost
block, unless the block has one of that name. -/
def onBlocks : BlockStack → ScopeStep → BlockStack
  | bs, .push => .empty :: bs
  | [], .declare .. => []
  | b :: bs, .declare name type span =>
    if b.contains name then b :: bs else b.insert name ⟨name, type, bs.length, span⟩ :: bs
  | bs, .pop => bs.tail

/-- The number of blocks entered and not left after an operation; nothing if there is no block to
leave. -/
def nest? (depth : Nat) : ScopeStep → Option Nat
  | .push => some (depth + 1)
  | .declare .. => some depth
  | .pop => if depth = 0 then none else some (depth - 1)

theorem nest?_add {depth depth' : Nat} {step : ScopeStep} (h : step.nest? depth = some depth')
    (n : Nat) : step.nest? (depth + n) = some (depth' + n) := by
  cases step <;> simp only [nest?, Option.some.injEq, Option.ite_none_left_eq_some] at h ⊢ <;> omega

end ScopeStep

/-- The scope after operations. -/
def LocalScope.after (s : LocalScope) (steps : List ScopeStep) : LocalScope :=
  steps.foldl ScopeStep.onScope s

/-- The blocks after operations. -/
def BlockStack.after (bs : BlockStack) (steps : List ScopeStep) : BlockStack :=
  steps.foldl ScopeStep.onBlocks bs

/-- The number of blocks entered and not left after operations; nothing if one of them leaves a block
that was not entered. -/
def nesting? (depth : Nat) (steps : List ScopeStep) : Option Nat :=
  steps.foldlM ScopeStep.nest? depth

theorem LocalScope.after_append (s : LocalScope) (steps more : List ScopeStep) :
    s.after (steps ++ more) = (s.after steps).after more :=
  List.foldl_append

theorem BlockStack.after_append (bs : BlockStack) (steps more : List ScopeStep) :
    bs.after (steps ++ more) = (bs.after steps).after more :=
  List.foldl_append

theorem nesting?_append (depth : Nat) (steps more : List ScopeStep) :
    nesting? depth (steps ++ more) = (nesting? depth steps).bind (nesting? · more) :=
  List.foldlM_append

theorem nesting?_cons_eq_some {depth depth' : Nat} {step : ScopeStep} {steps : List ScopeStep} :
    nesting? depth (step :: steps) = some depth' ↔
      ∃ d, step.nest? depth = some d ∧ nesting? d steps = some depth' :=
  Option.bind_eq_some_iff

/-- What is well nested is so inside further blocks. -/
theorem nesting?_add {depth depth' : Nat} {steps : List ScopeStep}
    (h : nesting? depth steps = some depth') (n : Nat) :
    nesting? (depth + n) steps = some (depth' + n) := by
  induction steps generalizing depth with
  | nil => exact congrArg (Option.map (· + n)) h
  | cons step steps ih =>
    obtain ⟨d, hstep, hrest⟩ := nesting?_cons_eq_some.1 h
    exact nesting?_cons_eq_some.2 ⟨d + n, step.nest?_add hstep n, ih hrest⟩

/-! ## The scope and the blocks -/

namespace LocalScope

/-- The innermost of the blocks that a scope stands for. -/
theorem Models.exists_cons {s : LocalScope} {bs : BlockStack} (h : s.Models bs) :
    ∃ b outer, bs = b :: outer ∧ outer.length = s.depth := by
  have hlen := h.depth
  cases bs with
  | nil => simp at hlen
  | cons b outer => exact ⟨b, outer, rfl, by simpa using hlen⟩

section

variable {s : LocalScope} {b : NameTable LocalVar} {bs : BlockStack} (h : s.Models (b :: bs))
  (name : String) (type : Option DataType) (span : Span)
include h

theorem Models.declare_eq_onScope : s.declare name type span =
    if b.contains name then .error ⟨.redeclared name, span⟩
    else .ok (ScopeStep.onScope s (.declare name type span)) := by
  simp only [ScopeStep.onScope, h.declare_eq]
  split <;> rfl

theorem Models.onScope_refused (hc : b.contains name = true) :
    ScopeStep.onScope s (.declare name type span) = s := by
  simp only [ScopeStep.onScope, h.declare_eq, hc, if_true]
  rfl

end

/-- An operation does to the scope what it does to the blocks. -/
theorem Models.step {s : LocalScope} {bs : BlockStack} (h : s.Models bs) {step : ScopeStep}
    {depth : Nat} (hn : step.nest? s.depth = some depth) :
    (step.onScope s).Models (step.onBlocks bs) ∧ (step.onScope s).depth = depth := by
  obtain ⟨b, outer, rfl, hlen⟩ := h.exists_cons
  cases step with
  | push => exact ⟨h.push, Option.some.inj hn⟩
  | declare name type span =>
    obtain rfl : s.depth = depth := Option.some.inj hn
    rw [ScopeStep.onBlocks, hlen]
    by_cases hc : b.contains name = true
    · rw [if_pos hc, h.onScope_refused name type span hc]
      exact ⟨h, rfl⟩
    · rw [if_neg hc]
      obtain ⟨-, hm⟩ := h.declare ((h.declare_eq_onScope name type span).trans (if_neg hc))
      exact ⟨hm, Nat.succ.inj (hm.depth.symm.trans h.depth)⟩
  | pop =>
    simp only [ScopeStep.nest?, Option.ite_none_left_eq_some, Option.some.injEq] at hn
    obtain ⟨hne, rfl⟩ := hn
    cases outer with
    | nil => exact absurd hlen.symm hne
    | cons c outer =>
      obtain ⟨_, _, hcons, hlen'⟩ := h.pop.exists_cons
      obtain rfl := (List.cons.inj hcons).2
      refine ⟨h.pop, ?_⟩
      rw [← hlen, List.length_cons, Nat.add_sub_cancel]
      exact hlen'.symm

/-- Operations that leave no block too many do to the scope what they do to the blocks. -/
theorem Models.after {s : LocalScope} {bs : BlockStack} (h : s.Models bs) {steps : List ScopeStep}
    {depth : Nat} (hn : nesting? s.depth steps = some depth) :
    (s.after steps).Models (bs.after steps) ∧ (s.after steps).depth = depth := by
  induction steps generalizing s bs with
  | nil => exact ⟨h, Option.some.inj hn⟩
  | cons step steps ih =>
    obtain ⟨d, hstep, hrest⟩ := nesting?_cons_eq_some.1 hn
    obtain ⟨hm, rfl⟩ := h.step hstep
    exact ih hm hrest

/-- Scopes that stand for the same blocks cannot be told apart, now or later. -/
theorem Models.lookup_after {s s' : LocalScope} {bs : BlockStack} (h : s.Models bs)
    (h' : s'.Models bs) {steps : List ScopeStep} (hn : (nesting? s.depth steps).isSome)
    (name : String) : (s'.after steps).lookup? name = (s.after steps).lookup? name := by
  obtain ⟨depth, hn⟩ := Option.isSome_iff_exists.1 hn
  have hdepth : s'.depth = s.depth := Nat.succ.inj (h'.depth.symm.trans h.depth)
  rw [(h.after hn).1.lookup, (h'.after (hdepth ▸ hn)).1.lookup]

end LocalScope

/-! ## Blocks that are left again -/

/-- Every block that the operations enter they leave, and no other. -/
def Balanced (steps : List ScopeStep) : Prop := nesting? 0 steps = some 0

/-- All operations are in blocks that are entered and left on the way. -/
inductive Enclosed : List ScopeStep → Prop
  | nil : Enclosed []
  | block {body rest : List ScopeStep} : Balanced body → Enclosed rest →
    Enclosed (.push :: (body ++ .pop :: rest))

theorem Balanced.nesting {steps : List ScopeStep} (h : Balanced steps) (depth : Nat) :
    nesting? depth steps = some depth := by
  simpa using nesting?_add h depth

theorem Balanced.append {steps more : List ScopeStep} (h : Balanced steps) (h' : Balanced more) :
    Balanced (steps ++ more) := by
  unfold Balanced at *
  rw [nesting?_append, h, Option.bind_some, h']

theorem Balanced.block {body rest : List ScopeStep} (h : Balanced body) (h' : Balanced rest) :
    Balanced (.push :: (body ++ .pop :: rest)) :=
  nesting?_cons_eq_some.2 ⟨1, rfl, by
    rw [nesting?_append, h.nesting, Option.bind_some]
    exact h'⟩

theorem Enclosed.balanced {steps : List ScopeStep} (h : Enclosed steps) : Balanced steps := by
  induction h with
  | nil => exact rfl
  | block hbody _ ih => exact hbody.block ih

theorem Enclosed.append {steps more : List ScopeStep} (h : Enclosed steps) (h' : Enclosed more) :
    Enclosed (steps ++ more) := by
  induction h with
  | nil => exact h'
  | block hbody _ ih =>
    rw [List.cons_append, List.append_assoc]
    exact .block hbody ih

namespace BlockStack

theorem onBlocks_append {step : ScopeStep} {depth depth' : Nat}
    (hn : step.nest? depth = some depth') {top : BlockStack} (ht : top.length = depth + 1)
    (bs : BlockStack) : ∃ top' : BlockStack, top'.length = depth' + 1 ∧
      step.onBlocks (top ++ bs) = top' ++ bs := by
  match top, step with
  | top, .push =>
    obtain rfl : depth + 1 = depth' := Option.some.inj hn
    exact ⟨.empty :: top, by simp [ht], rfl⟩
  | b :: top, .declare name type span =>
    obtain rfl : depth = depth' := Option.some.inj hn
    simp only [List.cons_append, ScopeStep.onBlocks]
    split
    · exact ⟨b :: top, ht, rfl⟩
    · exact ⟨b.insert name ⟨name, type, (top ++ bs).length, span⟩ :: top, ht, rfl⟩
  | b :: top, .pop =>
    simp only [ScopeStep.nest?, Option.ite_none_left_eq_some, Option.some.injEq] at hn
    simp only [List.length_cons] at ht
    exact ⟨top, by omega, rfl⟩

/-- Operations see and change only the blocks that they may leave. -/
theorem after_append_outer {steps : List ScopeStep} {depth depth' : Nat}
    (hn : nesting? depth steps = some depth') {top : BlockStack} (ht : top.length = depth + 1)
    (bs : BlockStack) : ∃ top' : BlockStack, top'.length = depth' + 1 ∧
      after (top ++ bs) steps = top' ++ bs := by
  induction steps generalizing depth top with
  | nil =>
    obtain rfl : depth = depth' := Option.some.inj hn
    exact ⟨top, ht, rfl⟩
  | cons step steps ih =>
    obtain ⟨d, hstep, hrest⟩ := nesting?_cons_eq_some.1 hn
    obtain ⟨top₁, ht₁, htop⟩ := onBlocks_append hstep ht bs
    obtain ⟨top', ht', hafter⟩ := ih hrest ht₁
    refine ⟨top', ht', ?_⟩
    rw [← hafter, ← htop]
    rfl

theorem after_balanced {steps : List ScopeStep} (h : Balanced steps) (b : NameTable LocalVar)
    (bs : BlockStack) : ∃ b', after (b :: bs) steps = b' :: bs := by
  have ht : [b].length = 0 + 1 := rfl
  obtain ⟨top', ht', hafter⟩ := after_append_outer h ht bs
  obtain ⟨b', rfl⟩ := List.length_eq_one_iff.1 ht'
  exact ⟨b', hafter⟩

theorem after_enclosed {steps : List ScopeStep} (h : Enclosed steps) (bs : BlockStack) :
    bs.after steps = bs := by
  induction h with
  | nil => rfl
  | @block body rest hbody _ ih =>
    obtain ⟨b', hb'⟩ := after_balanced hbody .empty bs
    calc bs.after (.push :: (body ++ .pop :: rest))
        = (after (.empty :: bs) body).after (.pop :: rest) := after_append (.empty :: bs) body _
      _ = bs.after rest := by rw [hb']; rfl
      _ = bs := ih

end BlockStack

namespace LocalScope

variable {s : LocalScope} {b : NameTable LocalVar} {bs : BlockStack} {steps : List ScopeStep}

theorem Models.after_balanced (h : s.Models (b :: bs)) (hsteps : Balanced steps) :
    ∃ b', (s.after steps).Models (b' :: bs) := by
  obtain ⟨b', hb'⟩ := BlockStack.after_balanced hsteps b bs
  exact ⟨b', hb' ▸ (h.after (hsteps.nesting s.depth)).1⟩

theorem Models.after_enclosed (h : s.Models bs) (hsteps : Enclosed steps) :
    (s.after steps).Models bs := by
  have hm := (h.after (hsteps.balanced.nesting s.depth)).1
  rwa [BlockStack.after_enclosed hsteps] at hm

end LocalScope

end ClassScript
