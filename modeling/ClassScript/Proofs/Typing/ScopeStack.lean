import ClassScript.Proofs.NameTable
import ClassScript.Typing.Scope

/-!
# The local scope is a stack of blocks

A `LocalScope` keeps one table of what is visible and a list of what declarations hid. Seen from
outside it is a stack of tables, one for each open block, searched from the innermost
(`BlockStack.find?`). `LocalScope.Models s bs` says that `s` stands for the stack `bs`, and each
operation does to the scope what it does to the stack: `Models.push`, `Models.declare` and
`Models.pop`.
-/

namespace ClassScript

/-- The variables of the open blocks, innermost first. -/
abbrev BlockStack := List (NameTable LocalVar)

namespace BlockStack

/-- The variable of a name, from the innermost block that has it. -/
def find? (bs : BlockStack) (name : String) : Option LocalVar := bs.findSome? (·.get? name)

@[simp] theorem find?_nil (name : String) : find? [] name = none := rfl

theorem find?_cons (b : NameTable LocalVar) (bs : BlockStack) (name : String) :
    find? (b :: bs) name = ((b.get? name).or (find? bs name)) := by
  unfold find?
  rw [List.findSome?_cons]
  cases b.get? name <;> rfl

@[simp] theorem find?_empty_cons (bs : BlockStack) (name : String) :
    find? (.empty :: bs) name = find? bs name := by
  rw [find?_cons, NameTable.get?_empty, Option.none_or]

theorem find?_congr (bs : BlockStack) {n n' : String} (h : sameName n n' = true) :
    find? bs n = find? bs n' := by
  unfold find?
  simp only [NameTable.get?_congr _ h]

theorem find?_insert (b : NameTable LocalVar) (bs : BlockStack) (name n : String) (v : LocalVar) :
    find? (b.insert name v :: bs) n = if sameName name n then some v else find? (b :: bs) n := by
  rw [find?_cons, find?_cons, NameTable.get?_insert]
  split <;> rfl

/-- Every variable carries its own name and the depth of its block. -/
def Leveled : BlockStack → Prop
  | [] => True
  | b :: bs =>
    (∀ n v, b.get? n = some v → sameName v.name n = true ∧ v.depth = bs.length) ∧ Leveled bs

theorem Leveled.find? {bs : BlockStack} (h : Leveled bs) {n : String} {v : LocalVar}
    (hv : bs.find? n = some v) : sameName v.name n = true ∧ v.depth < bs.length := by
  induction bs with
  | nil => simp at hv
  | cons b bs ih =>
    rw [find?_cons] at hv
    cases hb : b.get? n with
    | some w =>
      rw [hb] at hv
      obtain rfl : w = v := by simpa using hv
      obtain ⟨hn, hd⟩ := h.1 n w hb
      exact ⟨hn, by simp [hd]⟩
    | none =>
      rw [hb, Option.none_or] at hv
      obtain ⟨hn, hd⟩ := ih h.2 hv
      exact ⟨hn, by simp only [List.length_cons]; omega⟩

/-- `hs` remembers, block by block, the variables that the block hides from those around it. -/
def HiddenBy : BlockStack → List Hidden → Prop
  | [], hs => hs = []
  | b :: bs, hs => ∃ mine rest, hs = mine ++ rest ∧
    (∀ h ∈ mine, h.block = bs.length ∧ b.contains h.var.name = true ∧
      find? bs h.var.name = some h.var) ∧
    (∀ n v, b.contains n = true → find? bs n = some v → ∃ h ∈ mine, h.var = v) ∧
    HiddenBy bs rest

theorem HiddenBy.block_lt {bs : BlockStack} {hs : List Hidden} (hb : HiddenBy bs hs) :
    ∀ h ∈ hs, h.block < bs.length := by
  induction bs generalizing hs with
  | nil => intro h hm; rw [hb] at hm; cases hm
  | cons b bs ih =>
    obtain ⟨mine, rest, rfl, hmine, -, hrest⟩ := hb
    intro h hm
    rcases List.mem_append.1 hm with hm | hm
    · simp [(hmine h hm).1]
    · exact Nat.lt_succ_of_lt (ih hrest h hm)

end BlockStack

open BlockStack

namespace LocalScope

/-- The scope stands for a stack of blocks (module doc). -/
structure Models (s : LocalScope) (bs : BlockStack) : Prop where
  depth : bs.length = s.depth + 1
  lookup : ∀ name, s.lookup? name = bs.find? name
  leveled : bs.Leveled
  hidden : bs.HiddenBy s.hidden

theorem models_empty : LocalScope.empty.Models [.empty] where
  depth := rfl
  lookup name := rfl
  leveled := ⟨by simp, trivial⟩
  hidden := ⟨[], [], rfl, by simp, by simp, rfl⟩

theorem Models.push {s : LocalScope} {bs : BlockStack} (h : s.Models bs) :
    s.push.Models (.empty :: bs) where
  depth := by simp [LocalScope.push, h.depth]
  lookup name := by
    rw [find?_empty_cons]
    exact h.lookup name
  leveled := ⟨by simp, h.leveled⟩
  hidden := ⟨[], s.hidden, rfl, by simp, by simp [NameTable.contains_eq], h.hidden⟩

/-! ## Declaration -/

/-- A declared variable is found under its name, and nothing else changes. -/
theorem lookup?_declare {s s' : LocalScope} {name : String} {type : Option DataType} {span : Span}
    (h : s.declare name type span = .ok s') (n : String) :
    s'.lookup? n = if sameName name n then some ⟨name, type, s.depth, span⟩ else s.lookup? n := by
  have hv : s'.visible = s.visible.insert name ⟨name, type, s.depth, span⟩ := by
    unfold LocalScope.declare at h
    dsimp only at h
    split at h
    · cases h; rfl
    · split at h <;> cases h
      rfl
  unfold lookup?
  rw [hv, NameTable.get?_insert]

/-- A declaration is refused exactly if the innermost block has a variable of the name. -/
theorem Models.declare_eq {s : LocalScope} {b : NameTable LocalVar} {bs : BlockStack}
    (h : s.Models (b :: bs)) (name : String) (type : Option DataType) (span : Span) :
    s.declare name type span =
      if b.contains name then .error ⟨.redeclared name, span⟩
      else .ok { s with
        visible := s.visible.insert name ⟨name, type, s.depth, span⟩
        hidden := ((bs.find? name).toList.map (⟨s.depth, ·⟩)) ++ s.hidden } := by
  have hlen : bs.length = s.depth := by simpa using h.depth
  unfold LocalScope.declare
  dsimp only
  rw [h.lookup, find?_cons, NameTable.contains_eq]
  cases hb : b.get? name with
  | some v => simp [(h.leveled.1 name v hb).2, hlen]
  | none =>
    cases hf : bs.find? name with
    | none => simp
    | some v =>
      have hlt := (h.leveled.2.find? hf).2
      simp [show ¬ v.depth = s.depth by omega]

/-- A declared variable goes to the innermost block. -/
theorem Models.declare {s s' : LocalScope} {b : NameTable LocalVar} {bs : BlockStack}
    (h : s.Models (b :: bs)) {name : String} {type : Option DataType} {span : Span}
    (hs : s.declare name type span = .ok s') :
    b.contains name = false ∧ s'.Models (b.insert name ⟨name, type, s.depth, span⟩ :: bs) := by
  have hlen : bs.length = s.depth := by simpa using h.depth
  rw [h.declare_eq] at hs
  split at hs
  · cases hs
  rename_i hn
  obtain rfl := Except.ok.inj hs
  -- the variable that is hidden now is put in front of those the block has hidden before
  obtain ⟨mine, rest, hmr, hmine, hall, hrest⟩ := h.hidden
  refine ⟨by simpa using hn, ⟨h.depth, ?_, ⟨?_, h.leveled.2⟩,
    ⟨(bs.find? name).toList.map (⟨s.depth, ·⟩) ++ mine, rest, ?_, ?_, ?_, hrest⟩⟩⟩
  · intro n
    rw [find?_insert, ← h.lookup]
    exact NameTable.get?_insert _ _ _ _
  · intro n v hv
    rw [NameTable.get?_insert] at hv
    split at hv
    · rename_i hsame
      obtain rfl := Option.some.inj hv
      exact ⟨hsame, hlen.symm⟩
    · exact h.leveled.1 n v hv
  · rw [hmr, List.append_assoc]
  · intro x hx
    rw [NameTable.contains_insert]
    rcases List.mem_append.1 hx with hx | hx
    · obtain ⟨v, hv, rfl⟩ := List.mem_map.1 hx
      have hf := Option.mem_toList.1 hv
      have hname := (h.leveled.2.find? hf).1
      refine ⟨hlen.symm, by simp [sameName_symm hname], ?_⟩
      rw [find?_congr bs hname]
      exact hf
    · obtain ⟨hblock, hc, hf⟩ := hmine x hx
      exact ⟨hblock, by simp [hc], hf⟩
  · intro n v hc hf
    rw [NameTable.contains_insert, Bool.or_eq_true] at hc
    rcases hc with hc | hc
    · refine ⟨⟨s.depth, v⟩, List.mem_append_left _ (List.mem_map.2 ⟨v, ?_, rfl⟩), rfl⟩
      rw [find?_congr bs hc]
      exact Option.mem_toList.2 hf
    · obtain ⟨x, hx, hv⟩ := hall n v hc hf
      exact ⟨x, List.mem_append_right _ hx, hv⟩

/-! ## Leaving a block -/

/-- What a block hid is put back; what was hidden before stays. -/
theorem restore_append (depth : Nat) (visible : NameTable LocalVar) {mine rest : List Hidden}
    (hm : ∀ h ∈ mine, h.block = depth) (hr : ∀ h ∈ rest, h.block ≠ depth) :
    restore depth visible (mine ++ rest) =
      { visible := mine.foldl (fun t h => t.insert h.var.name h.var) visible
        depth := depth - 1, hidden := rest } := by
  induction mine generalizing visible with
  | nil =>
    cases rest with
    | nil => rfl
    | cons h hs => simp [restore, hr h List.mem_cons_self]
  | cons h hs ih =>
    simp only [List.cons_append, restore, hm h List.mem_cons_self, if_true, List.foldl_cons]
    exact ih _ fun x hx => hm x (List.mem_cons_of_mem _ hx)

/-- Leaving a block forgets its variables, and all others are as they were around it. -/
theorem Models.pop {s : LocalScope} {b c : NameTable LocalVar} {bs : BlockStack}
    (h : s.Models (b :: c :: bs)) : s.pop.Models (c :: bs) := by
  obtain ⟨mine, rest, hmr, hmine, hall, hrest⟩ := h.hidden
  have hlen : (c :: bs).length = s.depth := by simpa using h.depth
  have hpop : s.pop =
      ⟨mine.foldl (fun t x => t.insert x.var.name x.var)
        (s.visible.filter fun v => v.depth < s.depth), s.depth - 1, rest⟩ := by
    unfold LocalScope.pop
    rw [hmr, restore_append s.depth _ fun x hx => (hmine x hx).1.trans hlen]
    intro x hx hd
    have := hrest.block_lt x hx
    omega
  rw [hpop]
  refine ⟨?_, fun n => ?_, h.leveled.2, hrest⟩
  · simp only [List.length_cons] at hlen ⊢
    omega
  have hvis : (s.visible.filter fun v => v.depth < s.depth).get? n =
      ((b.get? n).or (find? (c :: bs) n)).filter fun v => v.depth < s.depth := by
    rw [NameTable.get?_filter, ← find?_cons]
    exact congrArg _ (h.lookup n)
  -- a name that is put back has its hidden variable again
  refine NameTable.get?_foldl_insert _ _ mine (fun x hx hs => ?_) ?_
  · rw [← find?_congr _ hs]
    exact (hmine x hx).2.2.symm
  · -- a name of the block is gone and comes back if it was hidden; another name was visible
    rw [hvis]
    cases hb : b.get? n with
    | some v =>
      have hv := (h.leveled.1 n v hb).2
      cases hf : find? (c :: bs) n with
      | none => exact .inr (by simp [hv, hlen, Option.filter])
      | some w =>
        obtain ⟨x, hx, rfl⟩ := hall n w (by simp [NameTable.contains_eq, hb]) hf
        exact .inl ⟨x, hx, (h.leveled.2.find? hf).1⟩
    | none =>
      refine .inr ?_
      rw [Option.none_or]
      cases hf : find? (c :: bs) n with
      | none => rfl
      | some w =>
        have hlt := (h.leveled.2.find? hf).2
        simp [Option.filter, show w.depth < s.depth by omega]

end LocalScope

end ClassScript
