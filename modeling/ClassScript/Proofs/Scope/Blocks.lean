import ClassScript.Proofs.Typing.CheckRun

/-!
# Local variables are those of a stack of blocks

`LocalScope.refines_blocks`: after any sequence of operations that leaves no block too many, the
scope answers as the stack of blocks that the same operations make. A name denotes the variable of
the innermost block that has it, a declaration is refused exactly in a block that has the name, and a
block that was entered and left is forgotten, by every operation that follows.

The operations that checking a statement performs are balanced. Those of a declaration are the
declarations of its variables (`checkDeclaration_scope`); those of every other statement are enclosed
in blocks of their own (`Typing.checkStmt_restores`). So a statement is, for all that is checked
after it, the variables that it declares (`checkStmt_models`).
-/

namespace ClassScript

open Typing

/-! ## What a statement declares -/

/-- The operation that declares a variable. Its type is unknown if a name in it is no class. -/
def Declarator.step (cx : CheckContext) (type : DataType) (v : Declarator) : ScopeStep :=
  .declare v.name.name (if (cx.firstUnknown? type).isSome then none else some type) v.name.span

/-- The operations by which a statement adds variables to the block around it. -/
def Stmt.declares (cx : CheckContext) : Stmt → List ScopeStep
  | .declare d => d.vars.map (·.step cx d.type.dataType)
  | _ => []

theorem Stmt.declares_balanced (cx : CheckContext) (stmt : Stmt) : Balanced (stmt.declares cx) := by
  unfold Stmt.declares
  split
  next d =>
    induction d.vars with
    | nil => rfl
    | cons v vs ih => exact nesting?_cons_eq_some.2 ⟨0, rfl, ih⟩
  next => rfl

section

variable (cx : CheckContext)

theorem resolveType_fst (type : DataType) (span : Span) (st : CheckState) :
    (cx.resolveType type span st).1 =
      if (cx.firstUnknown? type).isSome then none else some type := by
  unfold CheckContext.resolveType
  cases cx.firstUnknown? type <;> rfl

theorem checkDeclarator_scope (declared : Option DataType) (v : Declarator) (st : CheckState) :
    (checkDeclarator cx declared v st).2.scope =
      st.scope.after [.declare v.name.name declared v.name.span] := by
  unfold checkDeclarator
  cases v.init with
  | none => exact Check.declare_scope _ _ _ st
  | some e =>
    have stored := (checkStored_quiet cx e declared).scope st
    exact (Check.declare_scope _ _ _ _).trans (congrArg (LocalScope.after · _) stored)

theorem checkDeclarators_scope (declared : Option DataType) (vs : List Declarator)
    (st : CheckState) : (vs.forM (checkDeclarator cx declared) st).2.scope =
      st.scope.after (vs.map fun v => .declare v.name.name declared v.name.span) := by
  induction vs generalizing st with
  | nil => rfl
  | cons v vs ih =>
    exact Check.bind_scope (checkDeclarator_scope cx declared v st) (ih _)

/-- A declaration adds its variables to the innermost block, and nothing else. -/
theorem checkDeclaration_scope (d : VarDecl) (st : CheckState) :
    (checkDeclaration cx d st).2.scope = st.scope.after (Stmt.declares cx (.declare d)) := by
  calc (checkDeclaration cx d st).2.scope
      = (cx.resolveType d.type.dataType d.type.span st).2.scope.after (d.vars.map fun v =>
          .declare v.name.name (cx.resolveType d.type.dataType d.type.span st).1 v.name.span) :=
        checkDeclarators_scope cx _ d.vars _
    _ = st.scope.after (Stmt.declares cx (.declare d)) := by
        rw [(resolveType_quiet cx _ _).scope, resolveType_fst]
        rfl

/-- After a statement the scope stands for the blocks before it with the variables that the statement
declares. -/
theorem checkStmt_models {st : CheckState} {b : NameTable LocalVar} {bs : BlockStack}
    (h : st.scope.Models (b :: bs)) (stmt : Stmt) :
    (checkStmt cx stmt st).2.scope.Models (BlockStack.after (b :: bs) (stmt.declares cx)) := by
  by_cases hd : ∃ d, stmt = .declare d
  · obtain ⟨d, rfl⟩ := hd
    have hm := (h.after ((Stmt.declares_balanced cx (.declare d)).nesting _)).1
    rw [← checkDeclaration_scope] at hm
    unfold checkStmt
    exact hm
  · have none : stmt.declares cx = [] := by
      unfold Stmt.declares
      split
      next d => exact absurd ⟨d, rfl⟩ hd
      next => rfl
    rw [none]
    exact (checkStmt_restores cx stmt fun d hs => hd ⟨d, hs⟩).scope st b bs h

end

/-! ## The scope and the stack of blocks -/

/-- After operations that leave no block too many, the scope has the variables of the stack of blocks
that the operations make (module doc). Its depth is the number of blocks that are open, so a counter
serves that can hold this number. What comes next finds the same, at once and after all further
operations, as if a block that was left again had not been entered, and as if a statement had been
no more than the variables that it declares. -/
theorem LocalScope.refines_blocks {steps : List ScopeStep} {depth : Nat}
    (h : nesting? 0 steps = some depth) :
    let s := LocalScope.empty.after steps
    ∃ b outer, BlockStack.after [.empty] steps = b :: outer ∧
      s.depth = depth ∧ outer.length = depth ∧
      (∀ name, s.lookup? name = BlockStack.find? (b :: outer) name) ∧
      (∀ name type span, s.declare name type span =
        if b.contains name then .error ⟨.redeclared name, span⟩
        else .ok (s.after [.declare name type span])) ∧
      (∀ name type span, b.contains name = true → s.after [.declare name type span] = s) ∧
      (∀ body rest, Balanced body → (nesting? depth rest).isSome → ∀ name,
        (s.after (.push :: (body ++ .pop :: rest))).lookup? name = (s.after rest).lookup? name) ∧
      ∀ (cx : CheckContext) (stmt : Stmt) (st : CheckState), st.scope = s →
        (checkStmt cx stmt st).2.loopDepth = st.loopDepth ∧
        (∃ performed, Balanced performed ∧
          (checkStmt cx stmt st).2.scope = s.after performed) ∧
        ∀ rest, (nesting? depth rest).isSome → ∀ name,
          ((checkStmt cx stmt st).2.scope.after rest).lookup? name =
            (s.after (stmt.declares cx ++ rest)).lookup? name := by
  intro s
  obtain ⟨hm, hdepth⟩ := models_empty.after h
  obtain ⟨b, outer, hblocks, hlen⟩ := hm.exists_cons
  rw [hblocks] at hm
  refine ⟨b, outer, hblocks, hdepth, hlen.trans hdepth, hm.lookup, hm.declare_eq_onScope,
    hm.onScope_refused, fun body rest hbody hrest name => ?_,
    fun cx stmt st hs => ⟨?_, ?_, fun rest hrest name => ?_⟩⟩
  · have hblock := hm.after_enclosed (.block hbody .nil)
    have hsplit : ScopeStep.push :: (body ++ .pop :: rest) =
        (.push :: (body ++ [.pop])) ++ rest := by simp
    rw [hsplit, after_append]
    exact hm.lookup_after hblock (hdepth.symm ▸ hrest) name
  · exact (checkStmt_nested cx stmt).loopDepth st
  · obtain ⟨performed, hperformed, hscope⟩ := (checkStmt_nested cx stmt).steps st
    exact ⟨performed, hperformed, hs ▸ hscope⟩
  · obtain ⟨hdeclared, hdepth'⟩ := hm.after ((stmt.declares_balanced cx).nesting s.depth)
    rw [after_append]
    refine hdeclared.lookup_after (checkStmt_models cx (hs ▸ hm) stmt) ?_ name
    rw [hdepth', hdepth]
    exact hrest

/-- A block declares a name again in another spelling, and the outer variable comes back. -/
theorem LocalScope.refines_blocks_of_shadowing :
    let outer : ScopeStep := .declare "x" (some .integer) ⟨1, 1, 1⟩
    let inner : ScopeStep := .declare "X" (some .string) ⟨2, 1, 1⟩
    nesting? 0 [outer, .push, inner] = some 1 ∧
    (LocalScope.empty.after [outer, .push, inner]).lookup? "x" =
      some ⟨"X", some .string, 1, ⟨2, 1, 1⟩⟩ ∧
    (LocalScope.empty.after [outer, .push, inner, .pop]).lookup? "x" =
      some ⟨"x", some .integer, 0, ⟨1, 1, 1⟩⟩ := by
  intro outer inner
  have shadowed : nesting? 0 [outer, .push, inner] = some 1 := rfl
  have whole : nesting? 0 [outer] = some 0 := rfl
  refine ⟨shadowed, ?_, ?_⟩
  · obtain ⟨b, bs, hblocks, -, -, hlookup, -⟩ := LocalScope.refines_blocks shadowed
    rw [hlookup, ← hblocks]
    rfl
  · obtain ⟨-, -, -, -, -, -, -, -, hblock, -⟩ := LocalScope.refines_blocks whole
    exact (hblock [inner] [] rfl rfl "x").trans rfl

end ClassScript
