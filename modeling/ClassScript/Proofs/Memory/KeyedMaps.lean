import ClassScript.Proofs.Memory.Places

/-!
# The maps of a run are keyed

Nothing that a run does to its memory puts an entry of a map in a wrong place, or changes the key
that its key value is: each change keeps the heap keyed (`Change.keepsKeyed`), and so does a course.
Hence the heap is keyed at every moment of entry methods that run one after the other
(`lifetime_keyed`).
-/

namespace ClassScript

variable {env : Env}

theorem Change.keepsKeyed {s s' : Stage} {e : Event} (h : Change env s e s')
    (own : s.memory.heap.Own) (keyed : s.memory.heap.Keyed) : s'.memory.heap.Keyed := by
  cases h with
  | touch _ | start | finish | assign _ _ | made _ => exact keyed
  | make _ => exact keyed.alloc nofun
  | write _ => exact keyed.setField _ _ _
  | work works => exact works.keyed own keyed

theorem Course.keepsKeyed {s s' : Stage} {moments : List Moment}
    (h : Course env s moments s') (own : s.memory.heap.Own) (keyed : s.memory.heap.Keyed) :
    s'.memory.heap.Keyed := by
  induction h with
  | done s => exact keyed
  | next hchange _ ih => exact ih (hchange.keepsOwn own) (hchange.keepsKeyed own keyed)

/-- At every moment of entry methods that run one after the other, however each of them ends, all
maps are keyed. -/
theorem lifetime_keyed {decls : List ClassDecl} (he : env.Registered decls) (sink : Sink)
    (entries : List (Nat × EntryPoint)) :
    ∀ μ ∈ (Machine.start sink).lifetime env entries, μ.memory.heap.Keyed := by
  intro μ hμ
  obtain ⟨s', course, -⟩ := Machine.start_course he sink entries
  obtain ⟨before, after, hsplit⟩ := List.append_of_mem hμ
  rw [hsplit] at course
  obtain ⟨s₁, s₂, hbefore, hchange, hmemory, -⟩ := course.split
  rw [← hmemory]
  exact hchange.keepsKeyed (hbefore.keepsOwn nofun) (hbefore.keepsKeyed nofun Heap.keyed_empty)

/-- `Map<String, Integer> m = new Map<String, Integer>(); m["b"] = 1; m.put("a", 1);` -/
def pairsProgram : List ClassDecl :=
  let integer : TypeRef := ⟨⟨"Integer", .unknown⟩, [], .unknown⟩
  let string : TypeRef := ⟨⟨"String", .unknown⟩, [], .unknown⟩
  let map : TypeRef := ⟨⟨"Map", .unknown⟩, [string, integer], .unknown⟩
  let m : Expr := .name ⟨"m", .unknown⟩
  let text (s : String) : Expr := .literal (.string s) .unknown
  let one : Expr := .literal (.integer 1) .unknown
  let body : List Stmt := [
    .declare ⟨map, [⟨⟨"m", .unknown⟩, some (.create map [] .unknown), .unknown⟩], .unknown⟩,
    .expr (.assign .set (.index m (text "b") .unknown) one .unknown) .unknown,
    .expr (.callOn m ⟨"put", .unknown⟩ [text "a", one] .unknown) .unknown]
  [⟨.pub, [], ⟨"Main", .unknown⟩, none, [],
    [.method ⟨.union .pub .static, none, ⟨"action", .unknown⟩, [], some body, .unknown⟩],
    .unknown⟩]

/-- The run ends with two entries, which have changed places, and two objects for the number. -/
theorem pairsProgram_runs : ∃ env,
    Env.make (Registration.registerAll .initial pairsProgram).table none {} ⟨2024, 1, 1⟩ 16
      = .ok env ∧
    ∃ μ ∈ (Machine.start {}).lifetime env [(20, ⟨"Main", "action"⟩)], ∃ es,
      μ.memory.heap.map 0 = .ok es ∧
      es.map (fun e => (e.keyValue, e.value)) = [(.object 3, .object 4), (.object 1, .object 2)] ∧
      μ.memory.heap.integer? (.object 2) = some 1 ∧
      μ.memory.heap.integer? (.object 4) = some 1 := by
  obtain ⟨env, henv, hlast⟩ : ∃ env,
      Env.make (Registration.registerAll .initial pairsProgram).table none {} ⟨2024, 1, 1⟩ 16
        = .ok env ∧
      ((Machine.start {}).lifetime env [(20, ⟨"Main", "action"⟩)]).any (fun μ =>
        (μ.memory.heap.map 0).toOption.any fun es =>
          es.map (fun e => (e.keyValue, e.value)) =
              [(.object 3, .object 4), (.object 1, .object 2)] ∧
            μ.memory.heap.integer? (.object 2) = some 1 ∧
            μ.memory.heap.integer? (.object 4) = some 1) = true :=
    ⟨_, rfl, by decide +kernel⟩
  obtain ⟨μ, hμ, hes⟩ := List.any_eq_true.1 hlast
  cases hm : μ.memory.heap.map 0 with
  | error e =>
    rw [hm] at hes
    cases hes
  | ok es =>
    rw [hm] at hes
    exact ⟨env, henv, μ, hμ, es, hm, of_decide_eq_true hes⟩

end ClassScript
