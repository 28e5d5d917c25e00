import ClassScript.Proofs.Collections.Methods
import ClassScript.Proofs.Memory.Places

/-!
# Index syntax and the methods of collections

An index expression is resolved to a slot of a list or to an entry of a map
(`Calls.indexPlace_list`, `Calls.indexPlace_map`), which is then read or stored to. The methods of
lists and maps get by without places. Still both ways lead to the same value or the same world, or
both fail for the same reason.

Main statement: `index_syntax_as_methods`.
-/

namespace ClassScript

namespace Native

theorem checkedIndex_of_within {i : Int64} {n : Nat} (h : 0 ≤ i.toInt ∧ i.toInt < n) :
    checkedIndex i n = .ok i.toInt.toNat := if_pos h

theorem checkedIndex_of_outside {i : Int64} {n : Nat} (h : i.toInt < 0 ∨ (n : Int) ≤ i.toInt) :
    checkedIndex i n = .error (.indexOutOfBounds i n) := if_neg (by omega)

end Native

/-- The only failure of a key is that values of its class are no keys. -/
theorem Heap.unsupportedKey_of_mapKey {h : Heap} {v : Value} {e : NativeError}
    (hv : h.mapKey v = .error e) : ∃ cls, e = .unsupportedKey cls := by
  cases v with
  | null => cases hv
  | object id =>
    simp only [mapKey] at hv
    cases hp : (h.get id).payload <;> rw [hp] at hv <;> cases hv
    all_goals exact ⟨_, rfl⟩

namespace Calls

variable {env : Env} {calls : Calls} {object key : Expr} {id : ObjectId} {k v : Value}
  {m₀ m₁ m₂ m₃ : Machine}

/-- An index that means a position is tested as the methods of lists test it. -/
theorem listSlot_of_position {h : Heap} {i : Int64} {keySpan : Span} (hk : k ≠ .null)
    (hi : listPosition h k keySpan = .ok i) (len : Nat) (span : Span) :
    listSlot h k len keySpan span =
      match Native.checkedIndex i len with
      | .ok p => .ok p
      | .error _ => .error (.indexOutOfBounds i len span) := by
  cases k with
  | null => exact absurd rfl hk
  | object j =>
    unfold listSlot
    rw [hi]
    rfl

theorem listPosition_integer {h : Heap} {i : Int64} (hi : h.integer? k = some i) (keySpan : Span) :
    k ≠ .null ∧ listPosition h k keySpan = .ok i := by
  refine ⟨?_, ?_⟩
  · rintro rfl
    cases hi
  · unfold listPosition
    rw [hi]

/-! ## Resolving an index expression -/

section

variable (env : Env) (ispan : Span) (hobject : calls.eval object m₀ = .ok (.object id) m₁)
  (hkey : calls.eval key m₁ = .ok k m₂)
include hobject hkey

theorem indexPlace_of_position {items : Array Value} {i : Int64}
    (hl : m₂.world.heap.list id = .ok items)
    (hi : k ≠ .null ∧ listPosition m₂.world.heap k key.span = .ok i) :
    calls.place env (.index object key ispan) m₀ =
      match Native.checkedIndex i items.size with
      | .ok p => .ok (.slot id p ispan) m₂
      | .error _ => .error (.fault (.indexOutOfBounds i items.size ispan)) m₂ := by
  show calls.indexPlace object key ispan m₀ = _
  unfold indexPlace
  rw [Run.bind_ok hobject, Run.bind_ok hkey]
  dsimp only
  rw [Run.heap_bind, Heap.list_eq_ok.1 hl]
  dsimp only
  rw [listSlot_of_position hi.1 hi.2]
  cases Native.checkedIndex i items.size <;> rfl

theorem indexPlace_list {items : Array Value} {i : Int64} (hl : m₂.world.heap.list id = .ok items)
    (hi : m₂.world.heap.integer? k = some i) :
    calls.place env (.index object key ispan) m₀ =
      match Native.checkedIndex i items.size with
      | .ok p => .ok (.slot id p ispan) m₂
      | .error _ => .error (.fault (.indexOutOfBounds i items.size ispan)) m₂ :=
  indexPlace_of_position env ispan hobject hkey hl (listPosition_integer hi key.span)

theorem indexPlace_map {entries : List MapEntry} (hm : m₂.world.heap.map id = .ok entries) :
    calls.place env (.index object key ispan) m₀ = .ok (.entry id k) m₂ := by
  show calls.indexPlace object key ispan m₀ = _
  unfold indexPlace
  rw [Run.bind_ok hobject, Run.bind_ok hkey]
  dsimp only
  rw [Run.heap_bind, Heap.map_eq_ok.1 hm]
  rfl

end

/-! ## Assigning -/

/-- An assignment stores what the right-hand side gives, in the state that it leaves. -/
theorem evalAssign_set {e value : Expr} {span : Span} {p : Place}
    (hp : calls.place env e m₀ = .ok p m₂) (hv : calls.eval value m₂ = .ok v m₃) :
    calls.evalAssign env .set e value span m₀ = match calls.store env v p m₃ with
      | .ok _ m => .ok v m
      | .error h m => .error h m := by
  have rhs : calls.rightHandSide env .set value span p m₂ = .ok v m₃ := hv
  rw [evalAssign_eq, Run.bind_ok hp, Run.bind_ok rhs, Run.bind_eq]
  cases calls.store env v p m₃ <;> rfl

/-- Nothing is assigned to what has no place. -/
theorem evalAssign_of_error {op : AssignOp} {e value : Expr} {span : Span} {h : Halt}
    (hp : calls.place env e m₀ = .error h m₂) :
    calls.evalAssign env op e value span m₀ = .error h m₂ := by
  rw [evalAssign_eq, Run.bind_eq, hp]

end Calls

/-! ## Both ways -/

/-- **Index syntax does what the methods do.** The object of an index expression and its key have
been evaluated. If the object is a list and the key an Integer, then reading the index and calling
`get` give the same item if the list has it, and fail if the index is negative or not below the
length. Assigning to the index and calling `set`, in the state that the value of the assignment
leaves, lead to the same world or fail, likewise; the value leaves the length and the key. If the
object is a map, then reading and calling `get` give the same value, which is that of the entry
under the key, or `null` without one; assigning and calling `put` lead to the same world; and if the
key is no scalar, all of them fail for that. What fails has changed nothing. -/
theorem index_syntax_as_methods {env : Env} {calls : Calls} {object key : Expr} (ispan : Span)
    {id : ObjectId} {k : Value} {m₀ m₁ m₂ : Machine}
    (hobject : calls.eval object m₀ = .ok (.object id) m₁)
    (hkey : calls.eval key m₁ = .ok k m₂) :
    -- reading an item
    (∀ (items : Array Value) (i : Int64), m₂.world.heap.list id = .ok items →
      m₂.world.heap.integer? k = some i →
      (0 ≤ i.toInt ∧ i.toInt < items.size → ∃ v, items[i.toInt.toNat]? = some v ∧
        calls.stepEval env (.index object key ispan) m₀ = .ok v m₂ ∧
        Native.call env.toHost ⟨some id, [k]⟩ .listGet m₂.world = .ok (some v) m₂.world) ∧
      (i.toInt < 0 ∨ (items.size : Int) ≤ i.toInt →
        calls.stepEval env (.index object key ispan) m₀ =
          .error (.fault (.indexOutOfBounds i items.size ispan)) m₂ ∧
        Native.call env.toHost ⟨some id, [k]⟩ .listGet m₂.world =
          .error (.indexOutOfBounds i items.size) m₂.world)) ∧
    -- setting an item
    (∀ (items items' : Array Value) (i : Int64) (value : Expr) (span : Span) (v : Value)
      (m₃ : Machine), m₂.world.heap.list id = .ok items → m₂.world.heap.integer? k = some i →
      calls.eval value m₂ = .ok v m₃ → m₃.world.heap.list id = .ok items' →
      items'.size = items.size → m₃.world.heap.integer? k = some i →
      (0 ≤ i.toInt ∧ i.toInt < items.size → ∃ w,
        calls.evalAssign env .set (.index object key ispan) value span m₀ =
          .ok v { m₃ with world := w } ∧
        Native.call env.toHost ⟨some id, [k, v]⟩ .listSet m₃.world = .ok none w ∧
        w.heap.list id = .ok (items'.setIfInBounds i.toInt.toNat v)) ∧
      (i.toInt < 0 ∨ (items.size : Int) ≤ i.toInt →
        calls.evalAssign env .set (.index object key ispan) value span m₀ =
          .error (.fault (.indexOutOfBounds i items.size ispan)) m₂ ∧
        Native.call env.toHost ⟨some id, [k, v]⟩ .listSet m₃.world =
          .error (.indexOutOfBounds i items.size) m₃.world)) ∧
    -- reading an entry
    (∀ entries : List MapEntry, m₂.world.heap.map id = .ok entries →
      (∃ κ v, m₂.world.heap.mapKey k = .ok κ ∧ v = (MapEntries.get? entries κ).getD .null ∧
        calls.stepEval env (.index object key ispan) m₀ = .ok v m₂ ∧
        Native.call env.toHost ⟨some id, [k]⟩ .mapGet m₂.world = .ok (some v) m₂.world) ∨
      (∃ cls, m₂.world.heap.mapKey k = .error (.unsupportedKey cls) ∧
        calls.stepEval env (.index object key ispan) m₀ =
          .error (.fault (.native (.unsupportedKey cls))) m₂ ∧
        Native.call env.toHost ⟨some id, [k]⟩ .mapGet m₂.world =
          .error (.unsupportedKey cls) m₂.world)) ∧
    -- putting an entry
    (∀ (entries entries' : List MapEntry) (value : Expr) (span : Span) (v : Value) (m₃ : Machine),
      m₂.world.heap.map id = .ok entries → calls.eval value m₂ = .ok v m₃ →
      m₃.world.heap.map id = .ok entries' →
      (∃ κ old w, m₃.world.heap.mapKey k = .ok κ ∧
        calls.evalAssign env .set (.index object key ispan) value span m₀ =
          .ok v { m₃ with world := w } ∧
        Native.call env.toHost ⟨some id, [k, v]⟩ .mapPut m₃.world = .ok (some old) w ∧
        w.heap.map id = .ok (MapEntries.insert κ k v entries')) ∨
      (∃ cls, m₃.world.heap.mapKey k = .error (.unsupportedKey cls) ∧
        calls.evalAssign env .set (.index object key ispan) value span m₀ =
          .error (.fault (.native (.unsupportedKey cls))) m₃ ∧
        Native.call env.toHost ⟨some id, [k, v]⟩ .mapPut m₃.world =
          .error (.unsupportedKey cls) m₃.world)) := by
  refine ⟨fun items i hl hi => ?_, fun items items' i value span v m₃ hl hi hv hl' hsize hi' => ?_,
    fun entries hm => ?_, fun entries entries' value span v m₃ hm hv hm' => ?_⟩
  · have place := Calls.indexPlace_list env ispan hobject hkey hl hi
    have get := Native.call_listGet env.toHost hl hi
    refine ⟨fun within => ?_, fun outside => ?_⟩
    · have lt : i.toInt.toNat < items.size := by omega
      rw [Native.checkedIndex_of_within within] at place get
      have item : items[i.toInt.toNat]? = some items[i.toInt.toNat] := Array.getElem?_eq_getElem lt
      refine ⟨_, item, ?_, ?_⟩
      · exact (Run.bind_ok place).trans (Calls.load_slot hl item)
      · rw [get]
        dsimp only
        rw [Array.getD_eq_getD_getElem?, item]
        rfl
    · rw [Native.checkedIndex_of_outside outside] at place get
      exact ⟨(Run.bind_eq ..).trans (by rw [place]), get⟩
  · have place := Calls.indexPlace_list env ispan hobject hkey hl hi
    have set := Native.call_listSet env.toHost hl' hi' v
    rw [hsize] at set
    refine ⟨fun within => ?_, fun outside => ?_⟩
    · have lt : i.toInt.toNat < items'.size := by omega
      rw [Native.checkedIndex_of_within within] at place set
      refine ⟨_, ?_, set, (Calls.sets_slot v hl' lt).2⟩
      rw [Calls.evalAssign_set place hv, Calls.store_slot ispan v hl' lt]
      rfl
    · rw [Native.checkedIndex_of_outside outside] at place set
      exact ⟨Calls.evalAssign_of_error place, set⟩
  · have place := Calls.indexPlace_map env ispan hobject hkey hm
    have load : calls.load env (.entry id k) m₂ = _ := Calls.load_entry_eq hm
    have get := Native.call_mapGet env.toHost hm k
    have read : calls.stepEval env (.index object key ispan) m₀ =
        calls.load env (.entry id k) m₂ := Run.bind_ok place
    cases hk : m₂.world.heap.mapKey k with
    | ok κ =>
      rw [hk] at load get
      exact .inl ⟨κ, _, rfl, rfl, read.trans load, get⟩
    | error e =>
      obtain ⟨cls, rfl⟩ := Heap.unsupportedKey_of_mapKey hk
      rw [hk] at load get
      exact .inr ⟨cls, rfl, read.trans load, get⟩
  · have place := Calls.indexPlace_map env ispan hobject hkey hm
    have put := Native.call_mapPut env.toHost hm' k v
    rw [Calls.evalAssign_set place hv]
    cases hk : m₃.world.heap.mapKey k with
    | ok κ =>
      rw [hk] at put
      refine .inl ⟨κ, _, _, rfl, ?_, put, ?_⟩
      · rw [Calls.store_entry v hk hm']
        rfl
      · exact Heap.map_eq_ok.2 (Heap.payload_setPayload (by simp [Heap.map_eq_ok.1 hm']) _)
    | error e =>
      obtain ⟨cls, rfl⟩ := Heap.unsupportedKey_of_mapKey hk
      rw [hk] at put
      rw [Calls.store_entry_of_error v hk]
      exact .inr ⟨cls, rfl, rfl, put⟩

/-- A method with a list of one `null` in the variable `items`, and a map without entries in
`pairs`. -/
def collectionsRunning : Machine where
  world := { heap := ⟨#[.make Builtin.listClass [] (.list #[.null]),
                        .make Builtin.mapClass [] (.map [])]⟩ }
  frames := [{ cls := Builtin.listClass, this := none,
               block := (NameTable.empty.insert "items" (.object 0)).insert "pairs" (.object 1) }]

/-- `pairs[e]` -/
def pairOf (e : Expr) : Expr := .index (.name ⟨"pairs", .unknown⟩) e .unknown

/-- `items[0]` is read and assigned to, and so is `pairs[null]`; `pairs[items]` is no entry. -/
theorem index_syntax_as_methods_running : ∃ env m i w w',
    Env.make (Registration.registerAll .initial []).table none {} ⟨2024, 1, 1⟩ 16 = .ok env ∧
    (Calls.withFuel env 4).stepEval env firstItem collectionsRunning = .ok .null m ∧
    Native.call env.toHost ⟨some 0, [.object i]⟩ .listGet m.world = .ok (some .null) m.world ∧
    (Calls.withFuel env 4).evalAssign env .set firstItem itemsName .unknown collectionsRunning =
      .ok (.object 0) { m with world := w } ∧
    Native.call env.toHost ⟨some 0, [.object i, .object 0]⟩ .listSet m.world = .ok none w ∧
    (Calls.withFuel env 4).evalAssign env .set (pairOf (.literal .null .unknown)) itemsName .unknown
      collectionsRunning = .ok (.object 0) { collectionsRunning with world := w' } ∧
    (∃ old, Native.call env.toHost ⟨some 1, [.null, .object 0]⟩ .mapPut collectionsRunning.world =
      .ok (some old) w') ∧
    (Calls.withFuel env 4).stepEval env (pairOf itemsName) collectionsRunning =
      .error (.fault (.native (.unsupportedKey "List"))) collectionsRunning ∧
    Native.call env.toHost ⟨some 1, [.object 0]⟩ .mapGet collectionsRunning.world =
      .error (.unsupportedKey "List") collectionsRunning.world := by
  have running : ∃ env m, Env.make (Registration.registerAll .initial []).table none {}
        ⟨2024, 1, 1⟩ 16 = .ok env ∧
      (Calls.withFuel env 4).eval itemsName collectionsRunning =
        .ok (.object 0) collectionsRunning ∧
      (Calls.withFuel env 4).eval (.literal (.integer 0) .unknown) collectionsRunning =
        .ok (.object 2) m ∧
      (Calls.withFuel env 4).eval itemsName m = .ok (.object 0) m ∧
      m.world.heap.list 0 = .ok #[.null] ∧ m.world.heap.integer? (.object 2) = some 0 :=
    ⟨_, _, rfl, rfl, rfl, rfl, rfl, rfl⟩
  obtain ⟨env, m, henv, hitems, hzero, hitems', hl, hi⟩ := running
  have hpairs : (Calls.withFuel env 4).eval (.name ⟨"pairs", .unknown⟩) collectionsRunning =
    .ok (.object 1) collectionsRunning := rfl
  have hnull : (Calls.withFuel env 4).eval (.literal .null .unknown) collectionsRunning =
    .ok .null collectionsRunning := rfl
  have hm : collectionsRunning.world.heap.map 1 = .ok [] := rfl
  obtain ⟨read, set, -, -⟩ := index_syntax_as_methods .unknown hitems hzero
  obtain ⟨-, -, -, put⟩ := index_syntax_as_methods .unknown hpairs hnull
  obtain ⟨-, -, unsupported, -⟩ := index_syntax_as_methods .unknown hpairs hitems
  obtain ⟨v, hv, hread, hget⟩ := (read _ 0 hl hi).1 (by decide)
  obtain ⟨w, hassign, hset, -⟩ :=
    (set _ _ 0 itemsName .unknown _ m hl hi hitems' hl rfl hi).1 (by decide)
  obtain ⟨κ, old, w', -, hput, hput', -⟩ | ⟨cls, hcls, -⟩ :=
    put [] [] itemsName .unknown _ _ hm hitems hm
  · obtain ⟨κ, v', hκ, -⟩ | ⟨cls, hcls, hpair, hpair'⟩ := unsupported [] hm
    · cases hκ
    · cases hcls
      cases hv
      exact ⟨env, m, 2, w, w', henv, hread, hget, hassign, hset, hput, ⟨old, hput'⟩, hpair, hpair'⟩
  · cases hcls

end ClassScript
