import ClassScript.Proofs.Arithmetic.Integers
import ClassScript.Proofs.Collections.Indexing
import ClassScript.Proofs.Text.Numerals

/-!
# Integers as text

The text that an Integer is shown as is read back as the Integer, also with white space around it,
by `Integer.valueOf` and as the index of a list. Both read text by `Text.integer?`, which takes the
numerals of Integers and nothing else (`Text.integer?_eq_some_iff`). What an index expression on a
list does depends on nothing but the position that the index means (`Calls.IndexesAs`), so a String
does as well as an Integer.

Main statement: `integer_text_round_trip`.
-/

namespace ClassScript

namespace Heap

/-- A String is no Integer. -/
theorem integer?_of_string {h : Heap} {v : Value} {s : String} (hs : h.string? v = some s) :
    h.integer? v = none := by
  unfold string? at hs
  unfold integer?
  split at hs
  · rename_i hp
    rw [hp]
  · cases hs

theorem string?_alloc {h : Heap} {o : Object} {s : String} (ho : o.payload = .string s) :
    (h.alloc o).2.string? (.object h.objects.size) = some s := by
  simp only [string?, payload?_alloc, ho]

end Heap

/-! ## Methods -/

namespace Native

variable (host : Host) {w : World} {n : Int64} {v : Value} {s : String} {id : ObjectId}

/-- The call gives an Integer. -/
def GivesInteger (x : Native (Option Value)) (n : Int64) (w : World) : Prop :=
  ∃ u w', x w = .ok (some u) w' ∧ w'.heap.integer? u = some n

/-- The call gives a String. -/
def GivesString (x : Native (Option Value)) (s : String) (w : World) : Prop :=
  ∃ u w', x w = .ok (some u) w' ∧ w'.heap.string? u = some s

theorem stringArg_eq {c : NativeCall} {i : Nat} (hv : c.args[i]? = some v)
    (hs : w.heap.string? v = some s) : c.stringArg i w = .ok s w := by
  have heap : Native.heap w = .ok w.heap w := rfl
  unfold NativeCall.stringArg
  rw [Native.bind_ok (NativeCall.arg_eq hv), Native.bind_ok heap, hs]
  rfl

/-- `Integer.valueOf` reads its argument. -/
theorem call_integerValueOf (receiver : Option ObjectId) (hs : w.heap.string? v = some s) :
    call host ⟨receiver, [v]⟩ .integerValueOf w = match Text.integer? s with
      | some n => (do return some (← integer host n)) w
      | none => .error (.argumentType 0 "an integer literal") w := by
  have arg : NativeCall.stringArg ⟨receiver, [v]⟩ 0 w = .ok s w := stringArg_eq rfl hs
  show (NativeCall.stringArg ⟨receiver, [v]⟩ 0 >>= _) w = _
  rw [Native.bind_ok arg]
  cases Text.integer? s <;> rfl

theorem call_integerValueOf_denotes (receiver : Option ObjectId) (hs : w.heap.string? v = some s)
    (hn : Text.Denotes s n.toInt) :
    (call host ⟨receiver, [v]⟩ .integerValueOf).GivesInteger n w := by
  have read : call host ⟨receiver, [v]⟩ .integerValueOf w =
      (do return some (← integer host n) : Native (Option Value)) w := by
    rw [call_integerValueOf host receiver hs, Text.integer?_eq_some_iff.2 hn]
  exact ⟨_, _, read, Heap.integer?_alloc rfl⟩

theorem call_integerValueOf_of_none (receiver : Option ObjectId) (hs : w.heap.string? v = some s)
    (hn : ¬ ∃ n : Int64, Text.Denotes s n.toInt) :
    call host ⟨receiver, [v]⟩ .integerValueOf w =
      .error (.argumentType 0 "an integer literal") w := by
  rw [call_integerValueOf host receiver hs, Text.integer?_eq_none_iff.2 hn]

theorem display_integer {h : Heap} (hn : h.integer? (.object id) = some n) :
    h.display (.object id) = Text.integerText n := by
  show Heap.objectText _ _ (h.get id) = _
  unfold Heap.objectText
  rw [Heap.payload_of_integer? hn]

/-- `format` and `String.valueOf` give the text that the Integer is shown as. -/
theorem call_formatScalar (hn : w.heap.integer? (.object id) = some n) (args : List Value) :
    (call host ⟨some id, args⟩ .formatScalar).GivesString (Text.integerText n) w := by
  have run : call host ⟨some id, args⟩ .formatScalar w =
    (do return some (← string host (w.heap.display (.object id))) : Native (Option Value)) w := rfl
  rw [display_integer hn] at run
  exact ⟨_, _, run, Heap.string?_alloc rfl⟩

theorem call_stringValueOf (hn : w.heap.integer? (.object id) = some n)
    (receiver : Option ObjectId) :
    (call host ⟨receiver, [.object id]⟩ .stringValueOf).GivesString (Text.integerText n) w := by
  have run : call host ⟨receiver, [.object id]⟩ .stringValueOf w =
    (do return some (← string host (w.heap.display (.object id))) : Native (Option Value)) w := rfl
  rw [display_integer hn] at run
  exact ⟨_, _, run, Heap.string?_alloc rfl⟩

end Native

namespace Calls

variable {env : Env} {calls : Calls} {object key : Expr} {id : ObjectId} {k v : Value}
  {m₀ m₁ m₂ m₃ : Machine}

/-- The value means the position: it is the Integer, or a String that denotes it. -/
def Means (h : Heap) (k : Value) (n : Int64) : Prop :=
  h.integer? k = some n ∨ ∃ s, h.string? k = some s ∧ Text.Denotes s n.toInt

/-- Assigning at a place that is resolved already. -/
def assignAt (env : Env) (calls : Calls) (op : AssignOp) (value : Expr) (span : Span) (p : Place) :
    Run Value := do
  let v ← calls.rightHandSide env op value span p
  calls.store env v p
  return v

/-- The index expression, evaluated in `m`, leaves `m'` and stands for item `n` of the list. If there
is no such item, then reading it and assigning to it are out of bounds. -/
structure IndexesAs (env : Env) (calls : Calls) (e : Expr) (n : Int64) (id : ObjectId)
    (items : Array Value) (span : Span) (m m' : Machine) : Prop where
  read : 0 ≤ n.toInt ∧ n.toInt < items.size →
    ∃ v, items[n.toInt.toNat]? = some v ∧ calls.stepEval env e m = .ok v m'
  assign : 0 ≤ n.toInt ∧ n.toInt < items.size → ∀ op value span',
    calls.evalAssign env op e value span' m =
      calls.assignAt env op value span' (.slot id n.toInt.toNat span) m'
  outside : ¬ (0 ≤ n.toInt ∧ n.toInt < items.size) →
    calls.stepEval env e m = .error (.fault (.indexOutOfBounds n items.size span)) m' ∧
    ∀ op value span', calls.evalAssign env op e value span' m =
      .error (.fault (.indexOutOfBounds n items.size span)) m'

theorem Means.listPosition {h : Heap} {n : Int64} (hk : Means h k n) (keySpan : Span) :
    k ≠ .null ∧ listPosition h k keySpan = .ok n := by
  rcases hk with hn | ⟨s, hs, hn⟩
  · exact listPosition_integer hn keySpan
  · refine ⟨?_, ?_⟩
    · rintro rfl
      cases hs
    · unfold Calls.listPosition
      rw [Heap.integer?_of_string hs, hs]
      dsimp only
      rw [Text.integer?_eq_some_iff.2 hn]

/-- An index expression goes by the position that its key means. -/
theorem indexesAs_of_means (ispan : Span) (hobject : calls.eval object m₀ = .ok (.object id) m₁)
    (hkey : calls.eval key m₁ = .ok k m₂) {items : Array Value} {n : Int64}
    (hl : m₂.world.heap.list id = .ok items) (hk : Means m₂.world.heap k n) :
    calls.IndexesAs env (.index object key ispan) n id items ispan m₀ m₂ := by
  have place := indexPlace_of_position env ispan hobject hkey hl (hk.listPosition key.span)
  refine ⟨fun within => ?_, fun within op value span' => ?_, fun outside => ?_⟩
  · have lt : n.toInt.toNat < items.size := by omega
    rw [Native.checkedIndex_of_within within] at place
    have item : items[n.toInt.toNat]? = some items[n.toInt.toNat] := Array.getElem?_eq_getElem lt
    exact ⟨_, item, (Run.bind_ok place).trans (load_slot hl item)⟩
  · rw [Native.checkedIndex_of_within within] at place
    rw [evalAssign_eq, Run.bind_ok place]
    rfl
  · rw [Native.checkedIndex_of_outside (by omega)] at place
    exact ⟨(Run.bind_eq ..).trans (by rw [place]), fun _ _ _ => evalAssign_of_error place⟩

/-- A String that denotes no Integer is no index. -/
theorem place_of_text (env : Env) (ispan : Span)
    (hobject : calls.eval object m₀ = .ok (.object id) m₁) (hkey : calls.eval key m₁ = .ok k m₂)
    {items : Array Value} {s : String} (hl : m₂.world.heap.list id = .ok items)
    (hs : m₂.world.heap.string? k = some s) (hn : ¬ ∃ n : Int64, Text.Denotes s n.toInt) :
    calls.place env (.index object key ispan) m₀ =
      .error (.fault (.invalidListIndex s key.span)) m₂ := by
  have slot : listSlot m₂.world.heap k items.size key.span ispan =
      .error (.invalidListIndex s key.span) := by
    cases k with
    | null => cases hs
    | object j =>
      unfold listSlot Calls.listPosition
      rw [Heap.integer?_of_string hs, hs]
      dsimp only
      rw [Text.integer?_eq_none_iff.2 hn]
      rfl
  show calls.indexPlace object key ispan m₀ = _
  unfold indexPlace
  rw [Run.bind_ok hobject, Run.bind_ok hkey]
  dsimp only
  rw [Run.heap_bind, Heap.list_eq_ok.1 hl]
  dsimp only
  rw [slot]
  rfl

end Calls

/-! ## Round trip -/

/-- **The text of an Integer is read back, by `valueOf` and as an index.** Let `s` be what the
Integer `n` is shown as, with any white space before and behind it. Then `Integer.valueOf` of `s`
gives `n`. What `format` and `String.valueOf` give for `n` is this text without white space. On any
list and in any state, an index that is `s` and an index that is `n` stand for the same item, or
reading and assigning are out of bounds with the same fault. A text that is not, between white space,
an optional sign and at least one decimal digit that denote an Integer is refused by both. -/
theorem integer_text_round_trip (env : Env) (calls : Calls) :
    (∀ (n : Int64) (p q : String), (∀ c ∈ p.toList, Text.isBlank c = true) →
      (∀ c ∈ q.toList, Text.isBlank c = true) →
      (∀ (receiver : Option ObjectId) (v : Value) (w : World),
        w.heap.string? v = some (p ++ Text.integerText n ++ q) →
        (Native.call env.toHost ⟨receiver, [v]⟩ .integerValueOf).GivesInteger n w) ∧
      (∀ (object key : Expr) (span : Span) (id : ObjectId) (items : Array Value) (k : Value)
        (m₀ m₁ m₂ : Machine), calls.eval object m₀ = .ok (.object id) m₁ →
        calls.eval key m₁ = .ok k m₂ → m₂.world.heap.list id = .ok items →
        (m₂.world.heap.string? k = some (p ++ Text.integerText n ++ q) ∨
          m₂.world.heap.integer? k = some n) →
        calls.IndexesAs env (.index object key span) n id items span m₀ m₂)) ∧
    (∀ (n : Int64) (id : ObjectId) (w : World), w.heap.integer? (.object id) = some n →
      (Native.call env.toHost ⟨some id, []⟩ .formatScalar).GivesString (Text.integerText n) w ∧
      ∀ receiver : Option ObjectId,
        (Native.call env.toHost ⟨receiver, [.object id]⟩ .stringValueOf).GivesString
          (Text.integerText n) w) ∧
    (∀ s : String, (¬ ∃ n : Int64, Text.Denotes s n.toInt) →
      (∀ (receiver : Option ObjectId) (v : Value) (w : World), w.heap.string? v = some s →
        Native.call env.toHost ⟨receiver, [v]⟩ .integerValueOf w =
          .error (.argumentType 0 "an integer literal") w) ∧
      (∀ (object key : Expr) (span : Span) (id : ObjectId) (items : Array Value) (k : Value)
        (m₀ m₁ m₂ : Machine), calls.eval object m₀ = .ok (.object id) m₁ →
        calls.eval key m₁ = .ok k m₂ → m₂.world.heap.list id = .ok items →
        m₂.world.heap.string? k = some s →
        calls.stepEval env (.index object key span) m₀ =
          .error (.fault (.invalidListIndex s key.span)) m₂ ∧
        ∀ (op : AssignOp) (value : Expr) (span' : Span),
          calls.evalAssign env op (.index object key span) value span' m₀ =
            .error (.fault (.invalidListIndex s key.span)) m₂)) := by
  refine ⟨fun n p q hp hq => ?_, fun n id w hn => ⟨Native.call_formatScalar _ hn [],
    Native.call_stringValueOf _ hn⟩, fun s hs => ?_⟩
  · have denotes := Text.denotes_integerText n hp hq
    refine ⟨fun receiver v w hv => Native.call_integerValueOf_denotes _ receiver hv denotes, ?_⟩
    intro object key span id items k m₀ m₁ m₂ hobject hkey hl hk
    refine Calls.indexesAs_of_means span hobject hkey hl ?_
    exact hk.elim (fun hs => .inr ⟨_, hs, denotes⟩) .inl
  · refine ⟨fun receiver v w hv => Native.call_integerValueOf_of_none _ receiver hv hs, ?_⟩
    intro object key span id items k m₀ m₁ m₂ hobject hkey hl hk
    have place := Calls.place_of_text env span hobject hkey hl hk hs
    exact ⟨(Run.bind_eq ..).trans (by rw [place]), fun _ _ _ => Calls.evalAssign_of_error place⟩

/-- A method with a list of one `null` and two texts in variables. -/
def textsRunning : Machine where
  world := { heap := ⟨#[.make Builtin.listClass [] (.list #[.null]),
                        .make Builtin.stringClass [] (.string "\t0 "),
                        .make Builtin.stringClass [] (.string "0x")]⟩ }
  frames := [{ cls := Builtin.listClass, this := none,
               block := ((NameTable.empty.insert "items" (.object 0)).insert "padded"
                 (.object 1)).insert "other" (.object 2) }]

/-- `items[name]` -/
def itemAt (name : String) : Expr := .index itemsName (.name ⟨name, .unknown⟩) .unknown

/-- The text of zero between white space is an index and an Integer; `0x` is neither. -/
theorem integer_text_round_trip_padded : ∃ env,
    Env.make (Registration.registerAll .initial []).table none {} ⟨2024, 1, 1⟩ 16 = .ok env ∧
    (Native.call env.toHost ⟨none, [.object 1]⟩ .integerValueOf).GivesInteger 0 textsRunning.world ∧
    (Calls.withFuel env 4).stepEval env (itemAt "padded") textsRunning = .ok .null textsRunning ∧
    Native.call env.toHost ⟨none, [.object 2]⟩ .integerValueOf textsRunning.world =
      .error (.argumentType 0 "an integer literal") textsRunning.world ∧
    (Calls.withFuel env 4).stepEval env (itemAt "other") textsRunning =
      .error (.fault (.invalidListIndex "0x" .unknown)) textsRunning := by
  have made : ∃ env,
      Env.make (Registration.registerAll .initial []).table none {} ⟨2024, 1, 1⟩ 16 = .ok env :=
    ⟨_, rfl⟩
  obtain ⟨env, henv⟩ := made
  have hitems : (Calls.withFuel env 4).eval itemsName textsRunning = .ok (.object 0) textsRunning :=
    rfl
  have hpadded : (Calls.withFuel env 4).eval (.name ⟨"padded", .unknown⟩) textsRunning =
    .ok (.object 1) textsRunning := rfl
  have hother : (Calls.withFuel env 4).eval (.name ⟨"other", .unknown⟩) textsRunning =
    .ok (.object 2) textsRunning := rfl
  have hl : textsRunning.world.heap.list 0 = .ok #[.null] := rfl
  have htext : textsRunning.world.heap.string? (.object 1) =
    some ("\t" ++ Text.integerText 0 ++ " ") := by decide
  have hnone : ¬ ∃ n : Int64, Text.Denotes "0x" n.toInt := Text.integer?_eq_none_iff.1 (by decide)
  obtain ⟨padded, -, refused⟩ := integer_text_round_trip env (Calls.withFuel env 4)
  have tab : Text.isBlank '\t' = true := by decide
  have space : Text.isBlank ' ' = true := by decide
  obtain ⟨value, index⟩ := padded 0 "\t" " " (by simp [tab]) (by simp [space])
  obtain ⟨noValue, noIndex⟩ := refused "0x" hnone
  have item := index _ _ .unknown _ _ _ _ _ _ hitems hpadded hl (.inl htext)
  obtain ⟨v, hv, read⟩ := item.read (by decide)
  cases hv
  exact ⟨env, henv, value none _ _ htext, read, noValue none _ _ rfl,
    (noIndex _ _ .unknown _ _ _ _ _ _ hitems hother hl rfl).1⟩

end ClassScript
