import ClassScript.Proofs.Collections.Equality

/-!
# Equal values are displayed alike

Equality and display look into collections as deep as each other: where the one takes only one and
the same object as equal, the other shows three dots for every object. Equal native state holds
equal values at the same positions (`Heap.payloadEquals_cases`), and keys that are the same have the
same text, for a key is shown by its key value, which is this key in a heap that is keyed
(`Heap.keyTextUpTo_eq`). Doubles are left out, as some of them are equal to numbers that are written
in another way: values hold none anywhere if they are `Heap.DoubleFree`.

Main statement: `equal_values_display_equally`.
-/

namespace ClassScript

open Relation (ReflTransGen)

/-- The values in a list or a map, the key values among them. -/
def Payload.held : Payload → List Value
  | list items => items.toList
  | map es => es.flatMap fun e => [e.keyValue, e.value]
  | _ => []

theorem Payload.mem_held_map {es : List MapEntry} {e : MapEntry} (he : e ∈ es) :
    e.keyValue ∈ (map es).held ∧ e.value ∈ (map es).held := by
  constructor <;> exact List.mem_flatMap.2 ⟨e, he, by simp⟩

namespace Heap

variable {h : Heap} {a b v w : Value} {i j : ObjectId}

/-- A value is another one, or it is in a list or a map that the other one reaches. -/
def Reaches (h : Heap) : Value → Value → Prop :=
  ReflTransGen fun v w => ∃ i, v = .object i ∧ w ∈ (h.get i).payload.held

/-- No Double is reached. -/
def DoubleFree (h : Heap) (v : Value) : Prop :=
  ∀ i x, h.Reaches v (.object i) → (h.get i).payload ≠ .double x

namespace DoubleFree

theorem held (hf : h.DoubleFree (.object i)) (hw : w ∈ (h.get i).payload.held) :
    h.DoubleFree w := fun j x hr => hf j x (hr.head ⟨i, rfl, hw⟩)

theorem payload_ne (hf : h.DoubleFree (.object i)) (x : Double) : (h.get i).payload ≠ .double x :=
  hf i x .refl

/-- A scalar that is no Double holds nothing. -/
theorem of_scalar (hp : (h.get i).payload.held = []) (hne : ∀ x, (h.get i).payload ≠ .double x) :
    h.DoubleFree (.object i) := by
  intro j x hr
  rcases hr.cases_head with he | ⟨w, ⟨k, hk, hw⟩, -⟩
  · cases he
    exact hne x
  · cases hk
    rw [hp] at hw
    cases hw

theorem mapKey_ne {κ : MapKey} (hf : h.DoubleFree v) (hκ : h.mapKey v = .ok κ) (x : Double) :
    κ ≠ .double x := by
  rintro rfl
  cases v with
  | null => cases hκ
  | object i =>
    have hk := mapKey_object.1 hκ
    refine hf.payload_ne x ?_
    cases hp : (h.get i).payload <;> rw [hp] at hk <;> cases hk
    rfl

end DoubleFree

/-! ## Keys -/

theorem keyTextUpTo_succ {κ : MapKey} (n : Nat) (hκ : h.mapKey v = .ok κ) :
    h.keyTextUpTo (n + 1) v = κ.text := by
  cases v with
  | null =>
    cases hκ
    rfl
  | object i =>
    have hk := mapKey_object.1 hκ
    show objectText _ _ (h.get i) = _
    unfold objectText
    cases hp : (h.get i).payload <;> rw [hp] at hk <;> cases hk <;> rfl

/-- The text of a key depends on nothing but the key. -/
theorem keyTextUpTo_eq {κ : MapKey} (n : Nat) (hv : h.mapKey v = .ok κ) (hw : h.mapKey w = .ok κ) :
    h.keyTextUpTo n v = h.keyTextUpTo n w := by
  cases n with
  | zero => rfl
  | succ n => rw [keyTextUpTo_succ n hv, keyTextUpTo_succ n hw]

/-- Key values of the same key in two maps are the same key, unless they are Doubles. -/
theorem keyTextUpTo_entries {xs ys : List MapEntry} (hx : MapEntries.Keyed h xs)
    (hy : MapEntries.Keyed h ys) {x y : MapEntry} (hxs : x ∈ xs) (hys : y ∈ ys)
    (key : y.key.cmp x.key = .eq) (hf : h.DoubleFree x.keyValue) (n : Nat) :
    h.keyTextUpTo n x.keyValue = h.keyTextUpTo n y.keyValue := by
  obtain ⟨κ, hκ, hxκ⟩ := hx.own x hxs
  obtain ⟨κ', hκ', hyκ'⟩ := hy.own y hys
  have same : κ.cmp κ' = .eq := by
    rw [MapKey.cmp_eq_iff] at key hxκ hyκ' ⊢
    rw [← hxκ, ← hyκ', key]
  obtain rfl := MapKey.eq_of_cmp_eq same (hf.mapKey_ne hκ)
  exact keyTextUpTo_eq n hκ hκ'

/-- Equal entries are displayed alike if their values are. -/
theorem entryTexts_eq {rel : Value → Value → Bool} {text : Value → String}
    {xs ys : List MapEntry} (hx : MapEntries.Keyed h xs) (hy : MapEntries.Keyed h ys)
    (free : ∀ x ∈ xs, h.DoubleFree x.keyValue)
    (values : ∀ x ∈ xs, ∀ y ∈ ys, rel x.value y.value = true → text x.value = text y.value)
    (n : Nat) (he : allEntries rel xs ys = true) :
    xs.map (fun e => h.keyTextUpTo n e.keyValue ++ "=" ++ text e.value) =
      ys.map fun e => h.keyTextUpTo n e.keyValue ++ "=" ++ text e.value := by
  refine map_eq_of_forall₂ ((allEntries_iff hx.sorted hy.sorted).1 he) ?_
  rintro x hxs y hys ⟨key, value⟩
  rw [keyTextUpTo_entries hx hy hxs hys key (free x hxs), values x hxs y hys value]

/-! ## Values -/

/-- Native state is equal if it is the same, or if it is lists or maps that hold related values. -/
theorem payloadEquals_cases {rel : Value → Value → Bool} {p q : Payload}
    (hp : ∀ x, p ≠ .double x) (hq : ∀ x, q ≠ .double x) (h : payloadEquals rel p q = true) :
    (p = q ∧ p ≠ .none) ∨
    (∃ as bs, p = .list as ∧ q = .list bs ∧ allPairs rel as.toList bs.toList = true) ∨
    (∃ xs ys, p = .map xs ∧ q = .map ys ∧ allEntries rel xs ys = true) := by
  cases p <;> cases q <;> try cases h
  case integer.integer | boolean.boolean | string.string | date.date =>
    obtain rfl := of_decide_eq_true h
    exact .inl ⟨rfl, nofun⟩
  case integer.double x => exact absurd rfl (hq x)
  case double.integer x _ | double.double x _ => exact absurd rfl (hp x)
  case list.list as bs => exact .inr (.inl ⟨as, bs, rfl, rfl, h⟩)
  case map.map xs ys => exact .inr (.inr ⟨xs, ys, rfl, rfl, h⟩)

/-- The text of an object with native state depends on nothing but that. -/
theorem objectText_eq (keyText valueText : Value → String) {o o' : Object}
    (same : o.payload = o'.payload) (hp : o.payload ≠ .none) :
    objectText keyText valueText o = objectText keyText valueText o' := by
  unfold objectText
  rw [same] at hp ⊢
  cases hq : o'.payload with
  | none => exact absurd hq hp
  | _ => rfl

/-- Values that are equal down to some depth are displayed alike down to that depth. -/
theorem displayUpTo_eq (hk : h.Keyed) (d : Nat) : ∀ (n : Nat) (a b : Value), h.DoubleFree a →
    h.DoubleFree b → h.equalsUpTo n a b = true →
      h.displayUpTo (h.keyTextUpTo d) n a = h.displayUpTo (h.keyTextUpTo d) n b
  | 0, a, b, _, _, he => by rw [of_decide_eq_true he]
  | n + 1, a, b, ha, hb, he => by
    unfold equalsUpTo at he
    rcases Bool.or_eq_true_iff.1 he with he | he
    · rw [of_decide_eq_true he]
    · cases a with
      | null => cases he
      | object i =>
        cases b with
        | null => cases he
        | object j =>
          dsimp only at he
          show objectText _ _ (h.get i) = objectText _ _ (h.get j)
          rcases payloadEquals_cases ha.payload_ne hb.payload_ne he with
            ⟨same, hne⟩ | ⟨as, bs, hp, hq, pairs⟩ | ⟨xs, ys, hp, hq, entries⟩
          · exact objectText_eq _ _ same hne
          · have texts := map_eq_of_forall₂ (allPairs_iff.1 pairs) fun v hv w hw hvw =>
              displayUpTo_eq hk d n v w (ha.held (by rw [hp]; exact hv))
                (hb.held (by rw [hq]; exact hw)) hvw
            simp only [objectText, hp, hq, texts]
          · have within {x : MapEntry} (hx : x ∈ xs) := hp ▸ Payload.mem_held_map hx
            have within' {y : MapEntry} (hy : y ∈ ys) := hq ▸ Payload.mem_held_map hy
            have texts := entryTexts_eq (hk i xs hp) (hk j ys hq)
              (fun x hx => ha.held (within hx).1)
              (fun x hx y hy => displayUpTo_eq hk d n x.value y.value (ha.held (within hx).2)
                (hb.held (within' hy).2)) d entries
            simp only [objectText, hp, hq, texts]

end Heap

/-- **Equal values are displayed alike.** Take two values that reach no Double through lists and
maps, as an item, a key or a value, in a heap whose maps are keyed: each entry is under the key of
its key value, in order. If they are equal, looking `n` levels deep, then their texts `n` levels
deep are the same, whatever they hold, themselves perhaps; so equal values have the same text. At
every moment of entry methods that run one after the other this holds of all values that reach no
Double. -/
theorem equal_values_display_equally :
    (∀ (h : Heap) (a b : Value), h.Keyed → h.DoubleFree a → h.DoubleFree b →
      (∀ n, h.equalsUpTo n a b = true →
        h.displayUpTo (h.keyTextUpTo h.objects.size) n a =
          h.displayUpTo (h.keyTextUpTo h.objects.size) n b) ∧
      (h.equals a b = true → h.display a = h.display b)) ∧
    (∀ (decls : List ClassDecl) (query : Option QueryService) (credentials : Credentials)
      (today : Date) (maxDepth : Nat) (env : Env) (sink : Sink) (entries : List (Nat × EntryPoint)),
      Env.make (Registration.registerAll .initial decls).table query credentials today maxDepth =
        .ok env →
      ∀ μ ∈ (Machine.start sink).lifetime env entries, ∀ a b : Value,
        μ.memory.heap.DoubleFree a → μ.memory.heap.DoubleFree b →
        μ.memory.heap.equals a b = true → μ.memory.heap.display a = μ.memory.heap.display b) := by
  refine ⟨fun h a b hk ha hb => ?_, ?_⟩
  · have display := fun n => Heap.displayUpTo_eq hk h.objects.size n a b ha hb
    exact ⟨display, display maxNesting⟩
  · intro decls query credentials today maxDepth env sink entries henv μ hμ a b ha hb
    have keyed := lifetime_keyed (Env.make_registered henv) sink entries μ hμ
    exact Heap.displayUpTo_eq keyed _ _ a b ha hb

/-- Two maps from an Integer to itself, each with an object of its own for the number `1`. -/
def twinMaps : Heap :=
  ⟨#[.make Builtin.integerClass [] (.integer 1), .make Builtin.integerClass [] (.integer 1),
     .make Builtin.mapClass [] (.map [⟨.integer 1, .object 0, .object 0⟩]),
     .make Builtin.mapClass [] (.map [⟨.integer 1, .object 1, .object 1⟩])]⟩

theorem twinMaps_keyed : twinMaps.Keyed := by
  intro id es hp
  match id with
  | 0 | 1 | _ + 4 => cases hp
  | 2 | 3 =>
    cases hp
    refine ⟨List.pairwise_singleton _ _, fun e he => ⟨.integer 1, ?_⟩⟩
    rw [List.mem_singleton.1 he]
    exact ⟨rfl, rfl⟩

theorem twinMaps_doubleFree (v : Value) : twinMaps.DoubleFree v := by
  intro i x _ hp
  match i with
  | 0 | 1 | 2 | 3 | _ + 4 => cases hp

/-- The two maps are equal, and so are their texts, as are two objects for one number in a run. -/
theorem equal_values_display_equally_twinMaps :
    twinMaps.equals (.object 2) (.object 3) = true ∧
    twinMaps.display (.object 2) = twinMaps.display (.object 3) ∧
    ∃ env, Env.make (Registration.registerAll .initial pairsProgram).table none {} ⟨2024, 1, 1⟩ 16
        = .ok env ∧
      ∃ μ ∈ (Machine.start {}).lifetime env [(20, ⟨"Main", "action"⟩)],
        μ.memory.heap.equals (.object 2) (.object 4) = true ∧
          μ.memory.heap.display (.object 2) = μ.memory.heap.display (.object 4) := by
  obtain ⟨heaps, runs⟩ := equal_values_display_equally
  obtain ⟨env, henv, μ, hμ, -, -, -, h₂, h₄⟩ := pairsProgram_runs
  have equal : twinMaps.equals (.object 2) (.object 3) = true := by decide +kernel
  obtain ⟨-, display⟩ := heaps twinMaps (.object 2) (.object 3) twinMaps_keyed
    (twinMaps_doubleFree _) (twinMaps_doubleFree _)
  have p₂ := Heap.payload_of_integer? h₂
  have p₄ := Heap.payload_of_integer? h₄
  have free₂ : μ.memory.heap.DoubleFree (.object 2) := .of_scalar (by rw [p₂]; rfl) (by simp [p₂])
  have free₄ : μ.memory.heap.DoubleFree (.object 4) := .of_scalar (by rw [p₄]; rfl) (by simp [p₄])
  have equal' : μ.memory.heap.equals (.object 2) (.object 4) = true := by
    simp [Heap.equals, maxNesting, Heap.equalsUpTo, p₂, p₄, Heap.payloadEquals]
  exact ⟨equal, display equal, env, henv, μ, hμ, equal',
    runs _ _ _ _ _ env {} _ henv μ hμ _ _ free₂ free₄ equal'⟩

end ClassScript
