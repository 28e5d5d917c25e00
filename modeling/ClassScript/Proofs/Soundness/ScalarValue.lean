import ClassScript.Machine.Operator
import ClassScript.Proofs.Typing.SameType
import ClassScript.Typing.Infer

/-!
# Scalar values and their operators

`Heap.HasType h v t`: the value `v` is `null`, or a scalar whose own type is `t`, or any scalar if
`t` is `Object`. An operator whose operands pass the rule of the checker computes a constant of the
type that the rule gives, unless an operand is `null` or a divisor is zero (`Operator.Yields`).
-/

namespace ClassScript

/-- The kinds of scalars. -/
inductive Scalar where
  | integer | double | boolean | string
deriving DecidableEq

namespace Scalar

def name : Scalar → String
  | integer => "Integer"
  | double => "Double"
  | boolean => "Boolean"
  | string => "String"

/-- The type of a kind of scalars. -/
def type (k : Scalar) : DataType := .simple k.name

/-- No two kinds have the same name. -/
theorem eq_of_sameName {k k' : Scalar} (h : sameName k.name k'.name = true) : k = k' := by
  cases k <;> cases k' <;> first | rfl | exact absurd h (by decide)

theorem not_object (k : Scalar) : k.type.isObject = false := by cases k <;> decide

theorem not_null (k : Scalar) : k.type.isNull = false := by cases k <;> decide

end Scalar

/-- The kind of scalar that native state is. -/
def Payload.scalar? : Payload → Option Scalar
  | .integer _ => some .integer
  | .double _ => some .double
  | .boolean _ => some .boolean
  | .string _ => some .string
  | _ => Option.none

namespace Heap

/-! ## Typed values -/

/-- A value that is a scalar: an instance of the class of its kind with native state of the kind. -/
def IsScalar (h : Heap) (v : Value) (k : Scalar) : Prop :=
  ∃ id, v = .object id ∧ (h.get id).payload.scalar? = some k ∧ (h.get id).dataType = k.type

/-- A value that may stand where a type is expected (module doc). -/
def HasType (h : Heap) (v : Value) (t : DataType) : Prop :=
  v = .null ∨ ∃ k, h.IsScalar v k ∧ ((k.type == t) = true ∨ t.isObject = true)

variable {h h' : Heap} {v : Value} {t : DataType}

theorem HasType.null (h : Heap) (t : DataType) : h.HasType .null t := .inl rfl

/-- Objects stay as they are while others are made. -/
def Grows (h h' : Heap) : Prop :=
  h.objects.size ≤ h'.objects.size ∧ ∀ id < h.objects.size, h'.get id = h.get id

theorem Grows.refl (h : Heap) : h.Grows h := ⟨Nat.le_refl _, fun _ _ => rfl⟩

theorem Grows.trans {h'' : Heap} (g : h.Grows h') (g' : h'.Grows h'') : h.Grows h'' :=
  ⟨Nat.le_trans g.1 g'.1, fun id lt => (g'.2 id (Nat.lt_of_lt_of_le lt g.1)).trans (g.2 id lt)⟩

theorem grows_alloc (h : Heap) (o : Object) : h.Grows (h.alloc o).2 :=
  ⟨by simp [alloc], fun _ lt => get_alloc_of_lt h o lt⟩

theorem IsScalar.lt {k : Scalar} {id : ObjectId} (hv : h.IsScalar (.object id) k) :
    id < h.objects.size := by
  obtain ⟨_, hid, hp, -⟩ := hv
  cases hid
  refine Nat.lt_of_not_le fun hle => ?_
  have hd : h.get id = default := by simp [get, Array.getD, Nat.not_lt.2 hle]
  rw [hd] at hp
  cases hp

theorem IsScalar.grows {k : Scalar} (hv : h.IsScalar v k) (g : h.Grows h') : h'.IsScalar v k := by
  obtain ⟨id, rfl, hp, hd⟩ := hv
  have hg := g.2 id (IsScalar.lt ⟨id, rfl, hp, hd⟩)
  exact ⟨id, rfl, by rw [hg]; exact hp, by rw [hg]; exact hd⟩

theorem HasType.grows (hv : h.HasType v t) (g : h.Grows h') : h'.HasType v t := by
  rcases hv with rfl | ⟨k, hk, ht⟩
  · exact .null _ _
  · exact .inr ⟨k, hk.grows g, ht⟩

/-- A value of a type is one of every other spelling of the type. -/
theorem HasType.of_same {t' : DataType} (hv : h.HasType v t) (hs : (t == t') = true) :
    h.HasType v t' := by
  rcases hv with rfl | ⟨k, hk, ht⟩
  · exact .null _ _
  · refine .inr ⟨k, hk, ht.imp (fun ht => DataType.beq_trans ht hs) fun ht => ?_⟩
    rw [DataType.isObject, ← DataType.isNamed_congr hs]
    exact ht

/-- A value of the type of a kind of scalars is of that kind. -/
theorem HasType.scalar {k : Scalar} (hv : h.HasType v t) (ht : t.isNamed k.name = true) :
    v = .null ∨ h.IsScalar v k ∧ (k.type == t) = true := by
  rcases hv with rfl | ⟨k', hk', hs | ho⟩
  · exact .inl rfl
  · have hname : k'.type.isNamed k'.name = true := sameName_self _
    rw [DataType.isNamed_congr hs] at hname
    obtain rfl := Scalar.eq_of_sameName (DataType.sameName_of_isNamed hname ht)
    exact .inr ⟨hk', hs⟩
  · have hk := k.not_object
    rw [DataType.isObject, DataType.isNamed, Scalar.type, DataType.simple,
      DataType.sameName_of_isNamed ht ho] at hk
    cases hk

/-- The only value of the type of `null` is `null`. -/
theorem HasType.eq_null (hv : h.HasType v t) (ht : t.isNull = true) : v = .null := by
  rcases hv with rfl | ⟨k, hk, hs | ho⟩
  · rfl
  · have := k.not_null
    rw [DataType.isNull, DataType.isNamed_congr hs] at this
    exact absurd (ht.symm.trans this) (by decide)
  · exact absurd (DataType.sameName_of_isNamed ht ho) (by decide)

/-- A stored value has the type it was declared with. -/
theorem HasType.fits {d : DataType} (hv : h.HasType v t) (hf : t.fitsExactly d = true) :
    h.HasType v d := by
  rw [DataType.fitsExactly, Bool.or_eq_true] at hf
  rcases hf with hn | hs
  · rw [hv.eq_null hn]
    exact .null _ _
  · exact hv.of_same hs

/-- The kind of a number follows from its type. -/
theorem HasType.numeric (hv : h.HasType v t) (ht : t.isNumeric = true) :
    v = .null ∨ h.IsScalar v .integer ∧ t.isDouble = false ∨
      h.IsScalar v .double ∧ t.isDouble = true := by
  by_cases hd : t.isDouble = true
  · rcases hv.scalar (k := .double) hd with rfl | ⟨hk, -⟩
    · exact .inl rfl
    · exact .inr (.inr ⟨hk, hd⟩)
  · have hi : t.isInteger = true := by simpa [DataType.isNumeric, hd] using ht
    rcases hv.scalar (k := .integer) hi with rfl | ⟨hk, -⟩
    · exact .inl rfl
    · exact .inr (.inl ⟨hk, by simpa using hd⟩)

/-! ## Reading scalars -/

section
variable {k : Scalar} (hv : h.IsScalar v k)
include hv

theorem IsScalar.payload : ∃ id p, v = .object id ∧ h.payload? v = some p ∧ p.scalar? = some k := by
  obtain ⟨id, rfl, hp, -⟩ := hv
  exact ⟨id, (h.get id).payload, rfl, rfl, hp⟩

theorem IsScalar.integer (hk : k = .integer) : ∃ n, h.integer? v = some n := by
  subst hk
  obtain ⟨id, p, -, hp, hs⟩ := hv.payload
  cases p <;> cases hs
  rename_i x
  exact ⟨x, by simp only [integer?, hp]⟩

theorem IsScalar.not_integer (hk : k ≠ .integer) : h.integer? v = none := by
  obtain ⟨id, p, -, hp, hs⟩ := hv.payload
  cases p <;> simp_all [integer?, Payload.scalar?]

theorem IsScalar.number (hk : k = .integer ∨ k = .double) : ∃ x, h.double? v = some x := by
  obtain ⟨id, p, -, hp, hs⟩ := hv.payload
  rcases hk with rfl | rfl <;> cases p <;> cases hs <;> rename_i x
  · exact ⟨.ofInt64 x, by simp only [double?, hp]⟩
  · exact ⟨x, by simp only [double?, hp]⟩

theorem IsScalar.boolean (hk : k = .boolean) : ∃ b, h.boolean? v = some b := by
  subst hk
  obtain ⟨id, p, -, hp, hs⟩ := hv.payload
  cases p <;> cases hs
  rename_i x
  exact ⟨x, by simp only [boolean?, hp]⟩

theorem IsScalar.string (hk : k = .string) : ∃ s, h.string? v = some s := by
  subst hk
  obtain ⟨id, p, -, hp, hs⟩ := hv.payload
  cases p <;> cases hs
  rename_i x
  exact ⟨x, by simp only [string?, hp]⟩

theorem IsScalar.not_string (hk : k ≠ .string) : h.string? v = none := by
  obtain ⟨id, p, -, hp, hs⟩ := hv.payload
  cases p <;> simp_all [string?, Payload.scalar?]

end

end Heap

/-! ## Operators -/

/-- The faults of operators on scalars. -/
inductive ScalarFault : RuntimeError → Prop
  | null (span : Span) : ScalarFault (.nullReference span)
  | zero (span : Span) : ScalarFault (.divisionByZero span)

namespace Operator

/-- `x` computes something in `P`, or fails for `null` or a zero. -/
def Yields {α : Type} (x : Except RuntimeError α) (P : α → Prop) : Prop :=
  match x with
  | .ok a => P a
  | .error e => ScalarFault e

theorem Yields.bind {α β : Type} {x : Except RuntimeError α} {f : α → Except RuntimeError β}
    {P : α → Prop} {Q : β → Prop} (hx : Yields x P) (hf : ∀ a, P a → Yields (f a) Q) :
    Yields (x >>= f) Q := by
  cases x with
  | ok a => exact hf a hx
  | error e => exact hx

variable {h : Heap} {l r v : Value} {a b t : DataType}

theorem truth_yields (hv : h.HasType v t) (ht : t.isBoolean = true) (span : Span) :
    Yields (truth h v span) fun _ => True := by
  rcases hv.scalar (k := .boolean) ht with rfl | ⟨hk, -⟩
  · exact .null span
  · obtain ⟨x, hx⟩ := hk.boolean rfl
    obtain ⟨id, rfl, -⟩ := hk
    simp only [truth, hx, Yields]

theorem requireObject_yields (v : Value) (span : Span) :
    Yields (requireObject v span) fun _ => v ≠ .null := by
  cases v with
  | null => exact .null span
  | object id => exact nofun

theorem integers_yields (op : BinaryOp) (m n : Int64) (span : Span) :
    Yields (integers op m n span) fun _ => True := by
  unfold integers
  split <;> first | trivial | skip
  all_goals
    split
    · exact .zero span
    · trivial

theorem doubles_yields (op : BinaryOp) (x y : Double) (span : Span) :
    Yields (doubles op x y span) fun _ => True := by
  unfold doubles
  split <;> first | trivial | skip
  all_goals
    split
    · exact .zero span
    · trivial

theorem number_eq {k : Scalar} (hv : h.IsScalar v k) (hk : k = .integer ∨ k = .double) :
    ∃ x, number h v = .ok x := by
  obtain ⟨x, hx⟩ := hv.number hk
  exact ⟨x, by simp only [number, hx]⟩

/-- Two numbers of which one is a Double are computed as Doubles. -/
theorem arithmetic_double {k k' : Scalar} (hl : h.IsScalar l k) (hr : h.IsScalar r k')
    (hk : k = .integer ∨ k = .double) (hk' : k' = .integer ∨ k' = .double)
    (hd : k = .double ∨ k' = .double) (op : BinaryOp) (span : Span) :
    Yields (arithmetic h op l r span) fun c => c.dataType = .double := by
  obtain ⟨x, hx⟩ := number_eq hl hk
  obtain ⟨y, hy⟩ := number_eq hr hk'
  have hints : ∀ m n, h.integer? l = some m → h.integer? r = some n → False := by
    intro m n hm hn
    rcases hd with rfl | rfl
    · rw [hl.not_integer (by decide)] at hm
      cases hm
    · rw [hr.not_integer (by decide)] at hn
      cases hn
  unfold arithmetic
  refine (requireObject_yields l span).bind fun _ _ => (requireObject_yields r span).bind fun _ _ => ?_
  split
  · rename_i m n hm hn
    exact (hints m n hm hn).elim
  · rw [hx, hy]
    exact (doubles_yields op x y span).bind fun _ _ => rfl

/-- `+ - * / %` on numbers computes a number of the type that the checker gives. -/
theorem arithmetic_yields (hl : h.HasType l a) (hr : h.HasType r b) (ha : a.isNumeric = true)
    (hb : b.isNumeric = true) (op : BinaryOp) (span : Span) :
    Yields (arithmetic h op l r span) fun c => c.dataType = Typing.numericType a b := by
  unfold Typing.numericType
  rcases hl.numeric ha with rfl | hl
  · exact .null span
  rcases hr.numeric hb with rfl | hr
  · unfold arithmetic
    exact (requireObject_yields l span).bind fun _ _ => .null span
  rcases hl with ⟨hl, ha⟩ | ⟨hl, ha⟩ <;> rcases hr with ⟨hr, hb⟩ | ⟨hr, hb⟩ <;> simp only [ha, hb]
  · obtain ⟨m, hm⟩ := hl.integer rfl
    obtain ⟨n, hn⟩ := hr.integer rfl
    unfold arithmetic
    refine (requireObject_yields l span).bind fun _ _ =>
      (requireObject_yields r span).bind fun _ _ => ?_
    rw [hm, hn]
    exact (integers_yields op m n span).bind fun _ _ => rfl
  · exact arithmetic_double hl hr (.inl rfl) (.inr rfl) (.inr rfl) op span
  · exact arithmetic_double hl hr (.inr rfl) (.inl rfl) (.inl rfl) op span
  · exact arithmetic_double hl hr (.inr rfl) (.inr rfl) (.inl rfl) op span

/-- What can be compared is two texts or two numbers. -/
theorem comparable (hc : Typing.comparison? a b = none) :
    a.isString = true ∧ b.isString = true ∨
      a.isString = false ∧ b.isString = false ∧ a.isNumeric = true ∧ b.isNumeric = true := by
  unfold Typing.comparison? at hc
  split at hc
  · cases hc
  rename_i hla
  split at hc
  · cases hc
  rename_i hlb
  split at hc
  · cases hc
  rename_i hne
  simp only [Typing.isAddable, Bool.not_eq_true', Bool.not_eq_false, Bool.or_eq_true, bne_iff_ne,
    ne_eq, Decidable.not_not] at hla hlb hne
  by_cases hs : a.isString = true
  · exact .inl ⟨hs, hne ▸ hs⟩
  · rw [hne] at hs
    exact .inr ⟨by simpa [hne] using hs, by simpa using hs,
      hla.resolve_right (by simpa [hne] using hs), hlb.resolve_right hs⟩

theorem HasType.not_text (hv : h.HasType v t) (ht : t.isNumeric = true) : h.string? v = none := by
  rcases hv.numeric ht with rfl | ⟨hk, -⟩ | ⟨hk, -⟩
  · rfl
  · exact hk.not_string (by decide)
  · exact hk.not_string (by decide)

/-- Two texts or two numbers have an order, unless one is `null`. -/
theorem order_yields (hl : h.HasType l a) (hr : h.HasType r b)
    (hc : Typing.comparison? a b = none) (span : Span) :
    Yields (order h l r span) fun _ => True := by
  unfold order
  refine (requireObject_yields l span).bind fun _ nl => (requireObject_yields r span).bind
    fun _ nr => ?_
  rcases comparable hc with ⟨ha, hb⟩ | ⟨-, -, ha, hb⟩
  · obtain ⟨hl, -⟩ := (hl.scalar (k := .string) ha).resolve_left nl
    obtain ⟨hr, -⟩ := (hr.scalar (k := .string) hb).resolve_left nr
    obtain ⟨x, hx⟩ := hl.string rfl
    obtain ⟨y, hy⟩ := hr.string rfl
    rw [hx, hy]
    trivial
  · have number : ∀ {v t}, h.HasType v t → t.isNumeric = true → v ≠ .null →
        ∃ x, number h v = .ok x := by
      intro v t hv ht nv
      rcases (hv.numeric ht).resolve_left nv with ⟨hk, -⟩ | ⟨hk, -⟩
      · exact number_eq hk (.inl rfl)
      · exact number_eq hk (.inr rfl)
    obtain ⟨x, hx⟩ := number hl ha nl
    obtain ⟨y, hy⟩ := number hr hb nr
    rw [HasType.not_text hl ha]
    dsimp only
    split
    · trivial
    · rw [hx, hy]
      trivial

/-- `+ - * / %` computes a value of the type that the checker gives. -/
theorem binary_arithmetic (hl : h.HasType l a) (hr : h.HasType r b) {op : BinaryOp}
    (ho : op.isEquality = false ∧ op.isLogical = false ∧ op.isRelational = false)
    (ht : Typing.arithmetic op a b = .ok t) (span : Span) :
    Yields (binary h op l r span) fun c => c.dataType = t := by
  -- but for `+` on texts, both operands are numbers
  have numbers : op ≠ .add → Yields (arithmetic h op l r span) fun c => c.dataType = t := by
    intro hne
    unfold Typing.arithmetic at ht
    split at ht
    · exact absurd rfl hne
    split at ht
    · cases ht
    rename_i hna
    split at ht
    · cases ht
    rename_i hnb
    obtain rfl := Except.ok.inj ht
    exact arithmetic_yields hl hr (by simpa using hna) (by simpa using hnb) op span
  cases op with
  | equal | notEqual | less | lessEqual | greater | greaterEqual | and | or => simp_all only
      [BinaryOp.isEquality, BinaryOp.isLogical, BinaryOp.isRelational, reduceCtorEq, false_and,
        and_false]
  | sub | mul | div | rem => exact numbers (by decide)
  | add =>
    unfold Typing.arithmetic at ht
    split at ht <;> first | contradiction | skip
    split at ht
    · cases ht
    rename_i hc
    obtain rfl := Except.ok.inj ht
    unfold binary
    dsimp only
    rcases comparable hc with ⟨ha, hb⟩ | ⟨hs, -, ha, hb⟩
    · rw [if_pos ha]
      split
      · rfl
      · -- two texts that are not there
        rename_i hn
        rcases hl.scalar (k := .string) ha with rfl | ⟨hl, -⟩
        · exact .null span
        · obtain ⟨x, hx⟩ := hl.string rfl
          simp [hx] at hn
    · rw [HasType.not_text hl ha, HasType.not_text hr hb]
      simpa [hs] using arithmetic_yields hl hr ha hb .add span

theorem binary_relational (hl : h.HasType l a) (hr : h.HasType r b) {op : BinaryOp}
    (ho : op.isRelational = true) (hc : Typing.comparison? a b = none) (span : Span) :
    Yields (binary h op l r span) fun c => c.dataType = .boolean := by
  cases op with
  | less | lessEqual | greater | greaterEqual =>
    exact (order_yields hl hr hc span).bind fun _ _ => rfl
  | _ => cases ho

theorem binary_equality {op : BinaryOp} (ho : op.isEquality = true) (span : Span) :
    Yields (binary h op l r span) fun c => c.dataType = .boolean := by
  cases op with
  | equal | notEqual => rfl
  | _ => cases ho

/-- The opposite of an Integer, and an Integer one step away, are Integers. -/
theorem negate_yields (hv : h.HasType v t) (ht : t.isInteger = true) (span : Span) :
    Yields (negate h v span) fun c => (c.dataType == t) = true := by
  rcases hv.scalar (k := .integer) ht with rfl | ⟨hk, hs⟩
  · exact .null span
  · obtain ⟨n, hn⟩ := hk.integer rfl
    unfold negate
    refine (requireObject_yields v span).bind fun _ _ => ?_
    rw [hn]
    exact hs

theorem step_yields (hv : h.HasType v t) (ht : t.isInteger = true) (up : Bool) (span : Span) :
    Yields (step h v up span) fun c => (c.dataType == t) = true := by
  rcases hv.scalar (k := .integer) ht with rfl | ⟨hk, hs⟩
  · exact .null span
  · obtain ⟨n, hn⟩ := hk.integer rfl
    unfold step
    refine (requireObject_yields v span).bind fun _ _ => ?_
    rw [hn]
    exact hs

end Operator

end ClassScript
