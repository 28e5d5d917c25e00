import ClassScript.Text.IntegerLiteral
import Mathlib.Data.List.TakeWhile

/-!
# Numerals

A decimal numeral is an optional sign and at least one decimal digit (`Numeral`). The texts that are
read as an Integer are the numerals of Integers with white space around them
(`integer?_eq_some_iff`), whether or not there are zeros in front. The text of an Integer is one of
its numerals (`numeral_integerText`), so it is read back.
-/

namespace ClassScript.Text

/-- A decimal numeral and the number that it denotes. -/
inductive Numeral : List Char → Int → Prop
  | digits {ds : List Char} : ds ≠ [] → (∀ c ∈ ds, c.isDigit = true) →
      Numeral ds (Nat.ofDigitChars 10 ds 0)
  | plus {ds : List Char} : ds ≠ [] → (∀ c ∈ ds, c.isDigit = true) →
      Numeral ('+' :: ds) (Nat.ofDigitChars 10 ds 0)
  | minus {ds : List Char} : ds ≠ [] → (∀ c ∈ ds, c.isDigit = true) →
      Numeral ('-' :: ds) (-(Nat.ofDigitChars 10 ds 0 : Int))

/-- The text is a numeral of the number, maybe with white space around it. -/
def Denotes (s : String) (n : Int) : Prop :=
  ∃ p cs q, s.toList = p ++ cs ++ q ∧ (∀ c ∈ p, isBlank c = true) ∧ (∀ c ∈ q, isBlank c = true) ∧
    Numeral cs n

/-! ## Reading digits -/

theorem digitValue?_eq (c : Char) :
    digitValue? c = if c.isDigit then some (c.toNat - '0'.toNat) else none := by
  unfold digitValue? Char.isDigit
  rfl

theorem readDigits?_eq_some_iff {acc n : Nat} : ∀ {ds : List Char},
    readDigits? acc ds = some n ↔
      (∀ c ∈ ds, c.isDigit = true) ∧ Nat.ofDigitChars 10 ds acc = n
  | [] => by simp [readDigits?]
  | c :: cs => by
    unfold readDigits?
    rw [digitValue?_eq, Nat.ofDigitChars_cons]
    cases hc : c.isDigit with
    | true => simp [hc, readDigits?_eq_some_iff]
    | false => simp [hc]

theorem readNat?_eq_some_iff {ds : List Char} {n : Nat} : readNat? ds = some n ↔
    ds ≠ [] ∧ (∀ c ∈ ds, c.isDigit = true) ∧ Nat.ofDigitChars 10 ds 0 = n := by
  cases ds with
  | nil => simp [readNat?]
  | cons c cs =>
    show readDigits? 0 (c :: cs) = some n ↔ _
    simp [readDigits?_eq_some_iff]

/-- A sign is no digit, so the first character tells the three forms apart. -/
theorem readInt?_eq_some_iff {cs : List Char} {n : Int} : readInt? cs = some n ↔ Numeral cs n := by
  constructor
  · intro h
    unfold readInt? at h
    split at h <;> obtain ⟨k, hk, rfl⟩ := Option.map_eq_some_iff.1 h <;>
      obtain ⟨hne, hd, rfl⟩ := readNat?_eq_some_iff.1 hk
    · exact .plus hne hd
    · exact .minus hne hd
    · exact .digits hne hd
  · intro h
    cases h with
    | digits hne hd =>
      unfold readInt?
      split
      · exact absurd (hd '+' List.mem_cons_self) (by decide)
      · exact absurd (hd '-' List.mem_cons_self) (by decide)
      · rw [readNat?_eq_some_iff.2 ⟨hne, hd, rfl⟩]
        rfl
    | @plus ds hne hd =>
      show (readNat? ds).map Int.ofNat = _
      rw [readNat?_eq_some_iff.2 ⟨hne, hd, rfl⟩]
      rfl
    | @minus ds hne hd =>
      show (readNat? ds).map (fun n => -Int.ofNat n) = _
      rw [readNat?_eq_some_iff.2 ⟨hne, hd, rfl⟩]
      rfl

/-- Only the numerals of numbers in range are read. -/
theorem readInt64?_eq_some_iff {cs : List Char} {n : Int64} :
    readInt64? cs = some n ↔ Numeral cs n.toInt := by
  rw [← readInt?_eq_some_iff]
  unfold readInt64?
  cases hcs : readInt? cs with
  | none => simp
  | some k =>
    simp only [Option.some.injEq]
    constructor
    · intro h
      split at h
      · rename_i range
        have lower : -2 ^ 63 ≤ k := range.1
        have upper : k < 2 ^ 63 := Int.lt_of_le_of_lt range.2 (by decide)
        rw [← Option.some.inj h, Int64.toInt_ofInt_of_le lower upper]
      · cases h
    · rintro rfl
      rw [if_pos ⟨n.minValue_le_toInt, n.toInt_le⟩, Int64.ofInt_toInt]

/-! ## White space around a numeral -/

theorem isBlank_of_isDigit {c : Char} (hc : c.isDigit = true) : isBlank c = false := by
  obtain ⟨lower, upper⟩ := Char.isDigit_iff_toNat.1 hc
  have lower' : 48 ≤ c.toNat := lower
  have upper' : c.toNat ≤ 57 := upper
  rw [Bool.eq_false_iff, isBlank, Ne, inRanges_eq_true_iff]
  simp only [blankRanges, List.mem_cons, List.not_mem_nil, or_false, exists_eq_or_imp,
    exists_eq_left]
  omega

/-- No character of a numeral is white space. -/
theorem Numeral.not_isBlank {cs : List Char} {n : Int} (h : Numeral cs n) :
    cs ≠ [] ∧ ∀ c ∈ cs, isBlank c = false := by
  cases h with
  | digits hne hd => exact ⟨hne, fun c hc => isBlank_of_isDigit (hd c hc)⟩
  | plus _ hd | minus _ hd =>
    refine ⟨List.cons_ne_nil _ _, fun c hc => ?_⟩
    rcases List.mem_cons.1 hc with rfl | hc
    · decide
    · exact isBlank_of_isDigit (hd c hc)

/-- White space in front of text that starts with none is dropped. -/
theorem dropWhile_isBlank_append {p cs : List Char} (hp : ∀ c ∈ p, isBlank c = true)
    (hcs : ∀ c ∈ cs.head?, isBlank c = false) : (p ++ cs).dropWhile isBlank = cs := by
  rw [List.dropWhile_append_of_pos hp]
  cases cs with
  | nil => rfl
  | cons c cs => exact List.dropWhile_cons_of_neg (by simp [hcs c rfl])

theorem trimChars_append {p cs q : List Char} (hp : ∀ c ∈ p, isBlank c = true)
    (hq : ∀ c ∈ q, isBlank c = true) (hne : cs ≠ []) (hcs : ∀ c ∈ cs, isBlank c = false) :
    trimChars (p ++ cs ++ q) = cs := by
  have front : (p ++ cs ++ q).dropWhile isBlank = cs ++ q := by
    rw [List.append_assoc]
    refine dropWhile_isBlank_append hp fun c hc => hcs c ?_
    obtain ⟨d, ds, rfl⟩ := List.exists_cons_of_ne_nil hne
    exact List.mem_of_mem_head? hc
  have back : (cs ++ q).reverse.dropWhile isBlank = cs.reverse := by
    rw [List.reverse_append]
    refine dropWhile_isBlank_append (fun c hc => hq c (List.mem_reverse.1 hc)) fun c hc => ?_
    exact hcs c (List.mem_reverse.1 (List.mem_of_mem_head? hc))
  rw [trimChars, front, back, List.reverse_reverse]

/-- Trimming takes away white space at both ends. -/
theorem exists_trimChars (cs : List Char) : ∃ p q, cs = p ++ trimChars cs ++ q ∧
    (∀ c ∈ p, isBlank c = true) ∧ ∀ c ∈ q, isBlank c = true := by
  have blanks : ∀ (l : List Char), ∀ c ∈ l.takeWhile isBlank, isBlank c = true :=
    fun l c hc => List.mem_takeWhile_imp hc
  refine ⟨cs.takeWhile isBlank, ((cs.dropWhile isBlank).reverse.takeWhile isBlank).reverse, ?_,
    blanks cs, fun c hc => blanks _ c (List.mem_reverse.1 hc)⟩
  rw [trimChars, List.append_assoc, ← List.reverse_append, List.takeWhile_append_dropWhile,
    List.reverse_reverse, List.takeWhile_append_dropWhile]

/-- **The texts that are read as an Integer** are its numerals with white space around them. -/
theorem integer?_eq_some_iff {s : String} {n : Int64} :
    integer? s = some n ↔ Denotes s n.toInt := by
  unfold integer?
  rw [readInt64?_eq_some_iff]
  constructor
  · intro h
    obtain ⟨p, q, hs, hp, hq⟩ := exists_trimChars s.toList
    exact ⟨p, _, q, hs, hp, hq, h⟩
  · rintro ⟨p, cs, q, hs, hp, hq, h⟩
    obtain ⟨hne, hcs⟩ := h.not_isBlank
    rwa [hs, trimChars_append hp hq hne hcs]

theorem integer?_eq_none_iff {s : String} :
    integer? s = none ↔ ¬ ∃ n : Int64, Denotes s n.toInt := by
  simp only [← integer?_eq_some_iff, ← Option.isSome_iff_exists, Option.not_isSome_iff_eq_none]

/-! ## The text of an Integer -/

theorem isDigit_of_mem_toDigits (n : Nat) : ∀ c ∈ Nat.toDigits 10 n, c.isDigit = true :=
  fun _ hc => Nat.isDigit_of_mem_toDigits (by decide) (by decide) hc

theorem numeral_repr : ∀ n : Int, Numeral n.repr.toList n
  | .ofNat m => by
    have digits := Numeral.digits Nat.toDigits_ne_nil (isDigit_of_mem_toDigits m)
    rw [Nat.ofDigitChars_ten_toDigits] at digits
    show Numeral m.repr.toList m
    rwa [Nat.repr_eq_ofList_toDigits, String.toList_ofList]
  | .negSucc m => by
    have digits := Numeral.minus Nat.toDigits_ne_nil (isDigit_of_mem_toDigits m.succ)
    rw [Nat.ofDigitChars_ten_toDigits] at digits
    show Numeral ("-" ++ m.succ.repr).toList (-(m.succ : Int))
    rw [String.toList_append, Nat.repr_eq_ofList_toDigits, String.toList_ofList,
      String.toList_ofList]
    exact digits

theorem numeral_integerText (n : Int64) : Numeral (integerText n).toList n.toInt :=
  numeral_repr n.toInt

/-- The text of an Integer with white space around it denotes the Integer. -/
theorem denotes_integerText {p q : String} (n : Int64) (hp : ∀ c ∈ p.toList, isBlank c = true)
    (hq : ∀ c ∈ q.toList, isBlank c = true) : Denotes (p ++ integerText n ++ q) n.toInt :=
  ⟨p.toList, _, q.toList, by simp, hp, hq, numeral_integerText n⟩

end ClassScript.Text
