import ClassScript.Proofs.Typing.SameType
import ClassScript.Typing.Bindings
import Mathlib.Data.List.Forall2

/-!
# Names in other spellings

A `Spelling` says which names may stand for each other where a program refers to something: the same
name only (`Spelling.exact`), or the name in any case (`Spelling.anyCase`).
`DataType.Spelled σ a b`: the types are the same up to the spelling of the names in them. Every
question that the rules ask about a type has the same answer for both.

Name tables are compared entry by entry (`NameTable.Paired`); look-up in both, with spellings of one
name, finds entries at the same place.
-/

namespace ClassScript

/-- Which names may stand for each other (module doc). -/
structure Spelling where
  rel : String → String → Prop
  refl : ∀ name, rel name name
  same : ∀ {a b}, rel a b → sameName a b = true

namespace Spelling

/-- Every name as it stands. -/
def exact : Spelling := ⟨Eq, fun _ => rfl, fun h => h ▸ sameName_self _⟩

/-- Every name in any case. -/
def anyCase : Spelling := ⟨fun a b => sameName a b = true, sameName_self, id⟩

end Spelling

/-! ## Lists and options, place by place -/

section

variable {α β : Type} {R : α → β → Prop}

theorem rel_refl {R : α → α → Prop} (h : ∀ a, R a a) : ∀ a : Option α, Option.Rel R a a
  | none => .none
  | some a => .some (h a)

theorem rel_eq {R : α → α → Prop} {a b : Option α} (h : Option.Rel R a b)
    (hR : ∀ {a b}, R a b → a = b) : a = b := by
  cases h with
  | none => rfl
  | some h => rw [hR h]

theorem forall₂_eq {R : α → α → Prop} {as bs : List α} (h : List.Forall₂ R as bs)
    (hR : ∀ {a b}, R a b → a = b) : as = bs := by
  induction h with
  | nil => rfl
  | cons h _ ih => rw [hR h, ih]

theorem forall₂_of_map_eq {γ : Type} {f : α → γ} {g : β → γ} {as : List α} {bs : List β}
    (h : ∀ {a b}, f a = g b → R a b) (heq : as.map f = bs.map g) : List.Forall₂ R as bs := by
  rw [← List.forall₂_eq_eq_eq, List.forall₂_map_left_iff, List.forall₂_map_right_iff] at heq
  exact heq.imp fun _ _ hab => h hab

/-- Searches that agree place by place find things at the same place. -/
theorem find?_paired {p : α → Bool} {q : β → Bool} {as : List α} {bs : List β}
    (h : List.Forall₂ R as bs) (hpq : ∀ {a b}, R a b → p a = q b) :
    Option.Rel R (as.find? p) (bs.find? q) := by
  induction h with
  | nil => exact .none
  | @cons a b as bs hab _ ih =>
    rw [List.find?_cons, List.find?_cons, ← hpq hab]
    cases p a with
    | true => exact .some hab
    | false => exact ih

theorem findSome?_paired {γ δ : Type} {S : γ → δ → Prop} {f : α → Option γ} {g : β → Option δ}
    {as : List α} {bs : List β} (h : List.Forall₂ R as bs)
    (hfg : ∀ {a b}, R a b → Option.Rel S (f a) (g b)) :
    Option.Rel S (as.findSome? f) (bs.findSome? g) := by
  induction h with
  | nil => exact .none
  | @cons a b as bs hab _ ih =>
    rw [List.findSome?_cons, List.findSome?_cons]
    have hr := hfg hab
    generalize f a = x, g b = y at hr
    cases hr with
    | none => exact ih
    | some hs => exact .some hs

theorem any_paired {p : α → Bool} {q : β → Bool} {as : List α} {bs : List β}
    (h : List.Forall₂ R as bs) (hpq : ∀ {a b}, R a b → p a = q b) : as.any p = bs.any q := by
  induction h with
  | nil => rfl
  | cons hab _ ih => rw [List.any_cons, List.any_cons, hpq hab, ih]

theorem filter_paired {p : α → Bool} {q : β → Bool} {as : List α} {bs : List β}
    (h : List.Forall₂ R as bs) (hpq : ∀ {a b}, R a b → p a = q b) :
    List.Forall₂ R (as.filter p) (bs.filter q) :=
  List.rel_filter (fun _ _ hab => Bool.eq_iff_iff.1 (hpq hab)) h

theorem getElem?_paired {as : List α} {bs : List β} (h : List.Forall₂ R as bs) :
    ∀ i : Nat, Option.Rel R as[i]? bs[i]? := by
  induction h with
  | nil => exact fun _ => .none
  | cons hab _ ih =>
    intro i
    cases i with
    | zero => exact .some hab
    | succ i => simpa using ih i

theorem isEmpty_paired {as : List α} {bs : List β} (h : List.Forall₂ R as bs) :
    as.isEmpty = bs.isEmpty := by
  cases h <;> rfl

theorem isSome_paired {a : Option α} {b : Option β} (h : Option.Rel R a b) :
    a.isSome = b.isSome := by
  cases h <;> rfl

theorem isNone_paired {a : Option α} {b : Option β} (h : Option.Rel R a b) :
    a.isNone = b.isNone := by
  cases h <;> rfl

theorem map_paired {γ δ : Type} {S : γ → δ → Prop} {f : α → γ} {g : β → δ} {a : Option α}
    {b : Option β} (h : Option.Rel R a b) (hfg : ∀ {a b}, R a b → S (f a) (g b)) :
    Option.Rel S (a.map f) (b.map g) := by
  cases h with
  | none => exact .none
  | some h => exact .some (hfg h)

theorem optionFilter_paired {p : α → Bool} {q : β → Bool} {a : Option α} {b : Option β}
    (h : Option.Rel R a b) (hpq : ∀ {a b}, R a b → p a = q b) :
    Option.Rel R (a.filter p) (b.filter q) := by
  cases h with
  | none => exact .none
  | @some a b hab =>
    simp only [Option.filter, ← hpq hab]
    split
    · exact .some hab
    · exact .none

end

/-! ## Types -/

variable {σ : Spelling}

/-- The types are the same up to the spelling of names (module doc). -/
inductive DataType.Spelled (σ : Spelling) : DataType → DataType → Prop
  | intro {n m : String} {as bs : List DataType} : σ.rel n m →
      List.Forall₂ (DataType.Spelled σ) as bs → DataType.Spelled σ ⟨n, as⟩ ⟨m, bs⟩

namespace DataType

mutual

theorem Spelled.refl : ∀ a : DataType, Spelled σ a a
  | ⟨n, as⟩ => .intro (σ.refl n) (Spelled.reflAll as)

theorem Spelled.reflAll : ∀ as : List DataType, List.Forall₂ (Spelled σ) as as
  | [] => .nil
  | a :: as => .cons (Spelled.refl a) (Spelled.reflAll as)

end

mutual

theorem Spelled.same : ∀ {a b : DataType}, Spelled σ a b → DataType.same a b = true
  | ⟨n, as⟩, ⟨m, bs⟩, .intro hn hs => by
    rw [DataType.same, Bool.and_eq_true]
    exact ⟨σ.same hn, Spelled.sameAll hs⟩

theorem Spelled.sameAll : ∀ {as bs : List DataType}, List.Forall₂ (Spelled σ) as bs →
    DataType.sameAll as bs = true
  | [], [], _ => rfl
  | a :: as, b :: bs, .cons h hs => by
    rw [DataType.sameAll, Bool.and_eq_true]
    exact ⟨Spelled.same h, Spelled.sameAll hs⟩

end

mutual

/-- Spelled exactly alike, types are equal. -/
theorem Spelled.eq : ∀ {a b : DataType}, Spelled .exact a b → a = b
  | ⟨n, as⟩, ⟨m, bs⟩, .intro hn hs => by
    obtain rfl : n = m := hn
    rw [Spelled.eqAll hs]

theorem Spelled.eqAll : ∀ {as bs : List DataType}, List.Forall₂ (Spelled .exact) as bs → as = bs
  | [], [], _ => rfl
  | a :: as, b :: bs, .cons h hs => by rw [Spelled.eq h, Spelled.eqAll hs]

end

namespace Spelled

variable {a b c d : DataType}

theorem name (h : Spelled σ a b) : σ.rel a.name b.name := by
  cases h with
  | intro hn _ => exact hn

theorem args (h : Spelled σ a b) : List.Forall₂ (Spelled σ) a.args b.args := by
  cases h with
  | intro _ hs => exact hs

theorem sameName (h : Spelled σ a b) : ClassScript.sameName a.name b.name = true := σ.same h.name

theorem beq (h : Spelled σ a b) : (a == b) = true := h.same

theorem isNamed (h : Spelled σ a b) (name : String) : a.isNamed name = b.isNamed name :=
  isNamed_congr h.beq name

theorem beq_congr (h : Spelled σ a b) (k : Spelled σ c d) : (a == c) = (b == d) := by
  rw [Bool.eq_iff_iff]
  constructor
  · intro hac
    exact beq_trans (beq_symm h.beq) (beq_trans hac k.beq)
  · intro hbd
    exact beq_trans h.beq (beq_trans hbd (beq_symm k.beq))

theorem isEmpty_args (h : Spelled σ a b) : a.args.isEmpty = b.args.isEmpty := isEmpty_paired h.args

/-! The types the language knows are known in every spelling. -/

theorem isNull (h : Spelled σ a b) : a.isNull = b.isNull := h.isNamed _

theorem isVoid (h : Spelled σ a b) : a.isVoid = b.isVoid := h.isNamed _

theorem isInteger (h : Spelled σ a b) : a.isInteger = b.isInteger := h.isNamed _

theorem isDouble (h : Spelled σ a b) : a.isDouble = b.isDouble := h.isNamed _

theorem isString (h : Spelled σ a b) : a.isString = b.isString := h.isNamed _

theorem isBoolean (h : Spelled σ a b) : a.isBoolean = b.isBoolean := h.isNamed _

theorem isList (h : Spelled σ a b) : a.isList = b.isList := h.isNamed _

theorem isMap (h : Spelled σ a b) : a.isMap = b.isMap := h.isNamed _

theorem isObject (h : Spelled σ a b) : a.isObject = b.isObject := h.isNamed _

theorem isNumeric (h : Spelled σ a b) : a.isNumeric = b.isNumeric := by
  rw [DataType.isNumeric, DataType.isNumeric, h.isInteger, h.isDouble]

theorem fitsExactly (h : Spelled σ a b) (k : Spelled σ c d) :
    a.fitsExactly c = b.fitsExactly d := by
  rw [DataType.fitsExactly, DataType.fitsExactly, h.isNull, h.beq_congr k]

end Spelled

end DataType

/-! ## Generic parameters -/

/-- Two bindings of the same parameters. -/
structure TypeBindings.Spelled (σ : Spelling) (b b' : TypeBindings) : Prop where
  params : b.params = b'.params
  args : List.Forall₂ (DataType.Spelled σ) b.args b'.args

namespace TypeBindings.Spelled

variable {b b' : TypeBindings}

theorem none : TypeBindings.none.Spelled σ TypeBindings.none := ⟨rfl, .nil⟩

theorem position? (hb : b.Spelled σ b') {t t' : DataType} (ht : t.Spelled σ t') :
    b.position? t = b'.position? t' := by
  unfold TypeBindings.position?
  rw [ht.isEmpty_args, hb.params]
  split
  · congr 1
    funext p
    exact ht.isNamed p
  · rfl

theorem isUnbound (hb : b.Spelled σ b') {t t' : DataType} (ht : t.Spelled σ t') :
    b.isUnbound t = b'.isUnbound t' := by
  unfold TypeBindings.isUnbound
  rw [hb.position? ht, hb.args.length_eq]

mutual

theorem substitute (hb : b.Spelled σ b') : ∀ {t t' : DataType}, t.Spelled σ t' →
    (b.substitute t).Spelled σ (b'.substitute t')
  | ⟨n, as⟩, ⟨m, bs⟩, ht => by
    unfold TypeBindings.substitute
    rw [hb.position? ht]
    cases b'.position? ⟨m, bs⟩ with
    | none => exact .intro ht.name (substituteAll hb ht.args)
    | some i =>
      simp only [List.getD_eq_getElem?_getD]
      have hi := getElem?_paired hb.args i
      generalize b.args[i]? = x, b'.args[i]? = y at hi
      cases hi with
      | none => exact ht
      | some h => exact h

theorem substituteAll (hb : b.Spelled σ b') : ∀ {as bs : List DataType},
    List.Forall₂ (DataType.Spelled σ) as bs →
      List.Forall₂ (DataType.Spelled σ) (b.substituteAll as) (b'.substituteAll bs)
  | [], [], _ => by
    unfold TypeBindings.substituteAll
    exact .nil
  | a :: as, c :: bs, .cons h hs => by
    unfold TypeBindings.substituteAll
    exact .cons (substitute hb h) (substituteAll hb hs)

end

end TypeBindings.Spelled

/-! ## Name tables -/

namespace NameTable

variable {α β : Type} {R : α → β → Prop}

/-- The tables have related values under the same names, in the same order. -/
def Paired (σ : Spelling) (R : α → β → Prop) (t : NameTable α) (t' : NameTable β) : Prop :=
  List.Forall₂ (fun e e' => σ.rel e.1 e'.1 ∧ R e.2 e'.2) t.entries t'.entries

namespace Paired

variable {t : NameTable α} {t' : NameTable β} {n n' : String}

theorem empty : Paired σ R NameTable.empty NameTable.empty := .nil

theorem refl {R : α → α → Prop} (h : ∀ a, R a a) (t : NameTable α) : Paired σ R t t :=
  List.forall₂_same.2 fun e _ => ⟨σ.refl e.1, h e.2⟩

/-- Spelled exactly alike and with equal values, tables are equal. -/
theorem eq {t t' : NameTable α} {R : α → α → Prop} (h : Paired .exact R t t')
    (hR : ∀ {a b}, R a b → a = b) : t = t' :=
  NameTable.eq_of_entries (forall₂_eq h fun he => Prod.ext he.1 (hR he.2))

theorem entry? (h : Paired σ R t t') (hn : sameName n n' = true) :
    Option.Rel (fun e e' => σ.rel e.1 e'.1 ∧ R e.2 e'.2) (t.entry? n) (t'.entry? n') := by
  rw [NameTable.entry?_eq, NameTable.entry?_eq]
  refine find?_paired h fun he => ?_
  rw [sameName_congr_left (σ.same he.1), sameName_congr_right hn]

/-- Spellings of one name lead to related values. -/
theorem get? (h : Paired σ R t t') (hn : sameName n n' = true) :
    Option.Rel R (t.get? n) (t'.get? n') :=
  map_paired (h.entry? hn) fun he => he.2

theorem contains (h : Paired σ R t t') (hn : sameName n n' = true) :
    t.contains n = t'.contains n' := by
  rw [NameTable.contains_eq, NameTable.contains_eq]
  exact isSome_paired (h.get? hn)

theorem values (h : Paired σ R t t') : List.Forall₂ R t.values t'.values := by
  unfold NameTable.values
  rw [List.forall₂_map_left_iff, List.forall₂_map_right_iff]
  exact List.Forall₂.imp (fun _ _ he => he.2) h

theorem size (h : Paired σ R t t') : t.size = t'.size := List.Forall₂.length_eq h

theorem insert (h : Paired σ R t t') (hn : σ.rel n n') {v : α} {v' : β} (hv : R v v') :
    Paired σ R (t.insert n v) (t'.insert n' v') := by
  unfold Paired at h ⊢
  rw [NameTable.entries_insert, NameTable.entries_insert]
  generalize t.entries = es, t'.entries = es' at h
  induction h with
  | nil => exact .cons ⟨hn, hv⟩ .nil
  | @cons e e' es es' he hes ih =>
    unfold insertEntry
    rw [← sameName_congr_left (σ.same he.1), ← sameName_congr_right (σ.same hn)]
    split
    · exact .cons ⟨he.1, hv⟩ hes
    · exact .cons he ih

theorem modify (h : Paired σ R t t') (hn : sameName n n' = true) {f : α → α} {g : β → β}
    (hfg : ∀ {a b}, R a b → R (f a) (g b)) : Paired σ R (t.modify n f) (t'.modify n' g) := by
  unfold Paired at h ⊢
  rw [NameTable.entries_modify, NameTable.entries_modify]
  generalize t.entries = es, t'.entries = es' at h
  induction h with
  | nil => exact .nil
  | @cons e e' es es' he hes ih =>
    unfold modifyEntry
    rw [← sameName_congr_left (σ.same he.1), ← sameName_congr_right hn]
    split
    · exact .cons ⟨he.1, hfg he.2⟩ hes
    · exact .cons he ih

theorem filter (h : Paired σ R t t') {p : α → Bool} {q : β → Bool}
    (hpq : ∀ {a b}, R a b → p a = q b) :
    Paired σ R (t.filter p) (t'.filter q) :=
  filter_paired h fun he => hpq he.2

end Paired

end NameTable

end ClassScript
