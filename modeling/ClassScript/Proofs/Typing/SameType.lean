import ClassScript.Proofs.NameTable
import ClassScript.Typing.Assignable

/-!
# Types up to the case of letters

`==` on types is an equivalence, and no rule about types tells two spellings of a type apart.
-/

namespace ClassScript.DataType

mutual

theorem same_refl : ∀ a : DataType, same a a = true
  | ⟨n, as⟩ => by rw [same, sameName_self, sameAll_refl as]; rfl

theorem sameAll_refl : ∀ as : List DataType, sameAll as as = true
  | [] => rfl
  | a :: as => by rw [sameAll, same_refl a, sameAll_refl as]; rfl

end

mutual

theorem same_comm : ∀ a b : DataType, same a b = same b a
  | ⟨n, as⟩, ⟨m, bs⟩ => by rw [same, same, sameName_comm, sameAll_comm as bs]

theorem sameAll_comm : ∀ as bs : List DataType, sameAll as bs = sameAll bs as
  | [], [] => rfl
  | [], _ :: _ => rfl
  | _ :: _, [] => rfl
  | a :: as, b :: bs => by rw [sameAll, sameAll, same_comm a b, sameAll_comm as bs]

end

mutual

theorem same_trans : ∀ {a b c : DataType}, same a b = true → same b c = true → same a c = true
  | ⟨n, as⟩, ⟨m, bs⟩, ⟨k, cs⟩, hab, hbc => by
    rw [same, Bool.and_eq_true] at *
    exact ⟨sameName_trans hab.1 hbc.1, sameAll_trans hab.2 hbc.2⟩

theorem sameAll_trans : ∀ {as bs cs : List DataType},
    sameAll as bs = true → sameAll bs cs = true → sameAll as cs = true
  | [], [], [], _, _ => rfl
  | a :: as, b :: bs, c :: cs, hab, hbc => by
    rw [sameAll, Bool.and_eq_true] at *
    exact ⟨same_trans hab.1 hbc.1, sameAll_trans hab.2 hbc.2⟩

end

theorem beq_eq_same (a b : DataType) : (a == b) = same a b := rfl

theorem beq_refl (a : DataType) : (a == a) = true := same_refl a

theorem beq_symm {a b : DataType} (h : (a == b) = true) : (b == a) = true := by
  rw [beq_eq_same, same_comm]
  exact h

theorem beq_trans {a b c : DataType} (h : (a == b) = true) (k : (b == c) = true) :
    (a == c) = true :=
  same_trans h k

theorem beq_iff {a b : DataType} :
    (a == b) = true ↔ sameName a.name b.name = true ∧ sameAll a.args b.args = true := by
  obtain ⟨n, as⟩ := a
  obtain ⟨m, bs⟩ := b
  rw [beq_eq_same, same, Bool.and_eq_true]

theorem isNamed_congr {a b : DataType} (h : (a == b) = true) (name : String) :
    a.isNamed name = b.isNamed name :=
  sameName_congr_left (beq_iff.1 h).1 name

/-- A type has one name. -/
theorem sameName_of_isNamed {t : DataType} {n m : String} (hn : t.isNamed n = true)
    (hm : t.isNamed m = true) : sameName n m = true :=
  sameName_trans (sameName_symm hn) hm

end ClassScript.DataType
