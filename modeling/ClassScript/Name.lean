/-! # Names

Names of classes, members and locals are compared ignoring the case of ASCII letters; every other
character stands for itself. -/

namespace ClassScript

/-- The characters of a name with ASCII letters in lower case. -/
def foldName (name : String) : List Char :=
  name.toList.map Char.toLower

/-- Whether two spellings denote the same name. -/
def sameName (a b : String) : Bool :=
  foldName a == foldName b

theorem sameName_iff {a b : String} : sameName a b = true ↔ foldName a = foldName b := by
  simp [sameName]

@[simp] theorem sameName_self (a : String) : sameName a a = true := by
  simp [sameName]

theorem sameName_comm (a b : String) : sameName a b = sameName b a := by
  simp only [sameName]
  exact Bool.beq_comm

theorem sameName_trans {a b c : String} (h : sameName a b = true) (k : sameName b c = true) :
    sameName a c = true :=
  sameName_iff.2 ((sameName_iff.1 h).trans (sameName_iff.1 k))

end ClassScript
