import ClassScript.Native.World
import ClassScript.Typing.Overload

/-!
# Tables that look alike

`t.Alike t'`: every name leads to the same class in both tables, and both have the same number of
classes. The order of the classes does not matter, and nothing else of a table is ever looked at: a
dotted name, the chain of a class and all that is searched along it, assignability, the choice of an
overload and the primitive classes are the same in both.
-/

namespace ClassScript

/-- The tables have the same classes by name (module doc). -/
structure ClassTable.Alike (t t' : ClassTable) : Prop where
  get? : ∀ name, t'.get? name = t.get? name
  size : t'.size = t.size

namespace ClassTable.Alike

variable {t t' : ClassTable}

theorem refl (t : ClassTable) : t.Alike t := ⟨fun _ => rfl, rfl⟩

variable (h : t.Alike t')
include h

/-! ## Classes -/

theorem resolve? (name : String) : t'.resolve? name = t.resolve? name := by
  unfold ClassTable.resolve?
  simp only [h.get?]

theorem parent? (c : ClassInfo) : c.parent? t' = c.parent? t := by
  unfold ClassInfo.parent?
  simp only [h.resolve?]

theorem chainUpTo (n : Nat) (c : ClassInfo) :
    ClassInfo.chainUpTo t' n c = ClassInfo.chainUpTo t n c := by
  induction n generalizing c with
  | zero => rfl
  | succ n ih =>
    rw [ClassInfo.chainUpTo, ClassInfo.chainUpTo, h.parent?]
    cases c.parent? t with
    | none => rfl
    | some p => exact congrArg (c :: ·) (ih p)

theorem chain (c : ClassInfo) : c.chain t' = c.chain t := by
  unfold ClassInfo.chain
  rw [h.size, h.chainUpTo]

/-! ## Members along a chain -/

theorem instanceMethods? (c : ClassInfo) (name : String) :
    c.instanceMethods? t' name = c.instanceMethods? t name := by
  simp only [ClassInfo.instanceMethods?, h.chain]

theorem staticMethods? (c : ClassInfo) (name : String) :
    c.staticMethods? t' name = c.staticMethods? t name := by
  simp only [ClassInfo.staticMethods?, h.chain]

theorem instanceField? (c : ClassInfo) (name : String) :
    c.instanceField? t' name = c.instanceField? t name := by
  simp only [ClassInfo.instanceField?, h.chain]

theorem staticField? (c : ClassInfo) (name : String) :
    c.staticField? t' name = c.staticField? t name := by
  simp only [ClassInfo.staticField?, h.chain]

theorem allInstanceFields (c : ClassInfo) : c.allInstanceFields t' = c.allInstanceFields t := by
  simp only [ClassInfo.allInstanceFields, h.chain]

theorem isSubclassOf (c : ClassInfo) (ancestor : String) :
    c.isSubclassOf t' ancestor = c.isSubclassOf t ancestor := by
  simp only [ClassInfo.isSubclassOf, h.chain]

/-! ## Types and overloads -/

theorem isAssignable (value target : DataType) :
    value.isAssignable t' target = value.isAssignable t target := by
  simp only [DataType.isAssignable, h.resolve?, h.isSubclassOf]

theorem argumentMatches (b : TypeBindings) :
    Overload.argumentMatches t' b = Overload.argumentMatches t b := by
  funext param arg
  cases arg with
  | none => rfl
  | some arg => simp only [Overload.argumentMatches, h.isAssignable]

theorem overload (b : TypeBindings) (candidates : List MethodInfo)
    (args : List (Option DataType)) :
    Overload.resolve t' b candidates args = Overload.resolve t b candidates args := by
  cases candidates with
  | nil => rfl
  | cons first rest => simp only [Overload.resolve, h.argumentMatches]

/-! ## What a run starts from -/

theorem primitives : Primitives.ofTable t' = Primitives.ofTable t := by
  simp only [Primitives.ofTable, Primitives.require, h.get?]

end ClassTable.Alike

end ClassScript
