import ClassScript.DataType

/-! # Generic parameters

The generic parameters of a class, with the arguments that the type of a receiver gives them by
position: for a receiver of type `List<Integer>`, `T` stands for `Integer`. -/

namespace ClassScript

/-- Parameter names and the arguments bound to them. -/
structure TypeBindings where
  params : List String
  args : List DataType

namespace TypeBindings

/-- No parameters. -/
def none : TypeBindings := ⟨[], []⟩

/-- The position of the parameter that a type is. -/
def position? (b : TypeBindings) (t : DataType) : Option Nat :=
  if t.args.isEmpty then b.params.findIdx? fun p => t.isNamed p else Option.none

/-- Whether a type is one of the parameters. -/
def isParam (b : TypeBindings) (t : DataType) : Bool := (b.position? t).isSome

/-- Whether a type is a parameter without an argument. -/
def isUnbound (b : TypeBindings) (t : DataType) : Bool :=
  match b.position? t with
  | some i => b.args.length ≤ i
  | Option.none => false

mutual

/-- The type with its parameters replaced by their arguments. -/
def substitute (b : TypeBindings) : DataType → DataType
  | ⟨name, args⟩ =>
    match b.position? ⟨name, args⟩ with
    | some i => b.args.getD i ⟨name, args⟩
    | Option.none => ⟨name, substituteAll b args⟩

/-- The types with their parameters replaced by their arguments. -/
def substituteAll (b : TypeBindings) : List DataType → List DataType
  | [] => []
  | t :: ts => substitute b t :: substituteAll b ts

end

end TypeBindings

end ClassScript
