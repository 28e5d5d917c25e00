import ClassScript.Class.Table

/-! # Where a value of a type may go

Nothing is converted: an `Integer` never becomes a `Double`. A variable, a field or a result takes
its own type or `null`; a parameter takes more, namely any value if it is an `Object`, and an
instance of a subclass. -/

namespace ClassScript

namespace DataType

/-- Whether a value of type `value` may be stored where `target` is declared. -/
def fitsExactly (value target : DataType) : Bool := value.isNull || value == target

/-- Whether an argument of type `value` may be passed for a parameter of type `target`. -/
def isAssignable (t : ClassTable) (value target : DataType) : Bool :=
  if value.fitsExactly target || target.isObject then true
  else if !target.args.isEmpty || !value.args.isEmpty then false
  else
    match t.resolve? value.name with
    | some c => c.isSubclassOf t target.name
    | none => false

end DataType

end ClassScript
