import ClassScript.Typing.Assignable
import ClassScript.Typing.Bindings

/-! # Overload resolution

Which of several methods of one name a call means. Of the candidates with as many parameters as
there are arguments, it is the first whose parameter types equal the argument types; otherwise the
first that accepts them; otherwise the first with the right number of parameters, or the very first.
Checking feeds in static types and evaluation the types of values. An argument of unknown type, and
a generic parameter without an argument, count as equal. -/

namespace ClassScript

/-- How a candidate was selected. -/
inductive MatchKind where
  /-- Every parameter type equals its argument type. -/
  | exact
  /-- Every parameter accepts its argument. -/
  | compatible
  /-- No candidate accepts the arguments. -/
  | fallback
deriving DecidableEq

namespace MatchKind

def text : MatchKind → String
  | exact => "Exact"
  | compatible => "Compatible"
  | fallback => "Fallback"

end MatchKind

/-- The selected method. -/
structure OverloadMatch where
  method : MethodInfo
  kind : MatchKind

namespace OverloadMatch

def isExact (m : OverloadMatch) : Bool := m.kind = .exact

def isFallback (m : OverloadMatch) : Bool := m.kind = .fallback

/-- Whether the selected method takes this many arguments. -/
def acceptsArity (m : OverloadMatch) (count : Nat) : Bool := m.method.arity = count

end OverloadMatch

namespace Overload

/-- Whether a parameter type equals an argument type. -/
def argumentEquals (b : TypeBindings) (param : DataType) : Option DataType → Bool
  | none => true
  | some arg => b.isUnbound (b.substitute param) || arg == b.substitute param

/-- Whether a parameter accepts an argument. -/
def argumentMatches (t : ClassTable) (b : TypeBindings) (param : DataType) :
    Option DataType → Bool
  | none => true
  | some arg => b.isUnbound (b.substitute param) || arg.isAssignable t (b.substitute param)

/-- Whether a relation holds between parameters and arguments, position by position. -/
def allArguments (rel : DataType → Option DataType → Bool) (m : MethodInfo)
    (args : List (Option DataType)) : Bool :=
  (m.paramTypes.zip args).all fun (p, a) => rel p a

/-- The overload that a call means; there is none only without candidates. -/
def resolve (t : ClassTable) (b : TypeBindings) (candidates : List MethodInfo)
    (args : List (Option DataType)) : Option OverloadMatch :=
  match candidates with
  | [] => none
  | first :: _ =>
    let sameArity := candidates.filter fun m => m.arity = args.length
    match sameArity.find? fun m => allArguments (argumentEquals b) m args with
    | some m => some ⟨m, .exact⟩
    | none =>
      match sameArity.find? fun m => allArguments (argumentMatches t b) m args with
      | some m => some ⟨m, .compatible⟩
      | none => some ⟨sameArity.headD first, .fallback⟩

end Overload

end ClassScript
