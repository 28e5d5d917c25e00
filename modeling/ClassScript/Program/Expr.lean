import ClassScript.DataType
import ClassScript.Double
import ClassScript.Program.Operator
import ClassScript.Span

/-! # Expressions

A bare name is resolved late: it may denote a local, a field of the enclosing class, or, in front of
a member or a call, a class. Checking and evaluation look in that order. -/

namespace ClassScript

/-- A name as written. -/
structure Ident where
  name : String
  span : Span
deriving DecidableEq, Inhabited

namespace Ident

/-- Whether the identifier spells this name. -/
def isNamed (i : Ident) (name : String) : Bool := sameName i.name name

end Ident

/-- A type as written. -/
structure TypeRef where
  name : Ident
  args : List TypeRef
  span : Span
deriving Inhabited

namespace TypeRef

mutual

/-- The type that is written. -/
def dataType : TypeRef → DataType
  | ⟨name, args, _⟩ => ⟨name.name, dataTypes args⟩

/-- The types that are written. -/
def dataTypes : List TypeRef → List DataType
  | [] => []
  | t :: ts => dataType t :: dataTypes ts

end

end TypeRef

/-- A constant. -/
inductive Literal where
  | integer (value : Int64)
  | double (value : Double)
  | boolean (value : Bool)
  | string (value : String)
  | null
deriving DecidableEq

namespace Literal

/-- The type of a constant. -/
def dataType : Literal → DataType
  | integer _ => .integer
  | double _ => .double
  | boolean _ => .boolean
  | string _ => .string
  | null => .null

end Literal

/-- An expression. -/
inductive Expr where
  | literal (value : Literal) (span : Span)
  /-- A bare name. -/
  | name (ident : Ident)
  | this (span : Span)
  /-- `object.member` -/
  | member (object : Expr) (member : Ident) (span : Span)
  /-- `method(args)`, on the implicit receiver -/
  | call (method : Ident) (args : List Expr) (span : Span)
  /-- `receiver.method(args)` -/
  | callOn (receiver : Expr) (method : Ident) (args : List Expr) (span : Span)
  /-- `new type(args)` -/
  | create (type : TypeRef) (args : List Expr) (span : Span)
  /-- `object[key]` -/
  | index (object key : Expr) (span : Span)
  | binary (op : BinaryOp) (left right : Expr) (span : Span)
  | unary (op : UnaryOp) (operand : Expr) (span : Span)
  | post (op : PostOp) (operand : Expr) (span : Span)
  | assign (op : AssignOp) (target value : Expr) (span : Span)
  /-- `condition ? yes : no` -/
  | conditional (condition yes no : Expr) (span : Span)
  /-- Query text, handed to the query service as it stands. -/
  | query (text : String) (span : Span)

namespace Expr

instance : Inhabited Expr := ⟨.literal .null .unknown⟩

/-- Where the expression was written. -/
def span : Expr → Span
  | literal _ s | this s | member _ _ s | call _ _ s | callOn _ _ _ s | create _ _ s | index _ _ s
  | binary _ _ _ s | unary _ _ s | post _ _ s | assign _ _ _ s | conditional _ _ _ s
  | query _ s => s
  | name i => i.span

/-- The form of the expression in one word. -/
def form : Expr → String
  | literal .. => "Literal"
  | name _ => "Ident"
  | this _ => "This"
  | member .. => "Member"
  | call .. | callOn .. => "Call"
  | create .. => "New"
  | index .. => "Index"
  | binary .. => "Binary"
  | unary .. => "Unary"
  | post .. => "Postfix"
  | assign .. => "Assign"
  | conditional .. => "Ternary"
  | query .. => "Query"

/-- Whether the expression may stand on the left of an assignment. -/
def isAssignable : Expr → Bool
  | name _ | member .. | index .. => true
  | _ => false

end Expr

end ClassScript
