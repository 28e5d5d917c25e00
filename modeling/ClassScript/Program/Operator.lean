/-! # Operators -/

namespace ClassScript

/-- Operators between two operands. -/
inductive BinaryOp where
  | add | sub | mul | div | rem
  | equal | notEqual
  | less | lessEqual | greater | greaterEqual
  | and | or
deriving DecidableEq, Repr

namespace BinaryOp

/-- `- * / %`; a sum may also concatenate text and stands apart. -/
def isNumeric : BinaryOp → Bool
  | sub | mul | div | rem => true
  | _ => false

def isEquality : BinaryOp → Bool
  | equal | notEqual => true
  | _ => false

def isRelational : BinaryOp → Bool
  | less | lessEqual | greater | greaterEqual => true
  | _ => false

/-- Operators that may leave their right operand unevaluated. -/
def isLogical : BinaryOp → Bool
  | and | or => true
  | _ => false

/-- The operator as written. -/
def symbol : BinaryOp → String
  | add => "+"
  | sub => "-"
  | mul => "*"
  | div => "/"
  | rem => "%"
  | equal => "=="
  | notEqual => "!="
  | less => "<"
  | lessEqual => "<="
  | greater => ">"
  | greaterEqual => ">="
  | and => "&&"
  | or => "||"

/-- The name of the operator. -/
def name : BinaryOp → String
  | add => "Add"
  | sub => "Sub"
  | mul => "Mul"
  | div => "Div"
  | rem => "Mod"
  | equal => "Equal"
  | notEqual => "NotEqual"
  | less => "Less"
  | lessEqual => "LessEqual"
  | greater => "Greater"
  | greaterEqual => "GreaterEqual"
  | and => "LogicalAnd"
  | or => "LogicalOr"

def all : List BinaryOp :=
  [add, sub, mul, div, rem, equal, notEqual, less, lessEqual, greater, greaterEqual, and, or]

/-- The operator that a symbol stands for. -/
def ofSymbol? (symbol : String) : Option BinaryOp := all.find? fun op => op.symbol == symbol

end BinaryOp

/-- Operators in front of their operand. -/
inductive UnaryOp where
  | plus | neg | not | inc | dec
deriving DecidableEq, Repr

namespace UnaryOp

/-- Whether the operator writes back to its operand. -/
def mutates : UnaryOp → Bool
  | inc | dec => true
  | _ => false

/-- The operator as written. -/
def symbol : UnaryOp → String
  | plus => "+"
  | neg => "-"
  | not => "!"
  | inc => "++"
  | dec => "--"

/-- The name of the operator. -/
def name : UnaryOp → String
  | plus => "Plus"
  | neg => "Neg"
  | not => "Not"
  | inc => "PreInc"
  | dec => "PreDec"

def all : List UnaryOp := [plus, neg, not, inc, dec]

/-- The operator that a symbol stands for. -/
def ofSymbol? (symbol : String) : Option UnaryOp := all.find? fun op => op.symbol == symbol

end UnaryOp

/-- Operators behind their operand; both write back to it. -/
inductive PostOp where
  | inc | dec
deriving DecidableEq, Repr

namespace PostOp

/-- The operator as written. -/
def symbol : PostOp → String
  | inc => "++"
  | dec => "--"

/-- The name of the operator. -/
def name : PostOp → String
  | inc => "PostInc"
  | dec => "PostDec"

def all : List PostOp := [inc, dec]

/-- The operator that a symbol stands for. -/
def ofSymbol? (symbol : String) : Option PostOp := all.find? fun op => op.symbol == symbol

end PostOp

/-- Assignment, plain or combined with an operator. -/
inductive AssignOp where
  | set | add | sub | mul | div
deriving DecidableEq, Repr

namespace AssignOp

/-- The operator that a compound assignment applies before it stores. -/
def binary? : AssignOp → Option BinaryOp
  | set => none
  | add => some .add
  | sub => some .sub
  | mul => some .mul
  | div => some .div

/-- The operator as written. -/
def symbol : AssignOp → String
  | set => "="
  | add => "+="
  | sub => "-="
  | mul => "*="
  | div => "/="

/-- The name of the operator. -/
def name : AssignOp → String
  | set => "Assign"
  | add => "AddAssign"
  | sub => "SubAssign"
  | mul => "MulAssign"
  | div => "DivAssign"

def all : List AssignOp := [set, add, sub, mul, div]

/-- The operator that a symbol stands for. -/
def ofSymbol? (symbol : String) : Option AssignOp := all.find? fun op => op.symbol == symbol

end AssignOp

end ClassScript
