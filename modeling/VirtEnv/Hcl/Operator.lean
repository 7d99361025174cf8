/-!
# Operators

The operators of expressions, how they are written and how tightly they bind.
-/

namespace VirtEnv.Hcl

/-- Operators before one operand. -/
inductive UnaryOp where
  | neg | not
  deriving DecidableEq, Repr

/-- Operators between two operands. -/
inductive BinaryOp where
  | eq | ne | le | ge | lt | gt | add | sub | mul | div | rem | and | or
  deriving DecidableEq, Repr

/-- The written form. -/
def UnaryOp.text : UnaryOp → String
  | neg => "-"
  | not => "!"

namespace BinaryOp

/-- The written form. -/
def text : BinaryOp → String
  | eq => "=="
  | ne => "!="
  | le => "<="
  | ge => ">="
  | lt => "<"
  | gt => ">"
  | add => "+"
  | sub => "-"
  | mul => "*"
  | div => "/"
  | rem => "%"
  | and => "&&"
  | or => "||"

/-- The binding strength; a stronger operator takes its operands first. -/
def precedence : BinaryOp → Nat
  | mul | div | rem => 6
  | add | sub => 5
  | le | ge | lt | gt => 4
  | eq | ne => 3
  | and => 2
  | or => 1

/-- All operators, those first that begin with another one. -/
def all : List BinaryOp :=
  [eq, ne, le, ge, lt, gt, add, sub, mul, div, rem, and, or]

end BinaryOp

end VirtEnv.Hcl
