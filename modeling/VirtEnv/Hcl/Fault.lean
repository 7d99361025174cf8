import VirtEnv.Hcl.Expr.Text
import VirtEnv.Hcl.Value

/-!
# Faults of evaluation

Why an expression has no value, and where.  A fault is found by one expression and is reported
with the expression that encloses it: `Outcome.within p` names `p` as the place of a fault that
has none yet, so the innermost enclosing expression is the one reported.
-/

namespace VirtEnv.Hcl

/-- What an expression asks of a value. -/
inductive Expectation where
  | object | array | unsigned | unsignedOrString | boolean | collection | key
  deriving DecidableEq, Repr

/-- The wording of an expectation. -/
def Expectation.text : Expectation → String
  | object => "an object"
  | array => "an array"
  | unsigned => "an unsigned integer"
  | unsignedOrString => "an unsigned integer or string"
  | boolean => "a boolean"
  | collection => "an array or object"
  | key => "a string, boolean or number"

/-- Why an expression has no value. -/
inductive Cause where
  | undefinedVariable (name : String)
  | undefinedFunction (name : String)
  | noSuchKey (key : String)
  | indexOutOfBounds (n : Nat)
  | unexpected (v : Value) (expected : Expectation)
  | keyExists (key : String)
  | unaryNotApplicable (op : UnaryOp) (v : Value)
  | binaryNotApplicable (op : BinaryOp) (a b : Value)
  | malformedTemplate

/-- A text between grave accents. -/
def ticked (s : String) : String := "\x60" ++ s ++ "\x60"

/-- The wording of a cause. -/
def Cause.text : Cause → String
  | undefinedVariable name => "undefined variable " ++ ticked name
  | undefinedFunction name => "undefined function " ++ ticked name
  | noSuchKey key => "no such key: " ++ ticked key
  | indexOutOfBounds n => "index out of bounds: " ++ Numeric.digitText n
  | unexpected v expected => "unexpected value " ++ ticked v.text ++ ", expected " ++ expected.text
  | keyExists key => "key " ++ ticked key ++ " already exists"
  | unaryNotApplicable op v =>
      "unary operator " ++ ticked op.text ++ " is not applicable to " ++ ticked v.text
  | binaryNotApplicable op a b =>
      "binary operator " ++ ticked op.text ++ " is not applicable to " ++ ticked a.text ++ " and "
        ++ ticked b.text
  | malformedTemplate => "malformed template"

/-- A cause, and the expression it is reported with once that is known. -/
structure Fault where
  cause : Cause
  site : Option Expr

/-- The message of a fault. -/
def Fault.message (f : Fault) : String :=
  match f.site with
  | some e => f.cause.text ++ " in expression " ++ ticked e.text
  | none => f.cause.text

/-- What ends a whole run, without a message: a division of integers that has no remainder. -/
inductive Abort where
  | remainder (why : NoRemainder)
  deriving DecidableEq, Repr

/-- How evaluation fails. -/
inductive Failure where
  | fault (f : Fault)
  | abort (a : Abort)

/-- The result of evaluating. -/
abbrev Outcome (α : Type) := Except Failure α

namespace Outcome

/-- Fails with a cause whose place is not known yet. -/
def raise {α : Type} (cause : Cause) : Outcome α := .error (.fault ⟨cause, none⟩)

/-- Names `p` as the place of a fault that has none. -/
def within {α : Type} (p : Expr) : Outcome α → Outcome α
  | .error (.fault ⟨cause, none⟩) => .error (.fault ⟨cause, some p⟩)
  | r => r

end Outcome

end VirtEnv.Hcl
