import VirtEnv.Hcl.Number
import VirtEnv.Hcl.Operator

/-!
# Expressions

The expressions of the configuration language, as a document writes them.  A run of binary
operators without parentheses is one `chain`, in written order; how it groups is decided when it
is evaluated (`VirtEnv.Hcl.Grouping`).

A template keeps two things: the text between its delimiters as it is shown, and the parts that
make up its value.  In the shown text the escapes of a literal are gone, so it may read
differently from what was written; the parts are then those of the shown text
(`VirtEnv.Hcl.Expr.Reread`).
-/

namespace VirtEnv.Hcl

/-- The names a `for` binds: one for the key or position, if wanted, and one for the value. -/
structure Binder where
  key : Option String
  value : String
  deriving DecidableEq, Repr

/-- A delimited part of a template: whether it strips the literal text before and after it, and
whether blanks stand around the keyword it begins with. -/
structure Marker where
  stripsBefore : Bool
  stripsAfter : Bool
  spaced : Bool
  deriving DecidableEq, Repr

/-- The delimiter of a multi-line template: its name, the indentation that was removed from the
lines, and whether blanks stand before its end. -/
structure Delimiter where
  name : String
  indentation : Nat
  spaced : Bool
  deriving DecidableEq, Repr

mutual

/-- An expression. -/
inductive Expr where
  | null
  | bool (b : Bool)
  | number (n : Number)
  | string (s : String)
  | array (items : List Expr)
  | object (fields : List (ObjectKey × Expr))
  | template (text : String) (parts : List Segment)
  | heredoc (delimiter : Delimiter) (text : String) (parts : List Segment)
  | variable (name : String)
  | traversal (base : Expr) (steps : List Step)
  | call (function : String) (args : List Expr) (expandFinal : Bool)
  | paren (e : Expr)
  | conditional (condition yes no : Expr)
  | unary (op : UnaryOp) (e : Expr)
  | chain (first : Expr) (rest : List (BinaryOp × Expr))
  | forList (binder : Binder) (collection value : Expr) (condition : Option Expr)
  | forObject (binder : Binder) (collection key value : Expr) (grouped : Bool)
      (condition : Option Expr)

/-- A key of an object expression: a bare name, or an expression. -/
inductive ObjectKey where
  | name (s : String)
  | computed (e : Expr)

/-- One access to a part of a value. -/
inductive Step where
  | member (name : String)
  | position (n : Nat)
  | index (e : Expr)
  | memberSplat
  | fullSplat

/-- A part of a template; a text that is no template has a single part, which is malformed. -/
inductive Segment where
  | literal (text : String)
  | interpolation (marker : Marker) (e : Expr)
  | branch (opening : Marker) (condition : Expr) (yes : List Segment) (middle : Option Marker)
      (no : List Segment) (closing : Marker)
  | repetition (opening : Marker) (binder : Binder) (collection : Expr) (body : List Segment)
      (closing : Marker)
  | malformed

end

end VirtEnv.Hcl
