import VirtEnv.Hcl.Expr
import VirtEnv.Hcl.Literal
import VirtEnv.Text.Units

/-!
# Lexical units

Blanks, comments, the characters of string literals, numbers and operators, each recognised at
the head of a text.
-/

namespace VirtEnv.Hcl

open VirtEnv.Text (UnitReader readUnits startsWith isDigit valueIn? hexChar?)

/-! ### Blanks -/

/-- Whether a line break counts as a blank. -/
inductive Lines where
  | one | many
  deriving DecidableEq, Repr

/-- The length of the line break at the head of a text. -/
def lineBreak? : List Char → Option Nat
  | '\n' :: _ => some 1
  | '\r' :: '\n' :: _ => some 2
  | _ => none

/-- The length of a comment's text up to the end of its line.  A carriage return that begins no
line break spoils the comment. -/
def lineRest? : List Char → Option Nat
  | [] => some 0
  | '\n' :: _ => some 0
  | '\r' :: '\n' :: _ => some 0
  | '\r' :: _ => none
  | _ :: cs => (lineRest? cs).map (· + 1)

/-- The length of the comment to the end of the line at the head of a text. -/
def lineComment? : List Char → Option Nat
  | '#' :: cs => (lineRest? cs).map (· + 1)
  | '/' :: '/' :: cs => (lineRest? cs).map (· + 2)
  | _ => none

/-- The length of a text up to and including the mark that ends a bracketed comment. -/
def commentRest? : List Char → Option Nat
  | '*' :: '/' :: _ => some 2
  | _ :: cs => (commentRest? cs).map (· + 1)
  | [] => none

/-- The length of the bracketed comment at the head of a text. -/
def bracketComment? : List Char → Option Nat
  | '/' :: '*' :: cs => (commentRest? cs).map (· + 2)
  | _ => none

/-- A blank: a space, a tab or a bracketed comment and, where an expression may go over many
lines, a line break or a comment to the end of the line. -/
def blank (lines : Lines) : UnitReader Unit
  | [] => none
  | c :: cs =>
      if c == ' ' || c == '\t' then some ((), 0)
      else if lines == .many && (c == '\n' || c == '\r') then some ((), 0)
      else
        let comment :=
          match bracketComment? (c :: cs), lines with
          | some n, _ => some n
          | none, .one => none
          | none, .many => lineComment? (c :: cs)
        comment.map fun n => ((), n - 1)

/-- The number of characters of the blanks at the head of a text. -/
def blankLength (lines : Lines) (cs : List Char) : Nat := (readUnits (blank lines) 0 cs).2

/-! ### Characters of literals -/

/-- The character that an escape stands for, and the length of the escape after the
backslash. -/
def escape? : List Char → Option (Char × Nat)
  | 'n' :: _ => some ('\n', 1)
  | 'r' :: _ => some ('\r', 1)
  | 't' :: _ => some ('\t', 1)
  | 'b' :: _ => some ('\x08', 1)
  | 'f' :: _ => some ('\x0c', 1)
  | '/' :: _ => some ('/', 1)
  | '"' :: _ => some ('"', 1)
  | '\\' :: _ => some ('\\', 1)
  | 'u' :: cs => (hexChar? 4 cs).map (·, 5)
  | 'U' :: cs => (hexChar? 8 cs).map (·, 9)
  | _ => none

/-- A character of the literal text of a multi-line template: a doubled marker start stands for
itself, and the start of a sequence is none. -/
def plainUnit : UnitReader (List Char)
  | c :: d :: e :: _ =>
      if isMarkerStart c && d == c && e == '{' then some ([c, e], 2)
      else if isMarkerStart c && d == '{' then none
      else some ([c], 0)
  | [c, d] => if isMarkerStart c && d == '{' then none else some ([c], 0)
  | [c] => some ([c], 0)
  | [] => none

/-- A character of a quoted literal: as of a multi-line one, with escapes and up to the closing
quote. -/
def quotedUnit : UnitReader (List Char)
  | '"' :: _ => none
  | '\\' :: cs => (escape? cs).map fun r => ([r.1], r.2)
  | cs => plainUnit cs

/-! ### The end of a multi-line template -/

/-- The number of blanks before the closing delimiter at the head of a text.  The delimiter need
not be a whole word. -/
def closing? (name cs : List Char) : Option Nat :=
  let n := (cs.takeWhile fun c => c == ' ' || c == '\t').length
  if name.isPrefixOf (cs.drop n) then some n else none

/-- The length of the line break at the head of a text, if the closing delimiter comes next. -/
def lastLineBreak? (name cs : List Char) : Option Nat := do
  let n ← lineBreak? cs
  let _ ← closing? name (cs.drop n)
  some n

/-! ### The literal text of templates -/

/-- Where the parts of a template stand: between quotes, as a text on their own (also within a
directive, wherever that stands), or on lines before a closing delimiter. -/
inductive TemplateForm where
  | quoted | plain | lines (name : List Char)

namespace TemplateForm

/-- A character of literal text. -/
def unit : TemplateForm → UnitReader (List Char)
  | quoted => quotedUnit
  | plain => plainUnit
  | lines name => fun cs => if (lastLineBreak? name cs).isSome then none else plainUnit cs

/-- The parts end here. -/
def ends : TemplateForm → List Char → Bool
  | quoted, cs => startsWith "\"" cs
  | plain, cs => cs.isEmpty
  | lines name, cs => (lastLineBreak? name cs).isSome

end TemplateForm

/-! ### Numbers -/

/-- The value of decimal digits. -/
def decimalValue (cs : List Char) : Nat := (valueIn? 10 cs).getD 0

/-- The digits at the head of a text. -/
def digits (cs : List Char) : List Char := cs.takeWhile isDigit

/-- The length of the fraction at the head of a text: a point with digits after it. -/
def fractionLength : List Char → Nat
  | '.' :: cs => if (digits cs).isEmpty then 0 else (digits cs).length + 1
  | _ => 0

/-- The sign length of an exponent. -/
def exponentSignLength : List Char → Nat
  | '+' :: _ => 1
  | '-' :: _ => 1
  | _ => 0

/-- The length of the exponent at the head of a text. -/
def exponentLength : List Char → Nat
  | c :: cs =>
      let sign := exponentSignLength cs
      let ds := digits (cs.drop sign)
      if (c == 'e' || c == 'E') && !ds.isEmpty then 1 + sign + ds.length else 0
  | [] => 0

/-- The number at the head of a text that begins with a digit, and its length.  Without fraction
and exponent it is an unsigned 64-bit integer, otherwise the nearest floating-point number, which
must be finite. -/
def number? (cs : List Char) : Option (Number × Nat) :=
  let whole := digits cs
  let afterWhole := cs.drop whole.length
  let fraction := fractionLength afterWhole
  let afterFraction := afterWhole.drop fraction
  let exponent := exponentLength afterFraction
  if fraction == 0 && exponent == 0 then
    let n := decimalValue whole
    if n < Nat.pow 2 64 then some (.ofNat n, whole.length) else none
  else
    let places := (afterWhole.take fraction).drop 1
    let written := (afterFraction.take exponent).drop 1
    let sign := exponentSignLength written
    let power : Int := decimalValue (written.drop sign)
    let power := if written.head? == some '-' then -power else power
    let x := Numeric.Binary64.ofDecimal false (decimalValue (whole ++ places))
      (power - places.length)
    if x.isFinite then some (.ofReal x, whole.length + fraction + exponent) else none

/-! ### Operators -/

/-- The binary operator at the head of a text.  A slash that begins a comment is none. -/
def binaryOp? (cs : List Char) : Option BinaryOp :=
  if startsWith "//" cs || startsWith "/*" cs then none
  else BinaryOp.all.find? fun op => startsWith op.text cs

/-- The unary operator at the head of a text. -/
def unaryOp? : List Char → Option UnaryOp
  | '-' :: _ => some .neg
  | '!' :: _ => some .not
  | _ => none

/-- A number follows a minus sign, with blanks of one line between them. -/
def isNegativeNumber : List Char → Bool
  | '-' :: cs => (digits (cs.drop (blankLength .one cs))) != []
  | _ => false

/-- A unary operator that is not the sign of a number, with the blanks of one line after it. -/
def unaryUnit : UnitReader UnaryOp
  | c :: cs =>
      if isNegativeNumber (c :: cs) then none
      else (unaryOp? (c :: cs)).map (·, blankLength .one cs)
  | [] => none

/-- An access to a part of a value begins here. -/
def atAccess : List Char → Bool
  | '.' :: '.' :: _ => false
  | '.' :: _ => true
  | '[' :: _ => true
  | _ => false

end VirtEnv.Hcl
