import VirtEnv.Numeric.Binary64
import VirtEnv.Text.Digits

/-!
# YAML scalars

A text is written plain where a reader takes it for the same text.  One that would be read as
another type (`null`, `true`, `1.5`) stands between single quotes, and so does one that cannot be
plain for its characters; one that single quotes cannot hold stands between double quotes.  A text
with line breaks is a literal block if possible.
-/

namespace VirtEnv.Output.Yaml

open VirtEnv.Numeric (Binary64)

/-! ### Characters -/

/-- A character that ends a line. -/
def isBreak (c : Char) : Bool :=
  c == '\n' || c == '\r' || c == '\u0085' || c == '\u2028' || c == '\u2029'

/-- A blank, or the end of a line or text. -/
def isGap (c : Char) : Bool := c == ' ' || c == '\t' || c == '\x00' || isBreak c

/-- A character that needs no escape. -/
def isPrintable (c : Char) : Bool :=
  let n := c.toNat
  c == '\n' || (0x20 ≤ n && n ≤ 0x7e) || (0xa0 ≤ n && n ≤ 0xd7ff)
    || (0xe000 ≤ n && n ≤ 0xfffd && n != 0xfeff) || 0x10000 ≤ n

/-- A character that means something else than itself at the beginning of a plain scalar. -/
def isIndicator (c : Char) : Bool := "#,[]\x7b\x7d&*!|>'\"%@\x60".toList.contains c

/-! ### What a text allows -/

/-- The text has a character of the first class directly before one of the second. -/
def hasPair (first second : Char → Bool) : List Char → Bool
  | c :: d :: cs => (first c && second d) || hasPair first second (d :: cs)
  | _ => false

/-- A place in a text, given the character before it, begins a comment or ends a key; the end of
the text counts as a gap. -/
def hasMarkAfter (previous : Char) : List Char → Bool
  | [] => false
  | c :: cs =>
      (c == '#' && isGap previous) || (c == ':' && (cs.head?.map isGap).getD true)
        || hasMarkAfter c cs

/-- A plain text would be taken for something else. -/
def looksMarked (cs : List Char) : Bool :=
  "---".toList.isPrefixOf cs || "...".toList.isPrefixOf cs || hasMarkAfter ' ' cs
    || (match cs with
      | [] => false
      | c :: rest =>
          isIndicator c || ((c == '?' || c == '-') && (rest.head?.map isGap).getD true))

/-- A space stands at the end of a line of the text. -/
def hasSpaceBeforeBreak : List Char → Bool := hasPair (· == ' ') isBreak

/-- A text that neither quotes nor blocks can hold as it is. -/
def needsEscape (cs : List Char) : Bool := !cs.all isPrintable || hasSpaceBeforeBreak cs

/-- A text that can stand between single quotes. -/
def fitsSingleQuotes (cs : List Char) : Bool :=
  !needsEscape cs && !hasPair isBreak (· == ' ') cs

/-- A text that can stand plain. -/
def fitsPlain (cs : List Char) : Bool :=
  fitsSingleQuotes cs && !cs.any isBreak && !looksMarked cs
    && cs.head? != some ' ' && cs.getLast? != some ' '

/-- A text that can be a literal block. -/
def fitsBlock (cs : List Char) : Bool := !needsEscape cs && cs.getLast? != some ' '

/-! ### Texts that read as another type -/

/-- A sign at the head of a text is negative, and the text after it. -/
def signRun : List Char → Bool × List Char
  | '+' :: cs => (false, cs)
  | '-' :: cs => (true, cs)
  | cs => (false, cs)

/-- Decimal digits after a leading zero, with or without a sign: neither an integer nor a float. -/
def isZeroLed (cs : List Char) : Bool :=
  match (signRun cs).2 with
  | '0' :: ds => !ds.isEmpty && ds.all Text.isDigit
  | _ => false

/-- An integer written with a base, of at most 128 bits. -/
def isBasedInteger (cs : List Char) : Bool :=
  let (negative, cs) := signRun cs
  let fits (base : Nat) (ds : List Char) : Bool :=
    !ds.isEmpty && (match Text.valueIn? base ds with
      | some n => if negative then n ≤ Nat.pow 2 127 else n < Nat.pow 2 128
      | none => false)
  match cs with
  | '0' :: 'x' :: ds => fits 16 ds
  | '0' :: 'o' :: ds => fits 8 ds
  | '0' :: 'b' :: ds => fits 2 ds
  | _ => false

/-- The exponent that ends a number: no text, or a mark with digits that may have a sign. -/
def exponent? : List Char → Option Int
  | [] => some 0
  | mark :: cs =>
      let (negative, ds) := signRun cs
      if (mark == 'e' || mark == 'E') && !ds.isEmpty then
        (Text.valueIn? 10 ds).map fun n => if negative then -(n : Int) else n
      else none

/-- The number that a decimal text is: digits with at most one point among them, and an exponent
after them. -/
def decimal? (cs : List Char) : Option Binary64 := do
  let (negative, cs) := signRun cs
  let whole := cs.takeWhile Text.isDigit
  let rest := cs.drop whole.length
  let places := if rest.head? == some '.' then (rest.drop 1).takeWhile Text.isDigit else []
  let rest := if rest.head? == some '.' then rest.drop (places.length + 1) else rest
  if whole.isEmpty && places.isEmpty then none
  else
    let power ← exponent? rest
    let n ← Text.valueIn? 10 (whole ++ places)
    some (Binary64.ofDecimal negative n (power - places.length))

/-- The words for what is no finite number. -/
def isSpecialNumber (s : String) : Bool :=
  [".nan", ".NaN", ".NAN"].contains s
    || [".inf", ".Inf", ".INF"].contains (String.ofList (signRun s.toList).2)

/-- The words for null and the truth values, and the empty text, which reads as null. -/
def isWord (s : String) : Bool :=
  ["", "~", "null", "Null", "NULL", "true", "True", "TRUE", "false", "False", "FALSE"].contains s

/-- A plain text would read as another type. -/
def readsAsOther (s : String) : Bool :=
  let cs := s.toList
  isWord s || isSpecialNumber s || isZeroLed cs || isBasedInteger cs
    || (match decimal? cs with
      | some x => x.isFinite
      | none => false)

/-! ### Writing -/

/-- The letter of an escape, for the characters that have one. -/
def escapeLetter? (c : Char) : Option Char :=
  [('\x00', '0'), ('\x07', 'a'), ('\x08', 'b'), ('\t', 't'), ('\n', 'n'), ('\x0b', 'v'),
    ('\x0c', 'f'), ('\r', 'r'), ('\x1b', 'e'), ('"', '"'), ('\\', '\\'), ('\u0085', 'N'),
    ('\u2028', 'L'), ('\u2029', 'P')].lookup c

/-- One character between double quotes. -/
def escape (c : Char) : String :=
  match escapeLetter? c with
  | some letter => "\\" ++ letter.toString
  | none =>
      if isPrintable c then c.toString
      else if c.toNat < 0x100 then "\\x" ++ Text.upperHexDigits 2 c.toNat
      else if c.toNat < 0x10000 then "\\u" ++ Text.upperHexDigits 4 c.toNat
      else "\\U" ++ Text.upperHexDigits 8 c.toNat

/-- A text between double quotes. -/
def doubleQuoted (s : String) : String := "\"" ++ String.join (s.toList.map escape) ++ "\""

/-- The indentation of a level. -/
def margin (width : Nat) : String := String.ofList (List.replicate width ' ')

/-- Characters with an indentation at the beginning of each line; `fresh` says that a line
begins here. -/
def indentLines (write : Char → String) (width : Nat) : Bool → List Char → String
  | _, [] => ""
  | fresh, c :: cs =>
      if isBreak c then c.toString ++ indentLines write width true cs
      else (if fresh then margin width else "") ++ write c ++ indentLines write width false cs

/-- A text between single quotes; a quote is written twice, and lines after the first are
indented. -/
def singleQuoted (width : Nat) (s : String) : String :=
  let cs := s.toList
  "'" ++ indentLines (fun c => if c == '\'' then "''" else c.toString) width false cs
    ++ (if (cs.getLast?.map isBreak).getD false then margin width else "") ++ "'"

/-- The mark for how a block ends: without a line break, with one, or with more. -/
def chomp (cs : List Char) : String :=
  match cs.reverse with
  | [] => "-"
  | c :: rest =>
      if !isBreak c then "-"
      else
        match rest with
        | [] => "+"
        | d :: _ => if isBreak d then "+" else ""

/-- A text as a literal block of indented lines. -/
def literalBlock (width : Nat) (s : String) : String :=
  let cs := s.toList
  let hint := if (cs.head?.map fun c => c == ' ' || isBreak c).getD false then "2" else ""
  "|" ++ hint ++ chomp cs ++ "\n" ++ indentLines Char.toString width true cs

/-- A text as a scalar; lines after the first are indented. -/
def scalar (width : Nat) (s : String) : String :=
  let cs := s.toList
  if cs.contains '\n' then if fitsBlock cs then literalBlock width s else doubleQuoted s
  else if fitsPlain cs && !readsAsOther s then s
  else if fitsSingleQuotes cs then singleQuoted width s
  else doubleQuoted s

end VirtEnv.Output.Yaml
