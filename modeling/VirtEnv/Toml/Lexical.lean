import VirtEnv.Text.Digits
import VirtEnv.Text.Units
import VirtEnv.Toml.Value

/-!
# Lexical units of TOML

Strings, numbers, dates and times, each recognised at the head of a text.
-/

namespace VirtEnv.Toml

open VirtEnv.Text (UnitReader readUnits startsWith isDigit digitIn? valueIn? hexChar?)

/-! ### Character classes -/

/-- A character that may stand in a comment or a string on one line. -/
def isPlain (c : Char) : Bool := c == '\t' || (32 ≤ c.toNat && c.toNat != 127)

/-- A character of a bare key. -/
def isKeyChar (c : Char) : Bool := c.isAlphanum || c == '_' || c == '-'

/-- A space or a tab. -/
def isSpace (c : Char) : Bool := c == ' ' || c == '\t'

/-- The length of the line break at the head of a text. -/
def newline? : List Char → Option Nat
  | '\n' :: _ => some 1
  | '\r' :: '\n' :: _ => some 2
  | _ => none

/-! ### Strings -/

/-- The character that an escape stands for, and the length of the escape after the
backslash. -/
def escape? : List Char → Option (Char × Nat)
  | 'b' :: _ => some ('\x08', 1)
  | 't' :: _ => some ('\t', 1)
  | 'n' :: _ => some ('\n', 1)
  | 'f' :: _ => some ('\x0c', 1)
  | 'r' :: _ => some ('\r', 1)
  | '"' :: _ => some ('"', 1)
  | '\\' :: _ => some ('\\', 1)
  | 'u' :: cs => (hexChar? 4 cs).map (·, 5)
  | 'U' :: cs => (hexChar? 8 cs).map (·, 9)
  | _ => none

/-- A character of a string on one line between double quotes. -/
def basicUnit : UnitReader (List Char)
  | '\\' :: cs => (escape? cs).map fun r => ([r.1], r.2)
  | c :: _ => if c != '"' && isPlain c then some ([c], 0) else none
  | [] => none

/-- A character of a string on one line between single quotes. -/
def literalUnit : UnitReader (List Char)
  | c :: _ => if c != '\'' && isPlain c then some ([c], 0) else none
  | [] => none

/-- The number of quotes at the head of a text. -/
def quoteRun (quote : Char) (cs : List Char) : Nat := (cs.takeWhile (· == quote)).length

/-- The length of blanks and line breaks at the head of a text. -/
def gapLength : List Char → Nat
  | [] => 0
  | '\r' :: '\n' :: cs => gapLength cs + 2
  | c :: cs => if c == ' ' || c == '\t' || c == '\n' then gapLength cs + 1 else 0

/-- The length of a line's end after a backslash, with the blanks and line breaks after it. -/
def lineEndLength? (cs : List Char) : Option Nat :=
  let blanks := (cs.takeWhile isSpace).length
  if (newline? (cs.drop blanks)).isSome then some (gapLength cs) else none

/-- A character of a string over many lines between double quotes. -/
def basicLinesUnit : UnitReader (List Char)
  | '\\' :: cs =>
      match lineEndLength? cs with
      | some n => some ([], n)
      | none => (escape? cs).map fun r => ([r.1], r.2)
  | '\n' :: _ => some (['\n'], 0)
  | '\r' :: '\n' :: _ => some (['\n'], 1)
  | '"' :: cs => if quoteRun '"' cs < 2 then some (['"'], 0) else none
  | c :: _ => if isPlain c then some ([c], 0) else none
  | [] => none

/-- A character of a string over many lines between single quotes. -/
def literalLinesUnit : UnitReader (List Char)
  | '\n' :: _ => some (['\n'], 0)
  | '\r' :: '\n' :: _ => some (['\n'], 1)
  | '\'' :: cs => if quoteRun '\'' cs < 2 then some (['\''], 0) else none
  | c :: _ => if isPlain c then some ([c], 0) else none
  | [] => none

/-- The string at the head of a text, after its opening quotes: its characters, and the text
after the closing quotes. -/
def closedBy? (unit : UnitReader (List Char)) (quotes : String) (cs : List Char) :
    Option (String × List Char) :=
  let r := readUnits unit 0 cs
  let after := cs.drop r.2
  if startsWith quotes after then
    some (String.ofList r.1.flatten, after.drop quotes.length)
  else none

/-- The string over many lines at the head of a text, after its opening quotes.  A line break
right after them does not count, and up to two quotes may stand before the closing ones. -/
def linesClosedBy? (unit : UnitReader (List Char)) (quote : Char) (cs : List Char) :
    Option (String × List Char) :=
  let cs := cs.drop ((newline? cs).getD 0)
  let r := readUnits unit 0 cs
  let after := cs.drop r.2
  let n := quoteRun quote after
  if 3 ≤ n then
    let extra := min (n - 3) 2
    some (String.ofList (r.1.flatten ++ List.replicate extra quote), after.drop (extra + 3))
  else none

/-- The string on one line at the head of a text. -/
def shortString? : List Char → Option (String × List Char)
  | '"' :: cs => closedBy? basicUnit "\"" cs
  | '\'' :: cs => closedBy? literalUnit "'" cs
  | _ => none

/-- The string at the head of a text. -/
def string? : List Char → Option (String × List Char)
  | '"' :: '"' :: '"' :: cs => linesClosedBy? basicLinesUnit '"' cs
  | '\'' :: '\'' :: '\'' :: cs => linesClosedBy? literalLinesUnit '\'' cs
  | cs => shortString? cs

/-! ### Numbers -/

/-- The digits of a base at the head of a text, with single underscores between them, and the
text after them. -/
def digitRun (base : Nat) : List Char → List Char × List Char
  | c :: '_' :: d :: cs =>
      if (digitIn? base c).isSome && (digitIn? base d).isSome then
        let r := digitRun base (d :: cs)
        (c :: r.1, r.2)
      else if (digitIn? base c).isSome then ([c], '_' :: d :: cs)
      else ([], c :: '_' :: d :: cs)
  | c :: cs =>
      if (digitIn? base c).isSome then
        let r := digitRun base cs
        (c :: r.1, r.2)
      else ([], c :: cs)
  | [] => ([], [])

/-- The sign at the head of a text: whether it is negative, whether there is one, and the text
after it. -/
def signRun : List Char → Bool × Bool × List Char
  | '+' :: cs => (false, true, cs)
  | '-' :: cs => (true, true, cs)
  | cs => (false, false, cs)

/-- A signed 64-bit integer. -/
def int64? (i : Int) : Option Value :=
  if -(Nat.pow 2 63) ≤ i && i < Nat.pow 2 63 then some (.integer i) else none

/-- The integer in a base other than ten at the head of a text, after its mark. -/
def basedInteger? (base : Nat) (cs : List Char) : Option (Value × List Char) := do
  let (ds, rest) := digitRun base cs
  if ds.isEmpty then none
  else some (← int64? (← valueIn? base ds), rest)

/-- The exponent at the head of a text. -/
def exponentRun? : List Char → Option (Int × List Char)
  | c :: cs =>
      if c == 'e' || c == 'E' then
        let (negative, _, cs) := signRun cs
        let (ds, rest) := digitRun 10 cs
        if ds.isEmpty then none
        else (valueIn? 10 ds).map fun n => (if negative then -(n : Int) else n, rest)
      else none
  | [] => none

/-- The decimal number at the head of a text.  The digits before a point begin with no zero, and
a number with a fraction or an exponent is the nearest floating-point number, which may not be
the positive infinity. -/
def decimal? (cs : List Char) : Option (Value × List Char) := do
  let (negative, _, cs) := signRun cs
  let (whole, afterWhole) := digitRun 10 cs
  if whole.isEmpty || (whole.length > 1 && whole.head? == some '0') then none
  else
    let (places, afterPlaces) :=
      match afterWhole with
      | '.' :: more =>
          let r := digitRun 10 more
          if r.1.isEmpty then ([], afterWhole) else r
      | _ => ([], afterWhole)
    let exponent := exponentRun? afterPlaces
    if places.isEmpty && exponent.isNone then
      let n ← valueIn? 10 whole
      some (← int64? (if negative then -(n : Int) else n), afterWhole)
    else
      let (power, rest) := exponent.getD (0, afterPlaces)
      let n ← valueIn? 10 (whole ++ places)
      let x := Numeric.Binary64.ofDecimal negative n (power - places.length)
      if x == .infinity false then none else some (.real x, rest)

/-- The number at the head of a text that has a name. -/
def namedNumber? (cs : List Char) : Option (Value × List Char) :=
  let (negative, _, rest) := signRun cs
  if startsWith "inf" rest then some (.real (.infinity negative), rest.drop 3)
  else if startsWith "nan" rest then some (.real .nan, rest.drop 3)
  else none

/-- The number at the head of a text. -/
def number? : List Char → Option (Value × List Char)
  | '0' :: 'x' :: cs => basedInteger? 16 cs
  | '0' :: 'o' :: cs => basedInteger? 8 cs
  | '0' :: 'b' :: cs => basedInteger? 2 cs
  | cs => (namedNumber? cs).orElse fun _ => decimal? cs

/-! ### Dates and times -/

/-- A number of exactly `count` digits at the head of a text, with its digits. -/
def fixedDigits? (count : Nat) (cs : List Char) : Option (Nat × List Char) :=
  let ds := cs.take count
  if ds.length == count && ds.all isDigit then
    (valueIn? 10 ds).map fun n => (n, cs.drop count)
  else none

/-- A character at the head of a text. -/
def one? (c : Char) : List Char → Option (List Char)
  | d :: cs => if c == d then some cs else none
  | [] => none

/-- The number of days of a month. -/
def daysIn (year month : Nat) : Nat :=
  let leap := year % 4 == 0 && (year % 100 != 0 || year % 400 == 0)
  if month == 2 then (if leap then 29 else 28)
  else if month == 4 || month == 6 || month == 9 || month == 11 then 30
  else 31

/-- A number with leading zeros up to `width` digits. -/
def padded (width n : Nat) : String :=
  let s := Numeric.digitText n
  Numeric.zeros (width - s.length) ++ s

/-- The date at the head of a text, in its usual form. -/
def date? (cs : List Char) : Option (String × List Char) := do
  let (year, cs) ← fixedDigits? 4 cs
  let cs ← one? '-' cs
  let (month, cs) ← fixedDigits? 2 cs
  let cs ← one? '-' cs
  let (day, cs) ← fixedDigits? 2 cs
  if 1 ≤ month && month ≤ 12 && 1 ≤ day && day ≤ daysIn year month then
    some (padded 4 year ++ "-" ++ padded 2 month ++ "-" ++ padded 2 day, cs)
  else none

/-- The fraction of a second at the head of a text: at most nine digits count, without zeros at
the end. -/
def fraction? (cs : List Char) : Option (String × List Char) :=
  match cs with
  | '.' :: more =>
      let ds := more.takeWhile isDigit
      let kept := ((ds.take 9).reverse.dropWhile (· == '0')).reverse
      if ds.isEmpty then none
      else some (if kept.isEmpty then "" else "." ++ String.ofList kept, more.drop ds.length)
  | cs => some ("", cs)

/-- The time of day at the head of a text, in its usual form. -/
def time? (cs : List Char) : Option (String × List Char) := do
  let (hour, cs) ← fixedDigits? 2 cs
  let cs ← one? ':' cs
  let (minute, cs) ← fixedDigits? 2 cs
  let cs ← one? ':' cs
  let (second, cs) ← fixedDigits? 2 cs
  let (fraction, cs) ← fraction? cs
  if hour ≤ 23 && minute ≤ 59 && second ≤ 60 then
    some (padded 2 hour ++ ":" ++ padded 2 minute ++ ":" ++ padded 2 second ++ fraction, cs)
  else none

/-- The distance from universal time at the head of a text, in its usual form. -/
def offset? : List Char → Option (String × List Char)
  | 'Z' :: cs => some ("Z", cs)
  | 'z' :: cs => some ("Z", cs)
  | c :: cs =>
      if c == '+' || c == '-' then do
        let (hour, cs) ← fixedDigits? 2 cs
        let cs ← one? ':' cs
        let (minute, cs) ← fixedDigits? 2 cs
        let sign := if c == '-' && hour + minute > 0 then "-" else "+"
        if hour ≤ 23 && minute ≤ 59 then
          some (sign ++ padded 2 hour ++ ":" ++ padded 2 minute, cs)
        else none
      else none
  | [] => none

/-- The text goes on with a time of day, after a separator. -/
def hasTimeAfter : List Char → Bool
  | c :: d :: _ => (c == 'T' || c == 't' || c == ' ') && isDigit d
  | _ => false

/-- The date, the time, or both, at the head of a text. -/
def datetime? (cs : List Char) : Option (Value × List Char) :=
  match date? cs with
  | some (date, rest) =>
      if hasTimeAfter rest then do
        let (time, rest) ← time? (rest.drop 1)
        let (offset, rest) := (offset? rest).getD ("", rest)
        some (.datetime (date ++ "T" ++ time ++ offset), rest)
      else some (.datetime date, rest)
  | none => (time? cs).map fun r => (.datetime r.1, r.2)

/-- A date or a time begins here: digits with a dash or a colon after them. -/
def atDatetime (cs : List Char) : Bool :=
  match cs.takeWhile isDigit, (cs.dropWhile isDigit).head? with
  | [_, _, _, _], some '-' => true
  | [_, _], some ':' => true
  | _, _ => false

end VirtEnv.Toml
