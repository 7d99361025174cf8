/-!
# Digits

Numbers and characters written with digits of a base up to sixteen.
-/

namespace VirtEnv.Text

/-- A decimal digit. -/
def isDigit (c : Char) : Bool := '0' ≤ c && c ≤ '9'

/-- The value of a digit in a base up to sixteen. -/
def digitIn? (base : Nat) (c : Char) : Option Nat :=
  let n :=
    if isDigit c then c.toNat - 48
    else if 'a' ≤ c && c ≤ 'f' then c.toNat - 87
    else if 'A' ≤ c && c ≤ 'F' then c.toNat - 55
    else base
  if n < base then some n else none

/-- The value of digits in a base, zero for none. -/
def valueIn? (base : Nat) (cs : List Char) : Option Nat :=
  cs.foldlM (fun n c => do some (base * n + (← digitIn? base c))) 0

/-- The character with a code point. -/
def charOfCode? (n : Nat) : Option Char :=
  if h : n.isValidChar then some (Char.ofNatAux n h) else none

/-- The character whose code point is written by the `count` hexadecimal digits at the head of a
text. -/
def hexChar? (count : Nat) (cs : List Char) : Option Char :=
  if (cs.take count).length == count then do charOfCode? (← valueIn? 16 (cs.take count))
  else none

/-- The hexadecimal digits of a code point, lower case, without leading zeros. -/
def hexDigits (n : Nat) : String := String.ofList (Nat.toDigits 16 n)

/-- The hexadecimal digits of a number, lower case, at least `width` of them. -/
def paddedHexDigits (width n : Nat) : String :=
  let s := hexDigits n
  String.ofList (List.replicate (width - s.length) '0') ++ s

/-- The hexadecimal digits of a number, upper case, at least `width` of them. -/
def upperHexDigits (width n : Nat) : String := (paddedHexDigits width n).map Char.toUpper

end VirtEnv.Text
