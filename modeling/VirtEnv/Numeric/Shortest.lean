import VirtEnv.Numeric.Binary64

/-!
# The shortest decimal text of a binary number

Among the decimal numbers that round to a given finite number, those with the fewest digits are
candidates, and of these the nearest is its text; of two equally near ones the even.  The search
goes through the decimal grids from coarse to fine and looks only at the two grid points around
the value: if any point of a grid rounds to it, so does one of these.

Three notations are built from the digits: positional only, positional or scientific by size, and
the latter with a sign on every exponent.
-/

namespace VirtEnv.Numeric

/-- A decimal number `digits * 10 ^ exponent`. -/
structure Decimal where
  digits : Nat
  exponent : Int
  deriving DecidableEq, Repr

/-- A positive value and the ends of the interval that rounds to it, over one denominator. -/
structure Rounding where
  low : Nat
  value : Nat
  high : Nat
  denominator : Nat
  closed : Bool

namespace Rounding

/-- The interval of `significand * 2 ^ exponent`: half a unit on either side, a quarter below a
power of two; its ends belong to it when the significand is even. -/
def ofFinite (significand : Nat) (exponent : Int) : Rounding :=
  let below := if significand == Nat.pow 2 52 && exponent > Binary64.minExponent then 1 else 2
  let scale := Binary64.scaleUp 1 (exponent - 2)
  { low := (4 * significand - below) * scale
    value := 4 * significand * scale
    high := (4 * significand + 2) * scale
    denominator := Binary64.scaleUp 1 (2 - exponent)
    closed := significand % 2 == 0 }

/-- The interval with every number multiplied by `num / den`. -/
def scaled (r : Rounding) (num den : Nat) : Rounding :=
  { r with
    low := r.low * num, value := r.value * num, high := r.high * num
    denominator := r.denominator * den }

/-- The integer `n` rounds to the value. -/
def accepts (r : Rounding) (n : Nat) : Bool :=
  let x := n * r.denominator
  (r.low < x && x < r.high) || (r.closed && (x == r.low || x == r.high))

/-- The integer next to the value that rounds to it: the nearer of two, the even of two equally
near. -/
def pick? (r : Rounding) : Option Nat :=
  let down := r.value / r.denominator
  let up := down + 1
  match r.accepts down, r.accepts up with
  | true, true =>
      let toDown := r.value - down * r.denominator
      let toUp := up * r.denominator - r.value
      if toDown < toUp || (toDown == toUp && down % 2 == 0) then some down else some up
  | true, false => some down
  | false, true => some up
  | false, false => none

/-- The first of `count` decimal grids, from exponent `k` downwards, with a point that rounds to
the value. -/
def search (r : Rounding) : Nat → Int → Option Decimal
  | 0, _ => none
  | count + 1, k =>
      match (r.scaled (Nat.pow 10 (-k).toNat) (Nat.pow 10 k.toNat)).pick? with
      | some n => some ⟨n, k⟩
      | none => search r count (k - 1)

end Rounding

/-- A decimal exponent whose power exceeds `significand * 2 ^ exponent`, by one at most. -/
def decimalCeiling (significand : Nat) (exponent : Int) : Int :=
  ((Nat.log2 significand : Int) + exponent + 1) * 30103 / 100000 + 1

/-- The shortest decimal that rounds to `significand * 2 ^ exponent`, zero for zero. -/
def shortest (significand : Nat) (exponent : Int) : Decimal :=
  if significand == 0 then ⟨0, 0⟩
  else
    ((Rounding.ofFinite significand exponent).search 20
      (decimalCeiling significand exponent)).getD ⟨0, 0⟩

/-- The digits of a natural number. -/
def digitText (n : Nat) : String := String.ofList (Nat.toDigits 10 n)

/-- `n` zeros. -/
def zeros (n : Nat) : String := String.ofList (List.replicate n '0')

namespace Decimal

/-- The number of digits before the point, if it is written positionally. -/
def pointAt (d : Decimal) : Int := (digitText d.digits).length + d.exponent

/-- Positional notation; a whole number ends in `whole`. -/
def positional (d : Decimal) (whole : String) : String :=
  let ds := (digitText d.digits).toList
  let point := d.pointAt
  if 0 ≤ d.exponent then String.ofList ds ++ zeros d.exponent.toNat ++ whole
  else if 0 < point then
    String.ofList (ds.take point.toNat) ++ "." ++ String.ofList (ds.drop point.toNat)
  else "0." ++ zeros (-point).toNat ++ String.ofList ds

/-- Scientific notation; a positive exponent is written after `plus`. -/
def scientific (d : Decimal) (plus : String) : String :=
  let ds := (digitText d.digits).toList
  let e := d.pointAt - 1
  let mantissa :=
    match ds with
    | [] => ""
    | [c] => c.toString
    | c :: cs => c.toString ++ "." ++ String.ofList cs
  mantissa ++ "e" ++ (if e < 0 then "-" else plus) ++ digitText e.natAbs

/-- Positional from `0.00001` up to sixteen digits before the point, scientific beyond. -/
def general (d : Decimal) (plus : String) : String :=
  if -5 < d.pointAt && d.pointAt ≤ 16 then d.positional ".0" else d.scientific plus

end Decimal

namespace Binary64

/-- The text of a number from the notation of its shortest decimal. -/
def format (notated : Decimal → String) : Binary64 → String
  | finite s m e => (if s then "-" else "") ++ notated (shortest m e)
  | infinity s => if s then "-inf" else "inf"
  | nan => "NaN"

/-- Positional text, without a point for a whole number. -/
def positionalText (x : Binary64) : String := x.format (·.positional "")

/-- Positional or scientific text by size. -/
def generalText (x : Binary64) : String := x.format (·.general "")

/-- As `generalText`, with `+` before a positive exponent. -/
def signedExponentText (x : Binary64) : String := x.format (·.general "+")

end Binary64

end VirtEnv.Numeric
