/-!
# Binary floating point

Numbers of the binary64 format, held as exact values: a finite one is a sign and
`significand * 2 ^ exponent`, with at most 53 significant bits.  Every operation computes its
exact result as a ratio of natural numbers and rounds once, to the nearest representable value
and to the even one of two (`ofRatio`), so no operation has a rounding rule of its own.

The form of a finite number is unique: its exponent is the least one possible, hence two numbers
are the same text exactly when they are the same term.
-/

namespace VirtEnv.Numeric

/-- A binary64 number. -/
inductive Binary64 where
  | finite (negative : Bool) (significand : Nat) (exponent : Int)
  | infinity (negative : Bool)
  | nan
  deriving DecidableEq, Repr, Inhabited

namespace Binary64

/-- The exponent of the subnormal numbers. -/
def minExponent : Int := -1074

/-- The greatest exponent of a finite number. -/
def maxExponent : Int := 971

/-- Zero, with its sign. -/
def zero (negative : Bool) : Binary64 := .finite negative 0 minExponent

/-- `n * 2 ^ e` for `e` at least zero, and `n` for a negative `e`. -/
def scaleUp (n : Nat) (e : Int) : Nat := n * Nat.pow 2 e.toNat

/-- The natural number nearest to `num / den`, the even one of two. -/
def roundDiv (num den : Nat) : Nat :=
  let q := num / den
  let r := num % den
  if 2 * r > den || (2 * r == den && q % 2 == 1) then q + 1 else q

/-- The exponent at which `num / den` has 53 bits before the point, but at least the one of the
subnormal numbers. -/
def ratioExponent (num den : Nat) : Int :=
  let guess : Int := (Nat.log2 num : Int) - (Nat.log2 den : Int) - 53
  let full := scaleUp num (-guess) / scaleUp den guess
  max (if full < Nat.pow 2 53 then guess else guess + 1) minExponent

/-- The number nearest to `num / den`, with the given sign. -/
def ofRatio (negative : Bool) (num den : Nat) : Binary64 :=
  if num == 0 then zero negative
  else
    let e := ratioExponent num den
    let m := roundDiv (scaleUp num (-e)) (scaleUp den e)
    let (m, e) := if m == Nat.pow 2 53 then (Nat.pow 2 52, e + 1) else (m, e)
    if e > maxExponent then .infinity negative else .finite negative m e

/-- The number nearest to an integer. -/
def ofInt (i : Int) : Binary64 := ofRatio (i < 0) i.natAbs 1

/-- The number nearest to `significand * 10 ^ exponent`.  Exponents far outside the format's
range are answered without computing the power. -/
def ofDecimal (negative : Bool) (significand : Nat) (exponent : Int) : Binary64 :=
  if significand == 0 then zero negative
  else if exponent > 400 then .infinity negative
  else if exponent + (Nat.log2 significand : Int) < -1200 then zero negative
  else ofRatio negative (significand * Nat.pow 10 exponent.toNat) (Nat.pow 10 (-exponent).toNat)

/-- The number nearest to `i * 2 ^ e`; `negativeZero` is the sign of an exact zero. -/
def ofScaled (i : Int) (e : Int) (negativeZero : Bool) : Binary64 :=
  if i == 0 then zero negativeZero
  else ofRatio (i < 0) (scaleUp i.natAbs e) (scaleUp 1 (-e))

/-- A significand with its sign. -/
def signed (negative : Bool) (m : Nat) : Int := if negative then -(m : Int) else m

/-- The other sign. -/
def neg : Binary64 → Binary64
  | finite s m e => finite (!s) m e
  | infinity s => infinity (!s)
  | nan => nan

/-- The sum. -/
def add : Binary64 → Binary64 → Binary64
  | finite s m e, finite t n f =>
      let g := min e f
      ofScaled (signed s (scaleUp m (e - g)) + signed t (scaleUp n (f - g))) g (s && t)
  | infinity s, infinity t => if s == t then infinity s else nan
  | infinity s, finite .. => infinity s
  | finite .., infinity t => infinity t
  | nan, _ => nan
  | _, nan => nan

/-- The difference. -/
def sub (x y : Binary64) : Binary64 := add x (neg y)

/-- The product. -/
def mul : Binary64 → Binary64 → Binary64
  | finite s m e, finite t n f => ofScaled (signed (s ^^ t) (m * n)) (e + f) (s ^^ t)
  | infinity s, infinity t => infinity (s ^^ t)
  | infinity s, finite t n _ => if n == 0 then nan else infinity (s ^^ t)
  | finite s m _, infinity t => if m == 0 then nan else infinity (s ^^ t)
  | nan, _ => nan
  | _, nan => nan

/-- The quotient. -/
def div : Binary64 → Binary64 → Binary64
  | finite s m e, finite t n f =>
      if n == 0 then (if m == 0 then nan else infinity (s ^^ t))
      else ofRatio (s ^^ t) (scaleUp m (e - f)) (scaleUp n (f - e))
  | infinity _, infinity _ => nan
  | infinity s, finite t _ _ => infinity (s ^^ t)
  | finite s _ _, infinity t => zero (s ^^ t)
  | nan, _ => nan
  | _, nan => nan

/-- The remainder of the division toward zero; it has the dividend's sign. -/
def rem : Binary64 → Binary64 → Binary64
  | finite s m e, finite _ n f =>
      if n == 0 then nan
      else
        let g := min e f
        ofScaled (signed s (scaleUp m (e - g) % scaleUp n (f - g))) g s
  | finite s m e, infinity _ => finite s m e
  | infinity _, _ => nan
  | nan, _ => nan
  | _, nan => nan

/-- The order of two numbers; a NaN has none. -/
def compare? : Binary64 → Binary64 → Option Ordering
  | finite s m e, finite t n f =>
      let g := min e f
      some (compare (signed s (scaleUp m (e - g))) (signed t (scaleUp n (f - g))))
  | infinity s, infinity t => some (if s == t then .eq else if s then .lt else .gt)
  | infinity s, finite .. => some (if s then .lt else .gt)
  | finite .., infinity t => some (if t then .gt else .lt)
  | nan, _ => none
  | _, nan => none

/-- The integer that a number without fraction is. -/
def toInt? : Binary64 → Option Int
  | finite s m e =>
      let den := Nat.pow 2 (-e).toNat
      if m % den == 0 then some (signed s (scaleUp m e / den)) else none
  | infinity _ => none
  | nan => none

/-- The nearest integer, away from zero of two, and none for what is not finite. -/
def roundAway? : Binary64 → Option Int
  | finite s m e =>
      let den := Nat.pow 2 (-e).toNat
      some (signed s ((2 * scaleUp m e + den) / (2 * den)))
  | infinity _ => none
  | nan => none

/-- Different from both zeros. -/
def isNonzero : Binary64 → Bool
  | finite _ m _ => m != 0
  | infinity _ => true
  | nan => true

/-- Neither an infinity nor a NaN. -/
def isFinite : Binary64 → Bool
  | finite .. => true
  | infinity _ => false
  | nan => false

end Binary64

end VirtEnv.Numeric
