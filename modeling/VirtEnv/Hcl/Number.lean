import VirtEnv.Numeric.Shortest

/-!
# Numbers

A number has one of three forms: an unsigned integer, a signed integer, or a binary64 number.
Two unsigned or two signed integers combine exactly.  Every other pair, and every division, is
computed with floating-point numbers; a result without fraction becomes an integer again when
64 bits can hold it.

The form matters, not only the value: a signed integer is negative as a rule, but a remainder of
signed integers keeps its form when it is zero, and so does a difference of unsigned integers that
wraps around.
-/

namespace VirtEnv.Hcl

open VirtEnv.Numeric (Binary64)

/-- An unsigned or a signed integer, or a floating-point number. -/
inductive Number where
  | unsigned (n : Nat)
  | signed (i : Int)
  | real (x : Binary64)
  deriving DecidableEq, Repr

/-- Why a division of integers has no remainder. -/
inductive NoRemainder where
  | byZero
  | overflow
  deriving DecidableEq, Repr

namespace Number

/-- An integer: unsigned unless it is negative.  One that 64 bits cannot hold is the nearest
floating-point number. -/
def ofInt (i : Int) : Number :=
  if 0 ≤ i && i < Nat.pow 2 64 then .unsigned i.toNat
  else if -(Nat.pow 2 63) ≤ i && i < 0 then .signed i
  else .real (Binary64.ofInt i)

/-- A natural number. -/
def ofNat (n : Nat) : Number := .unsigned n

/-- A floating-point number; one without fraction is an integer if 64 bits can hold it. -/
def ofReal (x : Binary64) : Number :=
  match x.toInt? with
  | some i => if -(Nat.pow 2 63) ≤ i && i < Nat.pow 2 64 then ofInt i else .real x
  | none => .real x

/-- The floating-point number nearest to a number. -/
def toReal : Number → Binary64
  | unsigned n => Binary64.ofInt n
  | signed i => Binary64.ofInt i
  | real x => x

/-- The sum. -/
def add : Number → Number → Number
  | unsigned a, unsigned b => ofInt (a + b)
  | signed a, signed b => ofInt (a + b)
  | a, b => ofReal (Binary64.add a.toReal b.toReal)

/-- The difference.  Of unsigned integers, one below zero is a signed integer of 64 bits, and
wraps around. -/
def sub : Number → Number → Number
  | unsigned a, unsigned b =>
      if b ≤ a then .unsigned (a - b) else .signed (Int.bmod (a - b) (Nat.pow 2 64))
  | signed a, signed b => ofInt (a - b)
  | a, b => ofReal (Binary64.sub a.toReal b.toReal)

/-- The product. -/
def mul : Number → Number → Number
  | unsigned a, unsigned b => ofInt (a * b)
  | signed a, signed b => ofInt (a * b)
  | a, b => ofReal (Binary64.mul a.toReal b.toReal)

/-- The quotient, always a floating-point division. -/
def div (a b : Number) : Number := ofReal (Binary64.div a.toReal b.toReal)

/-- The remainder of the division toward zero.  Two integers of one form have none if the second is
zero, or if 64 bits cannot hold the quotient: the least signed integer divided by minus one. -/
def rem : Number → Number → Except NoRemainder Number
  | unsigned a, unsigned b => if b == 0 then .error .byZero else .ok (.unsigned (a % b))
  | signed a, signed b =>
      if b == 0 then .error .byZero
      else if a == -(Nat.pow 2 63) && b == -1 then .error .overflow
      else .ok (.signed (Int.tmod a b))
  | a, b => .ok (ofReal (Binary64.rem a.toReal b.toReal))

/-- The number with the other sign.  An unsigned integer whose negative 64 bits cannot hold
becomes a floating-point number. -/
def neg : Number → Number
  | unsigned n => if n ≤ Nat.pow 2 63 then ofInt (-n) else .real (Binary64.ofInt n).neg
  | signed i => ofInt (-i)
  | real x => .real x.neg

/-- The order of two numbers. -/
def compare? : Number → Number → Option Ordering
  | unsigned a, unsigned b => some (compare a b)
  | signed a, signed b => some (compare a b)
  | a, b => Binary64.compare? a.toReal b.toReal

/-- Equality of numbers. -/
def equals (a b : Number) : Bool := compare? a b == some .eq

/-- The natural number that a number is. -/
def toNat? : Number → Option Nat
  | unsigned n => some n
  | signed i => if 0 ≤ i then some i.toNat else none
  | real _ => none

/-- The text of a number, with the given text for those that are no integers. -/
def format (realText : Binary64 → String) : Number → String
  | unsigned n => Numeric.digitText n
  | signed i => (if i < 0 then "-" else "") ++ Numeric.digitText i.natAbs
  | real x => realText x

/-- The text of a number. -/
def text : Number → String := format Binary64.generalText

end Number

end VirtEnv.Hcl
