/-!
# Sets of characters

A `CharSet` lists, in ascending order, the code points at which membership changes.  Below the
first of them a character is outside, up to the second inside, and so on.
-/

namespace VirtEnv.Text

/-- The code points at which membership flips, ascending. -/
structure CharSet where
  bounds : List Nat

namespace CharSet

/-- Membership of a code point: flipped once for each bound at or below it. -/
def containsCode (code : Nat) : List Nat → Bool
  | [] => false
  | bound :: bounds => if code < bound then false else !containsCode code bounds

/-- `c` is in the set. -/
def contains (s : CharSet) (c : Char) : Bool :=
  containsCode c.toNat s.bounds

end CharSet

end VirtEnv.Text
