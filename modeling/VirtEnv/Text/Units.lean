/-!
# Texts read unit by unit

A unit recognises something at the head of a text and says how many characters it takes.
`readUnits` reads units as long as there is one.  It walks along the text and counts the
characters that the current unit still takes, so it needs no bound of its own.
-/

namespace VirtEnv.Text

/-- Recognises something at the head of a text: what it means, and the number of characters after
the first that it takes. -/
abbrev UnitReader (α : Type) := List Char → Option (α × Nat)

/-- The units at the head of a text, after the `owed` characters of a unit already read, and the
number of characters they take together. -/
def readUnits {α : Type} (unit : UnitReader α) (owed : Nat) : List Char → List α × Nat
  | [] => ([], 0)
  | c :: cs =>
      match owed with
      | owed + 1 =>
          let r := readUnits unit owed cs
          (r.1, r.2 + 1)
      | 0 =>
          match unit (c :: cs) with
          | none => ([], 0)
          | some (a, more) =>
              let r := readUnits unit more cs
              (a :: r.1, r.2 + 1)

/-- The text begins with the characters of `s`. -/
def startsWith (s : String) (cs : List Char) : Bool := s.toList.isPrefixOf cs

end VirtEnv.Text
