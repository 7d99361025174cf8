import VirtEnv.Text.CharSet

/-!
# White space

The property `White_Space` of the Unicode standard.
-/

namespace VirtEnv.Text

/-- The property `White_Space`. -/
def whiteSpace : CharSet := .mk [
  0x9, 0xe, 0x20, 0x21, 0x85, 0x86, 0xa0, 0xa1, 0x1680, 0x1681, 0x2000, 0x200b, 0x2028, 0x202a,
  0x202f, 0x2030, 0x205f, 0x2060, 0x3000, 0x3001]

/-- `c` is white space. -/
def isBlank (c : Char) : Bool := whiteSpace.contains c

/-- A text without the white space at its end. -/
def trimEnd (s : String) : String := String.ofList (s.toList.reverse.dropWhile isBlank).reverse

end VirtEnv.Text
