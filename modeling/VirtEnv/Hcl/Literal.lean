import VirtEnv.Text.Digits

/-!
# String literals

How string literals are written: the escapes of special characters, and the start markers of
template sequences, which a literal doubles (`$` or `%` before a brace).
-/

namespace VirtEnv.Hcl

/-- The characters that begin a template sequence when a brace follows. -/
def isMarkerStart (c : Char) : Bool := c == '$' || c == '%'

/-- Marker starts doubled, in text after a first marker: the character after a marker start is
passed over with it. -/
def doubleLaterMarkers : List Char → List Char
  | c :: d :: cs =>
      if isMarkerStart c then
        if d == '{' then c :: c :: d :: doubleLaterMarkers cs else c :: d :: doubleLaterMarkers cs
      else c :: doubleLaterMarkers (d :: cs)
  | cs => cs

/-- Marker starts doubled. -/
def doubleMarkers : List Char → List Char
  | c :: d :: cs =>
      if isMarkerStart c && d == '{' then c :: c :: d :: doubleLaterMarkers cs
      else c :: doubleMarkers (d :: cs)
  | cs => cs

/-- The text holds a marker start that is not doubled and has a character after its brace. -/
def hasMarker : List Char → Bool
  | c :: d :: e :: cs =>
      if isMarkerStart c && d == c && e == '{' then hasMarker cs
      else (isMarkerStart c && d == '{') || hasMarker (d :: e :: cs)
  | _ => false

/-- One character of a string literal.  A character without short escape that `isControl` holds of
is written by its code point, with the digits that `digits` gives. -/
def escapeLiteralWith (isControl : Char → Bool) (digits : Nat → String) (c : Char) : String :=
  if c == '"' then "\\\""
  else if c == '\\' then "\\\\"
  else if c == '\x08' then "\\b"
  else if c == '\t' then "\\t"
  else if c == '\n' then "\\n"
  else if c == '\x0c' then "\\f"
  else if c == '\r' then "\\r"
  else if isControl c then "\\u" ++ digits c.toNat
  else c.toString

/-- The characters of a literal between its quotes. -/
def literalBody (s : String) : String :=
  String.join ((doubleMarkers s.toList).map
    (escapeLiteralWith (fun c => c.toNat < 0x20) (Text.paddedHexDigits 4)))

/-- A string as a literal. -/
def stringLiteral (s : String) : String := "\"" ++ literalBody s ++ "\""

/-- The characters of a literal within a template that stands in another template.  Here all
control characters are escaped, and in upper case. -/
def nestedLiteralBody (s : String) : String :=
  String.join ((doubleMarkers s.toList).map
    (escapeLiteralWith (fun c => c.toNat < 0x20 || (0x7f ≤ c.toNat && c.toNat < 0xa0))
      (Text.upperHexDigits 4)))

/-- A string value: one that holds a template marker is shown as it is. -/
def stringValueText (s : String) : String :=
  if hasMarker s.toList then "\"" ++ s ++ "\"" else stringLiteral s

end VirtEnv.Hcl
