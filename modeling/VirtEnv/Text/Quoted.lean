import VirtEnv.Text.Digits
import VirtEnv.Text.Unprintable

/-!
# Quoted text in messages

Messages show names and paths between double quotes.  A quote and a backslash are escaped, line
breaks, tabs and the null character have short escapes, and a character that would not be seen
as itself is shown by its code point.
-/

namespace VirtEnv.Text

/-- One character as it stands between quotes. -/
def escapeQuoted (c : Char) : String :=
  if c == '\x00' then "\\0"
  else if c == '\t' then "\\t"
  else if c == '\r' then "\\r"
  else if c == '\n' then "\\n"
  else if c == '"' then "\\\""
  else if c == '\\' then "\\\\"
  else if graphemeExtend.contains c || unprintable.contains c then
    "\\u\x7b" ++ hexDigits c.toNat ++ "\x7d"
  else c.toString

/-- A text between double quotes, as messages show it. -/
def quoted (s : String) : String :=
  "\"" ++ String.join (s.toList.map escapeQuoted) ++ "\""

end VirtEnv.Text
