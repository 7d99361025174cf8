import VirtEnv.Output.Tree
import VirtEnv.Text.Digits

/-!
# Trees as JSON

Records become objects, so every key must be a text; a tree with another key cannot be written.
A tagged tree is an object with its tag as the only key.

`json?` writes on one line without blanks, `prettyJson?` with one item or field on a line and two
spaces for each level.
-/

namespace VirtEnv.Output

/-- One character of a JSON string. -/
def escapeJson (c : Char) : String :=
  if c == '"' then "\\\""
  else if c == '\\' then "\\\\"
  else if c == '\x08' then "\\b"
  else if c == '\t' then "\\t"
  else if c == '\n' then "\\n"
  else if c == '\x0c' then "\\f"
  else if c == '\r' then "\\r"
  else if c.toNat < 32 then "\\u" ++ Text.paddedHexDigits 4 c.toNat
  else c.toString

/-- A JSON string. -/
def jsonString (s : String) : String := "\"" ++ String.join (s.toList.map escapeJson) ++ "\""

/-- How the parts of lists and objects are set apart. -/
structure JsonLayout where
  indented : Bool

namespace JsonLayout

/-- The text before each part of a list or object at a level, and before the bracket that closes
the one around it. -/
def lineBreak (l : JsonLayout) (level : Nat) : String :=
  if l.indented then String.ofList ('\n' :: List.replicate (2 * level) ' ') else ""

/-- The text between a key and its value. -/
def colon (l : JsonLayout) : String := if l.indented then ": " else ":"

/-- Parts between brackets; an empty list or object has no line breaks. -/
def enclose (l : JsonLayout) (level : Nat) (opening closing : String) (parts : List String) :
    String :=
  if parts.isEmpty then opening ++ closing
  else
    opening ++ l.lineBreak (level + 1) ++ String.intercalate ("," ++ l.lineBreak (level + 1)) parts
      ++ l.lineBreak level ++ closing

/-- An object. -/
def object (l : JsonLayout) (level : Nat) : List String → String := l.enclose level "\x7b" "\x7d"

/-- An array. -/
def array (l : JsonLayout) (level : Nat) : List String → String := l.enclose level "[" "]"

/-- A field of an object. -/
def field (l : JsonLayout) (key value : String) : String := jsonString key ++ l.colon ++ value

end JsonLayout

namespace Tree

mutual

/-- The JSON text of a tree at a level, if its keys are texts. -/
def renderJson? (l : JsonLayout) (level : Nat) : Tree → Option String
  | .null => some "null"
  | .bool b => some (if b then "true" else "false")
  | .number n => some (n.format Numeric.Binary64.signedExponentText)
  | .text s => some (jsonString s)
  | .list items => (renderJsonItems? l (level + 1) items).map (l.array level)
  | .record fields => (renderJsonFields? l (level + 1) fields).map (l.object level)
  | .tagged tag t => do
      some (l.object level [l.field tag (← renderJson? l (level + 1) t)])

/-- The JSON texts of items. -/
def renderJsonItems? (l : JsonLayout) (level : Nat) : List Tree → Option (List String)
  | [] => some []
  | t :: ts => do some ((← renderJson? l level t) :: (← renderJsonItems? l level ts))

/-- The JSON texts of fields. -/
def renderJsonFields? (l : JsonLayout) (level : Nat) : List (Tree × Tree) → Option (List String)
  | [] => some []
  | (.text key, t) :: fields => do
      some (l.field key (← renderJson? l level t) :: (← renderJsonFields? l level fields))
  | _ :: _ => none

end

/-- The JSON text of a tree on one line. -/
def json? (t : Tree) : Option String := t.renderJson? ⟨false⟩ 0

/-- The JSON text of a tree over several lines. -/
def prettyJson? (t : Tree) : Option String := t.renderJson? ⟨true⟩ 0

end Tree

end VirtEnv.Output
