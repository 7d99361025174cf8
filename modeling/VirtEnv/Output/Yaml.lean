import VirtEnv.Output.Tree
import VirtEnv.Output.Yaml.Scalar

/-!
# Trees as YAML

Lists and records are blocks: one item or field on a line, two spaces for each level, a list
under a key at the level of the key.  Empty ones are written `[]` and `{}`.  A tag stands before
what it tags.

A key that is a short scalar on one line is followed by a colon; any other key has a line of its
own after a question mark.

A record with a single field whose key is tagged stands for a tagged tree in many readers, so it
is only written under a tag of its own.
-/

namespace VirtEnv.Output

namespace Yaml

/-- The greatest length, in bytes, of a key before a colon. -/
def maxKeySize : Nat := 128

/-- The text of a tree that fits behind an indicator on the same line: a scalar or an empty list
or record, with its tag. -/
def inline? (width : Nat) : Tree → Option String
  | .null => some "null"
  | .bool b => some (if b then "true" else "false")
  | .number n => some n.text
  | .text s => some (scalar width s)
  | .list [] => some "[]"
  | .list (_ :: _) => none
  | .record [] => some "\x7b\x7d"
  | .record (_ :: _) => none
  | .tagged tag t => (inline? width t).map fun s => "!" ++ tag ++ " " ++ s

/-- The size of a key without quotes. -/
def keySize : Tree → Nat
  | .text s => s.utf8ByteSize
  | .tagged tag t => 1 + tag.utf8ByteSize + keySize t
  | _ => 0

/-- A key holds a line break. -/
def isMultiline : Tree → Bool
  | .text s => s.toList.any isBreak
  | .tagged _ t => isMultiline t
  | _ => false

/-- The text of a key that stands before a colon. -/
def simpleKey? (width : Nat) (key : Tree) : Option String :=
  if keySize key ≤ maxKeySize && !isMultiline key then inline? width key else none

/-- Ends a line that has not ended with the text before. -/
def endLine (s : String) : String := if s.toList.getLast?.any isBreak then s else s ++ "\n"

end Yaml

namespace Tree

open Yaml

mutual

/-- A tree after a dash, a question mark or a colon of its own line, which stands at `width`: a
block begins on the same line, one level deeper. -/
def yamlAfterMark (width : Nat) : Tree → String
  | .list (t :: ts) => " " ++ yamlItems (width + 2) "" (t :: ts)
  | .record (f :: fs) => " " ++ yamlFields (width + 2) "" (f :: fs)
  | .tagged tag t =>
      match inline? (width + 2) t with
      | some s => endLine (" !" ++ tag ++ " " ++ s)
      | none => " !" ++ tag ++ yamlAfterKey width t
  | t => endLine (" " ++ (inline? (width + 2) t).getD "")

/-- A tree after a key at `width`: a block begins on the next line. -/
def yamlAfterKey (width : Nat) : Tree → String
  | .list (t :: ts) => "\n" ++ yamlItems width (margin width) (t :: ts)
  | .record (f :: fs) => "\n" ++ yamlFields (width + 2) (margin (width + 2)) (f :: fs)
  | .tagged tag t =>
      match inline? (width + 2) t with
      | some s => endLine (" !" ++ tag ++ " " ++ s)
      | none => " !" ++ tag ++ yamlAfterKey width t
  | t => endLine (" " ++ (inline? (width + 2) t).getD "")

/-- The items of a list at `width`, the first after `lead`. -/
def yamlItems (width : Nat) (lead : String) : List Tree → String
  | [] => ""
  | t :: ts => lead ++ "-" ++ yamlAfterMark width t ++ yamlItems width (margin width) ts

/-- The fields of a record at `width`, the first after `lead`. -/
def yamlFields (width : Nat) (lead : String) : List (Tree × Tree) → String
  | [] => ""
  | (key, t) :: fields =>
      lead
        ++ (match simpleKey? (width + 2) key with
          | some s => s ++ ":" ++ yamlAfterKey width t
          | none =>
              "?" ++ yamlAfterMark width key ++ margin width ++ ":" ++ yamlAfterMark width t)
        ++ yamlFields width (margin width) fields

end

/-- The YAML text of a tree that has one. -/
def yamlText : Tree → String
  | .list (t :: ts) => yamlItems 0 "" (t :: ts)
  | .record (f :: fs) => yamlFields 0 "" (f :: fs)
  | t => endLine ((inline? 2 t).getD "")

mutual

/-- A tree can be written as YAML, under a tag or not. -/
def hasYaml (underTag : Bool) : Tree → Bool
  | .record [(.tagged _ key, t)] => underTag && hasYaml true key && hasYaml false t
  | .record fields => haveYamlFields fields
  | .list items => haveYaml items
  | .tagged _ t => hasYaml true t
  | _ => true

/-- Trees can be written as YAML. -/
def haveYaml : List Tree → Bool
  | [] => true
  | t :: ts => hasYaml false t && haveYaml ts

/-- Fields can be written as YAML. -/
def haveYamlFields : List (Tree × Tree) → Bool
  | [] => true
  | (key, t) :: fields => hasYaml false key && hasYaml false t && haveYamlFields fields

end

/-- The YAML text of a tree, if it can be written. -/
def yaml? (t : Tree) : Option String := if t.hasYaml false then some t.yamlText else none

end Tree

end VirtEnv.Output
