import VirtEnv.Hcl.Expr
import VirtEnv.Text.Blank

/-!
# Blank space in templates

Two rules remove blank space from the literal text of a template.  A strip marker takes the blank
space on its side of the adjacent literal up to and including one line break
(`Segment.stripped`).  An indented multi-line template loses the smallest indentation of its lines
(`Segment.dedentBy`).
-/

namespace VirtEnv.Hcl

open VirtEnv.Text (isBlank)

/-! ### Strip markers -/

/-- Blank space that breaks no line. -/
def isLineBlank (c : Char) : Bool := isBlank c && c != '\n' && c != '\r'

/-- Without the blank space at the start, up to and including one line break. -/
def stripStart (cs : List Char) : List Char :=
  match cs.dropWhile isLineBlank with
  | '\r' :: '\n' :: cs => cs
  | '\n' :: cs => cs
  | cs => cs

/-- Without the blank space at the end, down to and including one line break. -/
def stripEnd (cs : List Char) : List Char :=
  let kept :=
    match cs.reverse.dropWhile isLineBlank with
    | '\n' :: '\r' :: cs => cs
    | '\n' :: cs => cs
    | cs => cs
  kept.reverse

/-- A literal's text without what strip markers before and after it take. -/
def stripText (before after : Bool) (s : String) : String :=
  let cs := s.toList
  let cs := if before then stripStart cs else cs
  let cs := if after then stripEnd cs else cs
  String.ofList cs

/-- The marker that a part begins with strips the text before it. -/
def Segment.stripsBefore : Segment → Bool
  | .interpolation m _ => m.stripsBefore
  | .branch opening _ _ _ _ _ => opening.stripsBefore
  | .repetition opening _ _ _ _ => opening.stripsBefore
  | .literal _ | .malformed => false

/-- The marker that a part ends with strips the text after it. -/
def Segment.stripsAfter : Segment → Bool
  | .interpolation m _ => m.stripsAfter
  | .branch _ _ _ _ _ closing => closing.stripsAfter
  | .repetition _ _ _ _ closing => closing.stripsAfter
  | .literal _ | .malformed => false

/-- The text before parts is stripped by the first of them, and by the marker after the parts if
there are none. -/
def Segment.stripsBeforeAll (after : Bool) : List Segment → Bool
  | [] => after
  | s :: _ => s.stripsBefore

mutual

/-- A part with the literals inside it stripped. -/
def Segment.strippedInside : Segment → Segment
  | .branch opening condition yes (some middle) no closing =>
      .branch opening condition (Segment.stripped opening.stripsAfter middle.stripsBefore yes)
        (some middle) (Segment.stripped middle.stripsAfter closing.stripsBefore no) closing
  | .branch opening condition yes none no closing =>
      .branch opening condition (Segment.stripped opening.stripsAfter closing.stripsBefore yes)
        none no closing
  | .repetition opening binder collection body closing =>
      .repetition opening binder collection
        (Segment.stripped opening.stripsAfter closing.stripsBefore body) closing
  | .literal text => .literal text
  | .interpolation m e => .interpolation m e
  | .malformed => .malformed
termination_by structural s => s

/-- The parts of a template with their literals stripped; `before` and `after` tell whether the
markers around the parts strip. -/
def Segment.stripped (before after : Bool) : List Segment → List Segment
  | [] => []
  | .literal text :: rest =>
      .literal (stripText before (Segment.stripsBeforeAll after rest) text)
        :: Segment.stripped false after rest
  | s :: rest => s.strippedInside :: Segment.stripped s.stripsAfter after rest
termination_by structural segments => segments

end

/-! ### Indentation -/

/-- The lines of a text, without the line breaks between them. -/
def splitLines : List Char → List (List Char)
  | [] => [[]]
  | '\n' :: cs => [] :: splitLines cs
  | '\r' :: '\n' :: cs => [] :: splitLines cs
  | c :: cs =>
      match splitLines cs with
      | line :: lines => (c :: line) :: lines
      | [] => [[c]]

/-- Lines joined by line feeds. -/
def joinLines (lines : List (List Char)) : List Char :=
  (lines.intersperse ['\n']).flatten

/-- The indentation of a line, none for an empty one. -/
def indentation? (line : List Char) : Option Nat :=
  if line.isEmpty then none else some (line.takeWhile isBlank).length

/-- A text with `n` blanks before each line that is not empty. -/
def indentLines (n : Nat) (cs : List Char) : List Char :=
  joinLines ((splitLines cs).map fun line =>
    if line.isEmpty then line else List.replicate n ' ' ++ line)

/-- The smaller of two indentations that may be missing. -/
def minIndentation : Option Nat → Option Nat → Option Nat
  | some a, some b => some (min a b)
  | some a, none => some a
  | none, b => b

/-- The smallest indentation of the lines that begin in the literals of a template; `fresh` tells
whether the first part begins a line.  A sequence at the beginning of a line has none to remove,
and counts as zero. -/
def Segment.indentation (fresh : Bool) : List Segment → Option Nat
  | [] => none
  | .literal text :: rest =>
      let lines := splitLines text.toList
      let lines := if fresh then lines else lines.drop 1
      let own := (lines.map indentation?).foldl minIndentation none
      let begins := if lines.isEmpty then false else lines.getLast? == some []
      minIndentation own (Segment.indentation begins rest)
  | _ :: rest =>
      minIndentation (if fresh then some 0 else none) (Segment.indentation false rest)

/-- A literal with `n` characters of indentation removed from each line that begins in it. -/
def dedentText (n : Nat) (fresh : Bool) (s : String) : String :=
  let dedented :=
    match splitLines s.toList, fresh with
    | first :: others, false => first :: others.map (·.drop n)
    | lines, _ => lines.map (·.drop n)
  if n == 0 then s else String.ofList (joinLines dedented)

/-- The parts of a template with `n` characters of indentation removed from each line that begins
in a literal. -/
def Segment.dedentBy (n : Nat) (fresh : Bool) : List Segment → List Segment
  | [] => []
  | .literal text :: rest => .literal (dedentText n fresh text) :: Segment.dedentBy n false rest
  | s :: rest => s :: Segment.dedentBy n false rest

end VirtEnv.Hcl
