import VirtEnv.Hcl.Lexical
import VirtEnv.Text.Identifier

/-!
# Reading with a cursor

A reader consumes text from a cursor.  Two more things go along with it.

What has been read is kept as a template around it would show it: mostly as it stands, but a
reader may keep nothing (`Reader.silently`), or set aside what another reader keeps
(`Reader.apart`) and put it in later.  Literals are kept in two spellings, since a template within
a template escapes its literals while it would not on its own.  It does so only up to the end of
the first template that stands in it; from there on both spellings agree.

The context tells whether a line break counts as a blank and whether a conditional may follow.
Arrays, `for` expressions and calls let the expression that they are part of go over many lines,
so the context changes while an expression is read.
-/

namespace VirtEnv.Hcl

open VirtEnv.Text (startsWith takeIdentifier?)

/-- The text to be shown for what has been read, latest character first: as part of a template on
its own, and as part of a template within another one.  `escaping` tells whether the two spell
literals differently. -/
structure Kept where
  alone : List Char
  within : List Char
  escaping : Bool

namespace Kept

/-- Nothing yet. -/
def empty (escaping : Bool) : Kept := ⟨[], [], escaping⟩

/-- With a text after it. -/
def add (k : Kept) (cs : List Char) : Kept :=
  { k with alone := cs.reverse ++ k.alone, within := cs.reverse ++ k.within }

/-- With the literal text of a template after it. -/
def addLiteral (k : Kept) (s : String) : Kept :=
  let shown := doubleMarkers s.toList
  let escaped := if k.escaping then (nestedLiteralBody s).toList else shown
  { k with alone := shown.reverse ++ k.alone, within := escaped.reverse ++ k.within }

/-- With what was kept apart from it. -/
def append (k later : Kept) : Kept :=
  ⟨later.alone ++ k.alone, later.within ++ k.within, later.escaping⟩

/-- The text of a template on its own. -/
def text (k : Kept) : String := String.ofList k.alone.reverse

/-- A quoted template as part of another one.  After it literals are no longer escaped. -/
def quoted (k : Kept) : Kept :=
  ⟨'"' :: (k.within ++ ['"']), '"' :: (k.within ++ ['"']), false⟩

end Kept

/-- Whether a line break counts as a blank here, and whether a conditional may follow. -/
structure Context where
  lines : Lines
  conditional : Bool

/-- The text still to be read, what is kept of the text before it, and the context. -/
structure Cursor where
  rest : List Char
  kept : Kept
  context : Context

/-- Reads something from a cursor, or fails. -/
abbrev Reader := StateT Cursor Option

namespace Reader

/-- Fails. -/
def fail {α : Type} : Reader α := fun _ => none

/-- The text still to be read. -/
def rest : Reader (List Char) := fun s => some (s.rest, s)

/-- Reads `n` characters, or fewer at the end of the text. -/
def take (n : Nat) : Reader (List Char) := fun s =>
  some (s.rest.take n, { s with rest := s.rest.drop n, kept := s.kept.add (s.rest.take n) })

/-- Reads `n` characters without keeping them. -/
def skip (n : Nat) : Reader Unit := fun s => some ((), { s with rest := s.rest.drop n })

/-! ### What is kept -/

/-- Keeps a text that was not read. -/
def keep (t : String) : Reader Unit := fun s => some ((), { s with kept := s.kept.add t.toList })

/-- Keeps the literal text of a template. -/
def keepLiteral (t : String) : Reader Unit := fun s =>
  some ((), { s with kept := s.kept.addLiteral t })

/-- Keeps what was set aside. -/
def keepAll (k : Kept) : Reader Unit := fun s => some ((), { s with kept := s.kept.append k })

/-- Sets aside what a reader keeps, which begins with literals escaped as `escaping` tells. -/
def apartFrom {α : Type} (escaping : Bool) (r : Reader α) : Reader (α × Kept) := fun s =>
  (r { s with kept := .empty escaping }).map fun (a, t) => ((a, t.kept), { t with kept := s.kept })

/-- Sets aside what a reader keeps. -/
def apart {α : Type} (r : Reader α) : Reader (α × Kept) := fun s =>
  apartFrom s.kept.escaping r s

/-- Also answers what a reader keeps. -/
def written {α : Type} (r : Reader α) : Reader (α × Kept) := do
  let (a, k) ← apart r
  keepAll k
  pure (a, k)

/-- Reads with `r`, keeping nothing. -/
def silently {α : Type} (r : Reader α) : Reader α := do
  let (a, _) ← apart r
  pure a

/-! ### The context -/

/-- The context. -/
def context : Reader Context := fun s => some (s.context, s)

/-- Lets a line break count as a blank from here on. -/
def manyLines : Reader Unit := fun s =>
  some ((), { s with context := { s.context with lines := .many } })

/-- Lets no conditional follow from here on. -/
def noConditional : Reader Unit := fun s =>
  some ((), { s with context := { s.context with conditional := false } })

/-- Reads with `r` in a context of its own, which begins as the one here. -/
def nested {α : Type} (r : Reader α) : Reader α := fun s =>
  (r s).map fun (a, t) => (a, { t with context := s.context })

/-- Reads with `r` in a context of its own, in which a conditional may follow. -/
def afresh {α : Type} (lines : Lines) (r : Reader α) : Reader α := fun s =>
  (r { s with context := ⟨lines, true⟩ }).map fun (a, t) => (a, { t with context := s.context })

/-! ### Words and blanks -/

/-- Reads blanks. -/
def blanks (lines : Lines) : Reader Unit := do
  let _ ← take (blankLength lines (← rest))

/-- Reads the blanks that the context allows. -/
def gap : Reader Unit := do blanks (← context).lines

/-- The text after the blanks that the context allows. -/
def pastGap : Reader (List Char) := do
  pure ((← rest).drop (blankLength (← context).lines (← rest)))

/-- Reads the characters of `t`. -/
def exactly (t : String) : Reader Unit := do
  if startsWith t (← rest) then
    let _ ← take t.length
  else fail

/-- Reads the characters of `t` if they are there. -/
def optional (t : String) : Reader Bool := do
  if startsWith t (← rest) then
    let _ ← take t.length
    pure true
  else pure false

/-- The text begins with `t`. -/
def at? (t : String) : Reader Bool := do pure (startsWith t (← rest))

/-- Reads an identifier. -/
def identifier : Reader String := do
  match takeIdentifier? (← rest) with
  | some (name, _) =>
      let _ ← take name.length
      pure (String.ofList name)
  | none => fail

/-- Reads a line break, which is kept as a line feed. -/
def lineBreak : Reader Unit := do
  match lineBreak? (← rest) with
  | some n =>
      skip n
      keep "\n"
  | none => fail

/-- Reads a comment to the end of the line if there is one. -/
def lineComment : Reader Unit := do
  let _ ← take ((lineComment? (← rest)).getD 0)

/-- The result of reading a whole text, on one line at first. -/
def readAll? {α : Type} (r : Reader α) (cs : List Char) : Option α :=
  match r ⟨cs, .empty false, ⟨.one, true⟩⟩ with
  | some (a, ⟨[], _, _⟩) => some a
  | _ => none

end Reader

end VirtEnv.Hcl
