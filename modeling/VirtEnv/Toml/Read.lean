import VirtEnv.Toml.Build
import VirtEnv.Toml.Lexical

/-!
# Reading TOML

Reads a TOML text into its table.  The readers take the text and give back what they read with
the rest of the text; those that call each other also take the number of nested calls they may
still make.
-/

namespace VirtEnv.Toml

open VirtEnv.Text (startsWith)

namespace Read

/-- The text after spaces and tabs. -/
def spaces (cs : List Char) : List Char := cs.dropWhile isSpace

/-- The text after a comment, if one begins here. -/
def comment : List Char → List Char
  | '#' :: cs => cs.dropWhile isPlain
  | cs => cs

/-- The text after spaces, comments and line breaks; `n` bounds their number. -/
def gaps : Nat → List Char → List Char
  | 0, cs => cs
  | n + 1, cs =>
      let after := comment (spaces cs)
      match newline? after with
      | some k => gaps n (after.drop k)
      | none => if after.length == cs.length then cs else gaps n after

/-- The end of a line or of the text, after spaces and a comment. -/
def lineEnd? (cs : List Char) : Option (List Char) :=
  let after := comment (spaces cs)
  if after.isEmpty then some []
  else (newline? after).map fun k => after.drop k

/-- A part of a key. -/
def keyPart? (cs : List Char) : Option (String × List Char) :=
  let bare := cs.takeWhile isKeyChar
  if bare.isEmpty then shortString? cs
  else some (String.ofList bare, cs.drop bare.length)

/-- A dotted key; `n` bounds the number of its parts. -/
def key? : Nat → List Char → Option (Key × List Char)
  | 0, _ => none
  | n + 1, cs => do
      let (name, cs) ← keyPart? (spaces cs)
      match spaces cs with
      | '.' :: more =>
          let (names, rest) ← key? n more
          some (name :: names, rest)
      | rest => some ([name], rest)

/-- The number of nested arrays and inline tables that a value may have. -/
def maxDepth : Nat := 80

/-- The number of parts that a dotted key may have. -/
def maxParts : Nat := maxDepth - 1

mutual

/-- A value; `depth` is the number of levels it may have. -/
def value? : Nat → Nat → List Char → Option (Value × List Char)
  | 0, _, _ => none
  | fuel + 1, depth, cs =>
      match cs with
      | '"' :: _ => (string? cs).map fun r => (.string r.1, r.2)
      | '\'' :: _ => (string? cs).map fun r => (.string r.1, r.2)
      | '[' :: more =>
          if depth ≤ 1 then none
          else do
            let (items, rest) ← items? fuel (depth - 1) more
            some (.array items, rest)
      | '\x7b' :: more =>
          if depth ≤ 1 then none
          else do
            let (assignments, rest) ←
              match spaces more with
              | '\x7d' :: rest => some ([], rest)
              | more => assignments? fuel (depth - 1) more
            some (← tableOf? assignments, rest)
      | cs =>
          if startsWith "true" cs then some (.bool true, cs.drop 4)
          else if startsWith "false" cs then some (.bool false, cs.drop 5)
          else if atDatetime cs then datetime? cs
          else number? cs

/-- The items of an array, up to its closing bracket. -/
def items? : Nat → Nat → List Char → Option (List Value × List Char)
  | 0, _, _ => none
  | fuel + 1, depth, cs => do
      match gaps fuel cs with
      | ']' :: rest => some ([], rest)
      | cs =>
          let (v, cs) ← value? fuel depth cs
          match gaps fuel cs with
          | ',' :: more =>
              let (vs, rest) ← items? fuel depth more
              some (v :: vs, rest)
          | ']' :: rest => some ([v], rest)
          | _ => none

/-- The assignments of an inline table, up to its closing brace. -/
def assignments? : Nat → Nat → List Char → Option (List (Key × Value) × List Char)
  | 0, _, _ => none
  | fuel + 1, depth, cs => do
      let (key, cs) ← key? maxParts cs
      match spaces cs with
      | '=' :: more =>
          let (v, cs) ← value? fuel depth (spaces more)
          match spaces cs with
          | ',' :: more =>
              let (rest, cs) ← assignments? fuel depth more
              some ((key, v) :: rest, cs)
          | '\x7d' :: rest => some ([(key, v)], rest)
          | _ => none
      | _ => none

end

/-- A statement with the end of its line. -/
def statement? (fuel : Nat) (cs : List Char) : Option (Statement × List Char) := do
  match cs with
  | '[' :: '[' :: more =>
      let (key, cs) ← key? maxParts more
      match cs with
      | ']' :: ']' :: rest => some (.arrayHeader key, ← lineEnd? rest)
      | _ => none
  | '[' :: more =>
      let (key, cs) ← key? maxParts more
      match cs with
      | ']' :: rest => some (.header key, ← lineEnd? rest)
      | _ => none
  | cs =>
      let (key, cs) ← key? maxParts cs
      match spaces cs with
      | '=' :: more =>
          let (v, rest) ← value? fuel maxDepth (spaces more)
          some (.assign key v, ← lineEnd? rest)
      | _ => none

/-- The statements of a text. -/
def statements? : Nat → List Char → Option (List Statement)
  | 0, _ => none
  | fuel + 1, cs => do
      match gaps fuel cs with
      | [] => some []
      | cs =>
          let (s, rest) ← statement? fuel cs
          some (s :: (← statements? fuel rest))

end Read

/-- The table that a text is. -/
def parse? (source : String) : Option (List (String × Value)) := do
  let cs := source.toList
  let cs := if cs.head? == some '\ufeff' then cs.drop 1 else cs
  let statements ← Read.statements? (4 * (cs.length + 1)) cs
  let entries ← Entries.run? [] [] statements
  some (Entry.toFields entries)

end VirtEnv.Toml
