import VirtEnv.Files
import VirtEnv.Text.Lower
import VirtEnv.Toml.Read

/-!
# Layers of settings

Settings are put together from layers, the later over the earlier.  Tables are merged key by key;
any other value replaces what was there.  All keys are taken in lower case, and a key at the top
of a file may be a path (`"vm.defaults.cpu"`).  Of keys that are the same in lower case the one counts
that is gone through last, and there is no telling which one that is.

A value remembers the file it came from.  A table that merging made belongs to no file.
-/

namespace VirtEnv.Settings

open Toml (Value)

/-- A value that is neither a table nor an array. -/
inductive Scalar where
  | string (s : String)
  | integer (i : Int)
  | real (x : Numeric.Binary64)
  | bool (b : Bool)
  deriving DecidableEq, Repr

/-- A value of the merged settings, with the file it came from. -/
inductive Node where
  | nothing
  | scalar (origin : Option String) (v : Scalar)
  | array (origin : Option String) (items : List Node)
  | table (origin : Option String) (entries : List (String × Node))

namespace Node

/-- The table without entries. -/
def empty : Node := .table none []

mutual

/-- The value that a file gives. -/
def ofToml (origin : Option String) : Value → Node
  | .string s => .scalar origin (.string s)
  | .integer i => .scalar origin (.integer i)
  | .real x => .scalar origin (.real x)
  | .bool b => .scalar origin (.bool b)
  | .datetime text => .scalar origin (.string text)
  | .array items => .array origin (ofItems origin items)
  | .table entries => .table origin (ofEntries origin entries)

/-- The items of an array. -/
def ofItems (origin : Option String) : List Value → List Node
  | [] => []
  | v :: vs => ofToml origin v :: ofItems origin vs

/-- The entries of a table. -/
def ofEntries (origin : Option String) : List (String × Value) → List (String × Node)
  | [] => []
  | (k, v) :: entries => (k, ofToml origin v) :: ofEntries origin entries

end

/-- The entries of a table; any other value has none. -/
def entries : Node → List (String × Node)
  | .table _ entries => entries
  | _ => []

/-- Puts an entry before those that have no smaller rank. -/
def insertByRank (rank : String → Nat) (e : String × Node) :
    List (String × Node) → List (String × Node)
  | [] => [e]
  | e' :: entries =>
      if rank e.1 ≤ rank e'.1 then e :: e' :: entries else e' :: insertByRank rank e entries

/-- Entries in the order of their ranks. -/
def byRank (rank : String → Nat) (entries : List (String × Node)) : List (String × Node) :=
  entries.foldr (insertByRank rank) []

mutual

/-- The value at the end of a path, its tables with their entries in the order of a ranking.  Tables
within arrays are not gone through. -/
def arrange (r : Ranking) (path : List String) : Node → Node
  | .table origin entries => .table origin (byRank (r path) (arrangeEntries r path entries))
  | .nothing => .nothing
  | .scalar origin v => .scalar origin v
  | .array origin items => .array origin items

/-- The entries of the table at the end of a path, with the tables in them arranged. -/
def arrangeEntries (r : Ranking) (path : List String) :
    List (String × Node) → List (String × Node)
  | [] => []
  | (k, v) :: entries => (k, arrange r (path ++ [k]) v) :: arrangeEntries r path entries

end

/-- Changes the entry of a key; a missing one is added at the end.  A value that is no table gives
way to a new one. -/
def modifyEntry (f : Option Node → Node) (key : String) (root : Node) : Node :=
  let key := Text.lower key
  let change (entries : List (String × Node)) : List (String × Node) :=
    match entries.lookup key with
    | some v => entries.map fun e => if e.1 == key then (key, f (some v)) else e
    | none => entries ++ [(key, f none)]
  match root with
  | .table origin entries => .table origin (change entries)
  | _ => .table none (change [])

mutual

/-- Lays `v` over what a node has under a key. -/
def lay (key : String) (root : Node) : Node → Node
  | .table _ incoming => modifyEntry (fun e => layAll (e.getD empty) incoming) key root
  | .nothing => modifyEntry (fun _ => .nothing) key root
  | .scalar origin v => modifyEntry (fun _ => .scalar origin v) key root
  | .array origin items => modifyEntry (fun _ => .array origin items) key root
termination_by structural v => v

/-- Lays entries over a node, one after the other. -/
def layAll (root : Node) : List (String × Node) → Node
  | [] => root
  | (key, v) :: rest => layAll (lay key root v) rest
termination_by structural entries => entries

end

/-! ### Paths -/

/-- A step of a path after its first name. -/
inductive PathStep where
  | child (name : String)
  | index (i : Int)
  deriving DecidableEq, Repr

/-- A character of a name in a path. -/
def isPathChar (c : Char) : Bool := c.isAlphanum || c == ' ' || c == '_' || c == '-'

/-- A text without the spaces and tabs at its head. -/
def pastSpaces (cs : List Char) : List Char := cs.dropWhile fun c => c == ' ' || c == '\t'

/-- The position between brackets at the head of a text, given the text after the opening one, and
the text after the closing one.  It is a signed 64-bit integer, and blanks may stand around it. -/
def position? (cs : List Char) : Option (Int × List Char) := do
  let cs := pastSpaces cs
  let negative := cs.head? == some '-'
  let cs := if negative then cs.drop 1 else cs
  let ds := cs.takeWhile Text.isDigit
  let n ← Text.valueIn? 10 ds
  let i : Int := if negative then -n else n
  match pastSpaces (cs.drop ds.length) with
  | ']' :: rest =>
      if ds.isEmpty || i < -(Nat.pow 2 63) || Nat.pow 2 63 ≤ i then none else some (i, rest)
  | _ => none

/-- The steps of a path, given the text after its first name; `n` bounds their number. -/
def pathSteps? : Nat → List Char → Option (List PathStep)
  | _, [] => some []
  | 0, _ => none
  | n + 1, '.' :: cs =>
      let name := cs.takeWhile isPathChar
      if name.isEmpty then none
      else (pathSteps? n (cs.drop name.length)).map (.child (String.ofList name) :: ·)
  | n + 1, '[' :: cs => do
      let (i, rest) ← position? cs
      (pathSteps? n rest).map (.index i :: ·)
  | _, _ => none

/-- The path that a key is: a name with steps after it. -/
def path? (key : String) : Option (String × List PathStep) :=
  let cs := key.toList
  let name := cs.takeWhile isPathChar
  if name.isEmpty then none
  else (pathSteps? cs.length (cs.drop name.length)).map (String.ofList name, ·)

/-- The items of an array; any other value has none. -/
def items : Node → List Node
  | .array _ items => items
  | _ => []

/-- The file of an array. -/
def arrayOrigin : Node → Option String
  | .array origin _ => origin
  | _ => none

/-- A position in an array of a length; a negative one counts from the end. -/
def positionIn (i : Int) (length : Nat) : Nat :=
  if 0 ≤ i then i.toNat else length - (-i).toNat

/-- Changes an item of an array, which grows as far as needed. -/
def modifyItem (f : Node → Node) (i : Int) (root : Node) : Node :=
  let position := positionIn i root.items.length
  let grown := root.items ++ List.replicate (position + 1 - root.items.length) .nothing
  .array root.arrayOrigin (grown.modify position f)

/-- Lays `v` at the end of the path that goes on from a node with `steps`. -/
def layAt (v : Node) : List PathStep → Node → Node
  | [], _ => v
  | [.child name], root => lay name root v
  | .child name :: steps, root => modifyEntry (fun e => layAt v steps (e.getD .nothing)) name root
  | .index i :: steps, root => modifyItem (layAt v steps) i root

/-- Lays `v` over the settings under a key of a file. -/
def layKey (root : Node) (key : String) (v : Node) : Node :=
  match path? key with
  | some (name, steps) => layAt v (.child name :: steps) root
  | none => lay key root v

/-- Lays the table of a file over the settings, its keys in their order. -/
def layFile (root : Node) (r : Ranking) (origin : String) (table : List (String × Value)) : Node :=
  ((ofToml (some origin) (.table table)).arrange r []).entries.foldl
    (fun root e => layKey root e.1 e.2) root

end Node

end VirtEnv.Settings
