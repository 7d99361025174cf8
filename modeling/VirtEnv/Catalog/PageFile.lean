import VirtEnv.Catalog.Database

/-!
# Database files

Reads the tables of a catalog from the bytes of a database file.  The file is a sequence of pages
of one size, numbered from one.  A table is a tree of pages: leaves hold rows in the order of their
numbers, and inner pages point to the pages below them.  A row that is too long for its page goes
on in a chain of pages.  The first page begins with the file's header and is the root of a table
that lists all tables, with the statement that created each of them.

Texts are UTF-8.
-/

namespace VirtEnv

/-- A file of pages. -/
structure PageFile where
  bytes : ByteArray
  pageSize : Nat
  usable : Nat

/-- A value in a row. -/
inductive Cell where
  | integer (n : Nat)
  | text (s : String)
  | other
  deriving DecidableEq, Repr

namespace PageFile

/-- The unsigned integer in the `count` bytes at a position, the most significant byte first. -/
def unsigned? (bytes : ByteArray) (position count : Nat) : Option Nat :=
  (List.range count).foldlM
    (fun n i => (bytes[position + i]?).map fun b => 256 * n + b.toNat) 0

/-- The integer of variable length at a position, given the part before it, and the position after
it: seven bits a byte while the eighth is set, and eight in the last of `count` bytes. -/
def varying? (bytes : ByteArray) (n : Nat) : Nat → Nat → Option (Nat × Nat)
  | 0, _ => none
  | 1, position => (bytes[position]?).map fun b => (256 * n + b.toNat, position + 1)
  | count + 2, position => do
      let b ← bytes[position]?
      if b < 128 then some (128 * n + b.toNat, position + 1)
      else varying? bytes (128 * n + (b.toNat - 128)) (count + 1) (position + 1)

/-- The integer of variable length at a position, and the position after it. -/
def varint? (bytes : ByteArray) (position : Nat) : Option (Nat × Nat) :=
  varying? bytes 0 9 position

/-- The text at the beginning of a database file. -/
def magic : String := "SQLite format 3\x00"

/-- The file that bytes are. -/
def ofBytes? (bytes : ByteArray) : Option PageFile := do
  if (bytes.extract 0 16).toList != magic.toUTF8.toList then none
  else
    let written ← unsigned? bytes 16 2
    let pageSize := if written == 1 then 65536 else written
    let reserved ← unsigned? bytes 20 1
    if pageSize < 512 || pageSize < reserved + 480 then none
    else some { bytes, pageSize, usable := pageSize - reserved }

/-- The position of a page. -/
def pageStart (f : PageFile) (page : Nat) : Nat := (page - 1) * f.pageSize

/-- The number of pages. -/
def pageCount (f : PageFile) : Nat := f.bytes.size / f.pageSize

/-- The bytes of a chain of pages up to a length; `fuel` bounds the chain. -/
def chain? (f : PageFile) : Nat → Nat → Nat → Option ByteArray
  | _, _, 0 => some ByteArray.empty
  | 0, _, _ => none
  | fuel + 1, page, length => do
      let start := f.pageStart page
      let next ← unsigned? f.bytes start 4
      let here := min length (f.usable - 4)
      let rest ← chain? f fuel next (length - here)
      some (f.bytes.extract (start + 4) (start + 4 + here) ++ rest)

/-- How many bytes of a row of a length stand in the leaf itself. -/
def localLength (f : PageFile) (length : Nat) : Nat :=
  if length ≤ f.usable - 35 then length
  else
    let least := (f.usable - 12) * 32 / 255 - 23
    let fitting := least + (length - least) % (f.usable - 4)
    if fitting ≤ f.usable - 35 then fitting else least

/-- The bytes of the row whose entry in a leaf is at a position. -/
def row? (f : PageFile) (position : Nat) : Option ByteArray := do
  let (length, position) ← varint? f.bytes position
  let (_, position) ← varint? f.bytes position
  let here := f.localLength length
  let beginning := f.bytes.extract position (position + here)
  if here == length then some beginning
  else
    let next ← unsigned? f.bytes (position + here) 4
    some (beginning ++ (← f.chain? f.pageCount next (length - here)))

/-- The number of bytes of a value with the given type number. -/
def cellLength (type : Nat) : Nat :=
  match type with
  | 5 => 6
  | 6 | 7 => 8
  | n => if n ≤ 4 then n else if n ≤ 11 then 0 else (n - 12) / 2

/-- The value with a type number at a position. -/
def cell? (bytes : ByteArray) (type position : Nat) : Option Cell :=
  if type == 8 then some (.integer 0)
  else if type == 9 then some (.integer 1)
  else if 1 ≤ type && type ≤ 6 then
    (unsigned? bytes position (cellLength type)).map .integer
  else if 13 ≤ type && type % 2 == 1 then
    (String.fromUTF8? (bytes.extract position (position + cellLength type))).map .text
  else some .other

/-- The type numbers in a row's header up to a position; `fuel` bounds their number. -/
def types? (bytes : ByteArray) (stop : Nat) : Nat → Nat → Option (List Nat)
  | 0, _ => none
  | fuel + 1, position =>
      if stop ≤ position then some []
      else do
        let (type, position) ← varint? bytes position
        some (type :: (← types? bytes stop fuel position))

/-- The values at a position that have the given type numbers. -/
def cells? (bytes : ByteArray) : Nat → List Nat → Option (List Cell)
  | _, [] => some []
  | position, type :: types => do
      let c ← cell? bytes type position
      some (c :: (← cells? bytes (position + cellLength type) types))

/-- The values of a row. -/
def values? (bytes : ByteArray) : Option (List Cell) := do
  let (header, position) ← varint? bytes 0
  cells? bytes header (← types? bytes header (header + 1) position)

/-- The number at which the values of `count` consecutive entries stand, for the entries at a
position. -/
def pointers? (f : PageFile) (start position count : Nat) : Option (List Nat) :=
  (List.range count).mapM fun i =>
    (unsigned? f.bytes (position + 2 * i) 2).map (start + ·)

/-- The rows of a table with the given root; `fuel` bounds the height of its tree. -/
def rows? (f : PageFile) : Nat → Nat → Option (List (List Cell))
  | 0, _ => none
  | fuel + 1, page => do
      let start := f.pageStart page
      let header := if page == 1 then 100 else start
      let type ← unsigned? f.bytes header 1
      let count ← unsigned? f.bytes (header + 3) 2
      match type with
      | 13 =>
          let entries ← f.pointers? start (header + 8) count
          entries.mapM fun p => do values? (← f.row? p)
      | 5 =>
          let entries ← f.pointers? start (header + 12) count
          let below ← entries.mapM fun p => unsigned? f.bytes p 4
          let last ← unsigned? f.bytes (header + 8) 4
          some (← (below ++ [last]).mapM (rows? f fuel)).flatten
      | _ => none

/-- The greatest height of a table's tree. -/
def maxHeight : Nat := 20

/-! ### Tables -/

/-- The parts between the commas of a text that are in no parentheses; `depth` counts the open
ones. -/
def columnTexts (depth : Nat) (part : List Char) : List Char → List (List Char)
  | [] => [part.reverse]
  | c :: cs =>
      if c == ',' && depth == 0 then part.reverse :: columnTexts 0 [] cs
      else
        let depth := if c == '(' then depth + 1 else if c == ')' then depth - 1 else depth
        columnTexts depth (c :: part) cs

/-- A character between the words of a statement, or around a quoted name. -/
def isSeparator (c : Char) : Bool := c.isWhitespace || "\"[]\x60'".toList.contains c

/-- The names of the columns that a statement creates: the first word of each definition. -/
def columnNames (statement : String) : List String :=
  let definitions := (statement.toList.dropWhile (· != '(')).drop 1
  (columnTexts 0 [] definitions).map fun cs =>
    (String.ofList ((cs.dropWhile isSeparator).takeWhile (!isSeparator ·))).toLower

/-- The root and the creating statement of a table, if a row that lists a table is about it. -/
def entryFor? (table : String) : List Cell → Option (Nat × String)
  | [.text "table", .text name, _, .integer root, .text statement] =>
      if name.toLower == table then some (root, statement) else none
  | _ => none

/-- The name in a column of a row. -/
def nameAt (column : Nat) (row : List Cell) : String :=
  match row[column]? with
  | some (.text name) => name
  | _ => ""

/-- The names in a table, if there is such a table. -/
def names? (f : PageFile) (listed : List (List Cell)) (table : String) :
    Option (List String) := do
  let (root, statement) ← listed.findSome? (entryFor? table)
  let column ← (columnNames statement).findIdx? (· == "name")
  let rows ← f.rows? maxHeight root
  some (rows.map (nameAt column))

/-- The database in a file. -/
def database? (f : PageFile) : Option Database := do
  let listed ← f.rows? maxHeight 1
  some
    { networks := f.names? listed (Database.tableName .network)
      stores := f.names? listed (Database.tableName .store) }

end PageFile

/-- The database that bytes are. -/
def Database.ofBytes? (bytes : ByteArray) : Option Database := do
  (← PageFile.ofBytes? bytes).database?

end VirtEnv
