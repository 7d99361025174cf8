import VirtEnv.Numeric.Shortest

/-!
# TOML values

What a TOML text means.  Dates and times are kept as text in their usual form.
-/

namespace VirtEnv.Toml

/-- A TOML value. -/
inductive Value where
  | string (s : String)
  | integer (i : Int)
  | real (x : Numeric.Binary64)
  | bool (b : Bool)
  | datetime (text : String)
  | array (items : List Value)
  | table (entries : List (String × Value))

/-- A dotted key. -/
abbrev Key := List String

/-- How a table came to be: by its own header, by the header of a table in it, or by a dotted
key. -/
inductive Origin where
  | header | subheader | dotted
  deriving DecidableEq, Repr

/-- An entry of a table while a document is being read. -/
inductive Entry where
  | value (v : Value)
  | table (origin : Origin) (entries : List (String × Entry))
  | tables (elements : List (List (String × Entry)))

mutual

/-- The value that an entry has in the end. -/
def Entry.toValue : Entry → Value
  | .value v => v
  | .table _ entries => .table (Entry.toFields entries)
  | .tables elements => .array (Entry.toElements elements)

/-- The values of the entries of a table. -/
def Entry.toFields : List (String × Entry) → List (String × Value)
  | [] => []
  | (k, e) :: entries => (k, e.toValue) :: Entry.toFields entries

/-- The values of the tables of an array. -/
def Entry.toElements : List (List (String × Entry)) → List Value
  | [] => []
  | entries :: elements => .table (Entry.toFields entries) :: Entry.toElements elements

end

end VirtEnv.Toml
