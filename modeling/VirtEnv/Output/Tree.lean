import VirtEnv.Hcl.Number

/-!
# Trees

What the program writes out as JSON or YAML: a tree of scalars, lists and records.  A record keeps
its fields in order, and a field's key may be any tree, which not every format can write.  A
tagged tree names the alternative it stands for.
-/

namespace VirtEnv.Output

/-- A tree to be written. -/
inductive Tree where
  | null
  | bool (b : Bool)
  | number (n : Hcl.Number)
  | text (s : String)
  | list (items : List Tree)
  | record (fields : List (Tree × Tree))
  | tagged (tag : String) (t : Tree)

namespace Tree

/-- A natural number. -/
def nat (n : Nat) : Tree := .number (.ofNat n)

/-- A list of texts. -/
def texts (ss : List String) : Tree := .list (ss.map .text)

/-- A record whose keys are names. -/
def ofFields (fields : List (String × Tree)) : Tree :=
  .record (fields.map fun f => (.text f.1, f.2))

/-- A record that maps names to texts. -/
def ofTexts (fields : List (String × String)) : Tree :=
  ofFields (fields.map fun f => (f.1, .text f.2))

/-- A text, or null where there is none. -/
def ofText? : Option String → Tree
  | some s => .text s
  | none => .null

/-- A field that is left out under a condition. -/
def fieldUnless (omitted : Bool) (name : String) (t : Tree) : List (String × Tree) :=
  if omitted then [] else [(name, t)]

end Tree

end VirtEnv.Output
