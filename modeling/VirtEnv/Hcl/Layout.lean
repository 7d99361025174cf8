/-!
# Layout of expression text

Expressions and values are shown through one small document type.  Arrays and objects take one
line per element and two spaces per level, or stand on one line inside a compact part.  A text
that goes over several lines by itself may ask for the indentation of its level.

An element is written as the first of its collection, without a separator before it, when nothing
was written since the last opening bracket; `Doc.render` carries this as a flag from left to
right.  The element after an empty collection is therefore written as a first one.
-/

namespace VirtEnv.Hcl

/-- The shape of an expression's text. -/
inductive Doc where
  | text (s : String)
  | row (parts : List Doc)
  | array (items : List Doc)
  | object (fields : List Doc)
  | compact (d : Doc)
  | indentation

namespace Doc

/-- The indentation of a level. -/
def levelBlanks (level : Nat) : String := String.ofList (List.replicate (2 * level) ' ')

/-- A line break and the indentation of a level. -/
def newLine (level : Nat) : String := "\n" ++ levelBlanks level

/-- The text before an element of an array. -/
def beforeItem (compact first : Bool) (level : Nat) : String :=
  match compact, first with
  | true, true => ""
  | true, false => ", "
  | false, true => newLine level
  | false, false => "," ++ newLine level

/-- The text before a field of an object. -/
def beforeField (compact first : Bool) (level : Nat) : String :=
  match compact, first with
  | true, true => " "
  | true, false => ", "
  | false, _ => newLine level

/-- The text before the bracket that closes an array. -/
def beforeArrayEnd (compact empty : Bool) (level : Nat) : String :=
  if empty || compact then "" else newLine level

/-- The text before the brace that closes an object. -/
def beforeObjectEnd (compact empty : Bool) (level : Nat) : String :=
  if empty then "" else if compact then " " else newLine level

/-- The level of the elements of a collection. -/
def inner (compact : Bool) (level : Nat) : Nat := if compact then level else level + 1

mutual

/-- The text of a document, and whether nothing was written since the last opening bracket. -/
def render (compact : Bool) (level : Nat) : Doc → Bool → String × Bool
  | .text s, first => (s, first)
  | .row parts, first => renderRow compact level parts first
  | .array items, _ =>
      let (s, first) := renderItems compact (inner compact level) items true
      ("[" ++ s ++ beforeArrayEnd compact items.isEmpty level ++ "]", first)
  | .object fields, _ =>
      let (s, first) := renderFields compact (inner compact level) fields true
      ("\x7b" ++ s ++ beforeObjectEnd compact fields.isEmpty level ++ "\x7d", first)
  | .compact d, first => render true level d first
  | .indentation, first => (levelBlanks level, first)

/-- The parts of a row, one after the other. -/
def renderRow (compact : Bool) (level : Nat) : List Doc → Bool → String × Bool
  | [], first => ("", first)
  | d :: ds, first =>
      let (s, first) := render compact level d first
      let (t, first) := renderRow compact level ds first
      (s ++ t, first)

/-- The elements of an array, each with the text before it. -/
def renderItems (compact : Bool) (level : Nat) : List Doc → Bool → String × Bool
  | [], first => ("", first)
  | d :: ds, first =>
      let (s, next) := render compact level d false
      let (t, last) := renderItems compact level ds next
      (beforeItem compact first level ++ s ++ t, last)

/-- The fields of an object, each with the text before it. -/
def renderFields (compact : Bool) (level : Nat) : List Doc → Bool → String × Bool
  | [], first => ("", first)
  | d :: ds, first =>
      let (s, next) := render compact level d false
      let (t, last) := renderFields compact level ds next
      (beforeField compact first level ++ s ++ t, last)

end

/-- The text over several lines. -/
def pretty (d : Doc) : String := (render false 0 d true).1

/-- The text on one line. -/
def oneLine (d : Doc) : String := (render true 0 d true).1

end Doc

end VirtEnv.Hcl
