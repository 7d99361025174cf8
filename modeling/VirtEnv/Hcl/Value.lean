import VirtEnv.Hcl.Layout
import VirtEnv.Hcl.Literal
import VirtEnv.Hcl.Number

/-!
# Values

What expressions evaluate to.  An object keeps its keys in the order in which they were first
set, each key once (`setKey`).
-/

namespace VirtEnv.Hcl

/-- The value of an expression. -/
inductive Value where
  | null
  | bool (b : Bool)
  | number (n : Number)
  | string (s : String)
  | array (items : List Value)
  | object (fields : List (String × Value))

/-- Sets a key in a list of pairs: in its place if it is there, at the end otherwise. -/
def setKey {α : Type} (fields : List (String × α)) (key : String) (value : α) :
    List (String × α) :=
  match fields with
  | [] => [(key, value)]
  | (k, v) :: rest =>
      if k == key then (k, value) :: rest else (k, v) :: setKey rest key value

namespace Value

/-- An object that maps each name to itself. -/
def ofNames (names : List String) : Value :=
  .object (names.map fun n => (n, .string n))

mutual

/-- Equality of values.  Numbers are compared as numbers, objects without regard to order. -/
def equals : Value → Value → Bool
  | .null, .null => true
  | .bool a, .bool b => a == b
  | .number a, .number b => a.equals b
  | .string a, .string b => a == b
  | .array as, .array bs => equalsAll as bs
  | .object as, .object bs => as.length == bs.length && fieldsIn as bs
  | _, _ => false

/-- Equality position by position. -/
def equalsAll : List Value → List Value → Bool
  | [], [] => true
  | a :: as, b :: bs => equals a b && equalsAll as bs
  | _, _ => false

/-- Every field is one of `bs`, with an equal value. -/
def fieldsIn : List (String × Value) → List (String × Value) → Bool
  | [], _ => true
  | (k, a) :: as, bs =>
      (match bs.lookup k with
        | some b => equals a b
        | none => false) && fieldsIn as bs

end

mutual

/-- The shape of a value's text: as of an expression, with every object key quoted. -/
def doc : Value → Doc
  | .null => .text "null"
  | .bool b => .text (if b then "true" else "false")
  | .number n => .text n.text
  | .string s => .text (stringValueText s)
  | .array items => .array (docs items)
  | .object fields => .object (fieldDocs fields)

/-- The shapes of several values. -/
def docs : List Value → List Doc
  | [] => []
  | v :: vs => v.doc :: docs vs

/-- The shapes of an object's fields. -/
def fieldDocs : List (String × Value) → List Doc
  | [] => []
  | (k, v) :: fields => .row [.text (stringLiteral k), .text " = ", v.doc] :: fieldDocs fields

end

/-- The text of a value. -/
def text (v : Value) : String := v.doc.pretty

/-- The text of a value inside a template: a string as it is, any other value as its text. -/
def templateText : Value → String
  | .string s => s
  | v => v.text

end Value

end VirtEnv.Hcl
