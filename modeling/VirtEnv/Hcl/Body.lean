import VirtEnv.Hcl.Expr.Reread

/-!
# Bodies

A body is a list of attributes and blocks, in written order.  A whole document is a body, and so
is what stands between the braces of a block.
-/

namespace VirtEnv.Hcl

/-- A label of a block: a bare name or a quoted text. -/
inductive Label where
  | name (s : String)
  | text (s : String)
  deriving DecidableEq, Repr

/-- The text of a label, however it is written. -/
def Label.value : Label → String
  | name s => s
  | text s => s

mutual

/-- A block: its type, its labels and its body. -/
inductive Block where
  | mk (type : String) (labels : List Label) (body : List Item)

/-- An item of a body. -/
inductive Item where
  | attribute (key : String) (value : Expr)
  | block (b : Block)

end

namespace Block

/-- The word that a block begins with. -/
def type : Block → String
  | mk type _ _ => type

/-- The labels of a block. -/
def labels : Block → List Label
  | mk _ labels _ => labels

/-- The body of a block. -/
def body : Block → List Item
  | mk _ _ body => body

end Block

namespace Read

open VirtEnv.Text (startsWith)
open Reader

/-- Reads labels. -/
def labels : Nat → Reader (List Label)
  | 0 => fail
  | fuel + 1 => do
      blanks .one
      if ← at? "\x7b" then pure []
      else if ← at? "\"" then
        let s ← plainString
        pure (.text s :: (← labels fuel))
      else
        let s ← identifier
        pure (.name s :: (← labels fuel))

/-- Reads what is left of an attribute after its key. -/
def attributeValue (fuel : Nat) : Reader Expr := do
  exactly "="
  blanks .one
  pure (← afresh .one (expr fuel)).reread

/-- Reads what ends an item: blanks, a comment to the end of the line if there is one, and a line
break or the end of the text. -/
def itemEnd : Reader Unit := do
  blanks .one
  lineComment
  if (← rest).isEmpty then pure () else lineBreak

mutual

/-- Reads the items of a body; `seen` are the keys of attributes before them, which may not come
again. -/
def body : Nat → List String → Reader (List Item)
  | 0, _ => fail
  | fuel + 1, seen => do
      blanks .many
      if (← rest).isEmpty || (← at? "\x7d") then pure []
      else
        let word ← identifier
        blanks .one
        if ← at? "=" then
          if seen.contains word then fail
          else
            let value ← attributeValue fuel
            itemEnd
            pure (.attribute word value :: (← body fuel (word :: seen)))
        else
          let ls ← labels fuel
          let items ← blockBody fuel
          itemEnd
          pure (.block (.mk word ls items) :: (← body fuel seen))

/-- Reads the body of a block with its braces: items on lines of their own, or at most one
attribute on the line of the opening brace. -/
def blockBody : Nat → Reader (List Item)
  | 0 => fail
  | fuel + 1 => do
      exactly "\x7b"
      blanks .one
      let cs ← rest
      if (lineComment? cs).isSome || (lineBreak? cs).isSome then
        lineComment
        lineBreak
        let items ← body fuel []
        exactly "\x7d"
        pure items
      else if ← optional "\x7d" then pure []
      else
        let key ← identifier
        blanks .one
        let value ← attributeValue fuel
        blanks .one
        exactly "\x7d"
        pure [.attribute key value]

end

end Read

/-- The body that a text is, if it is one. -/
def Item.parse? (source : String) : Option (List Item) :=
  let cs := source.toList
  Reader.readAll? (Read.body (Read.fuelFor cs.length) []) cs

/-- The expression that a text is, as the value of an attribute on a line of its own. -/
def Expr.parse? (source : String) : Option Expr :=
  match Item.parse? ("value = " ++ source ++ "\n") with
  | some [.attribute _ e] => some e
  | _ => none

end VirtEnv.Hcl
