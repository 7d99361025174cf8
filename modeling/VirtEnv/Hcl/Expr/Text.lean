import VirtEnv.Hcl.Expr
import VirtEnv.Hcl.Layout
import VirtEnv.Hcl.Literal

/-!
# The text of expressions

`Expr.text` shows an expression as a document would write it, in a layout of its own: blanks and
comments are not kept, except within the text of a template.
-/

namespace VirtEnv.Hcl

/-- The names a `for` binds. -/
def Binder.text (b : Binder) : String :=
  match b.key with
  | some key => key ++ ", " ++ b.value
  | none => b.value

/-- A multi-line template: the delimiter, the text on lines of its own, the delimiter.  One that has
lost its indentation is closed at the indentation of the lines around it. -/
def Delimiter.doc (d : Delimiter) (text : String) : Doc :=
  let opening := (if d.indentation == 0 then "<<" else "<<-") ++ d.name ++ "\n"
  let lines := text ++ (if text.endsWith "\n" then "" else "\n")
  .row [.text (opening ++ lines), if d.indentation == 0 then .text "" else .indentation,
    .text d.name]

mutual

/-- The shape of an expression's text. -/
def Expr.doc : Expr → Doc
  | .null => .text "null"
  | .bool b => .text (if b then "true" else "false")
  | .number n => .text n.text
  | .string s => .text (stringLiteral s)
  | .array items => .array (Expr.docs items)
  | .object fields => .object (ObjectKey.fieldDocs fields)
  | .template text _ => .text ("\"" ++ text ++ "\"")
  | .heredoc delimiter text _ => delimiter.doc text
  | .variable name => .text name
  | .traversal base steps => .row (base.doc :: Step.docs steps)
  | .call function args expandFinal =>
      .row [.text (function ++ "("), .compact (.row (Expr.commaDocs args)),
        .text (if expandFinal then "...)" else ")")]
  | .paren e => .row [.text "(", e.doc, .text ")"]
  | .conditional condition yes no =>
      .compact (.row [condition.doc, .text " ? ", yes.doc, .text " : ", no.doc])
  | .unary op e => .row [.text op.text, e.doc]
  | .chain first rest => .row (first.doc :: Expr.operandDocs rest)
  | .forList binder collection value condition =>
      .row [.text ("[for " ++ binder.text ++ " in "), collection.doc, .text " : ", value.doc,
        Expr.conditionDoc condition, .text "]"]
  | .forObject binder collection key value grouped condition =>
      .row [.text ("\x7bfor " ++ binder.text ++ " in "), collection.doc, .text " : ", key.doc,
        .text " => ", value.doc, .text (if grouped then "..." else ""),
        Expr.conditionDoc condition, .text "\x7d"]

/-- The condition at the end of a `for` expression. -/
def Expr.conditionDoc : Option Expr → Doc
  | none => .text ""
  | some e => .row [.text " if ", e.doc]

/-- The shapes of several expressions. -/
def Expr.docs : List Expr → List Doc
  | [] => []
  | e :: es => e.doc :: Expr.docs es

/-- Arguments with commas between them. -/
def Expr.commaDocs : List Expr → List Doc
  | [] => []
  | [e] => [e.doc]
  | e :: es => e.doc :: .text ", " :: Expr.commaDocs es

/-- Operators with the operands after them. -/
def Expr.operandDocs : List (BinaryOp × Expr) → List Doc
  | [] => []
  | (op, e) :: rest => .text (" " ++ op.text ++ " ") :: e.doc :: Expr.operandDocs rest

/-- The key of an object expression. -/
def ObjectKey.doc : ObjectKey → Doc
  | .name s => .text s
  | .computed e => e.doc

/-- The fields of an object expression. -/
def ObjectKey.fieldDocs : List (ObjectKey × Expr) → List Doc
  | [] => []
  | (key, e) :: fields => .row [key.doc, .text " = ", e.doc] :: ObjectKey.fieldDocs fields

/-- An access. -/
def Step.doc : Step → Doc
  | .member name => .text ("." ++ name)
  | .position n => .text ("." ++ Numeric.digitText n)
  | .index e => .row [.text "[", e.doc, .text "]"]
  | .memberSplat => .text ".*"
  | .fullSplat => .text "[*]"

/-- Accesses in their order. -/
def Step.docs : List Step → List Doc
  | [] => []
  | s :: ss => s.doc :: Step.docs ss

end

/-- The text of an expression. -/
def Expr.text (e : Expr) : String := e.doc.pretty

/-- The text of an expression on one line. -/
def Expr.oneLineText (e : Expr) : String := e.doc.oneLine

/-- The text of an object key on its own. -/
def ObjectKey.text (k : ObjectKey) : String := k.doc.pretty

end VirtEnv.Hcl
