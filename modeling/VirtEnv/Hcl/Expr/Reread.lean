import VirtEnv.Hcl.Read

/-!
# Templates read from their shown text

What a template stands for is decided by its shown text, in which the escapes of its literals are
gone: `Expr.reread` gives every template of an expression the parts of that text, with blank space
stripped.  The templates inside these parts have a shown text of their own, and so on down
(`Segment.ofText`).
-/

namespace VirtEnv.Hcl

mutual

/-- An expression in which `partsOf` gives the parts of a template's text. -/
def Expr.withParts (partsOf : String → List Segment) : Expr → Expr
  | .null => .null
  | .bool b => .bool b
  | .number n => .number n
  | .string s => .string s
  | .array items => .array (Expr.withPartsAll partsOf items)
  | .object fields => .object (ObjectKey.withPartsAll partsOf fields)
  | .template text _ => .template text (partsOf text)
  | .heredoc delimiter text _ => .heredoc delimiter text (partsOf text)
  | .variable name => .variable name
  | .traversal base steps => .traversal (base.withParts partsOf) (Step.withPartsAll partsOf steps)
  | .call function args expandFinal =>
      .call function (Expr.withPartsAll partsOf args) expandFinal
  | .paren e => .paren (e.withParts partsOf)
  | .conditional condition yes no =>
      .conditional (condition.withParts partsOf) (yes.withParts partsOf) (no.withParts partsOf)
  | .unary op e => .unary op (e.withParts partsOf)
  | .chain first rest =>
      .chain (first.withParts partsOf) (Expr.withPartsOperands partsOf rest)
  | .forList binder collection value condition =>
      .forList binder (collection.withParts partsOf) (value.withParts partsOf)
        (Expr.withParts? partsOf condition)
  | .forObject binder collection key value grouped condition =>
      .forObject binder (collection.withParts partsOf) (key.withParts partsOf)
        (value.withParts partsOf) grouped (Expr.withParts? partsOf condition)
termination_by structural e => e

/-- The same for an expression that may be missing. -/
def Expr.withParts? (partsOf : String → List Segment) : Option Expr → Option Expr
  | none => none
  | some e => some (e.withParts partsOf)
termination_by structural e => e

/-- The same for several expressions. -/
def Expr.withPartsAll (partsOf : String → List Segment) : List Expr → List Expr
  | [] => []
  | e :: es => e.withParts partsOf :: Expr.withPartsAll partsOf es
termination_by structural es => es

/-- The same for the operands of a chain. -/
def Expr.withPartsOperands (partsOf : String → List Segment) :
    List (BinaryOp × Expr) → List (BinaryOp × Expr)
  | [] => []
  | (op, e) :: rest => (op, e.withParts partsOf) :: Expr.withPartsOperands partsOf rest
termination_by structural rest => rest

/-- The same for an object key. -/
def ObjectKey.withParts (partsOf : String → List Segment) : ObjectKey → ObjectKey
  | .name s => .name s
  | .computed e => .computed (e.withParts partsOf)
termination_by structural key => key

/-- The same for the fields of an object. -/
def ObjectKey.withPartsAll (partsOf : String → List Segment) :
    List (ObjectKey × Expr) → List (ObjectKey × Expr)
  | [] => []
  | (key, e) :: fields =>
      (key.withParts partsOf, e.withParts partsOf) :: ObjectKey.withPartsAll partsOf fields
termination_by structural fields => fields

/-- The same for an access. -/
def Step.withParts (partsOf : String → List Segment) : Step → Step
  | .member name => .member name
  | .position n => .position n
  | .index e => .index (e.withParts partsOf)
  | .memberSplat => .memberSplat
  | .fullSplat => .fullSplat
termination_by structural s => s

/-- The same for several accesses. -/
def Step.withPartsAll (partsOf : String → List Segment) : List Step → List Step
  | [] => []
  | s :: ss => s.withParts partsOf :: Step.withPartsAll partsOf ss
termination_by structural ss => ss

/-- The same for the expressions in a part of a template. -/
def Segment.withParts (partsOf : String → List Segment) : Segment → Segment
  | .literal text => .literal text
  | .interpolation m e => .interpolation m (e.withParts partsOf)
  | .branch opening condition yes middle no closing =>
      .branch opening (condition.withParts partsOf) (Segment.withPartsAll partsOf yes) middle
        (Segment.withPartsAll partsOf no) closing
  | .repetition opening binder collection body closing =>
      .repetition opening binder (collection.withParts partsOf)
        (Segment.withPartsAll partsOf body) closing
  | .malformed => .malformed
termination_by structural s => s

/-- The same for the expressions in several parts. -/
def Segment.withPartsAll (partsOf : String → List Segment) : List Segment → List Segment
  | [] => []
  | s :: ss => s.withParts partsOf :: Segment.withPartsAll partsOf ss
termination_by structural ss => ss

end

/-- The parts of a template's shown text, and down to `depth` levels those of the templates in
it. -/
def Segment.ofText : Nat → String → List Segment
  | 0, _ => [.malformed]
  | depth + 1, text =>
      match Read.parts? text with
      | some parts =>
          Segment.stripped false false (Segment.withPartsAll (Segment.ofText depth) parts)
      | none => [.malformed]

/-- An expression in which every template has the parts of its shown text.  The templates in a
text are no deeper than the text is long. -/
def Expr.reread (e : Expr) : Expr :=
  e.withParts fun text => Segment.ofText (text.length + 1) text

end VirtEnv.Hcl
