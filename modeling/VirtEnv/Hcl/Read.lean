import VirtEnv.Hcl.Cursor
import VirtEnv.Hcl.Expr.Alike
import VirtEnv.Hcl.Template

/-!
# Reading expressions

A recursive-descent reader.  Every function takes the number of nested calls it may still make;
`Read.fuelFor` of the text's length is always enough, since no function calls itself without
reading except along a chain of fixed length.

An expression ends with its line, unless it stands between brackets (but not between the braces
of an object).  An array, a `for` or a call among its terms also lets it go on over many lines:
reading one changes the context of the expression that it is part of.
-/

namespace VirtEnv.Hcl

open VirtEnv.Text (readUnits startsWith isDigit)
open Reader

namespace Read

/-- A bound on the nested calls that reading a text of length `n` makes. -/
def fuelFor (n : Nat) : Nat := 16 * (n + 1)

/-- Reads the literal text of a template at the cursor. -/
def literalText (form : TemplateForm) : Reader String := do
  let (units, n) := readUnits form.unit 0 (← rest)
  let text := String.ofList units.flatten
  skip n
  keepLiteral text
  pure text

/-- Reads a quoted string without sequences. -/
def plainString : Reader String := do
  exactly "\""
  let text ← literalText .quoted
  exactly "\""
  pure text

/-- Reads a number that begins with a digit. -/
def number : Reader Number := do
  match number? (← rest) with
  | some (n, length) =>
      let _ ← take length
      pure n
  | none => fail

/-- Reads a minus sign and a number. -/
def negativeNumber : Reader Number := do
  exactly "-"
  blanks .one
  pure (← number).neg

/-- Reads the digits of an unsigned 64-bit integer, without leading zeros. -/
def position : Reader Nat := do
  let ds := digits (← rest)
  let n := decimalValue ds
  if ds.isEmpty || n ≥ Nat.pow 2 64 || (ds.length > 1 && ds.head? == some '0') then fail
  else
    let _ ← take ds.length
    pure n

/-- Reads the access after a point. -/
def dotStep : Reader Step := do
  if ← optional "*" then pure .memberSplat
  else if (← rest).head?.any isDigit then Step.position <$> position
  else Step.member <$> identifier

/-- Reads unary operators, of which the last one counts, and keeps nothing.  Also answers the text
between the first of them and the term. -/
def unaryOps : Reader (Option (String × UnaryOp)) := do
  let cs ← rest
  let (ops, n) := readUnits unaryUnit 0 cs
  skip n
  pure (ops.getLast?.map fun op => (String.ofList ((cs.take n).drop 1), op))

/-- The expression goes on after a term: with an access, an operator or a conditional. -/
def goesOn : Reader Bool := do
  let cs ← pastGap
  pure (atAccess cs || (binaryOp? cs).isSome || ((← context).conditional && startsWith "?" cs))

/-- The expression of a name on its own. -/
def nameExpr : String → Expr
  | "null" => .null
  | "true" => .bool true
  | "false" => .bool false
  | name => .variable name

/-- A `for` begins here: after the word comes a blank or the start of a comment. -/
def atFor : Reader Bool := do
  match ← rest with
  | 'f' :: 'o' :: 'r' :: c :: _ => pure (c == ' ' || c == '\t' || c == '\n' || c == '#' || c == '/')
  | _ => pure false

/-- Reads the names a `for` binds, up to the collection. -/
def binder : Reader Binder := do
  blanks .many
  let first ← identifier
  blanks .many
  let binder ←
    if ← optional "," then
      blanks .many
      let second ← identifier
      blanks .many
      pure ⟨some first, second⟩
    else pure ⟨none, first⟩
  exactly "in"
  blanks .many
  pure binder

/-! ### Parts of templates -/

/-- The text after the opening of the directive at the cursor. -/
def directiveText : Reader (List Char) := do
  let cs := (← rest).drop 2
  let cs := if startsWith "~" cs then cs.drop 1 else cs
  pure (cs.drop (blankLength .many cs))

/-- A directive follows that ends a part of another one. -/
def atPartEnd : Reader Bool := do
  let cs ← directiveText
  pure (startsWith "else" cs || startsWith "endif" cs || startsWith "endfor" cs)

/-- Reads a marker: its opening delimiter, what is inside, and its closing brace.  The reader of the
inside tells whether there are blanks around the keyword. -/
def marker {α : Type} (opening : String) (inside : Reader (Bool × α)) :
    Reader (Marker × α) := do
  exactly opening
  let stripsBefore ← optional "~"
  let (spaced, a) ← inside
  let stripsAfter ← optional "~"
  exactly "\x7d"
  pure (⟨stripsBefore, stripsAfter, spaced⟩, a)

/-- Reads blanks over many lines; answers whether there are any. -/
def anyBlanks : Reader Bool := do
  let n := blankLength .many (← rest)
  let _ ← take n
  pure (n != 0)

/-- Reads a directive marker that holds only a keyword. -/
def keywordMarker (keyword : String) : Reader Marker := do
  let (m, _) ← marker "%\x7b" do
    let before ← anyBlanks
    exactly keyword
    let after ← anyBlanks
    pure (before || after, ())
  pure m

/-- Reads the line break before the closing delimiter of a multi-line template; it belongs to the
template's text. -/
def lastLineBreak (name : List Char) : Reader Segment := do
  match lastLineBreak? name (← rest) with
  | some n =>
      let text := String.ofList ((← rest).take n)
      skip n
      keepLiteral text
      pure (.literal text)
  | none => fail

/-- Reads what opens a multi-line template, and keeps nothing: whether it is indented, and its
name. -/
def opening : Reader (Bool × String) := silently do
  exactly "<<"
  let indented ← optional "-"
  let name ← identifier
  lineBreak
  pure (indented, name)

/-- The text of a part of a template, of which `kept` was kept before its lines changed. -/
def shownPart (s : Segment) (kept : Kept) : String :=
  match s with
  | .literal text => String.ofList (doubleMarkers text.toList)
  | _ => kept.text

/-- Keeps a multi-line template, given its parts with what is kept of each and the text before its
closing name.  The indentation is removed from the template itself, and written anew in what is
kept for a template around it. -/
def heredocOf (indented : Bool) (name : String) (parts : List (Segment × Kept)) (kept : Kept)
    (beforeEnd : String) : Reader Expr := do
  let read := parts.map Prod.fst
  let n := if indented then (Segment.indentation true read).getD 0 else 0
  let dedented := Segment.dedentBy n true read
  let text := String.join (List.zipWith shownPart dedented (parts.map Prod.snd))
  if n == 0 then
    keep ("<<" ++ name ++ "\n")
    keepAll kept
  else keep ("<<-" ++ name ++ "\n" ++ String.ofList (indentLines n text.toList))
  keep (beforeEnd ++ name)
  pure (.heredoc ⟨name, n, !beforeEnd.isEmpty⟩ text dedented)

/-! ### Fields of objects -/

/-- A field of an object expression with what is kept of its key and of the text after it. -/
structure Field where
  key : ObjectKey
  value : Expr
  keptKey : Kept
  keptValue : Kept

/-- Adds a field.  It takes the place of one whose key is alike. -/
def addField (how : Comparison) (fields : List Field) (f : Field) : List Field :=
  match fields with
  | [] => [f]
  | g :: rest => if g.key.alike how f.key then f :: rest else g :: addField how rest f

/-- The key that an expression before an assignment is: a variable stands for its name. -/
def keyOfExpr : Expr → ObjectKey
  | .variable name => .name name
  | e => .computed e

/-- Reads what ends a field: a comma, a line break with or without a comment before it, or, without
reading it, the closing brace. -/
def fieldEnd : Reader Unit := do
  if ← optional "," then pure ()
  else if ← at? "\x7d" then pure ()
  else
    lineComment
    lineBreak

/-! ### Expressions -/

mutual

/-- Reads an expression.  A conditional may follow an operation, but not within it. -/
def expr : Nat → Reader Expr
  | 0 => fail
  | fuel + 1 => do
      let conditional := (← context).conditional
      let e ← chain fuel
      if conditional && startsWith "?" (← pastGap) then
        gap
        exactly "?"
        gap
        let yes ← nested (expr fuel)
        gap
        exactly ":"
        gap
        pure (.conditional e yes (← nested (expr fuel)))
      else pure e

/-- Reads operands with binary operators between them. -/
def chain : Nat → Reader Expr
  | 0 => fail
  | fuel + 1 => do
      let first ← operand fuel
      if (binaryOp? (← pastGap)).isSome then
        noConditional
        pure (.chain first (← nested (operands fuel)))
      else pure first

/-- Reads binary operators, each with the operand after it. -/
def operands : Nat → Reader (List (BinaryOp × Expr))
  | 0 => fail
  | fuel + 1 => do
      match binaryOp? (← pastGap) with
      | none => pure []
      | some op =>
          gap
          exactly op.text
          gap
          let e ← operand fuel
          pure ((op, e) :: (← operands fuel))

/-- Reads an operand: unary operators, a term, and accesses to its parts.  The operator applies to
the term alone.  What stands between it and the term is kept before it if the expression goes
on, and not at all otherwise. -/
def operand : Nat → Reader Expr
  | 0 => fail
  | fuel + 1 => do
      let e ←
        match ← unaryOps with
        | none => term fuel
        | some (between, op) =>
            let (e, kept) ← apart (term fuel)
            if ← goesOn then keep between
            keep op.text
            keepAll kept
            pure (.unary op e)
      match ← steps fuel true with
      | [] => pure e
      | ss => pure (.traversal e ss)

/-- Reads accesses.  Blanks are kept before the first of them only. -/
def steps : Nat → Bool → Reader (List Step)
  | 0, _ => fail
  | fuel + 1, isFirst => do
      if !atAccess (← pastGap) then pure []
      else
        if isFirst then gap else silently gap
        if ← optional "." then
          blanks .many
          let s ← dotStep
          pure (s :: (← steps fuel false))
        else
          exactly "["
          blanks .many
          let s ←
            if ← optional "*" then pure .fullSplat
            else Step.index <$> afresh .many (expr fuel)
          blanks .many
          exactly "]"
          pure (s :: (← steps fuel false))

/-- Reads a term. -/
def term : Nat → Reader Expr
  | 0 => fail
  | fuel + 1 => do
      match ← rest with
      | '"' :: _ => quoted fuel
      | '[' :: _ => bracketed fuel
      | '\x7b' :: _ => braced fuel
      | '(' :: _ => do
          exactly "("
          blanks .many
          let e ← afresh .many (expr fuel)
          blanks .many
          exactly ")"
          pure (.paren e)
      | '<' :: _ => heredoc fuel
      | '-' :: _ => Expr.number <$> negativeNumber
      | c :: _ =>
          if isDigit c then Expr.number <$> number
          else do
            let name ← identifier
            let cs ← pastGap
            if startsWith "(" cs || startsWith "::" cs then do
              gap
              call fuel name
            else pure (nameExpr name)
      | [] => fail

/-- Reads the rest of a call after a part of the function's name. -/
def call : Nat → String → Reader Expr
  | 0, _ => fail
  | fuel + 1, name => do
      if ← optional "::" then
        blanks .many
        let part ← identifier
        blanks .many
        call fuel (name ++ "::" ++ part)
      else
        exactly "("
        manyLines
        blanks .many
        let (args, expandFinal) ← arguments fuel
        pure (.call name args expandFinal)

/-- Reads arguments up to the closing parenthesis; the last one may be followed by a comma, or by
the mark that expands it. -/
def arguments : Nat → Reader (List Expr × Bool)
  | 0 => fail
  | fuel + 1 => do
      if ← optional ")" then pure ([], false)
      else
        let e ← nested (expr fuel)
        blanks .many
        if ← optional "..." then
          blanks .many
          exactly ")"
          pure ([e], true)
        else if ← optional "," then
          blanks .many
          let (es, expandFinal) ← arguments fuel
          pure (e :: es, expandFinal)
        else
          exactly ")"
          pure ([e], false)

/-- Reads an array or a list `for`. -/
def bracketed : Nat → Reader Expr
  | 0 => fail
  | fuel + 1 => do
      exactly "["
      manyLines
      blanks .many
      if ← atFor then
        exactly "for"
        let b ← binder
        let collection ← afresh .one (expr fuel)
        blanks .many
        exactly ":"
        blanks .many
        let value ← nested (expr fuel)
        blanks .many
        let condition ← forCondition fuel
        exactly "]"
        pure (.forList b collection value condition)
      else .array <$> items fuel

/-- Reads the elements of an array up to the closing bracket. -/
def items : Nat → Reader (List Expr)
  | 0 => fail
  | fuel + 1 => do
      if ← optional "]" then pure []
      else
        let e ← nested (expr fuel)
        blanks .many
        if ← optional "," then
          blanks .many
          pure (e :: (← items fuel))
        else
          exactly "]"
          pure [e]

/-- Reads the condition of a `for` if there is one. -/
def forCondition : Nat → Reader (Option Expr)
  | 0 => fail
  | fuel + 1 => do
      manyLines
      if ← optional "if" then
        blanks .many
        let e ← nested (expr fuel)
        blanks .many
        pure (some e)
      else pure none

/-- Reads an object or an object `for`. -/
def braced : Nat → Reader Expr
  | 0 => fail
  | fuel + 1 => do
      exactly "\x7b"
      blanks .many
      if ← atFor then
        exactly "for"
        let b ← binder
        let collection ← afresh .one (expr fuel)
        blanks .many
        exactly ":"
        blanks .many
        let key ← afresh .one (expr fuel)
        blanks .many
        exactly "=>"
        blanks .many
        let value ← afresh .one (expr fuel)
        blanks .many
        let grouped ← optional "..."
        let (_, beforeCondition) ← apart (blanks .many)
        if ← at? "if" then keepAll beforeCondition
        let condition ← forCondition fuel
        exactly "\x7d"
        pure (.forObject b collection key value grouped condition)
      else
        let (fs, _) ← apart (fields fuel [])
        fs.forM fun f => do
          keepAll f.keptKey
          keepAll f.keptValue
        blanks .many
        exactly "\x7d"
        pure (.object ((fs.foldl (addField .shown) []).map fun f => (f.key, f.value)))

/-- Reads the fields of an object, after those already read. -/
def fields : Nat → List Field → Reader (List Field)
  | 0, _ => fail
  | fuel + 1, done => do
      if startsWith "\x7d" ((← rest).drop (blankLength .many (← rest))) then pure done
      else
        let (key, keptKey) ← written do
          blanks .many
          let e ← afresh .one (expr fuel)
          blanks .one
          pure (keyOfExpr e)
        let (value, keptValue) ← written do
          if !(← optional "=") then exactly ":"
          blanks .one
          let e ← afresh .one (expr fuel)
          blanks .one
          fieldEnd
          pure e
        fields fuel (addField .written done ⟨key, value, keptKey, keptValue⟩)

/-- Reads a quoted string or template. -/
def quoted : Nat → Reader Expr
  | 0 => fail
  | fuel + 1 => do
      silently (exactly "\"")
      let (parts, kept) ← apartFrom true (pieces fuel .quoted)
      silently (exactly "\"")
      match parts.map Prod.fst with
      | [] =>
          keep "\"\""
          pure (.string "")
      | [.literal text] =>
          keep ("\"" ++ nestedLiteralBody text ++ "\"")
          pure (.string text)
      | parts =>
          keepAll kept.quoted
          pure (.template kept.text parts)

/-- Reads a multi-line template.  Its first line cannot close it, unless nothing else does. -/
def heredoc : Nat → Reader Expr
  | 0 => fail
  | fuel + 1 => do
      let (indented, name) ← opening
      let (parts, kept) ← apart (heredocLines fuel name.toList <|> pure [])
      match closing? name.toList (← rest) with
      | none => fail
      | some n =>
          let beforeEnd := String.ofList ((← rest).take n)
          skip (n + name.length)
          heredocOf indented name parts kept beforeEnd

/-- Reads the lines of a multi-line template, up to its closing delimiter. -/
def heredocLines : Nat → List Char → Reader (List (Segment × Kept))
  | 0, _ => fail
  | fuel + 1, name => do
      let parts ← pieces fuel (.lines name)
      let last ← written (lastLineBreak name)
      pure (parts ++ [last])

/-- Reads the parts of a template, each with what is kept of it, up to the end of the text or a
directive that ends a part. -/
def pieces : Nat → TemplateForm → Reader (List (Segment × Kept))
  | 0, _ => fail
  | fuel + 1, form => do
      let cs ← rest
      if form.ends cs || (startsWith "%\x7b" cs && (← atPartEnd)) then pure []
      else
        let s ← written (segment fuel form)
        pure (s :: (← pieces fuel form))

/-- Reads one part of a template. -/
def segment : Nat → TemplateForm → Reader Segment
  | 0, _ => fail
  | fuel + 1, form => do
      let cs ← rest
      if startsWith "$\x7b" cs then
        let (m, e) ← marker "$\x7b" do
          blanks .many
          let e ← afresh .many (expr fuel)
          blanks .many
          pure (false, e)
        pure (.interpolation m e)
      else if startsWith "%\x7b" cs then
        if startsWith "if" (← directiveText) then branch fuel else repetition fuel
      else
        let text ← literalText form
        if text.isEmpty then fail
        else pure (.literal text)

/-- Reads the parts within a directive: plain text, whatever the form of the
template around it. -/
def inside : Nat → Reader (List Segment)
  | 0 => fail
  | fuel + 1 => do pure ((← pieces fuel .plain).map Prod.fst)

/-- Reads an `if` directive with its parts. -/
def branch : Nat → Reader Segment
  | 0 => fail
  | fuel + 1 => do
      let (opening, condition) ← marker "%\x7b" do
        let spaced ← anyBlanks
        exactly "if"
        blanks .many
        let e ← afresh .one (expr fuel)
        blanks .many
        pure (spaced, e)
      let yes ← inside fuel
      if startsWith "else" (← directiveText) then
        let middle ← keywordMarker "else"
        let no ← inside fuel
        let closing ← keywordMarker "endif"
        pure (.branch opening condition yes (some middle) no closing)
      else
        let closing ← keywordMarker "endif"
        pure (.branch opening condition yes none [] closing)

/-- Reads a `for` directive with its body. -/
def repetition : Nat → Reader Segment
  | 0 => fail
  | fuel + 1 => do
      let (opening, b, collection) ← marker "%\x7b" do
        let spaced ← anyBlanks
        exactly "for"
        let b ← binder
        let e ← afresh .one (expr fuel)
        blanks .many
        pure (spaced, b, e)
      let body ← inside fuel
      let closing ← keywordMarker "endfor"
      pure (.repetition opening b collection body closing)

end

/-- The parts of a text that is read as a template. -/
def parts? (text : String) : Option (List Segment) :=
  let cs := text.toList
  (readAll? (pieces (fuelFor cs.length) .plain) cs).map (·.map Prod.fst)

end Read

end VirtEnv.Hcl
