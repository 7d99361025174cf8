import VirtEnv.Hcl.Fault
import VirtEnv.Hcl.Grouping

/-!
# Evaluation

The value of an expression in a scope.  Evaluation goes from left to right and stops at the first
failure; of a conditional only the chosen branch is evaluated, and no operator short-circuits.
There are no functions: a call fails before its arguments are looked at.

`Expr.eval` finds faults without their place where the enclosing expression is to name it;
`Expr.evaluate` is the evaluation of an expression that nothing encloses.
-/

namespace VirtEnv.Hcl

open Outcome (raise within)

/-- The variables in scope, the innermost first. -/
abbrev Scope := List (String × Value)

namespace Value

/-- The value of a key. -/
def atKey (v : Value) (key : String) : Outcome Value :=
  match v with
  | .object fields =>
      match fields.lookup key with
      | some w => .ok w
      | none => raise (.noSuchKey key)
  | v => raise (.unexpected v .object)

/-- The element at a position. -/
def atPosition (v : Value) (n : Nat) : Outcome Value :=
  match v with
  | .array items =>
      match items[n]? with
      | some w => .ok w
      | none => raise (.indexOutOfBounds n)
  | v => raise (.unexpected v .array)

/-- The part that an index selects: a position of an array or a key of an object. -/
def atIndex (v index : Value) : Outcome Value :=
  match index with
  | .string key => v.atKey key
  | .number n =>
      match n.toNat? with
      | some i => v.atPosition i
      | none => raise (.unexpected index .unsigned)
  | index => raise (.unexpected index .unsignedOrString)

/-- The values a splat goes through: none of a null, the elements of an array, any other value as
its only one. -/
def splatItems : Value → List Value
  | .null => []
  | .array items => items
  | v => [v]

/-- The text of a value that may be an object key. -/
def asKey : Value → Outcome String
  | .string s => .ok s
  | .bool b => .ok (if b then "true" else "false")
  | .number n => .ok n.text
  | v => raise (.unexpected v .key)

/-- A truth value. -/
def asBool : Value → Outcome Bool
  | .bool b => .ok b
  | v => raise (.unexpected v .boolean)

/-- The elements of an array with their positions, from `n` on. -/
def enumerate (n : Nat) : List Value → List (Value × Value)
  | [] => []
  | v :: vs => (.number (.ofNat n), v) :: enumerate (n + 1) vs

/-- The keys or positions of a collection, with its values. -/
def entries : Value → Outcome (List (Value × Value))
  | .array items => .ok (enumerate 0 items)
  | .object fields => .ok (fields.map fun f => (.string f.1, f.2))
  | v => raise (.unexpected v .collection)

end Value

/-- The scope in which the body of a `for` is evaluated for one entry. -/
def Binder.bind (b : Binder) (entry : Value × Value) (scope : Scope) : Scope :=
  (b.value, entry.2) :: (match b.key with
    | some key => (key, entry.1) :: scope
    | none => scope)

/-! ### Operators -/

/-- An operator before its operand. -/
def UnaryOp.apply (op : UnaryOp) (v : Value) : Outcome Value :=
  match op, v with
  | .not, .bool b => .ok (.bool !b)
  | .neg, .number n => .ok (.number n.neg)
  | op, v => raise (.unaryNotApplicable op v)

/-- An operator between two numbers; none for the logical operators. -/
def BinaryOp.applyNumbers? (op : BinaryOp) (a b : Number) : Option (Outcome Value) :=
  match op with
  | .le => some (.ok (.bool (a.compare? b |>.any (·.isLE))))
  | .ge => some (.ok (.bool (a.compare? b |>.any (·.isGE))))
  | .lt => some (.ok (.bool (a.compare? b |>.any (·.isLT))))
  | .gt => some (.ok (.bool (a.compare? b |>.any (·.isGT))))
  | .add => some (.ok (.number (a.add b)))
  | .sub => some (.ok (.number (a.sub b)))
  | .mul => some (.ok (.number (a.mul b)))
  | .div => some (.ok (.number (a.div b)))
  | .rem =>
      some (match a.rem b with
        | .ok n => .ok (.number n)
        | .error why => .error (.abort (.remainder why)))
  | .eq | .ne | .and | .or => none

/-- An operator between its operands. -/
def BinaryOp.apply (op : BinaryOp) (a b : Value) : Outcome Value :=
  match op, a, b with
  | .eq, a, b => .ok (.bool (a.equals b))
  | .ne, a, b => .ok (.bool !(a.equals b))
  | .and, .bool p, .bool q => .ok (.bool (p && q))
  | .or, .bool p, .bool q => .ok (.bool (p || q))
  | op, .number m, .number n =>
      (op.applyNumbers? m n).getD (raise (.binaryNotApplicable op a b))
  | op, a, b => raise (.binaryNotApplicable op a b)

/-- A chain again from its tree. -/
def Grouped.toExpr {α : Type} (t : Grouped (Expr × α)) : Expr :=
  match t with
  | .operand a => a.1
  | t => .chain t.first.1 (t.rest.map fun o => (o.1, o.2.1))

/-- The value of a grouped chain whose operands have been evaluated. -/
def Grouped.eval : Grouped (Expr × Outcome Value) → Outcome Value
  | .operand a => a.2
  | .node l op r => do
      let a ← within (Grouped.node l op r).toExpr l.eval
      let b ← within (Grouped.node l op r).toExpr r.eval
      op.apply a b

/-! ### Accesses -/

/-- An access whose index, if it has one, has been evaluated.  An attribute splat comes with the
attributes that it reads of each item. -/
inductive Access where
  | member (name : String)
  | position (n : Nat)
  | index (i : Outcome Value)
  | memberSplat (names : List String)
  | fullSplat

namespace Access

/-- The name of an attribute access. -/
def name? : Access → Option String
  | .member name => some name
  | _ => none

/-- Puts an attribute splat before accesses; it takes over the attributes that follow it. -/
def splatMembers (accesses : List Access) : List Access :=
  .memberSplat ((accesses.takeWhile (·.name?.isSome)).filterMap name?)
    :: accesses.dropWhile (·.name?.isSome)

/-- The part of a value that accesses select, one after the other. -/
def apply : List Access → Value → Outcome Value
  | [], v => .ok v
  | .member name :: rest, v => do apply rest (← v.atKey name)
  | .position n :: rest, v => do apply rest (← v.atPosition n)
  | .index i :: rest, v => do apply rest (← v.atIndex (← i))
  | .memberSplat names :: rest, v => do
      let items ← v.splatItems.mapM fun item => names.foldlM Value.atKey item
      apply rest (.array items)
  | .fullSplat :: rest, v => do
      let items ← v.splatItems.mapM (apply rest)
      .ok (.array items)

end Access

/-! ### Collections built by `for` -/

/-- Adds the result of one step of an object `for`; `grouped` collects the values of a key. -/
def addEntry (grouped : Bool) (fields : List (String × Value)) (key : String) (v : Value) :
    Outcome (List (String × Value)) :=
  match grouped, fields.lookup key with
  | true, some (.array items) => .ok (setKey fields key (.array (items ++ [v])))
  | true, _ => .ok (setKey fields key (.array [v]))
  | false, some _ => raise (.keyExists key)
  | false, none => .ok (setKey fields key v)

/-- Runs `step` over entries, from left to right; `select` says which entries count. -/
def foldEntries {α : Type} (select : Value × Value → Outcome Bool)
    (step : α → Value × Value → Outcome α) (entries : List (Value × Value)) (start : α) :
    Outcome α :=
  entries.foldlM (fun a entry => do if ← select entry then step a entry else .ok a) start

/-! ### Expressions -/

mutual

/-- The value of an expression. -/
def Expr.eval (scope : Scope) : Expr → Outcome Value
  | .null => .ok .null
  | .bool b => .ok (.bool b)
  | .number n => .ok (.number n)
  | .string s => .ok (.string s)
  | .array items => do
      .ok (.array (← within (.array items) (Expr.evalAll scope items)))
  | .object fields => do
      .ok (.object (← ObjectKey.evalFields scope (.object fields) fields []))
  | .template text parts => Segment.eval scope (.template text parts) parts
  | .heredoc delimiter text parts => Segment.eval scope (.heredoc delimiter text parts) parts
  | .variable name =>
      match scope.lookup name with
      | some v => .ok v
      | none => raise (.undefinedVariable name)
  | .traversal base steps => do
      let v ← within (.traversal base steps) (base.eval scope)
      Access.apply (Step.evalAll scope (.traversal base steps) steps) v
  | .call function _ _ => raise (.undefinedFunction function)
  | .paren e => within (.paren e) (e.eval scope)
  | .conditional condition yes no => do
      let c ← within (.conditional condition yes no) (condition.eval scope)
      if ← c.asBool then within (.conditional condition yes no) (yes.eval scope)
      else within (.conditional condition yes no) (no.eval scope)
  | .unary op e => do op.apply (← within (.unary op e) (e.eval scope))
  | .chain first rest =>
      (Grouped.ofChain (first, first.eval scope) (Expr.evalOperands scope rest)).eval
  | .forList binder collection value condition => do
      let p := Expr.forList binder collection value condition
      let entries ← (← within p (collection.eval scope)).entries
      let items ← foldEntries
        (fun entry => within p (Expr.evalCondition (binder.bind entry scope) condition))
        (fun items entry => do
          .ok ((← within p (value.eval (binder.bind entry scope))) :: items))
        entries []
      .ok (.array items.reverse)
  | .forObject binder collection key value grouped condition => do
      let p := Expr.forObject binder collection key value grouped condition
      let entries ← (← within p (collection.eval scope)).entries
      let fields ← foldEntries
        (fun entry => within p (Expr.evalCondition (binder.bind entry scope) condition))
        (fun fields entry => within p do
          let k ← (← key.eval (binder.bind entry scope)).asKey
          addEntry grouped fields k (← value.eval (binder.bind entry scope)))
        entries []
      .ok (.object fields)
termination_by structural e => e

/-- The truth of the condition of a `for`; a missing one holds. -/
def Expr.evalCondition (scope : Scope) : Option Expr → Outcome Bool
  | none => .ok true
  | some e => do (← e.eval scope).asBool
termination_by structural e => e

/-- The values of several expressions. -/
def Expr.evalAll (scope : Scope) : List Expr → Outcome (List Value)
  | [] => .ok []
  | e :: es => do
      let v ← e.eval scope
      .ok (v :: (← Expr.evalAll scope es))
termination_by structural es => es

/-- The operands of a chain with their values. -/
def Expr.evalOperands (scope : Scope) :
    List (BinaryOp × Expr) → List (BinaryOp × Expr × Outcome Value)
  | [] => []
  | (op, e) :: rest => (op, e, e.eval scope) :: Expr.evalOperands scope rest
termination_by structural operands => operands

/-- The text of an object key; `p` is the object expression. -/
def ObjectKey.eval (scope : Scope) (p : Expr) : ObjectKey → Outcome String
  | .name s => .ok s
  | .computed e => do (← within p (e.eval scope)).asKey
termination_by structural key => key

/-- The fields of an object expression `p`, added to those before them. -/
def ObjectKey.evalFields (scope : Scope) (p : Expr) :
    List (ObjectKey × Expr) → List (String × Value) → Outcome (List (String × Value))
  | [], done => .ok done
  | (key, e) :: fields, done => do
      let k ← key.eval scope p
      let v ← within p (e.eval scope)
      ObjectKey.evalFields scope p fields (setKey done k v)
termination_by structural fields => fields

/-- An access of the traversal `p`. -/
def Step.eval (scope : Scope) (p : Expr) : Step → Access
  | .member name => .member name
  | .position n => .position n
  | .index e => .index (within p (e.eval scope))
  | .memberSplat => .memberSplat []
  | .fullSplat => .fullSplat
termination_by structural s => s

/-- The accesses of the traversal `p`. -/
def Step.evalAll (scope : Scope) (p : Expr) : List Step → List Access
  | [] => []
  | s :: ss =>
      match s.eval scope p with
      | .memberSplat _ => Access.splatMembers (Step.evalAll scope p ss)
      | access => access :: Step.evalAll scope p ss
termination_by structural steps => steps

/-- The value of a template `p`: the value itself of a single interpolation, otherwise a text. -/
def Segment.eval (scope : Scope) (p : Expr) : List Segment → Outcome Value
  | [] => .ok (.string "")
  | [.interpolation _ e] => within p (e.eval scope)
  | s :: ss => do
      let t ← s.evalOne scope p
      .ok (.string (t ++ (← Segment.evalAll scope p ss)))
termination_by structural segments => segments

/-- The text of one part of the template `p`.  A fault in the body of a `for` directive is reported
with the template itself. -/
def Segment.evalOne (scope : Scope) (p : Expr) : Segment → Outcome String
  | .literal text => .ok text
  | .interpolation _ e => do .ok (← within p (e.eval scope)).templateText
  | .branch _ condition yes _ no _ => do
      if ← (← within p (condition.eval scope)).asBool then Segment.evalAll scope p yes
      else Segment.evalAll scope p no
  | .repetition _ binder collection body _ => do
      let entries ← (← within p (collection.eval scope)).entries
      entries.foldlM
        (fun text entry => do
          .ok (text ++ (← within p (Segment.evalAll (binder.bind entry scope) p body))))
        ""
  | .malformed => raise .malformedTemplate
termination_by structural s => s

/-- The text of parts of the template `p`. -/
def Segment.evalAll (scope : Scope) (p : Expr) : List Segment → Outcome String
  | [] => .ok ""
  | s :: ss => do
      let t ← s.evalOne scope p
      .ok (t ++ (← Segment.evalAll scope p ss))
termination_by structural segments => segments

end

/-- The value of an expression that nothing encloses. -/
def Expr.evaluate (scope : Scope) (e : Expr) : Outcome Value := within e (e.eval scope)

end VirtEnv.Hcl
