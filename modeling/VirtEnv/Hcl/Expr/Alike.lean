import VirtEnv.Hcl.Expr

/-!
# Expressions that are alike

Two keys of an object expression name the same field if they are alike: of one structure, with
equal numbers, texts and names.  The order of an object's fields does not matter.

Templates are compared in one of two ways.  As they are written, their parts have to be alike, and
blanks do not matter, except that a directive with blanks around its keyword is like no other.  As
they are shown, their texts have to be equal.
-/

namespace VirtEnv.Hcl

/-- How templates are compared. -/
inductive Comparison where
  | written | shown
  deriving DecidableEq, Repr

/-- Two markers strip alike, and neither has blanks around its keyword. -/
def Marker.alike (a b : Marker) : Bool :=
  a.stripsBefore == b.stripsBefore && a.stripsAfter == b.stripsAfter && !a.spaced && !b.spaced

/-- Two markers that may be missing are alike. -/
def Marker.alike? : Option Marker → Option Marker → Bool
  | none, none => true
  | some a, some b => a.alike b
  | _, _ => false

/-- Two delimiters have one name.  As written they also have to be indented alike, without blanks
before the end; as shown, indented at all or not. -/
def Delimiter.alike (how : Comparison) (a b : Delimiter) : Bool :=
  a.name == b.name &&
    match how with
    | .written => a.indentation == b.indentation && !a.spaced && !b.spaced
    | .shown => (a.indentation == 0) == (b.indentation == 0)

mutual

/-- Two expressions are alike. -/
def Expr.alike (how : Comparison) : Expr → Expr → Bool
  | .null, .null => true
  | .bool a, .bool b => a == b
  | .number a, .number b => a.equals b
  | .string a, .string b => a == b
  | .array as, .array bs => Expr.alikeAll how as bs
  | .object as, .object bs => as.length == bs.length && ObjectKey.fieldsIn how as bs
  | .template s as, .template t bs => if how = .shown then s == t else Segment.alikeAll as bs
  | .heredoc d s as, .heredoc e t bs =>
      d.alike how e && if how = .shown then s == t else Segment.alikeAll as bs
  | .variable a, .variable b => a == b
  | .traversal a as, .traversal b bs => a.alike how b && Step.alikeAll how as bs
  | .call f as x, .call g bs y => f == g && x == y && Expr.alikeAll how as bs
  | .paren a, .paren b => a.alike how b
  | .conditional a b c, .conditional d e f => a.alike how d && b.alike how e && c.alike how f
  | .unary o a, .unary p b => o == p && a.alike how b
  | .chain a as, .chain b bs => a.alike how b && Expr.alikeOperands how as bs
  | .forList x a b c, .forList y d e f =>
      x == y && a.alike how d && b.alike how e && Expr.alike? how c f
  | .forObject x a b c g d, .forObject y e f h k i =>
      x == y && a.alike how e && b.alike how f && c.alike how h && g == k && Expr.alike? how d i
  | _, _ => false
termination_by structural a => a

/-- Two expressions that may be missing are alike. -/
def Expr.alike? (how : Comparison) : Option Expr → Option Expr → Bool
  | none, none => true
  | some a, some b => a.alike how b
  | _, _ => false
termination_by structural a => a

/-- Expressions are alike position by position. -/
def Expr.alikeAll (how : Comparison) : List Expr → List Expr → Bool
  | [], [] => true
  | a :: as, b :: bs => a.alike how b && Expr.alikeAll how as bs
  | _, _ => false
termination_by structural as => as

/-- Operators are the same and the operands after them alike. -/
def Expr.alikeOperands (how : Comparison) :
    List (BinaryOp × Expr) → List (BinaryOp × Expr) → Bool
  | [], [] => true
  | (o, a) :: as, (p, b) :: bs => o == p && a.alike how b && Expr.alikeOperands how as bs
  | _, _ => false
termination_by structural as => as

/-- Two keys are alike, which takes that they are of one kind. -/
def ObjectKey.alike (how : Comparison) : ObjectKey → ObjectKey → Bool
  | .name s, .name t => s == t
  | .computed a, .computed b => a.alike how b
  | _, _ => false
termination_by structural a => a

/-- Every field is alike to one of `bs`. -/
def ObjectKey.fieldsIn (how : Comparison) :
    List (ObjectKey × Expr) → List (ObjectKey × Expr) → Bool
  | [], _ => true
  | (k, a) :: as, bs =>
      bs.any (fun f => k.alike how f.1 && a.alike how f.2) && ObjectKey.fieldsIn how as bs
termination_by structural as => as

/-- Two accesses are alike. -/
def Step.alike (how : Comparison) : Step → Step → Bool
  | .member s, .member t => s == t
  | .position m, .position n => m == n
  | .index a, .index b => a.alike how b
  | .memberSplat, .memberSplat => true
  | .fullSplat, .fullSplat => true
  | _, _ => false
termination_by structural a => a

/-- Accesses are alike position by position. -/
def Step.alikeAll (how : Comparison) : List Step → List Step → Bool
  | [], [] => true
  | a :: as, b :: bs => a.alike how b && Step.alikeAll how as bs
  | _, _ => false
termination_by structural as => as

/-- Two parts of templates are alike as written. -/
def Segment.alike : Segment → Segment → Bool
  | .literal s, .literal t => s == t
  | .interpolation m a, .interpolation n b => m.alike n && a.alike .written b
  | .branch m a as p bs q, .branch n b cs r ds s =>
      m.alike n && a.alike .written b && Segment.alikeAll as cs && Marker.alike? p r
        && Segment.alikeAll bs ds && q.alike s
  | .repetition m x a as p, .repetition n y b bs q =>
      m.alike n && x == y && a.alike .written b && Segment.alikeAll as bs && p.alike q
  | _, _ => false
termination_by structural a => a

/-- Parts of templates are alike as written, position by position. -/
def Segment.alikeAll : List Segment → List Segment → Bool
  | [], [] => true
  | a :: as, b :: bs => a.alike b && Segment.alikeAll as bs
  | _, _ => false
termination_by structural as => as

end

end VirtEnv.Hcl
