import VirtEnv.Hcl.Operator

/-!
# Grouping of operator chains

A chain `a op b op c …` is written flat and groups when it is evaluated: the operator that binds
least is applied last, and of equal ones the leftmost, so operators of equal strength associate
to the right.  `Grouped.ofChain` builds the tree from the right end: a new leftmost operand goes
down the left spine past every weaker operator.
-/

namespace VirtEnv.Hcl

/-- A binary tree of operators over operands. -/
inductive Grouped (α : Type) where
  | operand (a : α)
  | node (left : Grouped α) (op : BinaryOp) (right : Grouped α)
  deriving DecidableEq, Repr

namespace Grouped

variable {α : Type}

/-- The tree of `a op t`. -/
def push (a : α) (op : BinaryOp) : Grouped α → Grouped α
  | operand b => node (operand a) op (operand b)
  | node l o r =>
      if o.precedence < op.precedence then node (push a op l) o r
      else node (operand a) op (node l o r)

/-- The tree of a chain. -/
def ofChain (first : α) : List (BinaryOp × α) → Grouped α
  | [] => operand first
  | (op, b) :: rest => push first op (ofChain b rest)

/-- The first operand of a tree. -/
def first : Grouped α → α
  | operand a => a
  | node l _ _ => l.first

/-- The operators of a tree with the operands after them, from left to right. -/
def rest : Grouped α → List (BinaryOp × α)
  | operand _ => []
  | node l op r => l.rest ++ (op, r.first) :: r.rest

/-- Grouping keeps the order of operands: the first one. -/
theorem first_push (a : α) (op : BinaryOp) (t : Grouped α) : (push a op t).first = a := by
  induction t with
  | operand b => rfl
  | node l o r ih =>
      by_cases h : o.precedence < op.precedence
      · simp [push, h, first, ih]
      · simp [push, h, first]

/-- Grouping keeps the order of operands: those after the first. -/
theorem rest_push (a : α) (op : BinaryOp) (t : Grouped α) :
    (push a op t).rest = (op, t.first) :: t.rest := by
  induction t with
  | operand b => rfl
  | node l o r ih =>
      by_cases h : o.precedence < op.precedence
      · simp [push, h, rest, first, ih]
      · simp [push, h, rest, first]

/-- A tree read from left to right is its chain. -/
theorem rest_ofChain (a : α) (l : List (BinaryOp × α)) :
    (ofChain a l).first = a ∧ (ofChain a l).rest = l := by
  induction l generalizing a with
  | nil => exact ⟨rfl, rfl⟩
  | cons head tail ih =>
      obtain ⟨op, b⟩ := head
      simp [ofChain, first_push, rest_push, ih]

end Grouped

end VirtEnv.Hcl
