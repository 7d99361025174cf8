import VirtEnv.Output.Tree
import VirtEnv.Settings.Merge

/-!
# Settings as trees

Settings are shown with the sections of a settings file.
-/

namespace VirtEnv.Settings

open Output (Tree)

/-- A scalar. -/
def Scalar.toTree : Scalar → Tree
  | .string s => .text s
  | .integer i => .number (.ofInt i)
  | .real x => .number (.real x)
  | .bool b => .bool b

mutual

/-- A value of a layer. -/
def Node.toTree : Node → Tree
  | .nothing => .null
  | .scalar _ v => v.toTree
  | .array _ items => .list (Node.toTrees items)
  | .table _ entries => .record (Node.fieldTrees entries)

/-- The items of an array. -/
def Node.toTrees : List Node → List Tree
  | [] => []
  | n :: ns => n.toTree :: Node.toTrees ns

/-- The entries of a table. -/
def Node.fieldTrees : List (String × Node) → List (Tree × Tree)
  | [] => []
  | (key, n) :: entries => (.text key, n.toTree) :: Node.fieldTrees entries

end

/-- Settings. -/
def toTree (s : Settings) : Tree := s.toNode.toTree

end VirtEnv.Settings
