import VirtEnv.Output.Tree
import VirtEnv.Resolve

/-!
# Resolved documents as trees

The values that an expression can have without evaluation are shown as they are, and any other
expression as its text in `${…}`.  The keys of an object expression are tagged with how they are
written.  Parts that are empty or absent are left out.
-/

namespace VirtEnv

open Output (Tree)

mutual

/-- An expression. -/
def Hcl.Expr.toTree : Hcl.Expr → Tree
  | .null => .null
  | .bool b => .bool b
  | .number n => .number n
  | .string s => .text s
  | .array items => .list (Hcl.Expr.toTrees items)
  | .object fields => .record (Hcl.ObjectKey.fieldTrees fields)
  | .paren e => e.toTree
  | e => .text ("$\x7b" ++ e.oneLineText ++ "\x7d")

/-- Expressions in their order. -/
def Hcl.Expr.toTrees : List Hcl.Expr → List Tree
  | [] => []
  | e :: es => e.toTree :: Hcl.Expr.toTrees es

/-- The key of an object expression. -/
def Hcl.ObjectKey.toTree : Hcl.ObjectKey → Tree
  | .name s => .tagged "Identifier" (.text s)
  | .computed e => .tagged "Expression" e.toTree

/-- The fields of an object expression. -/
def Hcl.ObjectKey.fieldTrees : List (Hcl.ObjectKey × Hcl.Expr) → List (Tree × Tree)
  | [] => []
  | (key, e) :: fields => (key.toTree, e.toTree) :: Hcl.ObjectKey.fieldTrees fields

end

/-- The label of a block. -/
def Hcl.Label.toTree : Hcl.Label → Tree
  | .name s => .tagged "Identifier" (.text s)
  | .text s => .tagged "String" (.text s)

mutual

/-- A block. -/
def Hcl.Block.toTree : Hcl.Block → Tree
  | .mk type labels body =>
      .ofFields [("identifier", .text type), ("labels", .list (labels.map (·.toTree))),
        ("body", .list (Hcl.Item.toTrees body))]

/-- An item of a body. -/
def Hcl.Item.toTree : Hcl.Item → Tree
  | .attribute key value => .ofFields [("key", .text key), ("expr", value.toTree)]
  | .block b => b.toTree

/-- The items of a body. -/
def Hcl.Item.toTrees : List Hcl.Item → List Tree
  | [] => []
  | i :: is => i.toTree :: Hcl.Item.toTrees is

end

/-- Attributes and blocks. -/
def Attributes.toTree (a : Attributes) : Tree :=
  .ofFields
    (Tree.fieldUnless a.values.isEmpty "attributes"
        (.ofFields (a.values.map fun v => (v.1, v.2.toTree)))
      ++ Tree.fieldUnless a.blocks.isEmpty "blocks" (.list (a.blocks.map (·.toTree))))

/-- The attributes of a declaration, unless there are none. -/
def Attributes.toField (a : Attributes) : List (String × Tree) :=
  Tree.fieldUnless a.isEmpty "attributes" a.toTree

/-- A network. -/
def Network.toTree (n : Network) : Tree :=
  .ofFields (("name", .text n.name) :: n.attributes.toField)

/-- A store. -/
def Store.toTree (s : Store) : Tree :=
  .ofFields (("name", .text s.name) :: s.attributes.toField)

/-- A VM. -/
def ResolvedVm.toTree (v : ResolvedVm) : Tree :=
  .ofFields
    ([("name", .text v.name), ("network", .text v.network), ("store", .text v.store)]
      ++ v.attributes.toField)

/-- A lifecycle. -/
def Lifecycle.toTree (l : Lifecycle) : Tree :=
  .ofFields
    (Tree.fieldUnless l.startOrder.isEmpty "start_order" (.texts l.startOrder)
      ++ Tree.fieldUnless l.stopOrder.isEmpty "stop_order" (.texts l.stopOrder))

/-- A cluster. -/
def ResolvedCluster.toTree (c : ResolvedCluster) : Tree :=
  .ofFields
    ([("name", .text c.name), ("members", .texts c.members)]
      ++ Tree.fieldUnless c.labels.isEmpty "labels" (.ofTexts c.labels)
      ++ (match c.lifecycle with
        | some l => [("lifecycle", l.toTree)]
        | none => []))

/-- A resolved document. -/
def Resolved.toTree (r : Resolved) : Tree :=
  .ofFields
    ((match r.sourcePath with
      | some path => [("source_path", .text path)]
      | none => [])
      ++ [("networks", .list (r.networks.map (·.toTree))),
        ("stores", .list (r.stores.map (·.toTree))), ("vms", .list (r.vms.map (·.toTree))),
        ("clusters", .list (r.clusters.map (·.toTree)))])

end VirtEnv
