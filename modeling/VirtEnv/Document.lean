import VirtEnv.Hcl.Body
import VirtEnv.Resource
import VirtEnv.Table

/-!
# Documents

A document as written: the declarations of each type in their order, with the expressions that
refer to other declarations not yet evaluated.
-/

namespace VirtEnv

open Hcl (Expr Block)

/-- The attributes and blocks of a declaration that only concern the backend. -/
structure Attributes where
  values : List (String × Expr) := []
  blocks : List Block := []

/-- No attribute and no block. -/
def Attributes.isEmpty (a : Attributes) : Bool := a.values.isEmpty && a.blocks.isEmpty

/-- A `variable` block. -/
structure Variable where
  name : String
  description : Option String := none
  default : Option Expr := none

/-- A `network` block. -/
structure Network where
  name : String
  attributes : Attributes

/-- A `store` block. -/
structure Store where
  name : String
  attributes : Attributes

/-- A `vm` block. -/
structure Vm where
  name : String
  network : Option Expr := none
  store : Option Expr := none
  attributes : Attributes := {}

/-- The order in which the members of a cluster start and stop. -/
structure Lifecycle where
  startOrder : List String := []
  stopOrder : List String := []
  deriving DecidableEq, Repr

/-- A `cluster` block. -/
structure Cluster where
  name : String
  members : Option Expr := none
  labels : Table String := []
  lifecycle : Option Lifecycle := none

/-- A `data` block: a resource declared elsewhere. -/
structure DataBlock where
  label : String
  name : String
  deriving DecidableEq, Repr

/-- The kind that a `data` block asks for. -/
def DataBlock.kind? (d : DataBlock) : Option DataKind := DataKind.ofLabel? d.label

/-- A document as written. -/
structure Document where
  vars : List Variable := []
  locals : Option (List (String × Expr)) := none
  networks : List Network := []
  stores : List Store := []
  vms : List Vm := []
  clusters : List Cluster := []
  data : List DataBlock := []
  sourcePath : Option String := none

namespace Document

/-- The path shown for a document that was not read from a file. -/
def inlinePath : String := "<inline>"

/-- The path shown for a document. -/
def displayPath (d : Document) : String := d.sourcePath.getD inlinePath

/-- The first VM of a name. -/
def vm? (d : Document) (name : String) : Option Vm := d.vms.find? (·.name == name)

/-- The position of the first VM of a name. -/
def vmPosition? (d : Document) (name : String) : Option Nat :=
  d.vms.findIdx? (·.name == name)

end Document

end VirtEnv
