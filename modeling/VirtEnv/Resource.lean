/-!
# Kinds of declarations

The kinds of named declarations, the kinds of resources that a document may take from outside,
and the parts of a declaration that refer to others.
-/

namespace VirtEnv

/-- A kind of named declaration. -/
inductive ResourceKind where
  | network | store | vm | cluster | variable
  deriving DecidableEq, Repr

/-- The word for a kind. -/
def ResourceKind.text : ResourceKind → String
  | network => "network"
  | store => "store"
  | vm => "vm"
  | cluster => "cluster"
  | .variable => "variable"

/-- A kind of resource that a `data` block may name. -/
inductive DataKind where
  | network | store
  deriving DecidableEq, Repr

namespace DataKind

/-- The word for a kind. -/
def text : DataKind → String
  | network => "network"
  | store => "store"

/-- The kind that a label names. -/
def ofLabel? (label : String) : Option DataKind :=
  if label == "network" then some network
  else if label == "store" then some store
  else none

end DataKind

/-- A declaration that refers to others. -/
inductive Owner where
  | vm (name : String)
  | cluster (name : String)
  deriving DecidableEq, Repr

/-- The path of a declaration. -/
def Owner.text : Owner → String
  | vm name => "vm." ++ name
  | cluster name => "cluster." ++ name

/-- A part of a declaration that refers to others. -/
inductive Field where
  | network | store | members | startOrder | stopOrder
  deriving DecidableEq, Repr

namespace Field

/-- The path of a part within its declaration. -/
def text : Field → String
  | network => "network"
  | store => "store"
  | members => "vms"
  | startOrder => "lifecycle.start_order"
  | stopOrder => "lifecycle.stop_order"

/-- What a part refers to. -/
def target : Field → ResourceKind
  | network => .network
  | store => .store
  | members | startOrder | stopOrder => .vm

/-- What the value of a part must be. -/
def expected : Field → String
  | network | store => "string"
  | members | startOrder | stopOrder => "list of string"

end Field

end VirtEnv
