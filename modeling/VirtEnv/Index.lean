import VirtEnv.Error

/-!
# The index of names

The declared names of each kind.  A name may not be empty, nor be declared twice in one kind;
names of different kinds do not interfere.
-/

namespace VirtEnv

/-- The declared names of each kind. -/
structure Index where
  networks : NameSet
  stores : NameSet
  vms : NameSet
  clusters : NameSet
  vars : NameSet
  deriving DecidableEq, Repr

namespace Index

/-- Adds names of one kind to those before them, up to the first that is empty or already
there. -/
def collect (kind : ResourceKind) (seen : NameSet) : List String → Except Error NameSet
  | [] => .ok seen
  | name :: names =>
      if name.isEmpty then .error (.emptyName kind)
      else if seen.contains name then .error (.duplicateName kind name)
      else collect kind (seen.insert name) names

/-- The index of a document: networks are checked first, then stores, VMs, clusters and
variables. -/
def build (d : Document) : Except Error Index := do
  let networks ← collect .network [] (d.networks.map (·.name))
  let stores ← collect .store [] (d.stores.map (·.name))
  let vms ← collect .vm [] (d.vms.map (·.name))
  let clusters ← collect .cluster [] (d.clusters.map (·.name))
  let vars ← collect .variable [] (d.vars.map (·.name))
  .ok { networks, stores, vms, clusters, vars }

/-- A network of the name is declared. -/
def hasNetwork (i : Index) (name : String) : Bool := i.networks.contains name

/-- A store of the name is declared. -/
def hasStore (i : Index) (name : String) : Bool := i.stores.contains name

/-- A VM of the name is declared. -/
def hasVm (i : Index) (name : String) : Bool := i.vms.contains name

/-- A resource of the kind and name is declared. -/
def declares (i : Index) (kind : DataKind) (name : String) : Bool :=
  match kind with
  | .network => i.hasNetwork name
  | .store => i.hasStore name

end Index

end VirtEnv
