import VirtEnv.Namespace

/-!
# Resolution

Binds the references of VMs and clusters to what they name.  A network or store must be declared
in the document or be the name of a validated `data` block of its kind; the members of a cluster
must be declared VMs, and the entries of its orders members.
-/

namespace VirtEnv

open Hcl (Expr Scope Value)

/-- A VM with the names of its network and store. -/
structure ResolvedVm where
  name : String
  network : String
  store : String
  attributes : Attributes

/-- A cluster with the names of its members. -/
structure ResolvedCluster where
  name : String
  members : List String
  labels : Table String
  lifecycle : Option Lifecycle

/-- A document with all references bound. -/
structure Resolved where
  sourcePath : Option String
  networks : List Network
  stores : List Store
  vms : List ResolvedVm
  clusters : List ResolvedCluster

namespace Resolved

/-- The first VM of a name. -/
def vm? (r : Resolved) (name : String) : Option ResolvedVm := r.vms.find? (·.name == name)

/-- The first cluster of a name. -/
def cluster? (r : Resolved) (name : String) : Option ResolvedCluster :=
  r.clusters.find? (·.name == name)

end Resolved

namespace Resolve

/-- The value of a part of a declaration. -/
def partValue (scope : Scope) (owner : Owner) (field : Field) (e : Option Expr) :
    Except Error Value :=
  match e with
  | none => .error (.missingAttribute owner field)
  | some e =>
      match e.evaluate scope with
      | .ok v => .ok v
      | .error f => .error (.ofFailure (.expressionEval owner field) f)

/-- The name that a part of a declaration evaluates to. -/
def partName (scope : Scope) (owner : Owner) (field : Field) (e : Option Expr) :
    Except Error String := do
  match ← partValue scope owner field e with
  | .string s => .ok s
  | _ => .error (.typeMismatch owner field)

/-- A network or store of the name may be referred to. -/
def known (index : Index) (data : DataTables) (kind : DataKind) (name : String) : Bool :=
  index.declares kind name || data.has kind name

/-- The resource that a part of a VM refers to. -/
def reference (index : Index) (n : Namespace) (kind : DataKind) (owner : Owner) (field : Field)
    (e : Option Expr) : Except Error String := do
  let name ← partName n.scope owner field e
  if known index n.data kind name then .ok name
  else .error (.unknownReference owner field name)

/-- A VM with its references bound. -/
def vm (index : Index) (n : Namespace) (v : Vm) : Except Error ResolvedVm := do
  let network ← reference index n .network (.vm v.name) .network v.network
  let store ← reference index n .store (.vm v.name) .store v.store
  .ok { name := v.name, network, store, attributes := v.attributes }

/-- The names of declared VMs that values are. -/
def members (index : Index) (owner : Owner) : List Value → Except Error (List String)
  | [] => .ok []
  | .string s :: vs =>
      if index.hasVm s then do .ok (s :: (← members index owner vs))
      else .error (.unknownReference owner .members s)
  | _ :: _ => .error (.typeMismatch owner .members)

/-- Checks that the entries of an order are members. -/
def checkOrder (owner : Owner) (field : Field) (members order : List String) :
    Except Error Unit :=
  match order.find? (!members.contains ·) with
  | some stray => .error (.unknownReference owner field stray)
  | none => .ok ()

/-- Checks the orders of a lifecycle. -/
def checkLifecycle (owner : Owner) (members : List String) : Option Lifecycle → Except Error Unit
  | none => .ok ()
  | some l => do
      checkOrder owner .startOrder members l.startOrder
      checkOrder owner .stopOrder members l.stopOrder

/-- A cluster with its references bound. -/
def cluster (index : Index) (n : Namespace) (c : Cluster) : Except Error ResolvedCluster := do
  let owner := Owner.cluster c.name
  match ← partValue n.scope owner .members c.members with
  | .array items =>
      let members ← members index owner items
      checkLifecycle owner members c.lifecycle
      .ok { name := c.name, members, labels := c.labels, lifecycle := c.lifecycle }
  | _ => .error (.typeMismatch owner .members)

/-- A document with all references bound: its VMs first, then its clusters. -/
def document (d : Document) (index : Index) (n : Namespace) : Except Error Resolved := do
  let vms ← d.vms.mapM (vm index n)
  let clusters ← d.clusters.mapM (cluster index n)
  .ok { sourcePath := d.sourcePath, networks := d.networks, stores := d.stores, vms, clusters }

end Resolve

end VirtEnv
