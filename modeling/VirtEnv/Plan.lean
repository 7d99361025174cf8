import VirtEnv.Assembly
import VirtEnv.Settings

/-!
# Plans

A plan shows what would be built.  Every attribute is rendered without the document's tables: a
text, number or truth value as text, other values as `(complex)`, and what cannot be evaluated
that way as `(computed)`.  A VM also shows its network and store, the settings' defaults for what
it leaves out, and its full machine type.
-/

namespace VirtEnv

open Hcl (Abort Expr Value)

/-- A planned resource with its properties. -/
structure Planned where
  kind : ResourceKind
  name : String
  properties : Table String
  deriving DecidableEq, Repr

namespace Planned

/-- The text of an attribute in a plan. -/
def renderExpr (e : Expr) : Except Abort String :=
  match e.evaluate [] with
  | .ok (.string s) => .ok s
  | .ok (.number n) => .ok n.text
  | .ok (.bool b) => .ok (if b then "true" else "false")
  | .ok _ => .ok "(complex)"
  | .error (.fault _) => .ok "(computed)"
  | .error (.abort a) => .error a

/-- The properties of attributes, added to those before them. -/
def ofValues (done : Table String) : List (String × Expr) → Except Abort (Table String)
  | [] => .ok done
  | (key, e) :: values => do ofValues (done.insert key (← renderExpr e)) values

/-- A resource with its attributes as properties. -/
def describe (kind : ResourceKind) (name : String) (a : Attributes) : Except Abort Planned := do
  .ok { kind, name, properties := ← ofValues [] a.values }

/-- Sets a property that is not there yet. -/
def withDefault (t : Table String) (key value : String) : Table String :=
  if t.has key then t else t.insert key value

/-- A VM with its references, the defaults for what it leaves out, and its machine type. -/
def describeVm (settings : Settings) (v : ResolvedVm) : Except Abort Planned := do
  let planned ← describe .vm v.name v.attributes
  let t := planned.properties.insert "network" v.network
  let t := t.insert "store" v.store
  let t := withDefault t "cpu" (Numeric.digitText settings.vm.cpu)
  let t := withDefault t "memory" settings.vm.memory
  let t := withDefault t "disk" settings.vm.disk
  let t := withDefault t "namespace" settings.vm.space
  let machine := (t.lookup "machine").getD settings.domain.machine
  .ok { planned with properties := t.insert "machine" (settings.machineType machine) }

end Planned

/-- The factory whose resources are planned ones. -/
def planFactory (settings : Settings) : Factory Abort Planned where
  network n := Planned.describe .network n.name n.attributes
  store s := Planned.describe .store s.name s.attributes
  vm v := Planned.describeVm settings v

/-- The plan of a document. -/
def Resolved.plan (r : Resolved) (settings : Settings) : Except Abort (List Planned) := do
  let networks ← r.networks.mapM fun n => Planned.describe .network n.name n.attributes
  let stores ← r.stores.mapM fun s => Planned.describe .store s.name s.attributes
  let vms ← r.vms.mapM fun v => Planned.describeVm settings v
  .ok (networks ++ stores ++ vms)

end VirtEnv
