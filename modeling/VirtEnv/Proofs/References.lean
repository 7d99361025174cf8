import VirtEnv.Resolve
import VirtEnv.Proofs.Tables

/-!
# References — binding a document in its tables

Resolving the VMs and clusters of a document is a row of checks in document order: a reference is
present, has a value of the right type, and names a resource that the document offers; the members
of a cluster are declared VMs, and its orders name members.

* `Resolve.known_iff`: the resources of a kind that a document offers are those it declares and
  those of its `data` blocks of that kind.
* `Resolve.document_eq`: resolving a document in its tables is the row of its reference checks, and
  gives the document `Document.resolved`, again said of the document alone.

What a reference comes to depends on what the document offers to it: the tables that its expression
is evaluated in, the names of the networks and stores with those of the `data` blocks, and the names
of the VMs.

* `Document.SameOffer.vmChecks_eq`, `Document.SameOffer.clusterChecks_eq`: documents of the same
  offer check a VM or a cluster alike.
* `Document.SameOffer.resolvedVm_eq`, `Document.SameOffer.resolvedCluster_eq`: and bind it alike.
-/

namespace VirtEnv

open Hcl (Expr Scope Value)

/-! ### Parts of values -/

namespace Hcl.Value

/-- The value is a string. -/
def isString : Value → Bool
  | .string _ => true
  | _ => false

/-- The text of a string; empty for any other value. -/
def textOfString : Value → String
  | .string s => s
  | _ => ""

/-- The value is an array. -/
def isArray : Value → Bool
  | .array _ => true
  | _ => false

/-- The elements of an array; none for any other value. -/
def elements : Value → List Value
  | .array items => items
  | _ => []

theorem isString_iff {v : Value} : v.isString = true ↔ v = .string v.textOfString := by
  cases v <;> simp [isString, textOfString]

theorem isArray_iff {v : Value} : v.isArray = true ↔ v = .array v.elements := by
  cases v <;> simp [isArray, elements]

end Hcl.Value

/-- The value of a part of a declaration; null if it is absent or has none. -/
def partIn (scope : Scope) (e : Option Expr) : Value := (e.map (·.valueIn scope)).getD .null

/-- The checks of a part of a declaration: it is present and has a value. -/
def partChecks (scope : Scope) (owner : Owner) (field : Field) (e : Option Expr) : List Check :=
  [require e.isSome (.missingAttribute owner field),
    e.bind (evaluates scope (.expressionEval owner field))]

theorem partIn_of_evaluate {scope : Scope} {e : Expr} {v : Value} (h : e.evaluate scope = .ok v) :
    partIn scope (some e) = v := by
  simp [partIn, Expr.valueIn, h]

theorem allPass_partChecks_iff {scope : Scope} {owner : Owner} {field : Field}
    {e : Option Expr} :
    AllPass (partChecks scope owner field e) ↔
      ∃ e', e = some e' ∧ e'.evaluate scope = .ok (partIn scope e) := by
  cases e with
  | none => simp [partChecks, require]
  | some e => simp [partChecks, require, partIn, evaluates_eq_none]

/-- The checks of a part of a declaration that is to be a string. -/
def stringChecks (scope : Scope) (owner : Owner) (field : Field) (e : Option Expr) : List Check :=
  partChecks scope owner field e ++
    [require (partIn scope e).isString (.typeMismatch owner field)]

/-- The check that an order names only members. -/
def orderChecks (owner : Owner) (field : Field) (members order : List String) : List Check :=
  order.map fun name => require (name ∈ members) (.unknownReference owner field name)

/-- The checks of the orders of a lifecycle. -/
def lifecycleChecks (owner : Owner) (members : List String) : Option Lifecycle → List Check
  | none => []
  | some l =>
      orderChecks owner .startOrder members l.startOrder ++
        orderChecks owner .stopOrder members l.stopOrder

/-! ### The checks of a document's references -/

/-- The kind of declaration that a kind of `data` block stands for. -/
def DataKind.toResource : DataKind → ResourceKind
  | .network => .network
  | .store => .store

namespace Document

/-- The names of a kind that a document offers: those it declares, and those of its `data`
blocks. -/
def offers (d : Document) (kind : DataKind) : List String :=
  d.declared kind.toResource ++ (d.data.filter (·.kind? = some kind)).map (·.name)

/-- The checks of a reference to a network or store. -/
def resourceChecks (d : Document) (kind : DataKind) (owner : Owner) (field : Field)
    (e : Option Expr) : List Check :=
  stringChecks d.scope owner field e ++
    [require ((partIn d.scope e).textOfString ∈ d.offers kind)
      (.unknownReference owner field (partIn d.scope e).textOfString)]

/-- The checks of a VM: its network, then its store. -/
def vmChecks (d : Document) (v : Vm) : List Check :=
  d.resourceChecks .network (.vm v.name) .network v.network ++
    d.resourceChecks .store (.vm v.name) .store v.store

/-- The checks of a member of a cluster: it is a string, and names a declared VM. -/
def memberChecks (d : Document) (owner : Owner) (item : Value) : List Check :=
  [require item.isString (.typeMismatch owner .members),
    require (item.textOfString ∈ d.declared .vm)
      (.unknownReference owner .members item.textOfString)]

/-- The members of a cluster. -/
def membersOf (d : Document) (c : Cluster) : List Value := (partIn d.scope c.members).elements

/-- The names of the members of a cluster. -/
def memberNames (d : Document) (c : Cluster) : List String :=
  (d.membersOf c).map Value.textOfString

/-- The checks of a cluster: its list of members, each member, then its orders. -/
def clusterChecks (d : Document) (c : Cluster) : List Check :=
  partChecks d.scope (.cluster c.name) .members c.members ++
    (require (partIn d.scope c.members).isArray (.typeMismatch (.cluster c.name) .members) ::
      ((d.membersOf c).flatMap (d.memberChecks (.cluster c.name)) ++
        lifecycleChecks (.cluster c.name) (d.memberNames c) c.lifecycle))

/-- The checks of the references of a document: its VMs, then its clusters. -/
def referenceChecks (d : Document) : List Check :=
  d.vms.flatMap d.vmChecks ++ d.clusters.flatMap d.clusterChecks

/-- A VM with its references bound. -/
def resolvedVm (d : Document) (v : Vm) : ResolvedVm where
  name := v.name
  network := (partIn d.scope v.network).textOfString
  store := (partIn d.scope v.store).textOfString
  attributes := v.attributes

/-- A cluster with its references bound. -/
def resolvedCluster (d : Document) (c : Cluster) : ResolvedCluster where
  name := c.name
  members := d.memberNames c
  labels := c.labels
  lifecycle := c.lifecycle

/-- A document with its references bound. -/
def resolved (d : Document) : Resolved where
  sourcePath := d.sourcePath
  networks := d.networks
  stores := d.stores
  vms := d.vms.map d.resolvedVm
  clusters := d.clusters.map d.resolvedCluster

end Document

/-! ### What passing means -/

theorem allPass_orderChecks_iff {owner : Owner} {field : Field} {members order : List String} :
    AllPass (orderChecks owner field members order) ↔ ∀ name ∈ order, name ∈ members := by
  simp [orderChecks, allPass_map, require_eq_none]

/-- The orders of a lifecycle, if there is one, name only members. -/
def OrdersWithin (members : List String) (lifecycle : Option Lifecycle) : Prop :=
  ∀ l, lifecycle = some l →
    (∀ name ∈ l.startOrder, name ∈ members) ∧ ∀ name ∈ l.stopOrder, name ∈ members

theorem allPass_lifecycleChecks_iff {owner : Owner} {members : List String}
    {lifecycle : Option Lifecycle} :
    AllPass (lifecycleChecks owner members lifecycle) ↔ OrdersWithin members lifecycle := by
  cases lifecycle <;> simp [lifecycleChecks, OrdersWithin, allPass_orderChecks_iff]

namespace Document

variable {d : Document}

/-- A reference passes when it evaluates to the name of a resource that the document offers. -/
theorem allPass_resourceChecks_iff {kind : DataKind} {owner : Owner} {field : Field}
    {e : Option Expr} :
    AllPass (d.resourceChecks kind owner field e) ↔
      (∃ e', e = some e' ∧
        e'.evaluate d.scope = .ok (.string (partIn d.scope e).textOfString)) ∧
      (partIn d.scope e).textOfString ∈ d.offers kind := by
  simp only [resourceChecks, stringChecks, allPass_append, allPass_partChecks_iff, allPass_cons,
    allPass_nil, and_true, require_eq_none, Value.isString_iff]
  constructor
  · rintro ⟨⟨⟨e', he, hv⟩, hs⟩, hoffers⟩
    exact ⟨⟨e', he, hv.trans (congrArg _ hs)⟩, hoffers⟩
  · rintro ⟨⟨e', rfl, hv⟩, hoffers⟩
    have hs := partIn_of_evaluate hv
    exact ⟨⟨⟨e', rfl, hv.trans (congrArg _ hs.symm)⟩, hs⟩, hoffers⟩

/-- The members of a cluster pass when they are the names of declared VMs. -/
theorem allPass_memberChecks_iff {owner : Owner} {items : List Value} :
    AllPass (items.flatMap (d.memberChecks owner)) ↔
      items = (items.map Value.textOfString).map .string ∧
        ∀ name ∈ items.map Value.textOfString, name ∈ d.declared .vm := by
  induction items with
  | nil => simp
  | cons item items ih =>
      simp only [List.flatMap_cons, allPass_append, ih, memberChecks, allPass_cons, allPass_nil,
        and_true, require_eq_none, Value.isString_iff, List.map_cons, List.cons.injEq,
        List.forall_mem_cons]
      exact and_and_and_comm

/-- A cluster passes when its members are the names of declared VMs and its orders name only
members. -/
theorem allPass_clusterChecks_iff {c : Cluster} :
    AllPass (d.clusterChecks c) ↔
      (∃ e, c.members = some e ∧
        e.evaluate d.scope = .ok (.array ((d.memberNames c).map .string))) ∧
      (∀ name ∈ d.memberNames c, name ∈ d.declared .vm) ∧
      OrdersWithin (d.memberNames c) c.lifecycle := by
  simp only [clusterChecks, allPass_append, allPass_partChecks_iff, allPass_cons,
    require_eq_none, Value.isArray_iff, allPass_memberChecks_iff, allPass_lifecycleChecks_iff]
  constructor
  · rintro ⟨⟨e, he, hv⟩, harray, ⟨hstrings, hdeclared⟩, horders⟩
    have hitems : partIn d.scope c.members = .array ((d.memberNames c).map .string) :=
      harray.trans (congrArg _ hstrings)
    exact ⟨⟨e, he, hv.trans (congrArg _ hitems)⟩, hdeclared, horders⟩
  · rintro ⟨⟨e, he, hv⟩, hdeclared, horders⟩
    have hitems : partIn d.scope c.members = .array ((d.memberNames c).map .string) :=
      he ▸ partIn_of_evaluate hv
    have hmembers : d.membersOf c = (d.memberNames c).map .string :=
      congrArg Value.elements hitems
    exact ⟨⟨e, he, hv.trans (congrArg _ hitems.symm)⟩, hitems.trans (congrArg _ hmembers.symm),
      ⟨hmembers, hdeclared⟩, horders⟩

end Document

/-! ### Resolution is the row of these checks -/

namespace Resolve

variable {d : Document} {owner : Owner} {field : Field}

theorem partValue_eq {scope : Scope} {e : Option Expr} :
    partValue scope owner field e = outcome (partChecks scope owner field e) (partIn scope e) := by
  cases e with
  | none => rfl
  | some e => exact outcome_evaluates rfl

theorem partName_eq {scope : Scope} {e : Option Expr} :
    partName scope owner field e =
      outcome (stringChecks scope owner field e) (partIn scope e).textOfString := by
  show (partValue scope owner field e).bind _ = _
  rw [partValue_eq]
  refine outcome_bind fun _ => ?_
  cases partIn scope e <;> rfl

/-- **A document offers** the names that it declares and those of its `data` blocks. -/
theorem known_iff {kind : DataKind} {name : String} :
    known d.index d.tables.data kind name = true ↔ name ∈ d.offers kind := by
  have hdata : d.tables.data.has kind name = true ↔
      ∃ b ∈ d.data, b.kind? = some kind ∧ b.name = name := DataTables.has_ofBlocks
  have hdeclared : d.index.declares kind name = true ↔ name ∈ d.declared kind.toResource := by
    cases kind <;>
      simp [Index.declares, Index.hasNetwork, Index.hasStore, Document.index,
        NameSet.mem_ofList, DataKind.toResource]
  rw [known, Bool.or_eq_true, hdeclared, hdata, Document.offers, List.mem_append]
  simp [and_assoc]

theorem reference_eq {kind : DataKind} {e : Option Expr} :
    reference d.index d.tables kind owner field e =
      outcome (d.resourceChecks kind owner field e) (partIn d.scope e).textOfString := by
  show (partName d.scope owner field e).bind _ = _
  rw [partName_eq]
  refine outcome_bind fun _ => ?_
  by_cases h : (partIn d.scope e).textOfString ∈ d.offers kind
  · simp [known_iff.mpr h, h, require, outcome]
  · simp [mt known_iff.mp h, h, require, outcome]

theorem vm_eq {v : Vm} :
    vm d.index d.tables v = outcome (d.vmChecks v) (d.resolvedVm v) := by
  show (reference d.index d.tables .network (.vm v.name) .network v.network).bind _ = _
  rw [reference_eq]
  refine outcome_bind fun _ => ?_
  show (reference d.index d.tables .store (.vm v.name) .store v.store).bind _ = _
  rw [reference_eq]
  exact outcome_bind_ok

theorem members_eq {items : List Value} :
    members d.index owner items =
      outcome (items.flatMap (d.memberChecks owner)) (items.map Value.textOfString) := by
  induction items with
  | nil => rfl
  | cons item items ih =>
      cases item with
      | string s =>
          have hvm : d.index.hasVm s = true ↔ s ∈ d.declared .vm := by
            simp [Index.hasVm, Document.index, NameSet.mem_ofList]
          show (if d.index.hasVm s then (members d.index owner items).bind _ else _) = _
          by_cases h : s ∈ d.declared .vm
          · rw [if_pos (hvm.mpr h), ih]
            simpa [Document.memberChecks, require, Value.isString, Value.textOfString, h, outcome]
              using outcome_bind_ok
          · rw [if_neg (mt hvm.mp h)]
            simp [Document.memberChecks, require, Value.isString, Value.textOfString, h, outcome]
      | null | bool _ | number _ | array _ | object _ => rfl

theorem checkOrder_eq {members order : List String} :
    checkOrder owner field members order = outcome (orderChecks owner field members order) () := by
  induction order with
  | nil => rfl
  | cons name order ih =>
      by_cases h : name ∈ members
      · simpa [checkOrder, orderChecks, require, h, outcome] using ih
      · simp [checkOrder, orderChecks, require, h, outcome]

theorem checkLifecycle_eq {members : List String} {l : Option Lifecycle} :
    checkLifecycle owner members l = outcome (lifecycleChecks owner members l) () := by
  cases l with
  | none => rfl
  | some l =>
      show (checkOrder owner .startOrder members l.startOrder).bind _ = _
      rw [checkOrder_eq]
      refine outcome_bind fun _ => ?_
      exact checkOrder_eq

theorem cluster_eq {c : Cluster} :
    cluster d.index d.tables c = outcome (d.clusterChecks c) (d.resolvedCluster c) := by
  show (partValue d.scope (.cluster c.name) .members c.members).bind _ = _
  rw [partValue_eq]
  refine outcome_bind fun _ => ?_
  rw [Document.resolvedCluster, Document.memberNames, Document.membersOf]
  cases partIn d.scope c.members with
  | array items =>
      show (members d.index (.cluster c.name) items).bind _ = _
      rw [members_eq]
      refine outcome_bind fun _ => ?_
      show (checkLifecycle (.cluster c.name) (items.map Value.textOfString) c.lifecycle).bind _ = _
      rw [checkLifecycle_eq]
      exact outcome_bind_ok
  | null | bool _ | number _ | string _ | object _ => rfl

/-- **Resolving a document** in its tables is the row of its reference checks. -/
theorem document_eq : document d d.index d.tables = outcome d.referenceChecks d.resolved := by
  show (d.vms.mapM (vm d.index d.tables)).bind _ = _
  rw [outcome_mapM fun v _ => vm_eq]
  refine outcome_bind fun _ => ?_
  show (d.clusters.mapM (cluster d.index d.tables)).bind _ = _
  rw [outcome_mapM fun c _ => cluster_eq]
  exact outcome_bind_ok

end Resolve

/-! ### Documents that offer the same -/

/-- Two documents offer the same to references: the same tables, and resources and VMs of the same
names. -/
structure Document.SameOffer (d d' : Document) : Prop where
  scope : d'.scope = d.scope
  offers : ∀ kind name, name ∈ d'.offers kind ↔ name ∈ d.offers kind
  vms : ∀ name, name ∈ d'.declared .vm ↔ name ∈ d.declared .vm

namespace Document.SameOffer

variable {d d' : Document} (h : d.SameOffer d')
include h

theorem vmChecks_eq (v : Vm) : d'.vmChecks v = d.vmChecks v := by
  simp only [vmChecks, resourceChecks, h.scope, h.offers]

theorem memberChecks_eq (owner : Owner) (item : Hcl.Value) :
    d'.memberChecks owner item = d.memberChecks owner item := by
  simp only [memberChecks, h.vms]

theorem memberNames_eq (c : Cluster) : d'.memberNames c = d.memberNames c := by
  rw [memberNames, memberNames, membersOf, membersOf, h.scope]

theorem clusterChecks_eq (c : Cluster) : d'.clusterChecks c = d.clusterChecks c := by
  have hitems : d'.memberChecks (.cluster c.name) = d.memberChecks (.cluster c.name) :=
    funext (h.memberChecks_eq _)
  rw [clusterChecks, clusterChecks, h.memberNames_eq, hitems, membersOf, membersOf, h.scope]

theorem resolvedVm_eq (v : Vm) : d'.resolvedVm v = d.resolvedVm v := by
  rw [resolvedVm, resolvedVm, h.scope]

theorem resolvedCluster_eq (c : Cluster) : d'.resolvedCluster c = d.resolvedCluster c := by
  rw [resolvedCluster, resolvedCluster, h.memberNames_eq]

end Document.SameOffer

end VirtEnv
