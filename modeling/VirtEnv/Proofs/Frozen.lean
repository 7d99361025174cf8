import VirtEnv.Proofs.Gate
import VirtEnv.Proofs.Integrity

/-!
# Frozen documents — a resolved document resolves to itself

A document is frozen by a resolved document: each reference becomes the literal of the name that it
was bound to, and the members of each cluster the array of the literals of their names.  Whatever
the references were, by name, computed or made by a `for`, the literals are bound to the same
resources: what a name may be bound to is said of the name alone.

* `Document.allPass_vmChecks_frozen`, `Document.allPass_clusterChecks_frozen`: what passes, passes
  frozen.
* `Document.resolve_frozen`: a document that loads, loads to the same resolved document once it is
  frozen by it, with the same lookups.
-/

namespace VirtEnv

open Hcl (Expr Scope Value)

/-! ### Literals -/

theorem Hcl.Expr.evaluate_string {scope : Scope} {s : String} :
    (Expr.string s).evaluate scope = .ok (.string s) := rfl

/-- The array of the literals of names evaluates to these names. -/
theorem Hcl.Expr.evaluate_strings {scope : Scope} {names : List String} :
    (Expr.array (names.map .string)).evaluate scope = .ok (.array (names.map .string)) := by
  have hall : Expr.evalAll scope (names.map .string) = .ok (names.map .string) := by
    induction names with
    | nil => rfl
    | cons name names ih =>
        rw [List.map_cons, Expr.evalAll, ih]
        rfl
  rw [Expr.evaluate, Expr.eval, hall]
  rfl

/-! ### Frozen declarations -/

/-- A VM whose references are the names that they were bound to. -/
def Vm.frozen (v : Vm) (w : ResolvedVm) : Vm :=
  { v with network := some (.string w.network), store := some (.string w.store) }

/-- A cluster whose members are the names that they were bound to. -/
def Cluster.frozen (c : Cluster) (w : ResolvedCluster) : Cluster :=
  { c with members := some (.array (w.members.map .string)) }

/-- A document whose references are the names that they were bound to. -/
def Document.frozen (d : Document) (r : Resolved) : Document :=
  { d with
    vms := d.vms.zipWith Vm.frozen r.vms
    clusters := d.clusters.zipWith Cluster.frozen r.clusters }

namespace Document

variable {d : Document}

theorem frozen_vms : (d.frozen d.resolved).vms = d.vms.map fun v => v.frozen (d.resolvedVm v) := by
  show d.vms.zipWith Vm.frozen (d.vms.map d.resolvedVm) = _
  rw [List.zipWith_map_right, List.zipWith_self]

theorem frozen_clusters :
    (d.frozen d.resolved).clusters = d.clusters.map fun c => c.frozen (d.resolvedCluster c) := by
  show d.clusters.zipWith Cluster.frozen (d.clusters.map d.resolvedCluster) = _
  rw [List.zipWith_map_right, List.zipWith_self]

/-- A frozen document declares the same names. -/
theorem declared_frozen (kind : ResourceKind) :
    (d.frozen d.resolved).declared kind = d.declared kind := by
  cases kind with
  | vm => rw [declared, frozen_vms, List.map_map]; rfl
  | cluster => rw [declared, frozen_clusters, List.map_map]; rfl
  | _ => rfl

theorem sameOffer_frozen : d.SameOffer (d.frozen d.resolved) where
  scope := rfl
  offers := fun kind name => by
    rw [offers, declared_frozen]
    exact Iff.rfl
  vms := fun _ => by rw [declared_frozen]

/-! ### What passes, passes frozen -/

/-- The literal of a name that a reference is bound to passes. -/
theorem allPass_resourceChecks_string {kind : DataKind} {owner : Owner} {field : Field}
    {name : String} (h : name ∈ d.offers kind) :
    AllPass (d.resourceChecks kind owner field (some (.string name))) :=
  allPass_resourceChecks_iff.mpr ⟨⟨_, rfl, Expr.evaluate_string⟩, h⟩

theorem allPass_vmChecks_frozen {v : Vm} (h : AllPass (d.vmChecks v)) :
    AllPass (d.vmChecks (v.frozen (d.resolvedVm v))) := by
  obtain ⟨hnetwork, hstore⟩ := allPass_append.mp h
  exact allPass_append.mpr
    ⟨allPass_resourceChecks_string (allPass_resourceChecks_iff.mp hnetwork).2,
      allPass_resourceChecks_string (allPass_resourceChecks_iff.mp hstore).2⟩

/-- The members of a frozen cluster are those of the cluster. -/
theorem memberNames_frozen {c : Cluster} :
    d.memberNames (c.frozen (d.resolvedCluster c)) = d.memberNames c := by
  have hitems : d.membersOf (c.frozen (d.resolvedCluster c)) = (d.memberNames c).map .string :=
    congrArg Value.elements (partIn_of_evaluate Expr.evaluate_strings)
  rw [memberNames, hitems, List.map_map]
  exact List.map_id _

theorem allPass_clusterChecks_frozen {c : Cluster} (h : AllPass (d.clusterChecks c)) :
    AllPass (d.clusterChecks (c.frozen (d.resolvedCluster c))) := by
  obtain ⟨-, hdeclared, horders⟩ := allPass_clusterChecks_iff.mp h
  refine allPass_clusterChecks_iff.mpr ⟨⟨_, rfl, ?_⟩, ?_, ?_⟩
  · rw [memberNames_frozen]
    exact Expr.evaluate_strings
  · rwa [memberNames_frozen]
  · rwa [memberNames_frozen]

theorem allPass_earlyChecks_frozen (h : AllPass d.earlyChecks) :
    AllPass (d.frozen d.resolved).earlyChecks := by
  obtain ⟨hnames, hvalues⟩ := allPass_append.mp h
  refine allPass_append.mpr ⟨?_, hvalues⟩
  rw [allPass_nameChecks_iff] at hnames ⊢
  simpa only [declared_frozen] using hnames

theorem allPass_referenceChecks_frozen (h : AllPass d.referenceChecks) :
    AllPass (d.frozen d.resolved).referenceChecks := by
  obtain ⟨hvms, hclusters⟩ := allPass_append.mp h
  rw [allPass_flatMap] at hvms hclusters
  refine allPass_append.mpr ⟨?_, ?_⟩
  · rw [frozen_vms, allPass_flatMap, List.forall_mem_map]
    intro v hv
    rw [sameOffer_frozen.vmChecks_eq]
    exact allPass_vmChecks_frozen (hvms v hv)
  · rw [frozen_clusters, allPass_flatMap, List.forall_mem_map]
    intro c hc
    rw [sameOffer_frozen.clusterChecks_eq]
    exact allPass_clusterChecks_frozen (hclusters c hc)

/-- A frozen document means what it was frozen by. -/
theorem resolved_frozen : (d.frozen d.resolved).resolved = d.resolved := by
  have hvm : ∀ v, (d.frozen d.resolved).resolvedVm (v.frozen (d.resolvedVm v)) = d.resolvedVm v :=
    fun v => sameOffer_frozen.resolvedVm_eq _
  have hcluster : ∀ c, (d.frozen d.resolved).resolvedCluster (c.frozen (d.resolvedCluster c)) =
      d.resolvedCluster c := fun c => by
    rw [sameOffer_frozen.resolvedCluster_eq, resolvedCluster, memberNames_frozen]
    rfl
  rw [resolved, frozen_vms, frozen_clusters, List.map_map, List.map_map, Function.comp_def,
    Function.comp_def]
  simp only [hvm, hcluster]
  rfl

/-- **Resolution is idempotent.**  A document that loads, cancelled or not, loads to the same
resolved document when it is frozen by it, with the same catalog and the same lookups. -/
theorem resolve_frozen {C : Catalog} {k : Cancellation} {r : Resolved}
    (h : (d.resolve C k).result = .ok r) :
    (d.frozen r).resolve C .never = ⟨.ok r, (d.resolve C k).lookups⟩ := by
  obtain ⟨hearly, hknown, href, rfl, hlookups⟩ := passed_of_eq_ok h
  rw [resolve_of_knowsAll (allPass_earlyChecks_frozen hearly) hknown,
    outcome_of_allPass (allPass_referenceChecks_frozen href), resolved_frozen, hlookups]
  rfl

/-- A document that computes its references: a network by a conditional, a store by an index that is
a variable, and members by a `for` with a template. -/
def computed : Document where
  vars := [{ name := "pool", default := some (.string "images") },
    { name := "routed", default := some (.bool false) }]
  networks := [{ name := "default", attributes := {} }]
  vms := [{ name := "web1"
            network := some (.conditional (.traversal (.variable "var") [.member "routed"])
              (.traversal (.variable "network") [.member "uplink"])
              (.traversal (.variable "network") [.member "default"]))
            store := some (.traversal (.variable "data") [.member "store",
              .index (.traversal (.variable "var") [.member "pool"])]) }]
  clusters := [{ name := "web"
                 members := some (.forList ⟨none, "n"⟩ (.array [.string "1"])
                   (.template "web$\x7bn\x7d" [.literal "web",
                     .interpolation ⟨false, false, false⟩ (.variable "n")]) none)
                 lifecycle := some { startOrder := ["web1"] } }]
  data := [⟨"store", "images"⟩]

/-- The document is loaded before a cancellation, and frozen by what it was loaded to. -/
theorem resolve_frozen_computed :
    (computed.resolve (.steady fun _ _ => .ok (some 7)) (.before 1)).result =
        .ok computed.resolved ∧
      (computed.frozen computed.resolved).resolve (.steady fun _ _ => .ok (some 7)) .never =
        ⟨.ok computed.resolved,
          (computed.resolve (.steady fun _ _ => .ok (some 7)) (.before 1)).lookups⟩ :=
  have hr : (computed.resolve (.steady fun _ _ => .ok (some 7)) (.before 1)).result =
      .ok computed.resolved := rfl
  ⟨hr, resolve_frozen hr⟩

end Document

end VirtEnv
