import VirtEnv.Proofs.Integrity

/-!
# Selection — VMs and clusters are resolved one by one

Some VMs and clusters of a document are kept, and the others left out.  A reference of a VM is
evaluated in tables that no VM or cluster occurs in, and of the other VMs a cluster sees the names
only.  So what a VM or cluster is resolved to is the same among fewer of them, and a cluster is
refused only if one of its members was left out.

* `exists_kept_iff`: a mask keeps a sublist, and every sublist is kept by some mask.
* `Document.exists_keeping`: so every choice of VMs and clusters is what some masks keep.
* `Document.resolved_keeping`: what remains of a document is resolved to what remains of the
  resolved document.
* `Document.resolve_keeping`: what remains of a document that loads makes the same lookups, and
  loads exactly when no cluster has lost a member.
-/

namespace VirtEnv

/-! ### Masks -/

/-- The elements of a list that a mask keeps.  A mask that is too short keeps none of the rest. -/
def kept {α : Type} : List Bool → List α → List α
  | true :: mask, x :: xs => x :: kept mask xs
  | false :: mask, _ :: xs => kept mask xs
  | _, _ => []

section Kept

variable {α β : Type} {mask : List Bool} {xs ys : List α}

theorem kept_nil : kept mask ([] : List α) = [] := by
  cases mask with
  | nil => rfl
  | cons b mask => cases b <;> rfl

theorem kept_map (f : α → β) : kept mask (xs.map f) = (kept mask xs).map f := by
  induction xs generalizing mask with
  | nil => rw [List.map_nil, kept_nil, kept_nil, List.map_nil]
  | cons x xs ih =>
      cases mask with
      | nil => rfl
      | cons b mask =>
          cases b with
          | true => exact congrArg (f x :: ·) ih
          | false => exact ih

theorem kept_sublist : (kept mask xs).Sublist xs := by
  induction xs generalizing mask with
  | nil => rw [kept_nil]
  | cons x xs ih =>
      cases mask with
      | nil => exact List.nil_sublist _
      | cons b mask =>
          cases b with
          | true => exact ih.cons_cons x
          | false => exact ih.cons x

/-- A mask keeps a sublist, and every sublist is kept by some mask. -/
theorem exists_kept_iff : (∃ mask, kept mask xs = ys) ↔ ys.Sublist xs := by
  constructor
  · rintro ⟨mask, rfl⟩
    exact kept_sublist
  · intro h
    induction h with
    | slnil => exact ⟨[], rfl⟩
    | cons x _ ih =>
        obtain ⟨mask, rfl⟩ := ih
        exact ⟨false :: mask, rfl⟩
    | cons_cons x _ ih =>
        obtain ⟨mask, rfl⟩ := ih
        exact ⟨true :: mask, rfl⟩

end Kept

/-! ### What remains of a document -/

/-- Which VMs and which clusters of a document are kept. -/
structure Selection where
  vms : List Bool
  clusters : List Bool

/-- A document with the VMs and clusters that are kept. -/
def Document.keeping (d : Document) (s : Selection) : Document :=
  { d with vms := kept s.vms d.vms, clusters := kept s.clusters d.clusters }

/-- A resolved document with the VMs and clusters that are kept. -/
def Resolved.keeping (r : Resolved) (s : Selection) : Resolved :=
  { r with vms := kept s.vms r.vms, clusters := kept s.clusters r.clusters }

/-- Every member of a cluster that is kept is a VM that is kept. -/
def Selection.Closed (s : Selection) (r : Resolved) : Prop :=
  ∀ c ∈ kept s.clusters r.clusters, ∀ m ∈ c.members, m ∈ (kept s.vms r.vms).map (·.name)

/-- Of names that are in order, fewer are in order. -/
theorem WellNamed.sublist {names names' : List String} (h : WellNamed names)
    (hsub : names'.Sublist names) : WellNamed names' :=
  ⟨fun name hname => h.1 name (hsub.subset hname), h.2.sublist hsub⟩

namespace Document

variable {d : Document} {s : Selection}

theorem declared_keeping_sublist :
    ∀ kind, ((d.keeping s).declared kind).Sublist (d.declared kind)
  | .vm => kept_sublist.map _
  | .cluster => kept_sublist.map _
  | .network | .store | .variable => .refl _

/-- The names of the VMs that remain are those of the resolved VMs that remain. -/
theorem declared_vm_keeping :
    (d.keeping s).declared .vm = (kept s.vms d.resolved.vms).map (·.name) := by
  have hresolved : kept s.vms d.resolved.vms = (kept s.vms d.vms).map d.resolvedVm := kept_map _
  rw [hresolved, List.map_map]
  rfl

theorem allPass_earlyChecks_keeping (h : AllPass d.earlyChecks) :
    AllPass (d.keeping s).earlyChecks := by
  obtain ⟨hnames, hvalues⟩ := allPass_append.mp h
  refine allPass_append.mpr ⟨?_, hvalues⟩
  rw [allPass_nameChecks_iff] at hnames ⊢
  exact fun kind => (hnames kind).sublist (declared_keeping_sublist kind)

/-- A VM is checked as before: no table that its references are evaluated in has changed. -/
theorem vmChecks_keeping {v : Vm} : (d.keeping s).vmChecks v = d.vmChecks v := rfl

theorem memberNames_keeping {c : Cluster} : (d.keeping s).memberNames c = d.memberNames c := rfl

/-- A cluster that passed still passes exactly when its members remain. -/
theorem allPass_clusterChecks_keeping_iff {c : Cluster} (h : AllPass (d.clusterChecks c)) :
    AllPass ((d.keeping s).clusterChecks c) ↔
      ∀ m ∈ d.memberNames c, m ∈ (d.keeping s).declared .vm := by
  obtain ⟨hmembers, -, horders⟩ := allPass_clusterChecks_iff.mp h
  rw [allPass_clusterChecks_iff, memberNames_keeping]
  constructor
  · rintro ⟨-, hdeclared, -⟩
    exact hdeclared
  · exact fun hdeclared => ⟨hmembers, hdeclared, horders⟩

/-- References that passed still pass exactly when no cluster has lost a member. -/
theorem allPass_referenceChecks_keeping_iff (h : AllPass d.referenceChecks) :
    AllPass (d.keeping s).referenceChecks ↔ s.Closed d.resolved := by
  obtain ⟨hvms, hclusters⟩ := allPass_append.mp h
  rw [allPass_flatMap] at hvms hclusters
  have hkeptVms : AllPass ((d.keeping s).vms.flatMap (d.keeping s).vmChecks) := by
    rw [allPass_flatMap]
    intro v hv
    rw [vmChecks_keeping]
    exact hvms v (kept_sublist.subset hv)
  have hkeptClusters : kept s.clusters d.resolved.clusters =
      (kept s.clusters d.clusters).map d.resolvedCluster := kept_map _
  rw [referenceChecks, allPass_append, and_iff_right hkeptVms, allPass_flatMap, Selection.Closed,
    hkeptClusters, List.forall_mem_map, ← declared_vm_keeping]
  refine forall₂_congr fun c hc => ?_
  exact allPass_clusterChecks_keeping_iff (hclusters c (kept_sublist.subset hc))

/-- **What remains of a document is resolved to what remains of the resolved document.** -/
theorem resolved_keeping : (d.keeping s).resolved = d.resolved.keeping s := by
  have hvms : kept s.vms d.resolved.vms = (d.keeping s).resolved.vms := kept_map _
  have hclusters : kept s.clusters d.resolved.clusters = (d.keeping s).resolved.clusters :=
    kept_map _
  rw [Resolved.keeping, hvms, hclusters]
  rfl

/-- **Any choice** of VMs and clusters, in the order of the document, is what some masks keep. -/
theorem exists_keeping {vms : List Vm} {clusters : List Cluster} (hvms : vms.Sublist d.vms)
    (hclusters : clusters.Sublist d.clusters) : ∃ s, d.keeping s = { d with vms, clusters } := by
  obtain ⟨vmMask, rfl⟩ := exists_kept_iff.mpr hvms
  obtain ⟨clusterMask, rfl⟩ := exists_kept_iff.mpr hclusters
  exact ⟨⟨vmMask, clusterMask⟩, rfl⟩

/-- **VMs and clusters are resolved one by one.**  What remains of a document that loads, with any
catalog and cancelled or not, makes the same lookups.  It loads exactly when every member of a
cluster that is kept is a VM that is kept, and then to what remains of the resolved document.  Any
choice of VMs and clusters may be what remains. -/
theorem resolve_keeping {C : Catalog} {k : Cancellation} {r : Resolved}
    (h : (d.resolve C k).result = .ok r) :
    (∀ s, ((d.keeping s).resolve C k).lookups = (d.resolve C k).lookups ∧
      ∀ r', ((d.keeping s).resolve C k).result = .ok r' ↔ s.Closed r ∧ r' = r.keeping s) ∧
    ∀ vms clusters, vms.Sublist d.vms → clusters.Sublist d.clusters →
      ∃ s, d.keeping s = { d with vms, clusters } := by
  refine ⟨fun s => ?_, fun _ _ => exists_keeping⟩
  obtain ⟨hearly, -, href, -, hlookups⟩ := passed_of_eq_ok h
  obtain ⟨-, rfl, hcheck⟩ := resolve_eq_ok h
  have hcheck' : DataTables.check C k 0 {} (d.keeping s).data =
      ⟨.ok (.ofBlocks d.data), lookupsOf d.data⟩ := hcheck
  have hresolve : (d.keeping s).resolve C k =
      ⟨outcome (d.keeping s).referenceChecks (d.keeping s).resolved, lookupsOf d.data⟩ := by
    rw [resolve_of_prepared (allPass_earlyChecks_keeping hearly), hcheck']
    exact congrArg (Run.mk · _) Resolve.document_eq
  rw [hresolve, hlookups]
  refine ⟨rfl, fun r' => ?_⟩
  rw [outcome_eq_ok_iff, allPass_referenceChecks_keeping_iff href, resolved_keeping,
    eq_comm (a := r')]

/-- Two VMs on one network, the second on a store of the catalog, each in a cluster of its own. -/
def twoTiers : Document where
  networks := [{ name := "default", attributes := {} }]
  stores := [{ name := "local", attributes := {} }]
  vms := [{ name := "web1"
            network := some (.traversal (.variable "network") [.member "default"])
            store := some (.string "local") },
    { name := "db1"
      network := some (.string "default")
      store := some (.traversal (.variable "data") [.member "store", .member "images"]) }]
  clusters := [{ name := "web"
                 members := some (.array [.string "web1"])
                 lifecycle := some { startOrder := ["web1"] } },
    { name := "all", members := some (.array [.string "db1", .string "web1"]) }]
  data := [⟨"store", "images"⟩]

/-- Without the second VM the first cluster remains in order, and the second does not. -/
theorem resolve_keeping_twoTiers :
    (twoTiers.resolve (.steady fun _ _ => .ok (some 7)) .never).result = .ok twoTiers.resolved ∧
      (twoTiers.keeping ⟨[true], [true]⟩).resolve (.steady fun _ _ => .ok (some 7)) .never =
        ⟨.ok (twoTiers.resolved.keeping ⟨[true], [true]⟩), [⟨.store, "images"⟩]⟩ ∧
      ¬ ∃ r, ((twoTiers.keeping ⟨[true], [true, true]⟩).resolve
        (.steady fun _ _ => .ok (some 7)) .never).result = .ok r := by
  have hr : (twoTiers.resolve (.steady fun _ _ => .ok (some 7)) .never).result =
      .ok twoTiers.resolved := rfl
  have hclosed : Selection.Closed ⟨[true], [true]⟩ twoTiers.resolved := by
    intro c hc m hm
    cases hc with
    | head => exact hm
    | tail _ hc => cases hc
  have hopen : ¬ Selection.Closed ⟨[true], [true, true]⟩ twoTiers.resolved := by
    intro h
    have hmem : "db1" ∈ ["web1"] := h ⟨"all", ["db1", "web1"], [], none⟩
      (.tail _ (.head _)) "db1" (.head _)
    revert hmem
    decide
  obtain ⟨hlookups, hresult⟩ := (resolve_keeping hr).1 ⟨[true], [true]⟩
  refine ⟨hr, ?_, ?_⟩
  · exact congrArg₂ Run.mk ((hresult _).mpr ⟨hclosed, rfl⟩) hlookups
  · rintro ⟨r, hrest⟩
    exact hopen ((((resolve_keeping hr).1 ⟨[true], [true, true]⟩).2 r).mp hrest).1

end Document

end VirtEnv
