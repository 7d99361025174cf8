import Mathlib.Data.List.Nodup
import VirtEnv.Proofs.Acceptance

/-!
# Integrity — what a loaded document refers to

Whenever a load succeeds, the document that it gives refers only to what is there.

* `Document.resolve_eq_ok`: a load that succeeds passed every check, made the lookup of every `data`
  block, and gave `Document.resolved`.
* `Document.load_integrity`: the network and store of each VM are what their expressions evaluate
  to, and are declared or were found in the catalog by this load; the members of a cluster are
  declared VMs, its orders name members, and names are unique.
-/

namespace VirtEnv

open Hcl (Value)

/-- A name is bound in a load: a resource of the kind is declared with it, or it is the name of a
`data` block of the kind, and this load looked it up and found it. -/
def Bound (d : Document) (C : Catalog) (lookups : List Lookup) (kind : DataKind)
    (name : String) : Prop :=
  name ∈ d.declared kind.toResource ∨
    ∃ i b id, d.data[i]? = some b ∧ b.kind? = some kind ∧ b.name = name ∧
      lookups[i]? = some ⟨kind, name⟩ ∧ C.answer i kind name = .ok (some id)

/-- A VM with its references bound in a load. -/
structure VmBound (d : Document) (C : Catalog) (lookups : List Lookup) (n : Namespace) (v : Vm)
    (w : ResolvedVm) : Prop where
  name : w.name = v.name
  attributes : w.attributes = v.attributes
  network : ∃ e, v.network = some e ∧ e.evaluate n.scope = .ok (.string w.network)
  network_bound : Bound d C lookups .network w.network
  store : ∃ e, v.store = some e ∧ e.evaluate n.scope = .ok (.string w.store)
  store_bound : Bound d C lookups .store w.store

/-- A cluster with its references bound in a resolved document. -/
structure ClusterBound (d : Document) (r : Resolved) (n : Namespace) (c : Cluster)
    (w : ResolvedCluster) : Prop where
  name : w.name = c.name
  labels : w.labels = c.labels
  lifecycle : w.lifecycle = c.lifecycle
  members : ∃ e, c.members = some e ∧ e.evaluate n.scope = .ok (.array (w.members.map .string))
  declared : ∀ m ∈ w.members, m ∈ d.declared .vm ∧ ∃ v, r.vm? m = some v
  start : ∀ l, w.lifecycle = some l → ∀ m ∈ l.startOrder, m ∈ w.members
  stop : ∀ l, w.lifecycle = some l → ∀ m ∈ l.stopOrder, m ∈ w.members

/-- A resolved document refers only to what is there. -/
structure Integrity (d : Document) (C : Catalog) (lookups : List Lookup) (n : Namespace)
    (r : Resolved) : Prop where
  networks : r.networks = d.networks
  stores : r.stores = d.stores
  vms : List.Forall₂ (VmBound d C lookups n) d.vms r.vms
  clusters : List.Forall₂ (ClusterBound d r n) d.clusters r.clusters
  network_names : WellNamed (r.networks.map (·.name))
  store_names : WellNamed (r.stores.map (·.name))
  vm_names : WellNamed (r.vms.map (·.name))
  cluster_names : WellNamed (r.clusters.map (·.name))
  vm_unique : ∀ name v, r.vm? name = some v ↔ v ∈ r.vms ∧ v.name = name
  cluster_unique : ∀ name c, r.cluster? name = some c ↔ c ∈ r.clusters ∧ c.name = name

/-! ### Names -/

/-- Where names are distinct, the first element of a name is the only one. -/
theorem find?_name_iff {α : Type} {name : α → String} {xs : List α} (h : (xs.map name).Nodup)
    {m : String} {x : α} : xs.find? (name · == m) = some x ↔ x ∈ xs ∧ name x = m := by
  constructor
  · intro hx
    exact ⟨List.mem_of_find?_eq_some hx, by simpa using List.find?_some hx⟩
  · rintro ⟨hx, rfl⟩
    obtain ⟨y, hy⟩ : ∃ y, xs.find? (name · == name x) = some y :=
      Option.isSome_iff_exists.mp (List.find?_isSome.mpr ⟨x, hx, by simp⟩)
    have hyx : y = x := List.inj_on_of_nodup_map h (List.mem_of_find?_eq_some hy) hx
      (by simpa using List.find?_some hy)
    rw [hy, hyx]

namespace Document

variable {d : Document} {C : Catalog} {k : Cancellation} {r : Resolved}

/-! ### A load that succeeds -/

/-- **A load that succeeds** passed every check, found every `data` block, and gave the resolved
document. -/
theorem resolve_eq_ok (h : (d.resolve C k).result = .ok r) :
    AllPass (d.checks C) ∧ r = d.resolved ∧
      DataTables.check C k 0 {} d.data = ⟨.ok (.ofBlocks d.data), lookupsOf d.data⟩ := by
  have hnever : d.resolve C k = d.resolve C .never := by
    rcases resolve_eq_or_cut with hk | ⟨_, _, _, _, -, -, hk | hk⟩
    · exact hk
    · rw [hk] at h; cases h
    · rw [hk] at h; cases h
  have hpass : AllPass (d.checks C) ∧ d.resolved = r := by
    rwa [hnever, resolve_result_eq, outcome_eq_ok_iff] at h
  obtain ⟨hearly, hlate⟩ := allPass_append.mp hpass.1
  have hknown : C.KnowsAll 0 d.data := allPass_dataChecks_iff.mp (allPass_append.mp hlate).1
  refine ⟨hpass.1, hpass.2.symm, ?_⟩
  rw [resolve_of_prepared hearly, Run.andThen] at h
  rcases @DataTables.check_eq_or_cut C 0 {} k d.data with hk | ⟨_, _, _, _, -, -, -, hk | hk⟩
  · rw [hk]
    exact DataTables.check_of_knowsAll hknown fun _ _ _ => Cancellation.quietAt_never
  · rw [hk] at h; cases h
  · rw [hk] at h; cases h

/-- So its parts passed each on their own, and its lookups are those of its `data` blocks. -/
theorem passed_of_eq_ok (h : (d.resolve C k).result = .ok r) :
    AllPass d.earlyChecks ∧ C.KnowsAll 0 d.data ∧ AllPass d.referenceChecks ∧ r = d.resolved ∧
      (d.resolve C k).lookups = lookupsOf d.data := by
  obtain ⟨hpass, hr, hcheck⟩ := resolve_eq_ok h
  obtain ⟨hearly, hlate⟩ := allPass_append.mp hpass
  obtain ⟨hdata, href⟩ := allPass_append.mp hlate
  refine ⟨hearly, allPass_dataChecks_iff.mp hdata, href, hr, ?_⟩
  rw [resolve_of_prepared hearly, Run.andThen, hcheck]

/-- A load that succeeds built the tables of the document. -/
theorem build_eq_ok (h : (d.resolve C k).result = .ok r) :
    Index.build d = .ok d.index ∧ (Namespace.build d d.index C k).result = .ok d.tables := by
  obtain ⟨hpass, -, hcheck⟩ := resolve_eq_ok h
  obtain ⟨hn, hv⟩ := allPass_append.mp (allPass_append.mp hpass).1
  refine ⟨by rw [Index.build_eq, outcome_of_allPass hn], ?_⟩
  simp only [Namespace.build, Namespace.evalDocument_eq, outcome_of_allPass hv, hcheck]
  rfl

/-- The resources that a document offers are bound in a load that finds its `data` blocks. -/
theorem bound_of_offers (hknown : C.KnowsAll 0 d.data) {kind : DataKind} {name : String}
    (h : name ∈ d.offers kind) : Bound d C (lookupsOf d.data) kind name := by
  rcases List.mem_append.mp h with hdeclared | hdata
  · exact .inl hdeclared
  · obtain ⟨b, hb, rfl⟩ := List.mem_map.mp hdata
    obtain ⟨hmem, hkind⟩ := List.mem_filter.mp hb
    have hkind : b.kind? = some kind := of_decide_eq_true hkind
    obtain ⟨i, hi⟩ := List.mem_iff_getElem?.mp hmem
    obtain ⟨kind', id, hkind', hid⟩ := hknown i b hi
    -- a block has one kind, so a name that is there as the other kind does not count
    obtain rfl : kind = kind' := Option.some.inj (hkind.symm.trans hkind')
    rw [Nat.zero_add] at hid
    refine .inr ⟨i, b, id, hi, hkind, rfl, ?_, hid⟩
    rw [lookupsOf_getElem? hknown, hi, Option.bind_some, DataBlock.lookup?, hkind, Option.map_some]

theorem vmBound_of_allPass (hknown : C.KnowsAll 0 d.data) {v : Vm} (h : AllPass (d.vmChecks v)) :
    VmBound d C (lookupsOf d.data) d.tables v (d.resolvedVm v) := by
  obtain ⟨hnetwork, hstore⟩ := allPass_append.mp h
  obtain ⟨hn, hnoffers⟩ := allPass_resourceChecks_iff.mp hnetwork
  obtain ⟨hs, hsoffers⟩ := allPass_resourceChecks_iff.mp hstore
  exact ⟨rfl, rfl, hn, bound_of_offers hknown hnoffers, hs, bound_of_offers hknown hsoffers⟩

theorem clusterBound_of_allPass {c : Cluster} (h : AllPass (d.clusterChecks c)) :
    ClusterBound d d.resolved d.tables c (d.resolvedCluster c) := by
  obtain ⟨hmembers, hdeclared, horders⟩ := allPass_clusterChecks_iff.mp h
  refine ⟨rfl, rfl, rfl, hmembers, fun m hm => ⟨hdeclared m hm, ?_⟩,
    fun l hl => (horders l hl).1, fun l hl => (horders l hl).2⟩
  obtain ⟨v, hv, rfl⟩ := List.mem_map.mp (hdeclared m hm)
  exact Option.isSome_iff_exists.mp
    (List.find?_isSome.mpr ⟨d.resolvedVm v, List.mem_map_of_mem hv, by simp [resolvedVm]⟩)

/-- **Integrity.**  Whenever a load succeeds, with any catalog and cancelled or not, the document
that it gives refers only to what is there. -/
theorem load_integrity (h : (d.resolve C k).result = .ok r) :
    ∃ i n, Index.build d = .ok i ∧ (Namespace.build d i C k).result = .ok n ∧
      Integrity d C (d.resolve C k).lookups n r := by
  obtain ⟨hindex, hbuild⟩ := build_eq_ok h
  obtain ⟨hpass, rfl, hcheck⟩ := resolve_eq_ok h
  obtain ⟨hearly, hlate⟩ := allPass_append.mp hpass
  obtain ⟨hdata, href⟩ := allPass_append.mp hlate
  obtain ⟨hvms, hclusters⟩ := allPass_append.mp href
  have hknown : C.KnowsAll 0 d.data := allPass_dataChecks_iff.mp hdata
  have hnamed := allPass_nameChecks_iff.mp (allPass_append.mp hearly).1
  have hlookups : (d.resolve C k).lookups = lookupsOf d.data := by
    rw [resolve_of_prepared hearly, Run.andThen, hcheck]
  have hvmNames : d.resolved.vms.map (·.name) = d.declared .vm := List.map_map
  have hclusterNames : d.resolved.clusters.map (·.name) = d.declared .cluster := List.map_map
  refine ⟨d.index, d.tables, hindex, hbuild, ?_⟩
  rw [hlookups]
  exact {
    networks := rfl
    stores := rfl
    vms := List.forall₂_map_right_iff.mpr (List.forall₂_same.mpr fun v hv =>
      vmBound_of_allPass hknown (allPass_flatMap.mp hvms v hv))
    clusters := List.forall₂_map_right_iff.mpr (List.forall₂_same.mpr fun c hc =>
      clusterBound_of_allPass (allPass_flatMap.mp hclusters c hc))
    network_names := hnamed .network
    store_names := hnamed .store
    vm_names := hvmNames ▸ hnamed .vm
    cluster_names := hclusterNames ▸ hnamed .cluster
    vm_unique := fun name v => find?_name_iff (hvmNames ▸ (hnamed .vm).2)
    cluster_unique := fun name c => find?_name_iff (hclusterNames ▸ (hnamed .cluster).2) }

/-- A document with a VM on a declared network, reached through a local and a variable, and on a
store of the catalog. -/
def webServer : Document where
  vars := [{ name := "bridge", default := some (.string "default") }]
  locals := some [("net", .traversal (.variable "var") [.member "bridge"])]
  networks := [{ name := "default", attributes := {} }]
  vms := [{ name := "web1"
            network := some (.traversal (.variable "local") [.member "net"])
            store := some (.traversal (.variable "data") [.member "store", .member "images"]) }]
  clusters := [{ name := "web"
                 members := some (.array [.string "web1"])
                 lifecycle := some { startOrder := ["web1"] } }]
  data := [⟨"store", "images"⟩]

/-- The web server is loaded, with a cancellation that comes too late. -/
theorem load_integrity_webServer :
    (webServer.resolve (.steady fun _ _ => .ok (some 7)) (.before 1)).result =
        .ok webServer.resolved ∧
      ∃ i n, Index.build webServer = .ok i ∧
        (Namespace.build webServer i (.steady fun _ _ => .ok (some 7)) (.before 1)).result =
          .ok n ∧
        Integrity webServer (.steady fun _ _ => .ok (some 7))
          (webServer.resolve (.steady fun _ _ => .ok (some 7)) (.before 1)).lookups n
          webServer.resolved :=
  ⟨rfl, load_integrity rfl⟩

end Document

end VirtEnv
