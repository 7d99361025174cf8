import VirtEnv.Proofs.Gate

/-!
# Reordering — the order of declarations does not matter

The networks, stores, VMs, clusters and `data` blocks of a document are put in another order, each
kind on its own.  Variables and locals stay in their places.  The tables that references are
evaluated in are sorted, so they are the same tables, and an expression that goes through a whole
table meets its entries in the same order.

* `Document.sameOffer_reordered`: a document and its reordering offer the same to references.
* `Document.resolve_reordered_iff`: with a catalog that answers alike every time, the reordered
  document loads when the document does, and to the same declarations in the new order.
-/

namespace VirtEnv

/-! ### Lists in another order -/

/-- An order of `n` positions: each of them once. -/
structure Arrangement (n : Nat) where
  positions : List Nat
  perm : positions.Perm (List.range n)

namespace Arrangement

variable {α β : Type} {n : Nat} (σ : Arrangement n)

/-- The elements of a list in the order of the positions. -/
def apply (xs : List α) : List α := σ.positions.filterMap (xs[·]?)

theorem apply_map (f : α → β) (xs : List α) : σ.apply (xs.map f) = (σ.apply xs).map f := by
  simp only [apply, List.getElem?_map, List.map_filterMap]

theorem filterMap_range_getElem? (xs : List α) :
    (List.range xs.length).filterMap (xs[·]?) = xs := by
  induction xs with
  | nil => rfl
  | cons x xs ih =>
      rw [List.length_cons, List.range_succ_eq_map, List.filterMap_cons, List.filterMap_map]
      exact congrArg (x :: ·) ih

/-- The elements of a list in another order are its elements. -/
theorem apply_perm {xs : List α} (σ : Arrangement xs.length) : (σ.apply xs).Perm xs := by
  have hperm := σ.perm.filterMap (xs[·]?)
  rwa [filterMap_range_getElem?] at hperm

end Arrangement

/-! ### Documents in another order -/

/-- A catalog that answers alike every time knows blocks, in whatever order, when it knows each. -/
theorem Catalog.knowsAll_steady {f : DataKind → String → CatalogAnswer} {n : Nat}
    {bs : List DataBlock} :
    (steady f).KnowsAll n bs ↔
      ∀ b ∈ bs, ∃ kind id, b.kind? = some kind ∧ f kind b.name = .ok (some id) := by
  induction bs generalizing n with
  | nil => simp [knowsAll_nil]
  | cons b bs ih => rw [knowsAll_cons, ih, List.forall_mem_cons]; rfl

/-- An order of each kind of declaration of a document but its variables and locals. -/
structure Document.Reordering (d : Document) where
  networks : Arrangement d.networks.length
  stores : Arrangement d.stores.length
  vms : Arrangement d.vms.length
  clusters : Arrangement d.clusters.length
  data : Arrangement d.data.length

/-- A document with its declarations in another order. -/
def Document.reordered (d : Document) (ρ : d.Reordering) : Document :=
  { d with
    networks := ρ.networks.apply d.networks
    stores := ρ.stores.apply d.stores
    vms := ρ.vms.apply d.vms
    clusters := ρ.clusters.apply d.clusters
    data := ρ.data.apply d.data }

/-- A resolved document with its declarations in another order. -/
def Resolved.reordered {d : Document} (r : Resolved) (ρ : d.Reordering) : Resolved :=
  { r with
    networks := ρ.networks.apply r.networks
    stores := ρ.stores.apply r.stores
    vms := ρ.vms.apply r.vms
    clusters := ρ.clusters.apply r.clusters }

namespace Document

variable {d : Document} (ρ : d.Reordering)

theorem declared_reordered :
    ∀ kind, ((d.reordered ρ).declared kind).Perm (d.declared kind)
  | .network => ρ.networks.apply_perm.map _
  | .store => ρ.stores.apply_perm.map _
  | .vm => ρ.vms.apply_perm.map _
  | .cluster => ρ.clusters.apply_perm.map _
  | .variable => List.Perm.refl _

theorem blockNames_reordered (kind : DataKind) :
    (((d.reordered ρ).data.filter (·.kind? = some kind)).map (·.name)).Perm
      ((d.data.filter (·.kind? = some kind)).map (·.name)) :=
  (ρ.data.apply_perm.filter _).map _

theorem offers_reordered (kind : DataKind) :
    ((d.reordered ρ).offers kind).Perm (d.offers kind) :=
  (declared_reordered ρ _).append (blockNames_reordered ρ kind)

/-- The tables are sorted, so they do not show the order of declarations. -/
theorem tables_reordered : (d.reordered ρ).tables = d.tables := by
  have hdeclared : ∀ kind, NameSet.ofList ((d.reordered ρ).declared kind) =
      NameSet.ofList (d.declared kind) :=
    fun kind => NameSet.ofList_congr fun _ => (declared_reordered ρ kind).mem_iff
  have hdata : DataTables.ofBlocks (d.reordered ρ).data = DataTables.ofBlocks d.data := by
    have hnames : ∀ kind, (DataTables.ofBlocks (d.reordered ρ).data).names kind =
        (DataTables.ofBlocks d.data).names kind := fun kind => by
      rw [DataTables.names_ofBlocks, DataTables.names_ofBlocks]
      exact NameSet.ofList_congr fun _ => (blockNames_reordered ρ kind).mem_iff
    exact congrArg₂ DataTables.mk (hnames .network) (hnames .store)
  simp only [tables, index, hdeclared, hdata]
  rfl

/-- **A document and its reordering offer the same.** -/
theorem sameOffer_reordered : d.SameOffer (d.reordered ρ) where
  scope := congrArg Namespace.scope (tables_reordered ρ)
  offers := fun kind _ => (offers_reordered ρ kind).mem_iff
  vms := fun _ => (declared_reordered ρ .vm).mem_iff

theorem allPass_earlyChecks_reordered :
    AllPass (d.reordered ρ).earlyChecks ↔ AllPass d.earlyChecks := by
  have hnames : ∀ kind, WellNamed ((d.reordered ρ).declared kind) ↔ WellNamed (d.declared kind) :=
    fun kind => wellNamed_congr (declared_reordered ρ kind)
  rw [earlyChecks, earlyChecks, allPass_append, allPass_append, allPass_nameChecks_iff,
    allPass_nameChecks_iff]
  exact and_congr (forall_congr' hnames) Iff.rfl

theorem allPass_referenceChecks_reordered :
    AllPass (d.reordered ρ).referenceChecks ↔ AllPass d.referenceChecks := by
  have hoffer := sameOffer_reordered ρ
  rw [referenceChecks, referenceChecks, allPass_append, allPass_append, allPass_flatMap,
    allPass_flatMap, allPass_flatMap, allPass_flatMap]
  refine and_congr (forall_congr' fun v => ?_) (forall_congr' fun c => ?_)
  · rw [hoffer.vmChecks_eq]
    exact imp_congr_left ρ.vms.apply_perm.mem_iff
  · rw [hoffer.clusterChecks_eq]
    exact imp_congr_left ρ.clusters.apply_perm.mem_iff

theorem resolved_reordered : (d.reordered ρ).resolved = d.resolved.reordered ρ := by
  have hoffer := sameOffer_reordered ρ
  have hvms : (d.reordered ρ).resolvedVm = d.resolvedVm := funext hoffer.resolvedVm_eq
  have hclusters : (d.reordered ρ).resolvedCluster = d.resolvedCluster :=
    funext hoffer.resolvedCluster_eq
  simp only [resolved, hvms, hclusters, Resolved.reordered, Arrangement.apply_map]
  rfl

/-- **The order of declarations does not matter.**  With a catalog that answers alike every time, a
document in another order loads when the document does, and to the same resolved document in that
order. -/
theorem resolve_reordered_iff (d : Document) (ρ : d.Reordering)
    (f : DataKind → String → CatalogAnswer) (r' : Resolved) :
    ((d.reordered ρ).resolve (.steady f) .never).result = .ok r' ↔
      ∃ r, (d.resolve (.steady f) .never).result = .ok r ∧ r' = r.reordered ρ := by
  have hknown : (Catalog.steady f).KnowsAll 0 (d.reordered ρ).data ↔
      (Catalog.steady f).KnowsAll 0 d.data := by
    rw [Catalog.knowsAll_steady, Catalog.knowsAll_steady]
    exact forall_congr' fun _ => imp_congr_left ρ.data.apply_perm.mem_iff
  simp only [result_eq_ok_iff, allPass_earlyChecks_reordered, hknown,
    allPass_referenceChecks_reordered, resolved_reordered]
  constructor
  · rintro ⟨hearly, hdata, href, rfl⟩
    exact ⟨_, ⟨hearly, hdata, href, rfl⟩, rfl⟩
  · rintro ⟨_, ⟨hearly, hdata, href, rfl⟩, rfl⟩
    exact ⟨hearly, hdata, href, rfl⟩

end Document

end VirtEnv
