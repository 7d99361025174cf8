import VirtEnv.Proofs.Names

/-!
# Indexes — when a document has one, and what it holds

The index of a document has a set of names for each kind.  It is built when the names of each kind
are non-empty and distinct.  Then no name is lost on the way into its set, and no two are merged.

* `NameSet.represents_ofList`: the set of distinct names is these names, in their order.
* `Index.build_eq_ok_iff`: an index is built exactly when each of its sets stands for the names of
  its kind, and these are non-empty and distinct.
* `Index.build_eq_ok_iff_only`: the index of a document is put together from those of its kinds
  alone.
* `Index.build_congr`: the order of declarations leaves no trace in it.
* `Index.build_faithful`: all this, with what the index answers.
-/

namespace VirtEnv

/-! ### Sets that stand for names -/

namespace NameSet

variable {s s' : NameSet} {names names' : List String}

theorem Sorted.nodup (h : s.Sorted) : s.Nodup := List.Pairwise.nodup h

/-- A set stands for names: it is these names in their order, each as often as it is among them.
Only distinct names have such a set. -/
structure Represents (s : NameSet) (names : List String) : Prop where
  sorted : s.Sorted
  perm : s.Perm names

/-- **The set of distinct names** stands for them. -/
theorem represents_ofList (h : names.Nodup) : (ofList names).Represents names where
  sorted := sorted_ofList
  perm := (List.perm_ext_iff_of_nodup sorted_ofList.nodup h).mpr fun _ => mem_ofList

/-- Sets that stand for the same names, in whatever order, are equal. -/
theorem Represents.eq (h : s.Represents names) (h' : s'.Represents names')
    (hnames : names.Perm names') : s = s' :=
  h.sorted.eq_of_mem_iff h'.sorted fun _ =>
    (h.perm.mem_iff.trans hnames.mem_iff).trans h'.perm.mem_iff.symm

/-- The order of the names does not matter. -/
theorem represents_congr (hnames : names.Perm names') : s.Represents names ↔ s.Represents names' :=
  ⟨fun h => ⟨h.sorted, h.perm.trans hnames⟩, fun h => ⟨h.sorted, h.perm.trans hnames.symm⟩⟩

end NameSet

/-! ### Documents -/

namespace Document

/-- A document with the declarations of one kind alone. -/
def only (d : Document) (kind : ResourceKind) : Document where
  vars := if kind = .variable then d.vars else []
  networks := if kind = .network then d.networks else []
  stores := if kind = .store then d.stores else []
  vms := if kind = .vm then d.vms else []
  clusters := if kind = .cluster then d.clusters else []

theorem declared_only (d : Document) (kind other : ResourceKind) :
    (d.only kind).declared other = if other = kind then d.declared other else [] := by
  cases kind <;> cases other <;> rfl

/-- Two documents have the same declarations of each kind that an index is about, in whatever
order. -/
structure SameDeclarations (d d' : Document) : Prop where
  networks : d.networks.Perm d'.networks
  stores : d.stores.Perm d'.stores
  vms : d.vms.Perm d'.vms
  clusters : d.clusters.Perm d'.clusters
  vars : d.vars.Perm d'.vars

theorem SameDeclarations.declared {d d' : Document} (h : d.SameDeclarations d') :
    ∀ kind, (d.declared kind).Perm (d'.declared kind)
  | .network => h.networks.map _
  | .store => h.stores.map _
  | .vm => h.vms.map _
  | .cluster => h.clusters.map _
  | .variable => h.vars.map _

end Document

/-! ### The index -/

namespace Index

/-- The set of a kind. -/
def names (i : Index) : ResourceKind → NameSet
  | .network => i.networks
  | .store => i.stores
  | .vm => i.vms
  | .cluster => i.clusters
  | .variable => i.vars

variable {i j : Index} {d d' : Document}

/-- An index is its sets. -/
theorem eq_of_names (h : ∀ kind, i.names kind = j.names kind) : i = j := by
  have hnetworks : i.networks = j.networks := h .network
  have hstores : i.stores = j.stores := h .store
  have hvms : i.vms = j.vms := h .vm
  have hclusters : i.clusters = j.clusters := h .cluster
  have hvars : i.vars = j.vars := h .variable
  cases i
  cases j
  simp_all only

theorem names_index (d : Document) (kind : ResourceKind) :
    d.index.names kind = .ofList (d.declared kind) := by
  cases kind <;> rfl

theorem exists_build_iff :
    (∃ i, build d = .ok i) ↔ ∀ kind, WellNamed (d.declared kind) := by
  simp only [build_eq, outcome_eq_ok_iff, Document.allPass_nameChecks_iff, exists_and_left,
    exists_eq', and_true]

/-- **When an index is built**: the names of each kind are non-empty and distinct, and its sets
stand for them. -/
theorem build_eq_ok_iff :
    build d = .ok i ↔
      ∀ kind, WellNamed (d.declared kind) ∧ (i.names kind).Represents (d.declared kind) := by
  rw [build_eq, outcome_eq_ok_iff, Document.allPass_nameChecks_iff, forall_and]
  refine and_congr_right fun hnamed => ?_
  have hindex : ∀ kind, (d.index.names kind).Represents (d.declared kind) := fun kind => by
    rw [names_index]
    exact NameSet.represents_ofList (hnamed kind).2
  constructor
  · rintro rfl
    exact hindex
  · exact fun h => eq_of_names fun kind => (hindex kind).eq (h kind) (.refl _)

/-- **The index of a document** is put together from those of its kinds alone, so that a name may be
declared in several kinds. -/
theorem build_eq_ok_iff_only :
    build d = .ok i ↔ ∀ kind, ∃ j, build (d.only kind) = .ok j ∧ j.names kind = i.names kind := by
  constructor
  · intro h kind
    have hkinds := build_eq_ok_iff.mp h
    obtain ⟨j, hj⟩ : ∃ j, build (d.only kind) = .ok j := exists_build_iff.mpr fun other => by
      -- no name is declared of the other kinds, so the names of this one decide
      rw [Document.declared_only]
      split
      case isTrue => exact (hkinds other).1
      case isFalse => exact ⟨nofun, List.nodup_nil⟩
    refine ⟨j, hj, (build_eq_ok_iff.mp hj kind).2.eq (hkinds kind).2 ?_⟩
    rw [Document.declared_only, if_pos rfl]
  · intro h
    refine build_eq_ok_iff.mpr fun kind => ?_
    obtain ⟨j, hj, hnames⟩ := h kind
    have hkind := build_eq_ok_iff.mp hj kind
    rwa [Document.declared_only, if_pos rfl, hnames] at hkind

/-- **The order of declarations leaves no trace** in the index. -/
theorem build_congr (h : ∀ kind, (d.declared kind).Perm (d'.declared kind)) :
    build d = .ok i ↔ build d' = .ok i := by
  rw [build_eq_ok_iff, build_eq_ok_iff]
  exact forall_congr' fun kind =>
    and_congr (wellNamed_congr (h kind)) (NameSet.represents_congr (h kind))

/-! ### What it answers -/

/-- Building the index of a document is faithful to what the document declares. -/
structure Faithful (d : Document) : Prop where
  /-- There is an index exactly when the names of each kind are non-empty and distinct. -/
  built : (∃ i, build d = .ok i) ↔ ∀ kind, WellNamed (d.declared kind)
  /-- Each of its sets has the declared names of its kind and no others. -/
  members : ∀ i, build d = .ok i → ∀ kind name, name ∈ i.names kind ↔ name ∈ d.declared kind
  /-- It has each of them once, and so has as many as there are declarations. -/
  size : ∀ i, build d = .ok i → ∀ kind,
    (i.names kind).Nodup ∧ (i.names kind).length = (d.declared kind).length
  networks : ∀ i, build d = .ok i → ∀ name,
    i.hasNetwork name = true ↔ ∃ n ∈ d.networks, n.name = name
  stores : ∀ i, build d = .ok i → ∀ name, i.hasStore name = true ↔ ∃ s ∈ d.stores, s.name = name
  vms : ∀ i, build d = .ok i → ∀ name, i.hasVm name = true ↔ ∃ v ∈ d.vms, v.name = name
  /-- Kinds do not interfere: the set of a kind is that of its declarations alone. -/
  apart : ∀ i, build d = .ok i ↔
    ∀ kind, ∃ j, build (d.only kind) = .ok j ∧ j.names kind = i.names kind
  /-- With its declarations in another order, a document has the same index or has none either. -/
  reordered : ∀ d', d.SameDeclarations d' → ∀ i, build d = .ok i ↔ build d' = .ok i

/-- **The index of a document** is there exactly when the names of each kind are non-empty and
distinct, and then it answers for the declared names of each kind and for nothing else. -/
theorem build_faithful (d : Document) : Faithful d := by
  have hmembers : ∀ i, build d = .ok i → ∀ kind name,
      name ∈ i.names kind ↔ name ∈ d.declared kind :=
    fun _ h kind _ => (build_eq_ok_iff.mp h kind).2.perm.mem_iff
  exact {
    built := exists_build_iff
    members := hmembers
    size := fun _ h kind =>
      have hset := (build_eq_ok_iff.mp h kind).2
      ⟨hset.sorted.nodup, hset.perm.length_eq⟩
    networks := fun i h name =>
      List.contains_iff_mem.trans ((hmembers i h .network name).trans List.mem_map)
    stores := fun i h name =>
      List.contains_iff_mem.trans ((hmembers i h .store name).trans List.mem_map)
    vms := fun i h name => List.contains_iff_mem.trans ((hmembers i h .vm name).trans List.mem_map)
    apart := fun _ => build_eq_ok_iff_only
    reordered := fun _ h _ => build_congr h.declared }

/-- A name of two kinds, and two networks out of their order. -/
example :
    build { networks := [⟨"wan", {}⟩, ⟨"lan", {}⟩], stores := [⟨"lan", {}⟩] } =
      .ok ⟨["lan", "wan"], ["lan"], [], [], []⟩ :=
  rfl

end Index

end VirtEnv
