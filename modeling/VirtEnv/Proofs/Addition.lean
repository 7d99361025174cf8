import VirtEnv.Proofs.Integrity
import VirtEnv.Proofs.Gate
import VirtEnv.Proofs.Reading

/-!
# Addition — an unrelated declaration changes nothing

A network, a store or a `data` block is added to a document that loads.  An expression that goes
through a whole table sees the new entry, and may come to another value.  One that reads each table
by name does not: it has a value, so it reads entries that are there, and these stay.

* `Document.Grows.keeps`: a document that declares more keeps the entries of all tables.
* `Document.Grows.allPass_referenceChecks`, `Document.Grows.resolved_eq`: references that read the
  tables by name still pass, and are bound to the same names.
* `Document.resolve_adding`: a document whose references read the tables by name still loads when a
  declaration is added to it anywhere, and to the same VMs and clusters.
-/

namespace VirtEnv

open Hcl (Depth Expr Scope Value)

/-! ### Reading by name -/

/-- How deep the entries of a table lie: `network.x`, `store.x`, but `data.network.x`. -/
def entryDepth : Depth := fun table =>
  if table = "data" then 2 else if table = "network" ∨ table = "store" then 1 else 0

/-- A part of a declaration reads the tables of networks, stores and `data` blocks by the names of
their entries only. -/
def partReadsByName (e : Option Expr) : Bool := e.all (·.readsBelow entryDepth)

namespace Document

/-- The references of VMs and the members of clusters read these tables by name. -/
def readsByName (d : Document) : Bool :=
  (d.vms.all fun v => partReadsByName v.network && partReadsByName v.store) &&
    d.clusters.all fun c => partReadsByName c.members

variable {d d' : Document}

theorem readsByName_vm (h : d.readsByName = true) {v : Vm} (hv : v ∈ d.vms) :
    partReadsByName v.network = true ∧ partReadsByName v.store = true := by
  rw [readsByName, Bool.and_eq_true, List.all_eq_true] at h
  exact Bool.and_eq_true_iff.mp (h.1 v hv)

theorem readsByName_cluster (h : d.readsByName = true) {c : Cluster} (hc : c ∈ d.clusters) :
    partReadsByName c.members = true := by
  rw [readsByName, Bool.and_eq_true, List.all_eq_true, List.all_eq_true] at h
  exact h.2 c hc

/-! ### Documents that grow -/

/-- The second document is the first with more declarations, of networks and stores, or more `data`
blocks. -/
structure Grows (d d' : Document) : Prop where
  sourcePath : d'.sourcePath = d.sourcePath
  vars : d'.vars = d.vars
  locals : d'.locals = d.locals
  vms : d'.vms = d.vms
  clusters : d'.clusters = d.clusters
  networks : d.networks ⊆ d'.networks
  stores : d.stores ⊆ d'.stores
  data : d.data ⊆ d'.data

namespace Grows

variable (h : d.Grows d')
include h

theorem declared (kind : ResourceKind) : d.declared kind ⊆ d'.declared kind := by
  cases kind with
  | network => exact List.map_subset _ h.networks
  | store => exact List.map_subset _ h.stores
  | vm => exact List.map_subset _ (h.vms ▸ List.Subset.refl _)
  | cluster => exact List.map_subset _ (h.clusters ▸ List.Subset.refl _)
  | «variable» => exact List.map_subset _ (h.vars ▸ List.Subset.refl _)

theorem blockNames (kind : DataKind) :
    (d.data.filter (·.kind? = some kind)).map (·.name) ⊆
      (d'.data.filter (·.kind? = some kind)).map (·.name) :=
  List.map_subset _ (List.filter_subset _ h.data)

theorem offers (kind : DataKind) : d.offers kind ⊆ d'.offers kind :=
  List.append_subset.mpr ⟨List.subset_append_of_subset_left _ (h.declared _),
    List.subset_append_of_subset_right _ (h.blockNames kind)⟩

theorem varTable_eq : d'.varTable = d.varTable := by
  rw [varTable, varTable, h.vars]

theorem localTable_eq : d'.localTable = d.localTable := by
  rw [localTable, localTable, h.varTable_eq, definitions, definitions, h.locals]

theorem valueChecks_eq : d'.valueChecks = d.valueChecks := by
  rw [valueChecks, valueChecks, h.varTable_eq, definitions, definitions, h.locals, h.vars]

/-- **A document that grows keeps the entries of its tables.** -/
theorem keeps : Scope.Keeps entryDepth d.scope d'.scope := by
  have hdeclared : ∀ kind, NameSet.ofList (d.declared kind) ⊆ NameSet.ofList (d'.declared kind) :=
    fun kind _ hm => NameSet.mem_ofList.mpr (h.declared kind (NameSet.mem_ofList.mp hm))
  have hblocks : ∀ kind, (DataTables.ofBlocks d.data).names kind ⊆
      (DataTables.ofBlocks d'.data).names kind := fun kind m hm => by
    rw [DataTables.names_ofBlocks, NameSet.mem_ofList] at hm ⊢
    exact h.blockNames kind hm
  have hdata : Value.Keeps 2 (DataTables.ofBlocks d.data).toValue
      (DataTables.ofBlocks d'.data).toValue :=
    .object (.cons (.ofNames (hblocks .network)) (.cons (.ofNames (hblocks .store)) .nil))
  have hvar : Value.Keeps 0 (.object d.varTable) (.object d'.varTable) := by
    rw [h.varTable_eq]; exact .refl
  have hlocal : Value.Keeps 0 (.object d.localTable) (.object d'.localTable) := by
    rw [h.localTable_eq]; exact .refl
  exact .cons hvar (.cons hlocal (.cons (.ofNames (hdeclared .network))
    (.cons (.ofNames (hdeclared .store)) (.cons hdata .nil))))

/-! ### References of a document that grows -/

/-- A reference that reads by name and passes, still passes, with the same value. -/
theorem allPass_resourceChecks {kind : DataKind} {owner : Owner} {field : Field}
    {e : Option Expr} (he : partReadsByName e = true)
    (hpass : AllPass (d.resourceChecks kind owner field e)) :
    AllPass (d'.resourceChecks kind owner field e) ∧ partIn d'.scope e = partIn d.scope e := by
  obtain ⟨⟨e, rfl, hv⟩, hoffers⟩ := allPass_resourceChecks_iff.mp hpass
  -- the expression comes to the same name, and a name that was offered still is
  have hv' : e.evaluate d'.scope = .ok (.string (partIn d.scope (some e)).textOfString) :=
    Hcl.Expr.evaluate_of_keeps h.keeps he hv
  have hpart : partIn d'.scope (some e) = partIn d.scope (some e) :=
    (partIn_of_evaluate hv').trans (partIn_of_evaluate hv).symm
  refine ⟨allPass_resourceChecks_iff.mpr ⟨⟨e, rfl, ?_⟩, ?_⟩, hpart⟩
  · rw [hpart]; exact hv'
  · rw [hpart]; exact h.offers kind hoffers

theorem allPass_vmChecks {v : Vm}
    (hread : partReadsByName v.network = true ∧ partReadsByName v.store = true)
    (hpass : AllPass (d.vmChecks v)) :
    AllPass (d'.vmChecks v) ∧ d'.resolvedVm v = d.resolvedVm v := by
  obtain ⟨hn, hs⟩ := allPass_append.mp hpass
  obtain ⟨hn', hnetwork'⟩ := h.allPass_resourceChecks hread.1 hn
  obtain ⟨hs', hstore'⟩ := h.allPass_resourceChecks hread.2 hs
  exact ⟨allPass_append.mpr ⟨hn', hs'⟩, by rw [resolvedVm, resolvedVm, hnetwork', hstore']⟩

theorem allPass_clusterChecks {c : Cluster} (hread : partReadsByName c.members = true)
    (hpass : AllPass (d.clusterChecks c)) :
    AllPass (d'.clusterChecks c) ∧ d'.resolvedCluster c = d.resolvedCluster c := by
  obtain ⟨⟨e, he, hv⟩, hdeclared, horders⟩ := allPass_clusterChecks_iff.mp hpass
  have hv' : e.evaluate d'.scope = .ok (.array ((d.memberNames c).map .string)) :=
    Hcl.Expr.evaluate_of_keeps h.keeps (by rwa [he] at hread) hv
  have hnames : d'.memberNames c = d.memberNames c := by
    rw [memberNames, memberNames, membersOf, membersOf, he, partIn_of_evaluate hv',
      partIn_of_evaluate hv]
  refine ⟨allPass_clusterChecks_iff.mpr ?_, by rw [resolvedCluster, resolvedCluster, hnames]⟩
  rw [hnames]
  exact ⟨⟨e, he, hv'⟩, fun name hname => h.declared .vm (hdeclared name hname), horders⟩

/-- References that read by name still pass. -/
theorem allPass_referenceChecks (hread : d.readsByName = true) (hpass : AllPass d.referenceChecks) :
    AllPass d'.referenceChecks := by
  obtain ⟨hvms, hclusters⟩ := allPass_append.mp hpass
  rw [allPass_flatMap] at hvms hclusters
  refine allPass_append.mpr ⟨allPass_flatMap.mpr ?_, allPass_flatMap.mpr ?_⟩
  · rw [h.vms]
    exact fun v hv => (h.allPass_vmChecks (readsByName_vm hread hv) (hvms v hv)).1
  · rw [h.clusters]
    exact fun c hc => (h.allPass_clusterChecks (readsByName_cluster hread hc) (hclusters c hc)).1

/-- References that read by name are bound to the same names. -/
theorem resolved_eq (hread : d.readsByName = true) (hpass : AllPass d.referenceChecks) :
    d'.resolved = { d.resolved with networks := d'.networks, stores := d'.stores } := by
  obtain ⟨hvms, hclusters⟩ := allPass_append.mp hpass
  rw [allPass_flatMap] at hvms hclusters
  have hvms' : d'.vms.map d'.resolvedVm = d.vms.map d.resolvedVm := by
    rw [h.vms]
    exact List.map_congr_left fun v hv =>
      (h.allPass_vmChecks (readsByName_vm hread hv) (hvms v hv)).2
  have hclusters' : d'.clusters.map d'.resolvedCluster = d.clusters.map d.resolvedCluster := by
    rw [h.clusters]
    exact List.map_congr_left fun c hc =>
      (h.allPass_clusterChecks (readsByName_cluster hread hc) (hclusters c hc)).2
  simp only [resolved, h.sourcePath, hvms', hclusters']

end Grows

end Document

/-! ### Adding a declaration -/

/-- A list with an element at a position, or at its end if it is shorter. -/
def placed {α : Type} (i : Nat) (x : α) (xs : List α) : List α := xs.take i ++ x :: xs.drop i

theorem placed_perm {α : Type} {i : Nat} {x : α} {xs : List α} :
    (placed i x xs).Perm (x :: xs) := by
  have h : (placed i x xs).Perm (x :: (xs.take i ++ xs.drop i)) := List.perm_middle
  rwa [List.take_append_drop] at h

theorem subset_placed {α : Type} {i : Nat} {x : α} {xs : List α} : xs ⊆ placed i x xs :=
  fun _ hy => placed_perm.mem_iff.mpr (List.mem_cons_of_mem _ hy)

/-- A name that is new may stand anywhere among names. -/
theorem WellNamed.placed {α : Type} {name : α → String} {i : Nat} {x : α} {xs : List α}
    (h : WellNamed (xs.map name)) (hne : name x ≠ "") (hnew : name x ∉ xs.map name) :
    WellNamed ((placed i x xs).map name) := by
  have hperm : ((VirtEnv.placed i x xs).map name).Perm (name x :: xs.map name) :=
    placed_perm.map name
  exact (wellNamed_congr hperm).mpr
    ⟨List.forall_mem_cons.mpr ⟨hne, h.1⟩, List.nodup_cons.mpr ⟨hnew, h.2⟩⟩

/-- A declaration that may be added to a document. -/
inductive Addition where
  | network (n : Network)
  | store (s : Store)
  | data (b : DataBlock)

/-- A document with another declaration, at a position among those of its type. -/
def Document.adding (d : Document) (i : Nat) : Addition → Document
  | .network n => { d with networks := placed i n d.networks }
  | .store s => { d with stores := placed i s d.stores }
  | .data b => { d with data := placed i b d.data }

/-- A resolved document with another declaration.  Of `data` blocks it shows nothing. -/
def Resolved.adding (r : Resolved) (i : Nat) : Addition → Resolved
  | .network n => { r with networks := placed i n r.networks }
  | .store s => { r with stores := placed i s r.stores }
  | .data _ => r

namespace Catalog

/-- What the catalog finds at a lookup, it finds at the next one, perhaps under another number. -/
def Remembers (C : Catalog) : Prop :=
  ∀ n kind name id, C.answer n kind name = .ok (some id) →
    ∃ id', C.answer (n + 1) kind name = .ok (some id')

variable {C : Catalog}

theorem remembers_steady {f : DataKind → String → CatalogAnswer} : (steady f).Remembers :=
  fun _ _ _ id h => ⟨id, h⟩

theorem Remembers.knowsAll_succ {n : Nat} {bs : List DataBlock} (h : C.Remembers)
    (hbs : C.KnowsAll n bs) : C.KnowsAll (n + 1) bs := by
  intro i b hi
  obtain ⟨kind, id, hkind, hid⟩ := hbs i b hi
  obtain ⟨id', hid'⟩ := h _ _ _ _ hid
  exact ⟨kind, id', hkind, by rwa [Nat.add_right_comm]⟩

/-- Blocks are still known with one more among them that is known in its place. -/
theorem Remembers.knowsAll_placed {i : Nat} {b : DataBlock} {bs : List DataBlock}
    (h : C.Remembers) (hb : C.Knows (min i bs.length) b) (hbs : C.KnowsAll 0 bs) :
    C.KnowsAll 0 (placed i b bs) := by
  have hsplit : C.KnowsAll 0 (bs.take i ++ bs.drop i) := by rwa [List.take_append_drop]
  obtain ⟨hbefore, hafter⟩ := knowsAll_append.mp hsplit
  refine knowsAll_append.mpr ⟨hbefore, knowsAll_cons.mpr ⟨?_, h.knowsAll_succ hafter⟩⟩
  rwa [Nat.zero_add, List.length_take]

end Catalog

/-- A declaration may be added to a document: a network or store of a name that is new to its kind,
or a block that the catalog knows in its place.  The blocks after it are looked up one lookup later,
so the catalog must not have forgotten them by then. -/
def Addition.Fits (d : Document) (C : Catalog) (i : Nat) : Addition → Prop
  | .network n => n.name ≠ "" ∧ n.name ∉ d.declared .network
  | .store s => s.name ≠ "" ∧ s.name ∉ d.declared .store
  | .data b => C.Remembers ∧ C.Knows (min i d.data.length) b

namespace Document

variable {d : Document} {C : Catalog} {k : Cancellation} {r : Resolved} {i : Nat} {a : Addition}

theorem grows_adding : d.Grows (d.adding i a) := by
  cases a with
  | network n => exact ⟨rfl, rfl, rfl, rfl, rfl, subset_placed, fun _ h => h, fun _ h => h⟩
  | store s => exact ⟨rfl, rfl, rfl, rfl, rfl, fun _ h => h, subset_placed, fun _ h => h⟩
  | data b => exact ⟨rfl, rfl, rfl, rfl, rfl, fun _ h => h, fun _ h => h, subset_placed⟩

theorem wellNamed_adding (hfits : a.Fits d C i) (h : ∀ kind, WellNamed (d.declared kind)) :
    ∀ kind, WellNamed ((d.adding i a).declared kind) := by
  intro kind
  have hkind := h kind
  -- an addition touches the names of its own kind; those of the others are the same by definition
  cases a with
  | network n =>
      cases kind with
      | network => exact hkind.placed hfits.1 hfits.2
      | _ => exact hkind
  | store s =>
      cases kind with
      | store => exact hkind.placed hfits.1 hfits.2
      | _ => exact hkind
  | data b => cases kind <;> exact hkind

theorem knowsAll_adding (hfits : a.Fits d C i) (h : C.KnowsAll 0 d.data) :
    C.KnowsAll 0 (d.adding i a).data := by
  cases a with
  | network _ | store _ => exact h
  | data b => exact hfits.1.knowsAll_placed hfits.2 h

theorem allPass_earlyChecks_adding (hfits : a.Fits d C i) (h : AllPass d.earlyChecks) :
    AllPass (d.adding i a).earlyChecks := by
  obtain ⟨hnames, hvalues⟩ := allPass_append.mp h
  refine allPass_append.mpr ⟨?_, by rwa [grows_adding.valueChecks_eq]⟩
  rw [allPass_nameChecks_iff] at hnames ⊢
  exact wellNamed_adding hfits hnames

/-- **An unrelated declaration changes nothing.**  A document whose references read the tables by
name, and that loads, still loads with another network, store or `data` block anywhere, and to the
same resolved document with this declaration. -/
theorem resolve_adding (hr : (d.resolve C k).result = .ok r) (hread : d.readsByName = true)
    (hfits : a.Fits d C i) : ((d.adding i a).resolve C .never).result = .ok (r.adding i a) := by
  obtain ⟨hearly, hknown, href, rfl, -⟩ := passed_of_eq_ok hr
  refine result_eq_ok_iff.mpr ⟨allPass_earlyChecks_adding hfits hearly,
    knowsAll_adding hfits hknown, grows_adding.allPass_referenceChecks hread href, ?_⟩
  rw [grows_adding.resolved_eq hread href]
  cases a <;> rfl

/-- A document whose cluster goes through a list of its own, and calls each item `network`. -/
def shadowing : Document where
  networks := [{ name := "default", attributes := {} }]
  vms := [{ name := "web1"
            network := some (.traversal (.variable "network") [.member "default"])
            store := some (.traversal (.variable "data") [.member "store", .member "images"]) }]
  clusters := [{ name := "web"
                 members := some (.forList ⟨none, "network"⟩ (.array [.string "web1"])
                   (.variable "network") none) }]
  data := [⟨"store", "images"⟩]

/-- The document still loads with a `data` block before its own. -/
theorem resolve_adding_shadowing :
    (shadowing.resolve (.steady fun _ _ => .ok (some 7)) .never).result = .ok shadowing.resolved ∧
      shadowing.readsByName = true ∧
      Addition.Fits shadowing (.steady fun _ _ => .ok (some 7)) 0 (.data ⟨"network", "uplink"⟩) ∧
      ((shadowing.adding 0 (.data ⟨"network", "uplink"⟩)).resolve
          (.steady fun _ _ => .ok (some 7)) .never).result =
        .ok (shadowing.resolved.adding 0 (.data ⟨"network", "uplink"⟩)) := by
  have hr : (shadowing.resolve (.steady fun _ _ => .ok (some 7)) .never).result =
      .ok shadowing.resolved := rfl
  have hfits : Addition.Fits shadowing (.steady fun _ _ => .ok (some 7)) 0
      (.data ⟨"network", "uplink"⟩) := ⟨Catalog.remembers_steady, .network, 7, rfl, rfl⟩
  exact ⟨hr, rfl, hfits, resolve_adding hr rfl hfits⟩

end Document

end VirtEnv
