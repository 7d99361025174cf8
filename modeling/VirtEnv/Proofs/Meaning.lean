import VirtEnv.Proofs.Integrity
import VirtEnv.Proofs.Literals
import VirtEnv.Proofs.Plans

/-!
# Meaning — what is shown of a document

Three parts of a load evaluate expressions without the document's tables: decoding, which evaluates
what may not refer to anything; the variables; and the plan, which shows attributes.  Whatever value
they find, the expression has that value in the tables as well (`Hcl.Expr.evaluate_of_nil`), so none
of them shows a value that the document does not mean.

* `Namespace.tables_of_build`: a namespace that is built has the tables that its document means.
* `Namespace.values_of_build`: it has the value of every default.
* `Document.meaning_of_build`: defaults, descriptions, labels, orders, and everything that a plan
  shows, in the tables of the document.
-/

namespace VirtEnv

open Hcl (Expr Item Scope Value)

/-! ### The `var` table -/

theorem names_defaults_sublist {vars : List Variable} :
    ((defaults vars).map (·.1)).Sublist (vars.map (·.name)) := by
  induction vars with
  | nil => exact .slnil
  | cons v vars ih =>
      cases hv : v.default with
      | none => simpa [defaults, hv] using ih.cons v.name
      | some e => simpa [defaults, hv] using ih.cons_cons v.name

section

variable {d : Document} {i : Index} {C : Catalog} {k : Cancellation} {n : Namespace}

/-- Whether it may be cancelled or not, a load that builds a namespace builds the tables that the
document means. -/
theorem Namespace.tables_of_build (hi : Index.build d = .ok i)
    (hn : (build d i C k).result = .ok n) : AllPass d.valueChecks ∧ n = d.tables := by
  rw [Index.build_eq, outcome_eq_ok_iff] at hi
  obtain ⟨-, rfl⟩ := hi
  rw [build, evalDocument_eq] at hn
  rcases allPass_or_firstFault d.valueChecks with hpass | ⟨f, hf⟩
  · rw [outcome_of_allPass hpass] at hn
    obtain ⟨data, hdata, hn⟩ := bind_eq_ok.mp hn
    cases hn
    refine ⟨hpass, ?_⟩
    obtain hcheck | ⟨done, b, rest, l, -, -, -, hcut | hcut⟩ :=
      @DataTables.check_eq_or_cut C 0 {} k d.data
    · rw [hcheck, DataTables.check_result_eq, outcome_eq_ok_iff] at hdata
      rw [← hdata.2]
      rfl
    · rw [hcut] at hdata
      cases hdata
    · rw [hcut] at hdata
      cases hdata
  · rw [outcome_of_firstFault hf] at hn
    cases hn

/-- A namespace that is built has the value of every default. -/
theorem Namespace.values_of_build (hi : Index.build d = .ok i)
    (hn : (build d i C k).result = .ok n) {v : Variable} (hv : v ∈ d.vars) {e : Expr}
    (he : v.default = some e) : ∃ w, n.var? v.name = some w ∧ e.evaluate [] = .ok w := by
  obtain ⟨hpass, rfl⟩ := tables_of_build hi hn
  rw [Index.build_eq, outcome_eq_ok_iff] at hi
  obtain ⟨-, hnodup⟩ := Document.allPass_nameChecks_iff.mp hi.1 .variable
  have hmem : (v.name, e) ∈ defaults d.vars :=
    List.mem_filterMap.mpr ⟨v, hv, by rw [he]; rfl⟩
  have hvalue : e.evaluate [] = .ok (e.valueIn []) :=
    evaluates_eq_none.mp (allPass_map.mp (allPass_append.mp hpass).1 _ hmem)
  refine ⟨e.valueIn [], ?_, hvalue⟩
  -- of the pairs set under one key the last counts, and names are distinct, so there is one only
  have hkeys : ((valuesIn [] (defaults d.vars)).reverse.map (·.1)).Nodup := by
    rw [List.map_reverse, List.nodup_reverse, valuesIn, List.map_map]
    exact hnodup.sublist names_defaults_sublist
  show d.varTable.lookup v.name = _
  rw [Document.varTable, Hcl.lookup_setKeys, List.lookup_nil, Option.or_none]
  exact lookup_of_nodup (p := (v.name, e.valueIn [])) hkeys
    (List.mem_reverse.mpr (List.mem_map_of_mem hmem))

end

namespace Document

/-! ### The document -/

/-- A document was decoded from a body, which may have been read from a file. -/
def DecodedFrom (body : List Item) (d : Document) : Prop :=
  ofBody body = .ok { d with sourcePath := none }

/-- A resolved VM has the names that its references mean. -/
structure Refers (scope : Scope) (v : Vm) (w : ResolvedVm) : Prop where
  network : ∃ e, v.network = some e ∧ e.evaluate scope = .ok (.string w.network)
  store : ∃ e, v.store = some e ∧ e.evaluate scope = .ok (.string w.store)

/-- What is evaluated without the tables of a document has the same value in them: any expression,
and so the defaults of variables, what decoding evaluates, and what a plan shows.  The references of
a VM, which a plan shows as they were resolved, are evaluated in the tables. -/
structure Meaning (d : Document) (C : Catalog) (k : Cancellation) (n : Namespace) : Prop where
  values : ∀ (e : Expr) v, e.evaluate [] = .ok v → e.evaluate n.scope = .ok v
  defaults : ∀ v ∈ d.vars, ∀ e, v.default = some e →
    ∃ w, n.var? v.name = some w ∧ e.evaluate n.scope = .ok w
  vars : ∀ body, DecodedFrom body d →
    List.Forall₂ (fun b v => v.Reads n.scope b.body) (blocksOf "variable" body) d.vars
  clusters : ∀ body, DecodedFrom body d →
    List.Forall₂ (fun b c => c.Reads n.scope b.body) (blocksOf "cluster" body) d.clusters
  references : ∀ r, (d.resolve C k).result = .ok r → List.Forall₂ (Refers n.scope) d.vms r.vms
  plans : ∀ r settings ps, (d.resolve C k).result = .ok r → r.plan settings = .ok ps →
    List.Forall₂ (Planned.Shows settings n.scope) r.resources ps

variable {d : Document} {i : Index} {C : Catalog} {k : Cancellation} {n : Namespace}

/-- The references of a document that is resolved mean what they were resolved to. -/
theorem refers_of_resolve (hi : Index.build d = .ok i)
    (hn : (Namespace.build d i C k).result = .ok n) {r : Resolved}
    (hr : (d.resolve C k).result = .ok r) : List.Forall₂ (Refers n.scope) d.vms r.vms := by
  obtain ⟨hindex, htables⟩ := build_eq_ok hr
  obtain rfl : i = d.index := Except.ok.inj (hi.symm.trans hindex)
  obtain rfl : n = d.tables := Except.ok.inj (hn.symm.trans htables)
  obtain ⟨-, hknown, hpass, rfl, -⟩ := passed_of_eq_ok hr
  have hvms : ∀ v ∈ d.vms, AllPass (d.vmChecks v) :=
    fun v hv => allPass_flatMap.mp (allPass_append.mp hpass).1 v hv
  refine List.forall₂_map_right_iff.mpr (List.forall₂_same.mpr fun v hv => ?_)
  have hbound := vmBound_of_allPass hknown (hvms v hv)
  exact ⟨hbound.network, hbound.store⟩

/-- **What is shown of a document is what it means**: whatever is evaluated without the namespace
that is built has the same value in it. -/
theorem meaning_of_build (hi : Index.build d = .ok i)
    (hn : (Namespace.build d i C k).result = .ok n) : d.Meaning C k n where
  values := fun _ _ h => Expr.evaluate_of_nil h
  defaults := fun _ hv _ he => by
    obtain ⟨w, hw, hvalue⟩ := Namespace.values_of_build hi hn hv he
    exact ⟨w, hw, Expr.evaluate_of_nil hvalue⟩
  vars := fun _ hbody =>
    (gathers_of_ofBody hbody).vars.imp fun _ _ h => (Variable.reads_of_ofBlock h).mono n.scope
  clusters := fun _ hbody =>
    (gathers_of_ofBody hbody).clusters.imp fun _ _ h => (Cluster.reads_of_ofBlock h).mono n.scope
  references := fun _ hr => refers_of_resolve hi hn hr
  plans := fun _ _ _ _ hps => (Resolved.forall₂_of_plan hps).imp fun _ _ h =>
    Planned.shows_of_make h

/-- The body of a document with a VM on a declared network and a store of the catalog, and with a
cluster that has a label. -/
def shopBody : List Item :=
  [.block ⟨"variable", [.text "bridge"],
      [.attribute "description" (.string "uplink"), .attribute "default" (.string "br0")]⟩,
    .block ⟨"network", [.text "lan"],
      [.attribute "mtu" (.number (.ofNat 1500)),
        .attribute "bridge" (.traversal (.variable "var") [.member "bridge"])]⟩,
    .block ⟨"vm", [.text "web1"],
      [.attribute "network" (.traversal (.variable "network") [.member "lan"]),
        .attribute "store" (.traversal (.variable "data") [.member "store", .member "images"]),
        .attribute "machine" (.string "q35")]⟩,
    .block ⟨"cluster", [.text "web"],
      [.attribute "vms" (.array [.string "web1"]),
        .attribute "labels" (.object [(.name "tier", .string "front")]),
        .block ⟨"lifecycle", [], [.attribute "start_order" (.array [.string "web1"])]⟩]⟩,
    .block ⟨"data", [.text "store", .text "images"], []⟩]

/-- The document that the body is. -/
def shop : Document where
  vars := [{ name := "bridge", description := some "uplink", default := some (.string "br0") }]
  networks := [{ name := "lan"
                 attributes := { values := [("mtu", .number (.ofNat 1500)),
                   ("bridge", .traversal (.variable "var") [.member "bridge"])] } }]
  vms := [{ name := "web1"
            network := some (.traversal (.variable "network") [.member "lan"])
            store := some (.traversal (.variable "data") [.member "store", .member "images"])
            attributes := { values := [("machine", .string "q35")] } }]
  clusters := [{ name := "web"
                 members := some (.array [.string "web1"])
                 labels := [("tier", "front")]
                 lifecycle := some { startOrder := ["web1"] } }]
  data := [⟨"store", "images"⟩]

/-- The shop is resolved, and its network shows one attribute as a value and one as computed. -/
theorem meaning_of_build_shop :
    DecodedFrom shopBody shop ∧ Index.build shop = .ok shop.index ∧
      (Namespace.build shop shop.index (.steady fun _ _ => .ok (some 7)) .never).result =
        .ok shop.tables ∧
      (shop.resolve (.steady fun _ _ => .ok (some 7)) .never).result = .ok shop.resolved ∧
      shop.networks.mapM (fun n => Planned.describe .network n.name n.attributes) =
        .ok [⟨.network, "lan", [("bridge", "(computed)"), ("mtu", "1500")]⟩] ∧
      shop.Meaning (.steady fun _ _ => .ok (some 7)) .never shop.tables :=
  ⟨rfl, rfl, rfl, rfl, rfl, meaning_of_build rfl rfl⟩

end Document

end VirtEnv
