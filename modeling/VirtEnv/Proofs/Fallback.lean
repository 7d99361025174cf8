import VirtEnv.Proofs.Backend
import VirtEnv.Proofs.Keys
import VirtEnv.Proofs.Meaning

/-!
# Fallback — the plan entry of a VM

The entry of a VM is filled in three steps: its attributes are rendered, its references are set, and
the settings fill in what is not there yet.  The references do not overwrite an attribute, since
decoding takes `network` and `store` out of the attributes (`Vm.FromBody`).  The settings do not
either, but they look at attributes only: a nested block of a VM is not in its entry, and does not
keep a fallback away.

* `Planned.describeVm_eq`: the settings come into an entry after its attributes are rendered, so
  they do not decide whether there is one.
* `Planned.entry_of_describeVm`: the keys of an entry, and what stands under each.
* `Document.fallbacks_yield`: an attribute of a VM stands in its entry whatever the settings are,
  and a fallback for which there is no attribute is that of the settings.
* `Document.entry_of_vm`: a VM has an entry unless rendering an attribute ends the program, and the
  entry is exactly this.
-/

namespace VirtEnv

open Hcl (Abort Block Expr Item Scope Value)

/-! ### The attributes of a decoded VM -/

/-- The keys of the attributes of a body. -/
def attributeKeys (body : List Item) : List String := (entriesOf body).map (·.1)

namespace Attributes

/-- The keys of the attributes. -/
def keys (a : Attributes) : List String := a.values.map (·.1)

/-- Where keys are distinct, the attribute of a key is the one with the key. -/
theorem value?_of_mem {a : Attributes} (h : a.keys.Nodup) {key : String} {e : Expr}
    (he : (key, e) ∈ a.values) : a.value? key = some e := by
  have hkeys : (a.values.reverse.map (·.1)).Nodup := by
    rw [List.map_reverse, List.nodup_reverse]
    exact h
  exact lookup_of_nodup (p := (key, e)) hkeys (List.mem_reverse.mpr he)

theorem value?_eq_none_iff {a : Attributes} {key : String} :
    a.value? key = none ↔ key ∉ a.keys := by
  have hkeys : key ∈ a.keys ↔ (a.value? key).isSome = true := by
    rw [keys, ← List.mem_reverse, ← List.map_reverse]
    exact Table.has_iff.symm
  rw [hkeys, Option.not_isSome_iff_eq_none]

end Attributes

/-- What a VM has of the body of its block: the attributes without the references, each key once,
and the nested blocks. -/
structure Vm.FromBody (body : List Item) (a : Attributes) : Prop where
  once : a.keys.Nodup
  keys : ∀ key, key ∈ a.keys ↔ key ∈ attributeKeys body ∧ key ≠ "network" ∧ key ≠ "store"
  blocks : a.blocks = nestedIn body

theorem mem_attributeKeys_backendOf {body : List Item} {key : String} :
    key ∈ attributeKeys (backendOf body) ↔
      key ∈ attributeKeys body ∧ key ≠ "network" ∧ key ≠ "store" := by
  constructor
  · intro h
    obtain ⟨p, hp, rfl⟩ := List.mem_map.mp h
    have hsub : (entriesOf (backendOf body)).Sublist (entriesOf body) :=
      List.filter_sublist.filterMap _
    exact ⟨List.mem_map_of_mem (hsub.subset hp), Vm.keys_backendOf hp⟩
  · rintro ⟨h, hnetwork, hstore⟩
    obtain ⟨p, hp, rfl⟩ := List.mem_map.mp h
    obtain ⟨x, hx, hxp⟩ := List.mem_filterMap.mp hp
    cases x with
    | block b => cases hxp
    | «attribute» key e =>
        cases hxp
        have hbackend : (Item.attribute key e).isReference = false := by
          simp [Item.isReference, hnetwork, hstore]
        have hmem : Item.attribute key e ∈ backendOf body :=
          List.mem_filter.mpr ⟨hx, by simp [hbackend]⟩
        exact List.mem_map_of_mem (List.mem_filterMap.mpr ⟨_, hmem, rfl⟩)

theorem nestedIn_backendOf (body : List Item) : nestedIn (backendOf body) = nestedIn body := by
  induction body with
  | nil => rfl
  | cons x body ih =>
      cases x with
      | block b =>
          have hrest : nestedIn (backendOf (.block b :: body)) = b :: nestedIn (backendOf body) :=
            rfl
          rw [hrest, ih]
          rfl
      | «attribute» k e =>
          have hskip : nestedIn (.attribute k e :: body) = nestedIn body := rfl
          rw [hskip, ← ih, backendOf, List.filter_cons]
          split <;> rfl

/-- A VM that is decoded has the attributes and blocks of its body. -/
theorem Vm.fromBody_of_ofBlock {b : Block} {v : Vm} (h : Vm.ofBlock b = .ok v) :
    FromBody b.body v.attributes := by
  obtain ⟨name, -, h⟩ := bind_eq_ok.mp h
  cases h
  rw [(foldl_add b.body { name }).2, Attributes.foldl_add]
  refine ⟨Hcl.nodup_keys_setKeys List.nodup_nil, fun key => ?_, ?_⟩
  · rw [← mem_attributeKeys_backendOf]
    exact Hcl.mem_keys_setKeys.trans (or_iff_left List.not_mem_nil)
  · exact (List.nil_append _).trans (nestedIn_backendOf b.body)

/-- So has every VM of a document that is decoded and resolved. -/
theorem Document.fromBody_of_resolve {body : List Item} {d : Document} {C : Catalog}
    {k : Cancellation} {r : Resolved} (hbody : ofBody body = .ok d)
    (hr : (d.resolve C k).result = .ok r) :
    List.Forall₂ (fun b (v : ResolvedVm) => Vm.FromBody b.body v.attributes) (blocksOf "vm" body)
      r.vms := by
  obtain ⟨-, rfl, -⟩ := resolve_eq_ok hr
  exact List.forall₂_map_right_iff.mpr
    ((gathers_of_ofBody hbody).vms.imp fun _ _ h => Vm.fromBody_of_ofBlock h)

/-! ### Entries -/

/-- What the settings fill in of a VM that leaves it out. -/
def Settings.fallbacks (s : Settings) : List (String × String) :=
  [("cpu", Numeric.digitText s.vm.cpu), ("memory", s.vm.memory), ("disk", s.vm.disk),
    ("namespace", s.vm.space)]

/-- The keys that the settings fill in. -/
def fallbackKeys : List String := ["cpu", "memory", "disk", "namespace"]

/-- The keys of an entry of a VM, whatever attributes it has. -/
def fixedKeys : List String := ["network", "store"] ++ fallbackKeys ++ ["machine"]

namespace Planned

/-- The entry of a VM: its references, its attributes as they are rendered, the fallbacks of the
settings for what is not among these, and the machine type.  An alias of a machine type is expanded
once. -/
structure VmEntry (settings : Settings) (v : ResolvedVm) (p : Planned) : Prop where
  kind : p.kind = .vm
  name : p.name = v.name
  sorted : p.properties.Sorted
  keys : ∀ key, key ∈ p.properties.names ↔ key ∈ v.attributes.keys ∨ key ∈ fixedKeys
  network : p.properties.lookup "network" = some v.network
  store : p.properties.lookup "store" = some v.store
  attributes : ∀ key e, (key, e) ∈ v.attributes.values → key ≠ "machine" →
    ∃ text, Rendered [] e text ∧ p.properties.lookup key = some text
  fallbacks : ∀ key text, (key, text) ∈ settings.fallbacks → key ∉ v.attributes.keys →
    p.properties.lookup key = some text
  machine : ∃ text, ((∃ e, ("machine", e) ∈ v.attributes.values ∧ Rendered [] e text) ∨
      "machine" ∉ v.attributes.keys ∧ text = settings.domain.machine) ∧
    p.properties.lookup "machine" = some ((settings.machineAliases.lookup text).getD text)

/-- The steps of an entry after its attributes are rendered. -/
def fill (settings : Settings) (v : ResolvedVm) (planned : Planned) : Planned :=
  let t := (planned.properties.insert "network" v.network).insert "store" v.store
  let t := settings.fallbacks.foldl (fun t p => withDefault t p.1 p.2) t
  let machine := (t.lookup "machine").getD settings.domain.machine
  { planned with properties := t.insert "machine" (settings.machineType machine) }

/-- **The settings come into an entry after its attributes are rendered.** -/
theorem describeVm_eq (settings : Settings) (v : ResolvedVm) :
    describeVm settings v = (describe .vm v.name v.attributes).map (fill settings v) := by
  rw [describeVm]
  cases describe .vm v.name v.attributes <;> rfl

theorem sorted_withDefault {t : Table String} {key value : String} (h : t.Sorted) :
    (withDefault t key value).Sorted := by
  unfold withDefault
  split
  · exact h
  · exact h.insert

theorem sorted_ofValues {done t : Table String} {values : List (String × Expr)} (h : done.Sorted)
    (ht : ofValues done values = .ok t) : t.Sorted := by
  induction values generalizing done with
  | nil => cases ht; exact h
  | cons p values ih =>
      obtain ⟨text, -, ht⟩ := bind_eq_ok.mp ht
      exact ih h.insert ht

theorem sorted_fill {settings : Settings} {v : ResolvedVm} {planned : Planned}
    (h : planned.properties.Sorted) : (fill settings v planned).properties.Sorted := by
  have hfold : ∀ (pairs : List (String × String)) {t : Table String}, t.Sorted →
      (pairs.foldl (fun t p => withDefault t p.1 p.2) t).Sorted := by
    intro pairs
    induction pairs with
    | nil => exact id
    | cons p pairs ih => exact fun ht => ih (sorted_withDefault ht)
  exact (hfold _ h.insert.insert).insert

/-- The properties of an entry, with attributes whose keys are distinct and no references. -/
theorem lookup_of_describeVm {settings : Settings} {v : ResolvedVm} {p : Planned}
    {body : List Item} (hv : Vm.FromBody body v.attributes) (h : describeVm settings v = .ok p) :
    (∀ key e, (key, e) ∈ v.attributes.values → ∃ text, Rendered [] e text ∧
      p.properties.lookup key = some ((ResourceDecl.vm v).expand settings key text)) ∧
    ∀ key, key ∉ v.attributes.keys →
      p.properties.lookup key = (ResourceDecl.vm v).given? settings key := by
  have hshows : Shows settings [] (.vm v) p := shows_of_describeVm h
  obtain ⟨-, -, hattributes, hothers⟩ := hshows
  constructor
  · intro key e he
    have hapart := ((hv.keys key).mp (List.mem_map_of_mem he)).2
    refine hattributes key e ?_
    rw [ResourceDecl.attribute?, if_neg (not_or.mpr hapart)]
    exact Attributes.value?_of_mem hv.once he
  · intro key hkey
    refine hothers key ?_
    rw [ResourceDecl.attribute?, Attributes.value?_eq_none_iff.mpr hkey, ite_self]

/-- A key is given for a VM without an attribute if it is a fixed one. -/
theorem isSome_given?_iff {settings : Settings} {v : ResolvedVm} {key : String} :
    ((ResourceDecl.vm v).given? settings key).isSome = true ↔ key ∈ fixedKeys := by
  rw [ResourceDecl.given?, ← Table.has, Table.has_iff]
  rfl

theorem given?_of_mem_fallbacks {settings : Settings} {v : ResolvedVm} {key text : String}
    (h : (key, text) ∈ settings.fallbacks) :
    (ResourceDecl.vm v).given? settings key = some text := by
  simp only [Settings.fallbacks, List.mem_cons, Prod.mk.injEq, List.not_mem_nil, or_false] at h
  obtain ⟨rfl, rfl⟩ | ⟨rfl, rfl⟩ | ⟨rfl, rfl⟩ | ⟨rfl, rfl⟩ := h <;> rfl

theorem sorted_of_describeVm {settings : Settings} {v : ResolvedVm} {p : Planned}
    (h : describeVm settings v = .ok p) : p.properties.Sorted := by
  rw [describeVm_eq] at h
  cases hbase : describe .vm v.name v.attributes with
  | error a => rw [hbase] at h; cases h
  | ok base =>
      rw [hbase] at h
      cases h
      obtain ⟨t, ht, hbase⟩ := bind_eq_ok.mp hbase
      cases hbase
      have hnil : Table.Sorted ([] : Table String) := List.Pairwise.nil
      exact sorted_fill (sorted_ofValues hnil ht)

/-- **What stands in the entry of a VM.** -/
theorem entry_of_describeVm {settings : Settings} {v : ResolvedVm} {p : Planned}
    {body : List Item} (hv : Vm.FromBody body v.attributes) (h : describeVm settings v = .ok p) :
    VmEntry settings v p := by
  obtain ⟨hattributes, hothers⟩ := lookup_of_describeVm hv h
  have hshows : Shows settings [] (.vm v) p := shows_of_describeVm h
  obtain ⟨hkind, hname, -, -⟩ := hshows
  have happart : ∀ key, key = "network" ∨ key = "store" → key ∉ v.attributes.keys :=
    fun key hkey hmem => not_or.mpr ((hv.keys key).mp hmem).2 hkey
  exact {
    kind := hkind
    name := hname
    sorted := sorted_of_describeVm h
    keys := by
      intro key
      rw [Table.names, ← Table.has_iff, Table.has]
      by_cases hkey : key ∈ v.attributes.keys
      · obtain ⟨⟨_, e⟩, he, rfl⟩ := List.mem_map.mp hkey
        obtain ⟨text, -, hp⟩ := hattributes _ e he
        exact iff_of_true (by rw [hp]; rfl) (.inl hkey)
      · rw [hothers key hkey, isSome_given?_iff, or_iff_right hkey]
    network := hothers "network" (happart _ (.inl rfl))
    store := hothers "store" (happart _ (.inr rfl))
    attributes := by
      intro key e he hne
      obtain ⟨text, htext, hp⟩ := hattributes key e he
      exact ⟨text, htext, by rw [hp, ResourceDecl.expand, if_neg hne]⟩
    fallbacks := fun key text hmem hkey =>
      (hothers key hkey).trans (given?_of_mem_fallbacks hmem)
    machine := by
      by_cases hkey : "machine" ∈ v.attributes.keys
      · obtain ⟨⟨_, e⟩, he, hmachine⟩ := List.mem_map.mp hkey
        obtain rfl : _ = "machine" := hmachine
        obtain ⟨text, htext, hp⟩ := hattributes _ e he
        exact ⟨text, .inl ⟨e, he, htext⟩, hp⟩
      · exact ⟨settings.domain.machine, .inr ⟨hkey, rfl⟩, hothers _ hkey⟩ }

/-! ### When there is an entry -/

theorem renderExpr_eq_error {e : Expr} {a : Abort} :
    renderExpr e = .error a ↔ e.evaluate [] = .error (.abort a) := by
  unfold renderExpr
  split <;> simp_all

/-- Attributes are rendered unless evaluating one of them without the document ends the program. -/
theorem not_aborts_of_ofValues {done t : Table String} {values : List (String × Expr)}
    (h : ofValues done values = .ok t) :
    ∀ q ∈ values, ∀ a, q.2.evaluate [] ≠ .error (.abort a) := by
  induction values generalizing done with
  | nil => exact fun _ hq => nomatch hq
  | cons q values ih =>
      obtain ⟨text, htext, h⟩ := bind_eq_ok.mp h
      refine List.forall_mem_cons.mpr ⟨fun a ha => ?_, ih h⟩
      rw [renderExpr_eq_error.mpr ha] at htext
      cases htext

theorem aborts_of_ofValues {done : Table String} {values : List (String × Expr)} {a : Abort}
    (h : ofValues done values = .error a) :
    ∃ q ∈ values, q.2.evaluate [] = .error (.abort a) := by
  induction values generalizing done with
  | nil => cases h
  | cons q values ih =>
      cases hq : renderExpr q.2 with
      | ok text =>
          rw [ofValues, hq] at h
          obtain ⟨q', hq', ha⟩ := ih h
          exact ⟨q', List.mem_cons_of_mem q hq', ha⟩
      | error a' =>
          rw [ofValues, hq] at h
          cases h
          exact ⟨q, List.mem_cons_self, renderExpr_eq_error.mp hq⟩

/-- A VM has an entry unless evaluating one of its attributes without the document ends the
program. -/
theorem describeVm_ok_or_aborts (settings : Settings) (v : ResolvedVm) :
    ((∀ q ∈ v.attributes.values, ∀ a, q.2.evaluate [] ≠ .error (.abort a)) ∧
        ∃ p, describeVm settings v = .ok p) ∨
      ∃ q ∈ v.attributes.values, ∃ a, q.2.evaluate [] = .error (.abort a) ∧
        describeVm settings v = .error a := by
  rw [describeVm_eq, describe]
  cases ht : ofValues [] v.attributes.values with
  | ok t => exact .inl ⟨not_aborts_of_ofValues ht, _, rfl⟩
  | error a =>
      obtain ⟨q, hq, ha⟩ := aborts_of_ofValues ht
      exact .inr ⟨q, hq, a, ha, rfl⟩

end Planned

/-! ### Documents -/

/-- What the settings have to say in the entry of the VM of a block: nothing under the key of an
attribute, not even whether there is an entry, and a fallback for which the block has no attribute
is theirs. -/
structure SettingsYield (b : Block) (v : ResolvedVm) : Prop where
  same : ∀ s s' : Settings, ∀ key ∈ fallbackKeys, key ∈ attributeKeys b.body →
    (Planned.describeVm s v).map (·.properties.lookup key) =
      (Planned.describeVm s' v).map (·.properties.lookup key)
  shown : ∀ s p, Planned.describeVm s v = .ok p → ∀ key ∈ fallbackKeys,
    key ∈ attributeKeys b.body → ∃ e text, (key, e) ∈ v.attributes.values ∧
      Planned.Rendered [] e text ∧ p.properties.lookup key = some text
  fallback : ∀ s p, Planned.describeVm s v = .ok p → ∀ key text, (key, text) ∈ s.fallbacks →
    key ∉ attributeKeys b.body → p.properties.lookup key = some text

theorem apart_of_mem_fallbackKeys {key : String} (h : key ∈ fallbackKeys) :
    key ≠ "network" ∧ key ≠ "store" ∧ key ≠ "machine" := by
  simp only [fallbackKeys, List.mem_cons, List.not_mem_nil, or_false] at h
  obtain rfl | rfl | rfl | rfl := h <;> decide

/-- The text of an attribute under a key that the settings fill in does not depend on them. -/
theorem Planned.lookup_fill_of_attribute {s s' : Settings} {v : ResolvedVm} {base : Planned}
    {key text : String} (hkey : key ∈ fallbackKeys) (h : base.properties.lookup key = some text) :
    (fill s v base).properties.lookup key = (fill s' v base).properties.lookup key := by
  obtain ⟨hnetwork, hstore, hmachine⟩ := apart_of_mem_fallbackKeys hkey
  simp only [fill, Settings.fallbacks, List.foldl_cons, List.foldl_nil, Table.lookup_insert,
    lookup_withDefault, if_neg hnetwork, if_neg hstore, if_neg hmachine, h, Option.some_or]

theorem settingsYield_of_fromBody {b : Block} {v : ResolvedVm}
    (hv : Vm.FromBody b.body v.attributes) : SettingsYield b v where
  same s s' key hkey hmem := by
    obtain ⟨hnetwork, hstore, -⟩ := apart_of_mem_fallbackKeys hkey
    have hattribute : key ∈ v.attributes.keys := (hv.keys key).mpr ⟨hmem, hnetwork, hstore⟩
    -- the attributes are rendered before the settings come in, so both runs share what they give
    rw [Planned.describeVm_eq, Planned.describeVm_eq]
    cases hbase : Planned.describe .vm v.name v.attributes with
    | error a => rfl
    | ok base =>
        obtain ⟨-, hlookup⟩ := Planned.lookup_describe hbase
        rcases hlookup key with ⟨hnone, -⟩ | ⟨e, text, -, -, htext⟩
        · exact absurd hattribute (Attributes.value?_eq_none_iff.mp hnone)
        · exact congrArg Except.ok (Planned.lookup_fill_of_attribute hkey htext)
  shown s p hp key hkey hmem := by
    obtain ⟨hnetwork, hstore, hmachine⟩ := apart_of_mem_fallbackKeys hkey
    obtain ⟨⟨_, e⟩, he, rfl⟩ := List.mem_map.mp ((hv.keys key).mpr ⟨hmem, hnetwork, hstore⟩)
    obtain ⟨text, htext, hlookup⟩ :=
      (Planned.entry_of_describeVm hv hp).attributes _ e he hmachine
    exact ⟨e, text, he, htext, hlookup⟩
  fallback s p hp key text htext hmem :=
    (Planned.entry_of_describeVm hv hp).fallbacks key text htext fun hkey =>
      hmem ((hv.keys key).mp hkey).1

namespace Document

variable {body : List Item} {d : Document} {C : Catalog} {k : Cancellation} {r : Resolved}

/-- **The settings yield to attributes** in the entries of the VMs of a document that is decoded
and resolved. -/
theorem fallbacks_yield (hbody : ofBody body = .ok d) (hr : (d.resolve C k).result = .ok r) :
    List.Forall₂ SettingsYield (blocksOf "vm" body) r.vms :=
  (fromBody_of_resolve hbody hr).imp fun _ _ => settingsYield_of_fromBody

/-- The body of a document with a VM that has a computed attribute and a nested block. -/
def towerBody : List Item :=
  [.block ⟨"network", [.text "lan"], []⟩, .block ⟨"store", [.text "pool"], []⟩,
    .block ⟨"vm", [.text "web1"],
      [.attribute "network" (.string "lan"), .attribute "store" (.string "pool"),
        .attribute "cpu" (.traversal (.variable "var") [.member "cores"]),
        .attribute "machine" (.string "pc"),
        .block ⟨"disk", [], [.attribute "size" (.string "40GiB")]⟩]⟩]

/-- The VM that the body is resolved to. -/
def towerVm : ResolvedVm where
  name := "web1"
  network := "lan"
  store := "pool"
  attributes :=
    { values := [("cpu", .traversal (.variable "var") [.member "cores"]),
        ("machine", .string "pc")]
      blocks := [⟨"disk", [], [.attribute "size" (.string "40GiB")]⟩] }

/-- The document that the body is. -/
def tower : Document where
  networks := [⟨"lan", {}⟩]
  stores := [⟨"pool", {}⟩]
  vms := [{ name := "web1"
            network := some (.string "lan")
            store := some (.string "pool")
            attributes := towerVm.attributes }]

/-- Settings with large disks. -/
def largeDisks : Settings :=
  { Settings.default "/root" with
    vm := { (Settings.default "/root").vm with disk := "99GiB" } }

theorem fallbacks_yield_tower :
    ofBody towerBody = .ok tower ∧
      (tower.resolve (.steady fun _ _ => .ok none) .never).result = .ok tower.resolved ∧
      List.Forall₂ SettingsYield (blocksOf "vm" towerBody) tower.resolved.vms := by
  have hbody : ofBody towerBody = .ok tower := rfl
  have hr : (tower.resolve (.steady fun _ _ => .ok none) .never).result = .ok tower.resolved := rfl
  exact ⟨hbody, hr, fallbacks_yield hbody hr⟩

/-- A nested block does not keep the settings away: the VM has a `disk` block, and its entry shows
the disk of the settings. -/
theorem disk_of_settings_over_block :
    ofBody towerBody = .ok tower ∧
      (tower.resolve (.steady fun _ _ => .ok none) .never).result = .ok tower.resolved ∧
      towerVm ∈ tower.resolved.vms ∧ "disk" ∈ towerVm.attributes.blocks.map Block.type ∧
      (Planned.describeVm (Settings.default "/root") towerVm).map (·.properties.lookup "disk") =
        .ok (some "20GiB") ∧
      (Planned.describeVm largeDisks towerVm).map (·.properties.lookup "disk") =
        .ok (some "99GiB") :=
  ⟨rfl, rfl, List.mem_singleton.mpr rfl, by decide, rfl, rfl⟩

/-- **The entry of a VM** of a document that is decoded and resolved. -/
theorem entry_of_vm (hbody : ofBody body = .ok d) (hr : (d.resolve C k).result = .ok r)
    {v : ResolvedVm} (hv : v ∈ r.vms) (settings : Settings) :
    ((∀ q ∈ v.attributes.values, ∀ a, q.2.evaluate [] ≠ .error (.abort a)) ∧
        ∃ p, Planned.describeVm settings v = .ok p ∧ Planned.VmEntry settings v p) ∨
      ∃ q ∈ v.attributes.values, ∃ a, q.2.evaluate [] = .error (.abort a) ∧
        Planned.describeVm settings v = .error a := by
  obtain ⟨b, hb⟩ := forall_of_forall₂ (P := fun v => ∃ b : Block, Vm.FromBody b.body v.attributes)
    (fun h => ⟨_, h⟩) (fromBody_of_resolve hbody hr) v hv
  rcases Planned.describeVm_ok_or_aborts settings v with ⟨hall, p, hp⟩ | haborts
  · exact .inl ⟨hall, p, hp, Planned.entry_of_describeVm hb hp⟩
  · exact .inr haborts

/-- The VM of the tower has an entry, in which the alias of its machine type is expanded. -/
theorem entry_of_vm_tower :
    ofBody towerBody = .ok tower ∧
      (tower.resolve (.steady fun _ _ => .ok none) .never).result = .ok tower.resolved ∧
      towerVm ∈ tower.resolved.vms ∧
      Planned.describeVm (Settings.default "/root") towerVm = .ok ⟨.vm, "web1",
        [("cpu", "(computed)"), ("disk", "20GiB"), ("machine", "pc-i440fx-9.2"),
          ("memory", "2GiB"), ("namespace", "default"), ("network", "lan"), ("store", "pool")]⟩ ∧
      (((∀ q ∈ towerVm.attributes.values, ∀ a, q.2.evaluate [] ≠ .error (.abort a)) ∧
          ∃ p, Planned.describeVm (Settings.default "/root") towerVm = .ok p ∧
            Planned.VmEntry (Settings.default "/root") towerVm p) ∨
        ∃ q ∈ towerVm.attributes.values, ∃ a, q.2.evaluate [] = .error (.abort a) ∧
          Planned.describeVm (Settings.default "/root") towerVm = .error a) := by
  have hbody : ofBody towerBody = .ok tower := rfl
  have hr : (tower.resolve (.steady fun _ _ => .ok none) .never).result = .ok tower.resolved := rfl
  have hmem : towerVm ∈ tower.resolved.vms := List.mem_singleton.mpr rfl
  exact ⟨hbody, hr, hmem, rfl, entry_of_vm hbody hr hmem _⟩

/-- The body of a document with a VM that has this for an attribute. -/
def brokenBody (e : Expr) : List Item :=
  [.block ⟨"network", [.text "lan"], []⟩, .block ⟨"store", [.text "pool"], []⟩,
    .block ⟨"vm", [.text "web1"],
      [.attribute "network" (.string "lan"), .attribute "store" (.string "pool"),
        .attribute "cpu" e]⟩]

/-- The VM that the body is resolved to. -/
def brokenVm (e : Expr) : ResolvedVm where
  name := "web1"
  network := "lan"
  store := "pool"
  attributes := { values := [("cpu", e)] }

/-- A VM that is resolved may have no entry: a division without remainder is not `(computed)`, but
ends the program. -/
theorem no_entry_of_remainder :
    (∀ e ∈ Hcl.remainderless, ∃ d r, ofBody (brokenBody e) = .ok d ∧
      (d.resolve (.steady fun _ _ => .ok none) .never).result = .ok r ∧ brokenVm e ∈ r.vms) ∧
      ∀ e ∈ Hcl.remainderless,
        ¬∃ p, Planned.describeVm (Settings.default "/root") (brokenVm e) = .ok p := by
  refine ⟨fun e _ => ⟨_, _, rfl, rfl, List.mem_singleton.mpr rfl⟩, fun e he => ?_⟩
  obtain ⟨why, hwhy⟩ := Hcl.evaluate_of_remainderless he
  rcases Planned.describeVm_ok_or_aborts (Settings.default "/root") (brokenVm e) with
    ⟨hall, -⟩ | ⟨-, -, a, -, ha⟩
  · exact absurd (hwhy []) (hall ("cpu", e) List.mem_cons_self _)
  · rintro ⟨p, hp⟩
    cases ha.symm.trans hp

end Document

end VirtEnv
