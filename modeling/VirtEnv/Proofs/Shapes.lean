import Mathlib.Data.List.Induction
import VirtEnv.Proofs.Keys
import VirtEnv.Proofs.Refusals

/-!
# Shapes — what variables and clusters are, and what they mean

A block that is decoded means what its attributes say: a default and a list of VMs as they are
written, and a description, labels and orders by their values.  If no key is there twice, none of
this depends on the order in which the items are written.

* `Table.perm_insertAll`: the table of an object's texts has its fields, in the order of the keys.
* `Variable.means_of_ofBlock`, `Cluster.means_of_ofBlock`: what a block means that is decoded.
* `Variable.ofBlock_of_rearranged`, `Cluster.ofBlock_of_rearranged`: in another order it means the
  same.
* `decoded_exactly`: these, and what is refused, together.
-/

namespace VirtEnv

open Hcl (Block Expr Item Value)

/-! ### Labels -/

namespace Table

variable {α : Type}

/-- A new name is one more entry. -/
theorem perm_insert {t : Table α} {name : String} {a : α} (h : name ∉ t.names) :
    (t.insert name a).Perm ((name, a) :: t) := by
  induction t with
  | nil => exact .refl _
  | cons p rest ih =>
      obtain ⟨n, b⟩ := p
      obtain ⟨hne, hrest⟩ := not_or.mp (mt List.mem_cons.mpr h)
      rw [insert, if_neg (mt beq_iff_eq.mp hne)]
      split
      · exact .refl _
      · exact ((ih hrest).cons _).trans (.swap _ _ _)

/-- A table stays sorted when pairs are put into it. -/
theorem sorted_insertAll {t : Table α} {pairs : List (String × α)} (h : t.Sorted) :
    (t.insertAll pairs).Sorted := by
  induction pairs generalizing t with
  | nil => exact h
  | cons p pairs ih => exact ih h.insert

/-- Pairs whose names are new and distinct are all in the table that they are set in. -/
theorem perm_insertAll {t : Table α} {pairs : List (String × α)}
    (h : ((pairs ++ t).map (·.1)).Nodup) : (t.insertAll pairs).Perm (pairs ++ t) := by
  induction pairs generalizing t with
  | nil => exact .refl _
  | cons p pairs ih =>
      rw [List.cons_append, List.map_cons, List.nodup_cons] at h
      have hnew : p.1 ∉ t.names := fun hmem =>
        h.1 (by rw [List.map_append]; exact List.mem_append_right _ hmem)
      have hmoved : (pairs ++ Table.insert t p.1 p.2).Perm (p :: (pairs ++ t)) :=
        ((perm_insert hnew).append_left pairs).trans List.perm_middle
      refine (ih ?_).trans hmoved
      exact ((hmoved.map (·.1)).nodup_iff).mpr (List.nodup_cons.mpr h)

/-- Tables with the same entries are the same. -/
theorem eq_of_perm {t t' : Table α} (ht : t.Sorted) (ht' : t'.Sorted) (h : t.Perm t') : t = t' := by
  refine h.eq_of_pairwise ?_ (List.pairwise_map.mp ht) (List.pairwise_map.mp ht')
  intro p q _ _ hlt hgt
  exact absurd hgt (String.lt_asymm hlt)

end Table

/-- What a value is kept as: the fields of an object of texts, in the order of their keys. -/
def IsSortedTexts (v : Value) (kept : Table String) : Prop :=
  ∃ texts, v = .object (textFields texts) ∧ kept.Perm texts ∧ kept.Sorted

/-- The table of an object with distinct keys has the fields of the object, sorted. -/
theorem IsTextTable.sorted {v : Value} {kept : Table String} (h : IsTextTable v kept)
    (hv : v.Keyed) : IsSortedTexts v kept := by
  obtain ⟨texts, rfl, rfl⟩ := h
  have hnodup : (texts.map (·.1)).Nodup := by
    cases hv with
    | object hnodup => rwa [List.map_map] at hnodup
  refine ⟨texts, rfl, ?_, Table.sorted_insertAll List.Pairwise.nil⟩
  have hperm : (Table.insertAll [] texts).Perm (texts ++ []) :=
    Table.perm_insertAll (by rwa [List.append_nil])
  rwa [List.append_nil] at hperm

theorem textFields_injective : Function.Injective textFields :=
  List.map_injective_iff.mpr fun p q h => by
    obtain ⟨hkey, hvalue⟩ := Prod.mk.inj h
    exact Prod.ext hkey (Value.string.inj hvalue)

/-- An object is one table at most. -/
theorem IsSortedTexts.rightUnique : Relator.RightUnique IsSortedTexts := by
  intro v t t' h h'
  obtain ⟨texts, rfl, hperm, hsorted⟩ := h
  obtain ⟨texts', htexts, hperm', hsorted'⟩ := h'
  cases textFields_injective (Value.object.inj htexts)
  exact Table.eq_of_perm hsorted hsorted' (hperm.trans hperm'.symm)

theorem IsText.rightUnique : Relator.RightUnique IsText := by
  rintro v s s' ⟨_, rfl, rfl⟩ ⟨_, hs, rfl⟩
  rw [Value.string.inj hs]

theorem IsTexts.rightUnique : Relator.RightUnique IsTexts := fun _ _ _ h h' =>
  List.map_injective_iff.mpr (fun _ _ => Value.string.inj) (Value.array.inj (h.symm.trans h'))

/-- What is kept of an attribute is one thing at most. -/
theorem Kept.unique {α : Type} {scope : Hcl.Scope} {shape : Value → α → Prop} {default a a' : α}
    {e : Option Expr} (hshape : Relator.RightUnique shape)
    (h : Kept scope shape default e a) (h' : Kept scope shape default e a') : a = a' := by
  cases h with
  | absent => cases h'; rfl
  | value hv ha =>
      cases h' with
      | value hv' ha' => cases hv.symm.trans hv'; exact hshape ha ha'

theorem Kept.imp {α : Type} {shape shape' : Value → α → Prop} {default a : α} {e : Option Expr}
    (h : Kept [] shape default e a) (hshape : ∀ {v a}, v.Keyed → shape v a → shape' v a) :
    Kept [] shape' default e a := by
  cases h with
  | absent => exact .absent
  | value hv ha => exact .value hv (hshape (Expr.keyed_of_evaluate hv) ha)

/-! ### Attributes of distinct keys -/

/-- Where keys are distinct, what is found is what stands there. -/
theorem lookup_eq_some_iff {α : Type} {pairs : List (String × α)} (h : (pairs.map (·.1)).Nodup)
    {key : String} {a : α} : pairs.lookup key = some a ↔ (key, a) ∈ pairs :=
  ⟨mem_of_lookup, fun hmem => lookup_of_nodup h hmem⟩

/-- Under distinct keys the same is found in any order. -/
theorem lookup_of_perm {α : Type} {pairs pairs' : List (String × α)}
    (h : (pairs.map (·.1)).Nodup) (hperm : pairs'.Perm pairs) (key : String) :
    pairs'.lookup key = pairs.lookup key := by
  have h' : (pairs'.map (·.1)).Nodup := (hperm.map (·.1)).nodup_iff.mpr h
  refine Option.ext fun a => ?_
  rw [lookup_eq_some_iff h, lookup_eq_some_iff h', hperm.mem_iff]

/-- Where keys are distinct, the last attribute with a key is the only one. -/
theorem lastAttribute?_eq_lookup {body : List Item} (h : DistinctKeys body) (key : String) :
    lastAttribute? key body = (entriesOf body).lookup key := by
  rw [← lookup_of_perm h (List.reverse_perm _)]
  clear h
  induction body using List.reverseRecOn with
  | nil => rfl
  | append_singleton before x ih =>
      rw [entriesOf, List.filterMap_append, ← entriesOf, List.reverse_append]
      cases x with
      | «attribute» k e =>
          rw [lastAttribute?_concat, ih]
          show _ = List.lookup key ((k, e) :: (entriesOf before).reverse)
          rw [Table.lookup_cons]
          simp only [eq_comm]
      | block b =>
          rw [lastAttribute?_concat_block, ih]
          rfl

/-- If there is one block at most, it is the last one and the first one. -/
theorem lastBlock?_eq_head? {type : String} {body : List Item}
    (htype : ∀ b ∈ nestedIn body, b.type = type) (hone : (nestedIn body).length ≤ 1) :
    lastBlock? type body = (nestedIn body).head? := by
  have hall : body.filterMap (Item.ofType? type) = nestedIn body := by
    refine List.filterMap_congr fun x hx => ?_
    cases x with
    | «attribute» key e => rfl
    | block b => exact if_pos (htype b (mem_nestedIn.mpr hx))
  rw [lastBlock?, lastOf, hall]
  cases hnested : nestedIn body with
  | nil => rfl
  | cons b rest =>
      rw [hnested] at hone
      have hlength : rest.length = 0 := Nat.le_zero.mp (Nat.le_of_succ_le_succ hone)
      rw [List.eq_nil_of_length_eq_zero hlength]
      rfl

/-! ### What a block means -/

/-- A variable is what a block means: its default is as it is written, and its description is the
value of the attribute. -/
structure Variable.Means (b : Block) (v : Variable) : Prop where
  name : v.name = b.label
  default : v.default = (entriesOf b.body).lookup "default"
  description : Kept [] IsText none ((entriesOf b.body).lookup "description") v.description

/-- A lifecycle is what a block means: its orders are the values of the attributes. -/
structure Lifecycle.Means (b : Block) (l : Lifecycle) : Prop where
  startOrder : Kept [] IsTexts [] ((entriesOf b.body).lookup "start_order") l.startOrder
  stopOrder : Kept [] IsTexts [] ((entriesOf b.body).lookup "stop_order") l.stopOrder

/-- A cluster is what a block means: its VMs are as they are written, its labels are sorted, and it
has a lifecycle if there is one. -/
structure Cluster.Means (b : Block) (c : Cluster) : Prop where
  name : c.name = b.label
  members : c.members = (entriesOf b.body).lookup "vms"
  labels : Kept [] IsSortedTexts [] ((entriesOf b.body).lookup "labels") c.labels
  lifecycle : Option.Rel Lifecycle.Means (nestedIn b.body).head? c.lifecycle

section

variable {b : Block}

theorem Variable.means_of_ofBlock (hkeys : DistinctKeys b.body) {v : Variable}
    (h : Variable.ofBlock b = .ok v) : Variable.Means b v := by
  have hreads := Variable.reads_of_ofBlock h
  exact ⟨(Variable.itemByItem b).of_eq_ok h, lastAttribute?_eq_lookup hkeys _ ▸ hreads.default,
    lastAttribute?_eq_lookup hkeys _ ▸ hreads.description⟩

theorem Lifecycle.means_of_reads (hkeys : DistinctKeys b.body) {l : Lifecycle}
    (h : l.Reads [] b.body) : Lifecycle.Means b l :=
  ⟨lastAttribute?_eq_lookup hkeys _ ▸ h.startOrder, lastAttribute?_eq_lookup hkeys _ ▸ h.stopOrder⟩

theorem Cluster.means_of_ofBlock (hkeys : DistinctKeys b.body)
    (hinner : ∀ inner ∈ nestedIn b.body, DistinctKeys inner.body) {c : Cluster}
    (h : Cluster.ofBlock b = .ok c) : Cluster.Means b c := by
  have hreads := Cluster.reads_of_ofBlock h
  have hshape := Cluster.exists_ofBlock_iff.mp ⟨c, h⟩
  have hlifecycle := hreads.lifecycle
  rw [lastBlock?_eq_head? (fun b hb => (hshape.lifecycles b hb).1) hshape.atMostOne] at hlifecycle
  refine ⟨((Cluster.itemByItem b).of_eq_ok h).name,
    lastAttribute?_eq_lookup hkeys _ ▸ hreads.members,
    lastAttribute?_eq_lookup hkeys _ ▸ hreads.labels.imp fun hv h => h.sorted hv,
    rel_of_rel hlifecycle fun inner hhead l hl => ?_⟩
  exact Lifecycle.means_of_reads (hinner inner (List.mem_of_head? hhead)) hl

/-- A block means one variable. -/
theorem Variable.Means.unique {v v' : Variable} (h : Variable.Means b v)
    (h' : Variable.Means b v') : v = v' := by
  obtain ⟨name, description, default⟩ := v
  obtain ⟨name', description', default'⟩ := v'
  cases h.name.trans h'.name.symm
  cases h.default.trans h'.default.symm
  cases h.description.unique IsText.rightUnique h'.description
  rfl

/-- A block means one lifecycle at most. -/
theorem Lifecycle.Means.unique {l l' : Lifecycle} (h : Lifecycle.Means b l)
    (h' : Lifecycle.Means b l') : l = l' := by
  obtain ⟨startOrder, stopOrder⟩ := l
  obtain ⟨startOrder', stopOrder'⟩ := l'
  cases h.startOrder.unique IsTexts.rightUnique h'.startOrder
  cases h.stopOrder.unique IsTexts.rightUnique h'.stopOrder
  rfl

/-- A block means one cluster. -/
theorem Cluster.Means.unique {c c' : Cluster} (h : Cluster.Means b c) (h' : Cluster.Means b c') :
    c = c' := by
  have hlifecycle : ∀ {found : Option Block} {l l' : Option Lifecycle},
      Option.Rel Lifecycle.Means found l → Option.Rel Lifecycle.Means found l' → l = l'
    | _, _, _, .some hl, .some hl' => congrArg some (hl.unique hl')
    | _, _, _, .none, .none => rfl
  obtain ⟨name, members, labels, lifecycle⟩ := c
  obtain ⟨name', members', labels', lifecycle'⟩ := c'
  cases h.name.trans h'.name.symm
  cases h.members.trans h'.members.symm
  cases h.labels.unique IsSortedTexts.rightUnique h'.labels
  cases hlifecycle h.lifecycle h'.lifecycle
  rfl

end

/-! ### Another order -/

/-- The second block is the first with its items in another order. -/
structure Hcl.Block.Permuted (b b' : Block) : Prop where
  type : b'.type = b.type
  labels : b'.labels = b.labels
  body : b'.body.Perm b.body

/-- The second item is the first; if it is a block, its items may stand in another order. -/
inductive Hcl.Item.Permuted : Item → Item → Prop where
  | «attribute» (key : String) (e : Expr) : Permuted (.attribute key e) (.attribute key e)
  | block {b b' : Block} : b.Permuted b' → Permuted (.block b) (.block b')

/-- The second block is the first with its items in another order, and also those of the blocks in
it. -/
structure Hcl.Block.Rearranged (b b' : Block) : Prop where
  type : b'.type = b.type
  labels : b'.labels = b.labels
  body : ∃ body, body.Perm b.body ∧ List.Forall₂ Item.Permuted body b'.body

section

variable {b b' : Block}

theorem Hcl.Item.Permuted.refl (x : Item) : x.Permuted x := by
  cases x with
  | «attribute» key e => exact .attribute key e
  | block b => exact .block ⟨rfl, rfl, .refl _⟩

theorem Hcl.Block.Permuted.rearranged (h : b.Permuted b') : b.Rearranged b' :=
  ⟨h.type, h.labels, b'.body, h.body, List.forall₂_same.mpr fun x _ => .refl x⟩

theorem Hcl.Block.label_congr (h : b'.labels = b.labels) : b'.label = b.label := by
  rw [label, label, h]

/-- The attributes of a body stay as they are when items within its blocks are moved. -/
theorem entriesOf_of_permuted {body body' : List Item} (h : List.Forall₂ Item.Permuted body body') :
    entriesOf body' = entriesOf body := by
  induction h with
  | nil => rfl
  | @cons x y body body' hx _ ih =>
      cases hx with
      | «attribute» key e => exact congrArg ((key, e) :: ·) ih
      | block _ => exact ih

/-- Its blocks are those with their items moved. -/
theorem nestedIn_of_permuted {body body' : List Item} (h : List.Forall₂ Item.Permuted body body') :
    List.Forall₂ Block.Permuted (nestedIn body) (nestedIn body') := by
  induction h with
  | nil => exact .nil
  | @cons x y body body' hx _ ih =>
      cases hx with
      | «attribute» key e => exact ih
      | block hb => exact .cons hb ih

/-- A block that is rearranged has the same attributes, in some order. -/
theorem Hcl.Block.Rearranged.entries (h : b.Rearranged b') :
    (entriesOf b'.body).Perm (entriesOf b.body) := by
  obtain ⟨body, hperm, hitems⟩ := h.body
  rw [entriesOf_of_permuted hitems]
  exact hperm.filterMap _

/-- And it has the same blocks in some order, with their own items moved. -/
theorem Hcl.Block.Rearranged.nested (h : b.Rearranged b') :
    ∃ blocks, blocks.Perm (nestedIn b.body) ∧
      List.Forall₂ Block.Permuted blocks (nestedIn b'.body) := by
  obtain ⟨body, hperm, hitems⟩ := h.body
  exact ⟨nestedIn body, hperm.filterMap _, nestedIn_of_permuted hitems⟩

theorem Hcl.Block.Rearranged.distinctKeys (h : b.Rearranged b') (hkeys : DistinctKeys b.body) :
    DistinctKeys b'.body :=
  (h.entries.map Prod.fst).nodup_iff.mpr hkeys

theorem OnlyAttributes.of_rearranged {count : Nat} {rules : Rules}
    (h : OnlyAttributes count rules b) (hb : b.Rearranged b') : OnlyAttributes count rules b' where
  labels := hb.labels ▸ h.labels
  noBlock := by
    obtain ⟨blocks, hperm, hnested⟩ := hb.nested
    rw [h.noBlock] at hperm
    cases hperm.eq_nil
    exact List.forall₂_nil_left_iff.mp hnested
  attributes p hp := h.attributes p (hb.entries.mem_iff.mp hp)

/-- A lifecycle means the same however it is arranged. -/
theorem Lifecycle.Means.of_rearranged {l : Lifecycle} (hkeys : DistinctKeys b.body)
    (h : Lifecycle.Means b l) (hb : b.Rearranged b') : Lifecycle.Means b' l := by
  have hlookup := lookup_of_perm hkeys hb.entries
  exact ⟨(hlookup _).symm ▸ h.startOrder, (hlookup _).symm ▸ h.stopOrder⟩

/-- So does a variable. -/
theorem Variable.Means.of_rearranged {v : Variable} (hkeys : DistinctKeys b.body)
    (h : Variable.Means b v) (hb : b.Rearranged b') : Variable.Means b' v := by
  have hlookup := lookup_of_perm hkeys hb.entries
  exact ⟨h.name.trans (Hcl.Block.label_congr hb.labels).symm, (hlookup _).symm ▸ h.default,
    (hlookup _).symm ▸ h.description⟩

/-- If there is one block at most, there is one after the items are rearranged, or none. -/
theorem Hcl.Block.Rearranged.nested_of_one (h : b.Rearranged b')
    (hone : (nestedIn b.body).length ≤ 1) :
    (nestedIn b.body = [] ∧ nestedIn b'.body = []) ∨
      ∃ inner inner', nestedIn b.body = [inner] ∧ nestedIn b'.body = [inner'] ∧
        inner.Permuted inner' := by
  obtain ⟨blocks, hperm, hnested⟩ := h.nested
  match hblocks : nestedIn b.body, hone with
  | [], _ =>
      rw [hblocks] at hperm
      rw [hperm.eq_nil] at hnested
      exact .inl ⟨rfl, List.forall₂_nil_left_iff.mp hnested⟩
  | [inner], _ =>
      rw [hblocks, List.perm_singleton] at hperm
      rw [hperm] at hnested
      obtain ⟨inner', rest, hinner, hrest, heq⟩ := List.forall₂_cons_left_iff.mp hnested
      rw [List.forall₂_nil_left_iff.mp hrest] at heq
      exact .inr ⟨inner, inner', rfl, heq, hinner⟩

theorem Cluster.Shaped.of_rearranged (h : Cluster.Shaped b) (hb : b.Rearranged b') :
    Cluster.Shaped b' := by
  have hlabel : b'.labels.length = 1 := hb.labels ▸ h.label
  have hattributes : ∀ p ∈ entriesOf b'.body, clusterRules.Accepts p.1 p.2 :=
    fun p hp => h.attributes p (hb.entries.mem_iff.mp hp)
  rcases hb.nested_of_one h.atMostOne with ⟨-, hnone⟩ | ⟨inner, inner', hinner, hinner', hperm⟩
  · exact ⟨hlabel, hattributes, by simp [hnone], by simp [hnone]⟩
  · obtain ⟨htype, hshape⟩ := h.lifecycles inner (hinner ▸ List.mem_singleton_self inner)
    refine ⟨hlabel, hattributes, ?_, by simp [hinner']⟩
    rw [hinner']
    exact List.forall_mem_singleton.mpr ⟨hperm.type.trans htype, hshape.of_rearranged hperm.rearranged⟩

/-- And a cluster, with its lifecycle. -/
theorem Cluster.Means.of_rearranged {c : Cluster} (hkeys : DistinctKeys b.body)
    (hinner : ∀ inner ∈ nestedIn b.body, DistinctKeys inner.body)
    (hone : (nestedIn b.body).length ≤ 1) (h : Cluster.Means b c) (hb : b.Rearranged b') :
    Cluster.Means b' c := by
  have hlookup := lookup_of_perm hkeys hb.entries
  refine ⟨h.name.trans (Hcl.Block.label_congr hb.labels).symm, (hlookup _).symm ▸ h.members,
    (hlookup _).symm ▸ h.labels, ?_⟩
  have hlifecycle := h.lifecycle
  rcases hb.nested_of_one hone with ⟨hnone, hnone'⟩ | ⟨first, first', hfirst, hfirst', hperm⟩
  · rw [hnone] at hlifecycle
    rwa [hnone']
  · rw [hfirst] at hlifecycle
    rw [hfirst']
    cases hl : c.lifecycle with
    | none => rw [hl] at hlifecycle; cases hlifecycle
    | some l =>
        rw [hl] at hlifecycle
        cases hlifecycle with
        | some hmeans =>
            have hdistinct := hinner first (hfirst ▸ List.mem_singleton_self first)
            exact .some (hmeans.of_rearranged hdistinct hperm.rearranged)

/-- **In another order a block declares the same variable.** -/
theorem Variable.ofBlock_of_rearranged (hkeys : DistinctKeys b.body) {v : Variable}
    (h : Variable.ofBlock b = .ok v) (hb : b.Rearranged b') : Variable.ofBlock b' = .ok v := by
  obtain ⟨v', hv'⟩ := Variable.exists_ofBlock_iff.mpr
    ((Variable.exists_ofBlock_iff.mp ⟨v, h⟩).of_rearranged hb)
  have hmeans := (Variable.means_of_ofBlock hkeys h).of_rearranged hkeys hb
  rw [hv', (Variable.means_of_ofBlock (hb.distinctKeys hkeys) hv').unique hmeans]

/-- **In another order a block declares the same cluster.** -/
theorem Cluster.ofBlock_of_rearranged (hkeys : DistinctKeys b.body)
    (hinner : ∀ inner ∈ nestedIn b.body, DistinctKeys inner.body) {c : Cluster}
    (h : Cluster.ofBlock b = .ok c) (hb : b.Rearranged b') : Cluster.ofBlock b' = .ok c := by
  have hshape := Cluster.exists_ofBlock_iff.mp ⟨c, h⟩
  obtain ⟨c', hc'⟩ := Cluster.exists_ofBlock_iff.mpr (hshape.of_rearranged hb)
  have hinner' : ∀ inner ∈ nestedIn b'.body, DistinctKeys inner.body := by
    rcases hb.nested_of_one hshape.atMostOne with ⟨-, hnone⟩ | ⟨first, first', hfirst, hfirst', hperm⟩
    · simp [hnone]
    · rw [hfirst']
      have hdistinct := hinner first (hfirst ▸ List.mem_singleton_self first)
      exact List.forall_mem_singleton.mpr (hperm.rearranged.distinctKeys hdistinct)
  have hmeans :=
    (Cluster.means_of_ofBlock hkeys hinner h).of_rearranged hkeys hinner hshape.atMostOne hb
  rw [hc', (Cluster.means_of_ofBlock (hb.distinctKeys hkeys) hinner' hc').unique hmeans]

end

/-! ### Decoding as a whole -/

/-- What decoding makes of a block with one label: exactly what it accepts, what that means, and
what it refuses. -/
structure DecodedExactly {α : Type} (decode : Block → Decoded α) (shaped : Block → Prop)
    (means : Block → α → Prop) (refuses : List Item → Item → DecodeFailure → Prop) (b : Block) :
    Prop where
  accepted : (∃ a, decode b = .ok a) ↔ shaped b
  meaning : ∀ a, decode b = .ok a → means b a
  /-- The order of the items does not matter, if the block is accepted. -/
  rearranged : ∀ a b', decode b = .ok a → b.Rearranged b' → decode b' = .ok a
  /-- Otherwise the first item that is refused decides. -/
  refused : ∀ f, decode b = .error f ↔ FirstRefused 1 decode refuses b f

/-- **A block in which no key is there twice, as a variable and as a cluster.** -/
theorem decoded_exactly {b : Block} (hkeys : DistinctKeys b.body)
    (hinner : ∀ inner ∈ nestedIn b.body, DistinctKeys inner.body) :
    DecodedExactly Variable.ofBlock (OnlyAttributes 1 variableRules) Variable.Means
        (fun _ => Variable.Refuses b.label) b ∧
      DecodedExactly Cluster.ofBlock Cluster.Shaped Cluster.Means (Cluster.Refuses b.label) b where
  left := {
    accepted := Variable.exists_ofBlock_iff
    meaning _ := Variable.means_of_ofBlock hkeys
    rearranged _ _ := Variable.ofBlock_of_rearranged hkeys
    refused _ := Variable.ofBlock_eq_error_iff }
  right := {
    accepted := Cluster.exists_ofBlock_iff
    meaning _ := Cluster.means_of_ofBlock hkeys hinner
    rearranged _ _ := Cluster.ofBlock_of_rearranged hkeys hinner
    refused _ := Cluster.ofBlock_eq_error_iff }

/-- A cluster with labels out of their order and with a lifecycle. -/
def webBlock : Block :=
  ⟨"cluster", [.text "web"],
    [.block ⟨"lifecycle", [], [.attribute "stop_order" (.array [.string "b", .string "a"])]⟩,
      .attribute "labels" (.object [(.name "tier", .string "front"), (.name "app", .string "shop")]),
      .attribute "vms" (.array [.variable "x"])]⟩

/-- The block declares a cluster: its VMs are not evaluated, and its labels are sorted. -/
theorem decoded_exactly_web :
    DistinctKeys webBlock.body ∧
      (∀ inner ∈ nestedIn webBlock.body, DistinctKeys inner.body) ∧
      Cluster.ofBlock webBlock = .ok
        { name := "web", members := some (.array [.variable "x"])
          labels := [("app", "shop"), ("tier", "front")]
          lifecycle := some { stopOrder := ["b", "a"] } } ∧
      DecodedExactly Variable.ofBlock (OnlyAttributes 1 variableRules) Variable.Means
        (fun _ => Variable.Refuses webBlock.label) webBlock ∧
      DecodedExactly Cluster.ofBlock Cluster.Shaped Cluster.Means
        (Cluster.Refuses webBlock.label) webBlock := by
  have hkeys : DistinctKeys webBlock.body := by unfold DistinctKeys; decide
  have hinner : ∀ inner ∈ nestedIn webBlock.body, DistinctKeys inner.body :=
    List.forall_mem_singleton.mpr (by unfold DistinctKeys; decide)
  exact ⟨hkeys, hinner, rfl, decoded_exactly hkeys hinner⟩

/-- The block of a variable with a description. -/
def describedBlock (e : Expr) : Block := ⟨"variable", [.text "a"], [.attribute "description" e]⟩

/-- A variable whose description comes to a division without remainder is not declared, and no fault
is reported of it: the program ends. -/
theorem not_decoded_of_remainder :
    (∀ e ∈ Hcl.remainderless, DistinctKeys (describedBlock e).body) ∧
      ∀ e ∈ Hcl.remainderless, (¬∃ v, Variable.ofBlock (describedBlock e) = .ok v) ∧
        ¬∃ fault, Variable.ofBlock (describedBlock e) = .error (.fault fault) := by
  refine ⟨fun e _ => List.nodup_singleton _, fun e he => ?_⟩
  have haborts : ∃ a, Variable.ofBlock (describedBlock e) = .error (.abort a) := by
    simp only [Hcl.remainderless, List.mem_cons, List.not_mem_nil, or_false] at he
    rcases he with rfl | rfl
    · exact ⟨.remainder .byZero, rfl⟩
    · exact ⟨.remainder .overflow, rfl⟩
  obtain ⟨a, ha⟩ := haborts
  constructor
  · rintro ⟨v, hv⟩
    cases ha.symm.trans hv
  · rintro ⟨fault, hfault⟩
    cases ha.symm.trans hfault

end VirtEnv
