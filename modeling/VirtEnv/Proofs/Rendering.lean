import VirtEnv.Output.Json
import VirtEnv.Output.Plan
import VirtEnv.Output.Resolved

/-!
# Rendering — which documents can be written as JSON

JSON has texts for keys only, and an object expression is shown with its keys tagged by how they are
written.  So an object expression with fields cannot be written.  What stands in parentheses and in
arrays is shown itself; of any other expression the text is shown, whatever it contains.

* `Tree.isSome_renderJson?_iff`: a tree can be written, in any layout, if every key in it is a text.
* `Hcl.Expr.writable_toTree_iff`: an expression can be written unless an object with fields is
  reached from it through arrays and parentheses.
* `Resolved.isSome_prettyJson?_iff`: a document can be written unless this holds of an attribute of
  one of its resources, however deep in blocks it stands.
* `Planned.isSome_prettyJson?_planTree`: a plan can be written.
-/

namespace VirtEnv

open Hcl (Block Expr Item ObjectKey)
open Output (JsonLayout Tree)

/-! ### Trees -/

namespace Output.Tree

/-- Every key in a tree is a text. -/
inductive Writable : Tree → Prop where
  | null : Writable .null
  | bool (b : Bool) : Writable (.bool b)
  | number (n : Hcl.Number) : Writable (.number n)
  | text (s : String) : Writable (.text s)
  | list {items : List Tree} : (∀ t ∈ items, t.Writable) → Writable (.list items)
  | record {fields : List (Tree × Tree)} : (∀ f ∈ fields, ∃ key, f.1 = .text key) →
      (∀ f ∈ fields, f.2.Writable) → Writable (.record fields)
  | tagged {tag : String} {t : Tree} : t.Writable → Writable (.tagged tag t)

/-- A list can be written if all its items can. -/
theorem writable_list_iff {items : List Tree} :
    (Tree.list items).Writable ↔ ∀ t ∈ items, t.Writable :=
  ⟨fun | .list h => h, .list⟩

/-- A record can be written if its keys are texts, and its values can be written. -/
theorem writable_record_iff {fields : List (Tree × Tree)} :
    (Tree.record fields).Writable ↔ ∀ f ∈ fields, (∃ key, f.1 = .text key) ∧ f.2.Writable :=
  ⟨fun | .record hkeys hvalues => fun f hf => ⟨hkeys f hf, hvalues f hf⟩,
    fun h => .record (fun f hf => (h f hf).1) fun f hf => (h f hf).2⟩

/-- A tag makes no difference. -/
theorem writable_tagged_iff {tag : String} {t : Tree} : (tagged tag t).Writable ↔ t.Writable :=
  ⟨fun | .tagged h => h, .tagged⟩

@[simp] theorem writable_text (s : String) : (Tree.text s).Writable := .text s

/-- Fields with names can be written if their values can. -/
theorem writable_ofFields_iff {fields : List (String × Tree)} :
    (ofFields fields).Writable ↔ ∀ f ∈ fields, f.2.Writable := by
  rw [ofFields, writable_record_iff, List.forall_mem_map]
  exact forall₂_congr fun f _ => and_iff_right ⟨f.1, rfl⟩

@[simp] theorem writable_ofFields_nil : (ofFields []).Writable :=
  writable_ofFields_iff.mpr fun _ h => nomatch h

@[simp] theorem writable_ofFields_cons {name : String} {t : Tree}
    {fields : List (String × Tree)} :
    (ofFields ((name, t) :: fields)).Writable ↔ t.Writable ∧ (ofFields fields).Writable := by
  rw [writable_ofFields_iff, writable_ofFields_iff, List.forall_mem_cons]

@[simp] theorem writable_ofFields_append {fields fields' : List (String × Tree)} :
    (ofFields (fields ++ fields')).Writable ↔
      (ofFields fields).Writable ∧ (ofFields fields').Writable := by
  simp only [writable_ofFields_iff, List.forall_mem_append]

/-- A field that may be left out need not be written. -/
@[simp] theorem writable_fieldUnless {omitted : Bool} {name : String} {t : Tree} :
    (ofFields (fieldUnless omitted name t)).Writable ↔ omitted = false → t.Writable := by
  cases omitted <;> simp [fieldUnless]

@[simp] theorem writable_texts (ss : List String) : (texts ss).Writable :=
  .list (List.forall_mem_map.mpr fun s _ => .text s)

@[simp] theorem writable_ofTexts (fields : List (String × String)) : (ofTexts fields).Writable :=
  writable_ofFields_iff.mpr (List.forall_mem_map.mpr fun f _ => .text f.2)

mutual

/-- **A tree can be written** exactly if every key in it is a text, in any layout. -/
theorem isSome_renderJson?_iff (l : JsonLayout) :
    ∀ (t : Tree) (level : Nat), (t.renderJson? l level).isSome = true ↔ t.Writable
  | .null, _ => iff_of_true rfl .null
  | .bool b, _ => iff_of_true rfl (.bool b)
  | .number n, _ => iff_of_true rfl (.number n)
  | .text s, _ => iff_of_true rfl (.text s)
  | .list items, level => by
      rw [renderJson?, Option.isSome_map, writable_list_iff]
      exact isSome_renderJsonItems?_iff l items (level + 1)
  | .record fields, level => by
      rw [renderJson?, Option.isSome_map, writable_record_iff]
      exact isSome_renderJsonFields?_iff l fields (level + 1)
  | .tagged tag t, level => by
      rw [writable_tagged_iff, ← isSome_renderJson?_iff l t (level + 1), renderJson?]
      cases renderJson? l (level + 1) t <;> rfl
termination_by structural t => t

/-- The items of a list are written if all of them can be. -/
theorem isSome_renderJsonItems?_iff (l : JsonLayout) :
    ∀ (items : List Tree) (level : Nat),
      (renderJsonItems? l level items).isSome = true ↔ ∀ t ∈ items, t.Writable
  | [], _ => iff_of_true rfl fun _ h => nomatch h
  | t :: ts, level => by
      rw [List.forall_mem_cons, ← isSome_renderJson?_iff l t level,
        ← isSome_renderJsonItems?_iff l ts level, renderJsonItems?]
      cases renderJson? l level t with
      | none => exact iff_of_false (fun h => nomatch h) fun h => nomatch h.1
      | some s => cases renderJsonItems? l level ts <;> simp
termination_by structural items => items

/-- The fields of a record are written if all of them can be. -/
theorem isSome_renderJsonFields?_iff (l : JsonLayout) :
    ∀ (fields : List (Tree × Tree)) (level : Nat),
      (renderJsonFields? l level fields).isSome = true ↔
        ∀ f ∈ fields, (∃ key, f.1 = .text key) ∧ f.2.Writable
  | [], _ => iff_of_true rfl fun _ h => nomatch h
  | (key, t) :: fields, level => by
      rw [List.forall_mem_cons]
      cases key with
      | text key =>
          rw [← isSome_renderJson?_iff l t level, ← isSome_renderJsonFields?_iff l fields level,
            renderJsonFields?]
          cases renderJson? l level t with
          | none => exact iff_of_false (fun h => nomatch h) fun h => nomatch h.1.2
          | some s => cases renderJsonFields? l level fields <;> simp
      | _ => exact iff_of_false (fun h => nomatch h) fun ⟨⟨⟨_, h⟩, _⟩, _⟩ => nomatch h
termination_by structural fields => fields

end

end Output.Tree

/-! ### Expressions -/

/-- An object with fields is reached from an expression through arrays and parentheses. -/
inductive Hcl.Expr.ReachesObject : Expr → Prop where
  | object {fields : List (ObjectKey × Expr)} : fields ≠ [] → ReachesObject (.object fields)
  | array {items : List Expr} {e : Expr} : e ∈ items → e.ReachesObject →
      ReachesObject (.array items)
  | paren {e : Expr} : e.ReachesObject → ReachesObject (.paren e)

mutual

/-- **An expression can be written** unless an object with fields is reached from it. -/
theorem Hcl.Expr.writable_toTree_iff : ∀ e : Expr, e.toTree.Writable ↔ ¬ e.ReachesObject
  | .null => iff_of_true .null fun h => nomatch h
  | .bool b => iff_of_true (.bool b) fun h => nomatch h
  | .number n => iff_of_true (.number n) fun h => nomatch h
  | .string s => iff_of_true (.text s) fun h => nomatch h
  | .array items => by
      rw [Expr.toTree, Tree.writable_list_iff, Expr.writable_toTrees_iff items]
      exact ⟨fun h hreached => by cases hreached with | array hmem he => exact h _ hmem he,
        fun h e hmem he => h (.array hmem he)⟩
  | .object [] => iff_of_true (.record (fun _ h => nomatch h) fun _ h => nomatch h) fun h => by
      cases h with
      | object hne => exact hne rfl
  | .object ((key, e) :: fields) => by
      refine iff_of_false (fun h => ?_) fun h => h (.object (List.cons_ne_nil _ _))
      obtain ⟨⟨text, htext⟩, -⟩ :=
        Tree.writable_record_iff.mp h (key.toTree, e.toTree) List.mem_cons_self
      cases key <;> cases htext
  | .paren e => by
      rw [Expr.toTree, Expr.writable_toTree_iff e]
      exact not_congr ⟨.paren, fun | .paren h => h⟩
  | .template .. | .heredoc .. | .variable _ | .traversal .. | .call .. | .conditional ..
  | .unary .. | .chain .. | .forList .. | .forObject .. =>
      iff_of_true (.text _) fun h => nomatch h
termination_by structural e => e

/-- Expressions can be written if none of them reaches an object with fields. -/
theorem Hcl.Expr.writable_toTrees_iff :
    ∀ items : List Expr, (∀ t ∈ Expr.toTrees items, t.Writable) ↔ ∀ e ∈ items, ¬ e.ReachesObject
  | [] => iff_of_true (fun _ h => nomatch h) fun _ h => nomatch h
  | e :: items => by
      rw [Expr.toTrees, List.forall_mem_cons, List.forall_mem_cons, Expr.writable_toTree_iff e,
        Expr.writable_toTrees_iff items]
termination_by structural items => items

end

/-! ### Blocks -/

/-- An expression is an attribute in a body, or in a block in it at any depth. -/
inductive Hcl.Expr.StandsIn (e : Expr) : List Item → Prop where
  | here {key : String} {body : List Item} : .attribute key e ∈ body → StandsIn e body
  | deeper {b : Block} {body : List Item} : .block b ∈ body → StandsIn e b.body → StandsIn e body

theorem Hcl.Label.writable_toTree : ∀ l : Hcl.Label, l.toTree.Writable
  | .name s => .tagged (.text s)
  | .text s => .tagged (.text s)

/-- What stands in a body stands in its first item, or in the rest. -/
theorem Hcl.Expr.standsIn_cons_iff {e : Expr} {x : Item} {body : List Item} :
    e.StandsIn (x :: body) ↔
      (∃ key, x = .attribute key e) ∨ (∃ b, x = .block b ∧ e.StandsIn b.body) ∨
        e.StandsIn body := by
  constructor
  · intro h
    cases h with
    | here hmem =>
        rcases List.mem_cons.mp hmem with heq | hmem
        · exact .inl ⟨_, heq.symm⟩
        · exact .inr (.inr (.here hmem))
    | deeper hmem hinner =>
        rcases List.mem_cons.mp hmem with heq | hmem
        · exact .inr (.inl ⟨_, heq.symm, hinner⟩)
        · exact .inr (.inr (.deeper hmem hinner))
  · rintro (⟨key, rfl⟩ | ⟨b, rfl, hinner⟩ | h)
    · exact .here List.mem_cons_self
    · exact .deeper List.mem_cons_self hinner
    · cases h with
      | here hmem => exact .here (List.mem_cons_of_mem x hmem)
      | deeper hmem hinner => exact .deeper (List.mem_cons_of_mem x hmem) hinner

mutual

/-- A block can be written unless an attribute in it cannot, at any depth. -/
theorem Hcl.Block.writable_toTree_iff : ∀ b : Block,
    b.toTree.Writable ↔ ∀ e : Expr, e.StandsIn b.body → ¬ e.ReachesObject
  | .mk type labels body => by
      have hlabels : (Tree.list (labels.map (·.toTree))).Writable :=
        .list (List.forall_mem_map.mpr fun l _ => l.writable_toTree)
      show _ ↔ ∀ e : Expr, e.StandsIn body → ¬ e.ReachesObject
      rw [← Item.writable_toTrees_iff body, ← Tree.writable_list_iff]
      simp [Block.toTree, hlabels]
termination_by structural b => b

/-- The items of a body can be written if no expression that stands in it reaches an object with
fields. -/
theorem Hcl.Item.writable_toTrees_iff : ∀ body : List Item,
    (∀ t ∈ Item.toTrees body, t.Writable) ↔ ∀ e : Expr, e.StandsIn body → ¬ e.ReachesObject
  | [] => iff_of_true (fun _ h => nomatch h) fun _ h => by cases h <;> contradiction
  | .attribute key value :: body => by
      have hitem : (Item.attribute key value).toTree.Writable ↔ ¬ value.ReachesObject := by
        rw [← Expr.writable_toTree_iff value]
        simp [Item.toTree]
      rw [Item.toTrees, List.forall_mem_cons, Item.writable_toTrees_iff body, hitem]
      simp only [Expr.standsIn_cons_iff]
      constructor
      · rintro ⟨hvalue, hbody⟩ e (⟨_, ⟨⟩⟩ | ⟨_, ⟨⟩, -⟩ | h)
        · exact hvalue
        · exact hbody e h
      · exact fun h => ⟨h value (.inl ⟨key, rfl⟩), fun e he => h e (.inr (.inr he))⟩
  | .block b :: body => by
      rw [Item.toTrees, List.forall_mem_cons, Item.writable_toTrees_iff body, Item.toTree,
        Block.writable_toTree_iff b]
      simp only [Expr.standsIn_cons_iff]
      constructor
      · rintro ⟨hinner, hbody⟩ e (⟨_, ⟨⟩⟩ | ⟨_, ⟨⟩, h⟩ | h)
        · exact hinner e h
        · exact hbody e h
      · exact fun h => ⟨fun e he => h e (.inr (.inl ⟨b, rfl, he⟩)),
          fun e he => h e (.inr (.inr he))⟩
termination_by structural body => body

end

/-! ### Documents -/

/-- An expression is an attribute of a resource, or an attribute in its blocks at any depth. -/
inductive Attributes.Holds (a : Attributes) (e : Expr) : Prop where
  | «attribute» {key : String} : (key, e) ∈ a.values → Holds a e
  | block {b : Block} : b ∈ a.blocks → e.StandsIn b.body → Holds a e

/-- An expression is an attribute of a network, a store or a VM, at any depth. -/
inductive Resolved.Holds (r : Resolved) (e : Expr) : Prop where
  | network {n : Network} : n ∈ r.networks → n.attributes.Holds e → Holds r e
  | store {s : Store} : s ∈ r.stores → s.attributes.Holds e → Holds r e
  | vm {v : ResolvedVm} : v ∈ r.vms → v.attributes.Holds e → Holds r e

/-- What a resource says to its backend can be written if no expression in it reaches an object with
fields. -/
theorem Attributes.writable_toTree_iff {a : Attributes} :
    a.toTree.Writable ↔ ∀ e, a.Holds e → ¬ e.ReachesObject := by
  have hvalues : (a.values.isEmpty = false →
      (Tree.ofFields (a.values.map fun v => (v.1, v.2.toTree))).Writable) ↔
      ∀ v ∈ a.values, ¬ v.2.ReachesObject := by
    rw [Tree.writable_ofFields_iff, List.forall_mem_map]
    simp only [Expr.writable_toTree_iff]
    cases a.values <;> simp
  have hblocks : (a.blocks.isEmpty = false →
      (Tree.list (a.blocks.map (·.toTree))).Writable) ↔
      ∀ b ∈ a.blocks, ∀ e : Expr, e.StandsIn b.body → ¬ e.ReachesObject := by
    rw [Tree.writable_list_iff, List.forall_mem_map]
    simp only [Block.writable_toTree_iff]
    cases a.blocks <;> simp
  rw [toTree, Tree.writable_ofFields_append, Tree.writable_fieldUnless, Tree.writable_fieldUnless,
    hvalues, hblocks]
  constructor
  · rintro ⟨hvalues, hblocks⟩ e he
    cases he with
    | «attribute» hmem => exact hvalues _ hmem
    | block hmem hstands => exact hblocks _ hmem e hstands
  · exact fun h => ⟨fun v hv => h v.2 (.attribute hv), fun b hb e he => h e (.block hb he)⟩

/-- Attributes are left out only if there are none. -/
theorem Attributes.writable_toField_iff {a : Attributes} :
    (Tree.ofFields a.toField).Writable ↔ ∀ e, a.Holds e → ¬ e.ReachesObject := by
  rw [toField, Tree.writable_fieldUnless, writable_toTree_iff]
  refine ⟨fun h => ?_, fun h _ => h⟩
  cases hempty : a.isEmpty with
  | false => exact h hempty
  | true =>
      obtain ⟨hvalues, hblocks⟩ := Bool.and_eq_true_iff.mp hempty
      intro e he
      cases he with
      | «attribute» hmem => exact absurd hmem (List.isEmpty_iff.mp hvalues ▸ List.not_mem_nil)
      | block hmem => exact absurd hmem (List.isEmpty_iff.mp hblocks ▸ List.not_mem_nil)

theorem Lifecycle.writable_toTree (l : Lifecycle) : l.toTree.Writable := by
  simp [toTree]

theorem ResolvedCluster.writable_toTree (c : ResolvedCluster) : c.toTree.Writable := by
  cases hl : c.lifecycle <;> simp [toTree, hl, Lifecycle.writable_toTree]

/-- **A document can be written as JSON** unless an object with fields is reached from an attribute
of a network, a store or a VM, however deep in blocks it stands. -/
theorem Resolved.isSome_prettyJson?_iff (r : Resolved) :
    r.toTree.prettyJson?.isSome = true ↔ ∀ e, r.Holds e → ¬ e.ReachesObject := by
  have hnetworks : (Tree.list (r.networks.map (·.toTree))).Writable ↔
      ∀ n ∈ r.networks, ∀ e, n.attributes.Holds e → ¬ e.ReachesObject := by
    simp [Tree.writable_list_iff, Network.toTree, Attributes.writable_toField_iff]
  have hstores : (Tree.list (r.stores.map (·.toTree))).Writable ↔
      ∀ s ∈ r.stores, ∀ e, s.attributes.Holds e → ¬ e.ReachesObject := by
    simp [Tree.writable_list_iff, Store.toTree, Attributes.writable_toField_iff]
  have hvms : (Tree.list (r.vms.map (·.toTree))).Writable ↔
      ∀ v ∈ r.vms, ∀ e, v.attributes.Holds e → ¬ e.ReachesObject := by
    simp [Tree.writable_list_iff, ResolvedVm.toTree, Attributes.writable_toField_iff]
  have hclusters : (Tree.list (r.clusters.map (·.toTree))).Writable := by
    simp [Tree.writable_list_iff, ResolvedCluster.writable_toTree]
  have hparts : r.toTree.Writable ↔
      (Tree.list (r.networks.map (·.toTree))).Writable ∧
        (Tree.list (r.stores.map (·.toTree))).Writable ∧
          (Tree.list (r.vms.map (·.toTree))).Writable := by
    cases hpath : r.sourcePath <;> simp [toTree, hpath, hclusters]
  rw [Tree.prettyJson?, Tree.isSome_renderJson?_iff, hparts, hnetworks, hstores, hvms]
  constructor
  · rintro ⟨hnetworks, hstores, hvms⟩ e he
    cases he with
    | network hmem h => exact hnetworks _ hmem e h
    | store hmem h => exact hstores _ hmem e h
    | vm hmem h => exact hvms _ hmem e h
  · exact fun h => ⟨fun n hn e he => h e (.network hn he), fun s hs e he => h e (.store hs he),
      fun v hv e he => h e (.vm hv he)⟩

/-- **A plan can be written as JSON**: it has texts only. -/
theorem Planned.isSome_prettyJson?_planTree (ps : List Planned) :
    (planTree ps).prettyJson?.isSome = true := by
  rw [Tree.prettyJson?, Tree.isSome_renderJson?_iff, planTree, Tree.writable_list_iff,
    List.forall_mem_map]
  exact fun p _ => by simp [toTree]

end VirtEnv
