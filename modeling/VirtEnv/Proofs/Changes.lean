import VirtEnv.Proofs.Overlay

/-!
# Changes — what laying values does at each place of a tree

A place is the path of names that leads to it.  Laying a value over a tree does one of three things
at a place (`Change`): it leaves it alone, it provides a table if there is nothing, or it puts
something there whatever there was.  Which one it is depends on the value alone, so laying values
one after the other is read off at each place by itself, and a change need not be made if one that is
as strong is made later (`Change.andThen_of_strength_le`).

* `seen?_merged`: a value laid over another one, at each place.
* `changeAt_eq_all`: the change of a value is made up of those of the values in it.
* `TidyAt.merged`: tables keep their names apart.
* `changesAt_blind`: what a value changes has to do with no file.
-/

namespace VirtEnv.Settings.Node

variable {root n v : Node} {e : Option Node} {o : Option String} {es before : List (String × Node)}
  {k : String} {vs : List Node} {path : List String}

/-! ### Values without their files -/

mutual

/-- A value without the files that it came from. -/
def blind : Node → Node
  | .nothing => .nothing
  | .scalar _ v => .scalar none v
  | .array _ items => .array none (blindItems items)
  | .table _ entries => .table none (blindEntries entries)

/-- Items without the files that they came from. -/
def blindItems : List Node → List Node
  | [] => []
  | n :: ns => blind n :: blindItems ns

/-- Entries without the files that they came from. -/
def blindEntries : List (String × Node) → List (String × Node)
  | [] => []
  | (k, n) :: entries => (k, blind n) :: blindEntries entries

end

mutual

theorem blind_blind : ∀ n : Node, n.blind.blind = n.blind
  | .nothing | .scalar _ _ => rfl
  | .array _ items => congrArg (Node.array none) (blindItems_blindItems items)
  | .table _ entries => congrArg (Node.table none) (blindEntries_blindEntries entries)

theorem blindItems_blindItems : ∀ items, blindItems (blindItems items) = blindItems items
  | [] => rfl
  | n :: ns => congrArg₂ List.cons (blind_blind n) (blindItems_blindItems ns)

theorem blindEntries_blindEntries :
    ∀ entries, blindEntries (blindEntries entries) = blindEntries entries
  | [] => rfl
  | (k, n) :: entries =>
      congrArg₂ List.cons (congrArg (Prod.mk k) (blind_blind n)) (blindEntries_blindEntries entries)

end

mutual

/-- A value of a file, without the file. -/
theorem blind_ofToml (o : Option String) : ∀ v : Toml.Value, blind (ofToml o v) = ofToml none v
  | .string _ | .integer _ | .real _ | .bool _ | .datetime _ => rfl
  | .array items => congrArg (Node.array none) (blindItems_ofItems o items)
  | .table entries => congrArg (Node.table none) (blindEntries_ofEntries o entries)

theorem blindItems_ofItems (o : Option String) :
    ∀ items : List Toml.Value, blindItems (ofItems o items) = ofItems none items
  | [] => rfl
  | v :: vs => congrArg₂ List.cons (blind_ofToml o v) (blindItems_ofItems o vs)

theorem blindEntries_ofEntries (o : Option String) :
    ∀ entries : List (String × Toml.Value),
      blindEntries (ofEntries o entries) = ofEntries none entries
  | [] => rfl
  | (k, v) :: entries =>
      congrArg₂ List.cons (congrArg (Prod.mk k) (blind_ofToml o v))
        (blindEntries_ofEntries o entries)

end

theorem blindEntries_eq_map : blindEntries es = es.map fun e => (e.1, e.2.blind) := by
  induction es with
  | nil => rfl
  | cons e es ih => rw [blindEntries, ih, List.map_cons]

/-! ### Places -/

/-- What is seen of a value, but for the entries of a table, which have places of their own. -/
inductive Shape where
  | nothing
  | scalar (v : Scalar)
  | array (items : List Node)
  | table

/-- The shape of a value. -/
def shape : Node → Shape
  | .nothing => .nothing
  | .scalar _ v => .scalar v
  | .array _ items => .array (blindItems items)
  | .table _ _ => .table

/-- What is seen at a place of a tree. -/
def seen? : List String → Node → Option Shape
  | [], n => some n.shape
  | k :: path, n => (n.entries.lookup k).bind (seen? path)

/-- What is done at a place. -/
inductive Change where
  | keep
  | provide
  | put (x : Option Shape)

namespace Change

variable {a b c : Change} {as bs : List Change} {x : Option Shape}

/-- What is seen at a place after a change. -/
def apply : Change → Option Shape → Option Shape
  | keep, x => x
  | provide, x => x.or (some .table)
  | put y, _ => y

/-- One change after another. -/
def andThen : Change → Change → Change
  | a, keep => a
  | _, put y => put y
  | keep, provide => provide
  | provide, provide => provide
  | put x, provide => put (x.or (some .table))

/-- Changes one after the other. -/
def all (as : List Change) : Change := as.foldl andThen keep

theorem apply_andThen : (a.andThen b).apply x = b.apply (a.apply x) := by
  cases a <;> cases b <;> cases x <;> rfl

theorem andThen_assoc : (a.andThen b).andThen c = a.andThen (b.andThen c) := by
  cases a <;> cases b <;> cases c <;> first | rfl | simp [andThen]

theorem keep_andThen : keep.andThen a = a := by cases a <;> rfl

theorem foldl_andThen : as.foldl andThen a = a.andThen (all as) := by
  induction as generalizing a with
  | nil => rfl
  | cons b as ih => rw [all, List.foldl_cons, List.foldl_cons, ih, ih, keep_andThen, andThen_assoc]

theorem all_cons : all (a :: as) = a.andThen (all as) := by
  rw [all, List.foldl_cons, foldl_andThen, keep_andThen]

theorem all_append : all (as ++ bs) = (all as).andThen (all bs) := by
  rw [all, List.foldl_append, foldl_andThen]
  rfl

theorem all_flatMap {α : Type} (xs : List α) (f : α → List Change) :
    all (xs.flatMap f) = all (xs.map fun y => all (f y)) := by
  induction xs with
  | nil => rfl
  | cons y xs ih => rw [List.flatMap_cons, all_append, ih, List.map_cons, all_cons]

/-- How strong a change is: it leaves a place alone, provides a table, or puts something there. -/
def strength : Change → Nat
  | keep => 0
  | provide => 1
  | put _ => 2

theorem strength_andThen : (a.andThen b).strength = max a.strength b.strength := by
  cases a <;> cases b <;> rfl

theorem strength_all_le_iff {n : Nat} : (all as).strength ≤ n ↔ ∀ a ∈ as, a.strength ≤ n := by
  induction as with
  | nil => exact iff_of_true (Nat.zero_le n) (List.forall_mem_nil _)
  | cons a as ih => rw [all_cons, strength_andThen, Nat.max_le, ih, List.forall_mem_cons]

/-- How strong changes are together does not depend on their order. -/
theorem strength_all_of_perm (h : as.Perm bs) : (all as).strength = (all bs).strength :=
  eq_of_forall_ge_iff fun n => by
    rw [strength_all_le_iff, strength_all_le_iff]
    exact forall_congr' fun a => by rw [h.mem_iff]

/-- **A change need not be made** if one that is as strong is made later. -/
theorem andThen_of_strength_le (h : a.strength ≤ c.strength) :
    a.andThen (b.andThen c) = b.andThen c := by
  cases c with
  | put x => rfl
  | provide => cases a <;> cases b <;> first | rfl | simp [strength] at h
  | keep =>
      cases a with
      | keep => exact keep_andThen
      | provide | put _ => simp [strength] at h

end Change

/-- What laying a value does at a place. -/
def changeAt : List String → Node → Change
  | [], .table _ [] => .provide
  | [], v => .put (some v.shape)
  | k :: path, .table _ entries => .all ((valuesOf k entries).map (changeAt path))
  | _ :: _, _ => .put none

/-- The changes at a place of which the change of a value is made up. -/
def changesAt : List String → Node → List Change
  | [], .table _ [] => [.provide]
  | [], v => [.put (some v.shape)]
  | k :: path, .table _ entries => (valuesOf k entries).flatMap (changesAt path)
  | _ :: _, _ => [.put none]

/-- **The change of a value** is made up of those of the values in it. -/
theorem changeAt_eq_all (path : List String) (n : Node) :
    changeAt path n = .all (changesAt path n) := by
  induction path generalizing n with
  | nil =>
      cases n with
      | table o es => cases es <;> rfl
      | _ => rfl
  | cons k path ih =>
      cases n with
      | table o es =>
          rw [changeAt, changesAt, Change.all_flatMap]
          exact congrArg Change.all (List.map_congr_left fun v _ => ih v)
      | _ => rfl

/-! ### Laying values -/

/-- Entries are laid over a value as over the table of its entries. -/
theorem exists_entries_layAll (root : Node) (es : List (String × Node)) :
    ∃ o, (layAll root es).entries = (layAll (.table o root.entries) es).entries := by
  cases root with
  | table o before => exact ⟨o, rfl⟩
  | _ =>
      refine ⟨none, ?_⟩
      cases es with
      | nil => rfl
      | cons p es =>
          rw [layAll, layAll, lay_eq, lay_eq]
          rfl

/-- What is found under a name after entries were laid over a value, whatever it was. -/
theorem lookup_entries_layAll (k : String) (root : Node) (es : List (String × Node)) :
    (layAll root es).entries.lookup k = settle (root.entries.lookup k) (valuesOf k es) := by
  obtain ⟨o, hentries⟩ := exists_entries_layAll root es
  rw [hentries, lookup_layAll]

theorem nodup_entries_layAll (h : (root.entries.map (·.1)).Nodup) :
    ((layAll root es).entries.map (·.1)).Nodup := by
  obtain ⟨o, hentries⟩ := exists_entries_layAll root es
  rw [hentries]
  exact nodup_layAll h

theorem shape_merged (e : Option Node) (v : Node) :
    some (merged e v).shape = (changeAt [] v).apply (e.map shape) := by
  cases v with
  | table o es =>
      cases es with
      | nil => cases e <;> rfl
      | cons p es =>
          have hshape : ∀ {n : Node}, n.IsTable → some n.shape = some .table := by
            intro n hn
            cases n with
            | table o es => rfl
            | _ => exact hn.elim
          exact hshape (isTable_layAll _ p es)
  | _ => rfl

/-- **What laying a value does** is its change, at each place. -/
theorem seen?_merged (e : Option Node) (v : Node) (path : List String) :
    seen? path (merged e v) = (changeAt path v).apply (e.bind (seen? path)) := by
  induction path generalizing e v with
  | nil =>
      rw [seen?, shape_merged]
      cases e <;> rfl
  | cons k path ih =>
      -- a table lays its values of one name one after the other, and each of them by the hypothesis
      have hsettle : ∀ (e : Option Node) (vs : List Node), (settle e vs).bind (seen? path) =
          (Change.all (vs.map (changeAt path))).apply (e.bind (seen? path)) := by
        intro e vs
        induction vs generalizing e with
        | nil => rfl
        | cons v vs ihvs =>
            rw [settle, List.foldl_cons, ← settle, ihvs, List.map_cons, Change.all_cons,
              Change.apply_andThen, ← ih]
            rfl
      have hbefore : ((e.getD empty).entries.lookup k).bind (seen? path) =
          e.bind (seen? (k :: path)) := by
        cases e <;> rfl
      cases v with
      | table o es =>
          show ((layAll (e.getD empty) es).entries.lookup k).bind (seen? path) = _
          rw [lookup_entries_layAll, hsettle, hbefore]
          rfl
      | _ => rfl

/-! ### Names -/

theorem tableAt?_cons : tableAt? (k :: path) n = (n.entries.lookup k).bind (tableAt? path) := by
  cases n <;> rfl

/-- A table at a place has no name twice. -/
def TidyAt (path : List String) (e : Option Node) : Prop :=
  ∀ es, e.bind (tableAt? path) = some es → (es.map (·.1)).Nodup

/-- Where it has entries, a value has them as a table. -/
theorem tableAt?_nil_iff : tableAt? [] n = some es ↔ n.IsTable ∧ n.entries = es := by
  cases n <;> simp [tableAt?, IsTable, entries]

theorem TidyAt.nodup_entries (h : TidyAt [] e) : (((e.getD empty).entries).map (·.1)).Nodup := by
  cases e with
  | none => exact .nil
  | some n =>
      cases n with
      | table o es => exact h es rfl
      | _ => exact .nil

theorem tidyAt_cons : TidyAt (k :: path) e ↔ TidyAt path (e.bind (·.entries.lookup k)) := by
  simp only [TidyAt, Option.bind_assoc, tableAt?_cons]

/-- **No table has a name twice** after a value was laid over a tree in which none has. -/
theorem TidyAt.merged (h : TidyAt path e) (v : Node) : TidyAt path (some (merged e v)) := by
  induction path generalizing e v with
  | nil =>
      intro es hes
      obtain ⟨htable, rfl⟩ := tableAt?_nil_iff.mp hes
      cases v with
      | table o incoming => exact nodup_entries_layAll h.nodup_entries
      | _ => exact htable.elim
  | cons k path ih =>
      have hsettle : ∀ {e vs}, TidyAt path e → TidyAt path (settle e vs) := by
        intro e vs he
        induction vs generalizing e with
        | nil => exact he
        | cons v vs ihvs => exact ihvs (ih he v)
      cases v with
      | table o incoming =>
          have hbefore : e.bind (·.entries.lookup k) = (e.getD empty).entries.lookup k := by
            cases e <;> rfl
          rw [tidyAt_cons] at h ⊢
          show TidyAt path ((layAll (e.getD empty) incoming).entries.lookup k)
          rw [lookup_entries_layAll, ← hbefore]
          exact hsettle h
      | _ => exact fun es hes => nomatch hes

/-! ### The same value from another file -/

theorem shape_blind (n : Node) : n.blind.shape = n.shape := by
  cases n with
  | array o items => exact congrArg Shape.array (blindItems_blindItems items)
  | _ => rfl

theorem valuesOf_blindEntries : valuesOf k (blindEntries es) = (valuesOf k es).map blind := by
  rw [blindEntries_eq_map, valuesOf, valuesOf, List.filterMap_map, List.map_filterMap]
  refine List.filterMap_congr fun e _ => ?_
  simp only [Function.comp_apply]
  split <;> rfl

/-- **What a value changes** has to do with no file. -/
theorem changesAt_blind (path : List String) (n : Node) :
    changesAt path n.blind = changesAt path n := by
  induction path generalizing n with
  | nil =>
      cases n with
      | table o es => cases es <;> rfl
      | array o items => exact congrArg (fun s => [Change.put (some s)]) (shape_blind _)
      | _ => rfl
  | cons k path ih =>
      cases n with
      | table o es =>
          rw [blind, changesAt, changesAt, valuesOf_blindEntries, List.flatMap_map]
          exact congrArg List.flatten (List.map_congr_left fun v _ => ih v)
      | _ => rfl

end VirtEnv.Settings.Node
