import VirtEnv.Proofs.Names
import VirtEnv.Settings.Layer

/-!
# Overlay — a tree of settings after entries were laid over it

Laying entries over a table changes what is found under each name independently of the others: it
is what was there with the values of that name laid over it, one after the other (`Node.settle`).
Under a name that is only given tables, laying goes on inside (`Node.tableAt?_layAll`).  Any other
value takes the place of what was there, and so does a table for which there was none, but for an
empty one: laying it over a value changes nothing (`Node.settle_alike`).

* `Node.lookup_layAll`: what is found under a name.
* `Node.tableAt?_layAll`: the table at the end of a path.
* `Node.settle_alike`: what a name holds in the end, up to what a table is.
-/

namespace VirtEnv.Settings.Node

variable {root v : Node} {e : Option Node} {o : Option String} {es before : List (String × Node)}
  {k key : String} {vs : List Node} {path : List String}

/-! ### One entry -/

/-- What stands under a name after `v` was laid over it. -/
def merged (e : Option Node) : Node → Node
  | .table _ incoming => layAll (e.getD empty) incoming
  | v => v

theorem lay_eq (key : String) (root v : Node) :
    lay key root v = modifyEntry (merged · v) key root := by
  cases v <;> rfl

theorem lookup_replace {f : Node} :
    (es.map fun e => if e.1 == key then (key, f) else e).lookup k =
      if k = key then (es.lookup k).map (fun _ => f) else es.lookup k := by
  induction es with
  | nil => simp
  | cons p es ih =>
      obtain ⟨name, n⟩ := p
      rw [List.map_cons]
      by_cases hname : name = key
      · subst hname
        rw [if_pos (beq_self_eq_true _), Table.lookup_cons, Table.lookup_cons, ih]
        split <;> rfl
      · rw [if_neg (mt beq_iff_eq.mp hname), Table.lookup_cons, Table.lookup_cons, ih]
        by_cases hk : k = name
        · rw [if_pos hk, if_pos hk, if_neg (fun heq => hname (hk.symm.trans heq))]
        · rw [if_neg hk, if_neg hk]

/-- **Changing an entry** changes what is found under its name only. -/
theorem lookup_modifyEntry (f : Option Node → Node) (key k : String) (o : Option String)
    (es : List (String × Node)) :
    (modifyEntry f key (.table o es)).entries.lookup k =
      if k = Text.lower key then some (f (es.lookup k)) else es.lookup k := by
  simp only [modifyEntry, entries]
  cases hlookup : es.lookup (Text.lower key) with
  | some w =>
      dsimp only
      rw [lookup_replace]
      split
      case isTrue hk => rw [hk, hlookup]; rfl
      case isFalse => rfl
  | none =>
      dsimp only
      rw [List.lookup_append, Table.lookup_cons]
      split
      case isTrue hk => rw [hk, hlookup]; rfl
      case isFalse => simp

theorem names_modifyEntry (f : Option Node → Node) (key : String) (o : Option String)
    (es : List (String × Node)) :
    (modifyEntry f key (.table o es)).entries.map (·.1) =
      if Table.has es (Text.lower key) then es.map (·.1) else es.map (·.1) ++ [Text.lower key] := by
  simp only [modifyEntry, entries]
  cases hlookup : es.lookup (Text.lower key) with
  | some w =>
      rw [if_pos (show Table.has es _ = true by rw [Table.has, hlookup]; rfl), List.map_map]
      refine List.map_congr_left fun e _ => ?_
      simp only [Function.comp_apply]
      split
      case isTrue hname => exact (beq_iff_eq.mp hname).symm
      case isFalse => rfl
  | none =>
      have hnew : ¬ Table.has es (Text.lower key) = true := by
        rw [Table.has, hlookup]
        exact Bool.false_ne_true
      rw [if_neg hnew, List.map_append, List.map_singleton]

theorem modifyEntry_table (f : Option Node → Node) (key : String) (o : Option String)
    (es : List (String × Node)) :
    ∃ es', modifyEntry f key (.table o es) = .table o es' := ⟨_, rfl⟩

/-! ### Many entries -/

/-- The values that entries give a name, which is compared in lower case. -/
def valuesOf (k : String) (es : List (String × Node)) : List Node :=
  es.filterMap fun e => if Text.lower e.1 = k then some e.2 else none

theorem valuesOf_cons (k : String) (e : String × Node) (es : List (String × Node)) :
    valuesOf k (e :: es) = if Text.lower e.1 = k then e.2 :: valuesOf k es else valuesOf k es := by
  by_cases hk : Text.lower e.1 = k <;> simp [valuesOf, hk]

/-- What stands under a name after values were laid over it. -/
def settle (e : Option Node) (vs : List Node) : Option Node :=
  vs.foldl (fun e v => some (merged e v)) e

theorem layAll_append (root : Node) (es es' : List (String × Node)) :
    layAll root (es ++ es') = layAll (layAll root es) es' := by
  induction es generalizing root with
  | nil => rfl
  | cons p es ih => simp only [List.cons_append, layAll, ih]

/-- **Laying entries over a table** settles what is under each name. -/
theorem lookup_layAll (k : String) (o : Option String) (before es : List (String × Node)) :
    (layAll (.table o before) es).entries.lookup k = settle (before.lookup k) (valuesOf k es) := by
  induction es generalizing before with
  | nil => rfl
  | cons p es ih =>
      obtain ⟨name, v⟩ := p
      have hfirst := lookup_modifyEntry (merged · v) name k o before
      obtain ⟨before', htable⟩ := modifyEntry_table (merged · v) name o before
      rw [layAll, lay_eq, htable, ih]
      rw [htable] at hfirst
      have hbefore : before'.lookup k = _ := hfirst
      rw [hbefore]
      by_cases hk : k = Text.lower name
      · simp [valuesOf, settle, hk]
      · simp [valuesOf, settle, hk, Ne.symm hk]

theorem layAll_table (o : Option String) (before es : List (String × Node)) :
    ∃ es', layAll (.table o before) es = .table o es' := by
  induction es generalizing before with
  | nil => exact ⟨before, rfl⟩
  | cons p es ih =>
      obtain ⟨before', htable⟩ := modifyEntry_table (merged · p.2) p.1 o before
      rw [layAll, lay_eq, htable]
      exact ih before'

theorem isSome_settle : (settle e vs).isSome = (e.isSome || !vs.isEmpty) := by
  induction vs generalizing e with
  | nil => simp [settle]
  | cons v vs ih =>
      rw [settle, List.foldl_cons, ← settle, ih]
      simp

/-- The names of a table that entries were laid over. -/
theorem mem_names_layAll :
    k ∈ (layAll (.table o before) es).entries.map (·.1) ↔
      k ∈ before.map (·.1) ∨ ∃ e ∈ es, Text.lower e.1 = k := by
  rw [← Table.has_iff, Table.has, lookup_layAll, isSome_settle, Bool.or_eq_true, ← Table.has,
    Table.has_iff]
  refine or_congr_right ?_
  simp [valuesOf]

/-- No name is there twice in the end if none was. -/
theorem nodup_layAll (h : (before.map (·.1)).Nodup) :
    ((layAll (.table o before) es).entries.map (·.1)).Nodup := by
  induction es generalizing before with
  | nil => exact h
  | cons p es ih =>
      have hnames := names_modifyEntry (merged · p.2) p.1 o before
      obtain ⟨before', htable⟩ := modifyEntry_table (merged · p.2) p.1 o before
      rw [layAll, lay_eq, htable]
      rw [htable] at hnames
      refine ih ?_
      rw [show before'.map (·.1) = _ from hnames]
      split
      case isTrue => exact h
      case isFalse hnew =>
        rw [← List.concat_eq_append, List.nodup_concat]
        exact ⟨fun hmem => hnew (Table.has_iff.mpr hmem), h⟩

/-! ### Tables within tables -/

/-- A table, whatever is in it. -/
def IsTable : Node → Prop
  | .table _ _ => True
  | _ => False

instance : DecidablePred IsTable
  | .table _ _ => .isTrue trivial
  | .nothing | .scalar _ _ | .array _ _ => .isFalse id

/-- The entries of the tables that entries give a name. -/
def under (k : String) (es : List (String × Node)) : List (String × Node) :=
  (valuesOf k es).flatMap entries

/-- The entries that entries give at the end of a path. -/
def entriesAt : List String → List (String × Node) → List (String × Node)
  | [], es => es
  | k :: path, es => entriesAt path (under k es)

/-- The names of a path are given tables only. -/
def TablesAt : List String → List (String × Node) → Prop
  | [], _ => True
  | k :: path, es => (∀ v ∈ valuesOf k es, v.IsTable) ∧ TablesAt path (under k es)

instance decidableTablesAt : (path : List String) → (es : List (String × Node)) →
    Decidable (TablesAt path es)
  | [], _ => .isTrue trivial
  | k :: path, es =>
      haveI := decidableTablesAt path (under k es)
      inferInstanceAs (Decidable (_ ∧ _))

section

variable {α : Type} {f : α → List (String × Node)} {xs : List α}

theorem valuesOf_flatMap : valuesOf k (xs.flatMap f) = xs.flatMap fun x => valuesOf k (f x) :=
  List.filterMap_flatMap ..

theorem under_flatMap : under k (xs.flatMap f) = xs.flatMap fun x => under k (f x) := by
  rw [under, valuesOf_flatMap, List.flatMap_assoc]
  rfl

theorem entriesAt_flatMap :
    entriesAt path (xs.flatMap f) = xs.flatMap fun x => entriesAt path (f x) := by
  induction path generalizing f with
  | nil => rfl
  | cons k path ih => rw [entriesAt, under_flatMap, ih]; rfl

theorem tablesAt_flatMap (h : ∀ x ∈ xs, TablesAt path (f x)) : TablesAt path (xs.flatMap f) := by
  induction path generalizing f with
  | nil => trivial
  | cons k path ih =>
      refine ⟨?_, ?_⟩
      · rw [valuesOf_flatMap]
        intro v hv
        obtain ⟨x, hx, hv⟩ := List.mem_flatMap.mp hv
        exact (h x hx).1 v hv
      · rw [under_flatMap]
        exact ih fun x hx => (h x hx).2

end

/-- The entries at the end of a path of tables. -/
def tableAt? : List String → Node → Option (List (String × Node))
  | [], .table _ es => some es
  | k :: path, .table _ es => (es.lookup k).bind (tableAt? path)
  | _, _ => none

theorem settle_tables (h : ∀ v ∈ vs, v.IsTable) :
    settle (some (.table o before)) vs =
      some (layAll (.table o before) (vs.flatMap entries)) := by
  induction vs generalizing before with
  | nil => rfl
  | cons v vs ih =>
      obtain ⟨hv, hvs⟩ := List.forall_mem_cons.mp h
      cases v with
      | table o' incoming =>
          obtain ⟨before', hbefore⟩ := layAll_table o before incoming
          have hmerged : merged (some (.table o before)) (.table o' incoming) =
              .table o before' := hbefore
          rw [settle, List.foldl_cons, ← settle, hmerged, ih hvs, List.flatMap_cons,
            layAll_append, entries, hbefore]
      | _ => exact hv.elim

/-- **Laying entries over a tree of tables** lays them over the tables in it, each with the entries
that they give at its path. -/
theorem tableAt?_layAll {es₀ : List (String × Node)}
    (hbase : tableAt? path (.table o before) = some es₀) (h : TablesAt path es) :
    ∃ o', tableAt? path (layAll (.table o before) es) =
      some (layAll (.table o' es₀) (entriesAt path es)).entries := by
  induction path generalizing o before es with
  | nil =>
      obtain ⟨es', htable⟩ := layAll_table o before es
      refine ⟨o, ?_⟩
      cases hbase
      rw [entriesAt, htable]
      rfl
  | cons k path ih =>
      obtain ⟨hk, hpath⟩ := h
      obtain ⟨child, hchild, hbase⟩ := Option.bind_eq_some_iff.mp hbase
      cases child with
      | table oc ec =>
          obtain ⟨es', htable⟩ := layAll_table o before es
          have hlookup := lookup_layAll k o before es
          rw [hchild, settle_tables hk, htable] at hlookup
          obtain ⟨o', ho'⟩ := ih hbase hpath
          refine ⟨o', ?_⟩
          rw [htable, tableAt?, show es'.lookup k = _ from hlookup]
          exact ho'
      | _ => cases path <;> cases hbase

/-! ### What comes last -/

/-- A table without entries. -/
def isEmptyTable : Node → Bool
  | .table _ [] => true
  | _ => false

/-- The value that a name is given last, after another one.  A table without entries counts only
for a name that is not set yet. -/
def later (isSet : Bool) (last : Option Node) (v : Node) : Option Node :=
  if v.isEmptyTable && (isSet || last.isSome) then last else some v

/-- The value that a name is given last. -/
def lastSet (isSet : Bool) (vs : List Node) : Option Node := vs.foldl (later isSet) none

/-- The same value, or two tables. -/
def Alike (n n' : Node) : Prop := n = n' ∨ n.IsTable ∧ n'.IsTable

theorem isTable_layAll (n : Node) (p : String × Node) (es : List (String × Node)) :
    (layAll n (p :: es)).IsTable := by
  rw [layAll, lay_eq]
  obtain ⟨o, es', hfirst⟩ : ∃ o es', modifyEntry (merged · p.2) p.1 n = .table o es' := by
    cases n <;> exact ⟨_, _, rfl⟩
  obtain ⟨es'', hall⟩ := layAll_table o es' es
  rw [hfirst, hall]
  trivial

/-- One value laid over what is there is one more value that is given. -/
theorem merged_alike {now last : Option Node} (h : Option.Rel Alike now (last.or e)) (v : Node) :
    Option.Rel Alike (some (merged now v)) ((later e.isSome last v).or e) := by
  have hreplaced : ∀ n, ¬ n.isEmptyTable = true → later e.isSome last n = some n := by
    intro n hn
    simp [later, hn]
  match v with
  | .table o (p :: es) =>
      rw [hreplaced (.table o (p :: es)) Bool.false_ne_true]
      exact .some (.inr ⟨isTable_layAll _ p es, trivial⟩)
  | .table o [] =>
      -- laying an empty table over a value leaves it as it is
      cases now with
      | some n =>
          have hset : (e.isSome || last.isSome) = true := by
            cases last <;> cases e <;> first | rfl | cases h
          rwa [later, isEmptyTable, hset]
      | none =>
          have hunset : (e.isSome || last.isSome) = false := by
            cases last <;> cases e <;> first | rfl | cases h
          rw [later, hunset]
          exact .some (.inr ⟨trivial, trivial⟩)
  | .nothing => exact hreplaced .nothing Bool.false_ne_true ▸ .some (.inl rfl)
  | .scalar o v => exact hreplaced (.scalar o v) Bool.false_ne_true ▸ .some (.inl rfl)
  | .array o items => exact hreplaced (.array o items) Bool.false_ne_true ▸ .some (.inl rfl)

/-- **What a name holds in the end** is what it was given last, or what was there, up to what a
table is. -/
theorem settle_alike (e : Option Node) (vs : List Node) :
    Option.Rel Alike (settle e vs) ((lastSet e.isSome vs).or e) := by
  have hstart : Option.Rel Alike e ((none : Option Node).or e) := by
    cases e with
    | none => exact .none
    | some n => exact .some (.inl rfl)
  -- after each value the name holds what counted last so far, or what was there before all of them
  suffices h : ∀ now last, Option.Rel Alike now (last.or e) →
      Option.Rel Alike (settle now vs) ((vs.foldl (later e.isSome) last).or e) from
    h e none hstart
  induction vs with
  | nil => exact fun _ _ h => h
  | cons v vs ih => exact fun now last h => ih _ _ (merged_alike h v)

end VirtEnv.Settings.Node
