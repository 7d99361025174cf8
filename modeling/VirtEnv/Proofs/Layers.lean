import Mathlib.Data.List.TakeWhile
import VirtEnv.Proofs.Orders
import VirtEnv.Proofs.Results
import VirtEnv.Settings.Search

/-!
# Layers — files laid over settings

A file is a row of entries that are laid over the settings, once a key that is a path is replaced by
tables within tables (`Node.layKey_eq_lay`).  The exception are paths that go into an array.  So what
files come to is the tree with their entries laid over it, and a file that is malformed makes all of
them useless (`foldlM_layFile_eq_ok_iff`).

* `seen?_layers`: what is seen at a place after files were laid, from the change of each file.
* `tidyAt_layers`: no table gets a name twice.
* `SourceFile.reordered_of_text`: files with one text do the same, in one order or another.
-/

namespace VirtEnv.Settings

open Node (PathStep layAll lay Change TidyAt Reordered seen?)

/-! ### Paths of names -/

namespace Node

variable {root v w : Node} {e : String × Node} {es : List (String × Node)} {key : String}
  {names : List String} {steps : List PathStep} {o : Option String}

/-- A value within tables of one name each. -/
def nest : List String → Node → Node
  | [], v => v
  | name :: names, v => .table none [(name, nest names v)]

/-- The name of a step into a table. -/
def PathStep.name? : PathStep → Option String
  | .child name => some name
  | .index _ => none

/-- The names along which a key of a file leads, the first apart.  There are none for a path that
goes into an array. -/
def names? (key : String) : Option (String × List String) :=
  match path? key with
  | some (name, steps) => (steps.mapM PathStep.name?).map (name, ·)
  | none => some (key, [])

/-- The entry that is laid like an entry of a file, whose key may be a path of names. -/
def spread (e : String × Node) : String × Node :=
  match names? e.1 with
  | some (name, names) => (name, nest names e.2)
  | none => e

theorem mapM_name?_eq_some : steps.mapM PathStep.name? = some names ↔ steps = names.map .child := by
  induction steps generalizing names with
  | nil => cases names <;> simp
  | cons step steps ih =>
      simp only [List.mapM_cons, Option.bind_eq_bind, Option.bind_eq_some_iff, ih, Option.pure_def,
        Option.some.injEq]
      cases step with
      | index i => cases names <;> simp [PathStep.name?]
      | child name =>
          constructor
          · rintro ⟨_, ⟨⟩, names', rfl, rfl⟩
            rfl
          · intro h
            cases names with
            | nil => cases h
            | cons name' names' => cases h; exact ⟨name, rfl, names', rfl, rfl⟩

/-- Along a path of names, tables within tables are laid. -/
theorem layAt_children (v : Node) (name : String) (names : List String) (root : Node) :
    layAt v (.child name :: names.map .child) root = lay name root (nest names v) := by
  induction names generalizing name root with
  | nil => rfl
  | cons name' names ih =>
      -- where there is nothing yet, the path makes tables on its way
      have hempty : ∀ w, lay name' .nothing w = lay name' empty w := by
        intro w
        rw [lay_eq, lay_eq]
        rfl
      rw [lay_eq]
      show modifyEntry (fun e => layAt v (.child name' :: names.map .child) (e.getD .nothing)) name
        root = _
      congr 1
      funext e
      rw [ih]
      cases e with
      | none => exact hempty _
      | some n => rfl

/-- **A key of a file** lays the entry that it stands for. -/
theorem layKey_eq_lay (h : (names? e.1).isSome = true) :
    root.layKey e.1 e.2 = lay (spread e).1 root (spread e).2 := by
  obtain ⟨⟨name, names⟩, hnames⟩ := Option.isSome_iff_exists.mp h
  rw [spread, hnames, layKey]
  unfold names? at hnames
  cases hpath : path? e.1 with
  | none =>
      rw [hpath] at hnames
      cases hnames
      rfl
  | some p =>
      rw [hpath] at hnames
      obtain ⟨names', hsteps, ⟨⟩⟩ := Option.map_eq_some_iff.mp hnames
      show layAt e.2 (.child p.1 :: p.2) root = _
      rw [mapM_name?_eq_some.mp hsteps, layAt_children]

theorem foldl_layKey (h : ∀ e ∈ es, (names? e.1).isSome = true) :
    es.foldl (fun root e => root.layKey e.1 e.2) root = layAll root (es.map spread) := by
  induction es generalizing root with
  | nil => rfl
  | cons e es ih =>
      obtain ⟨he, hes⟩ := List.forall_mem_cons.mp h
      rw [List.foldl_cons, layKey_eq_lay he, List.map_cons, layAll, ih hes]

/-- A plain key is a name. -/
theorem names?_of_plain (h : key.toList.all isPathChar = true) : names? key = some (key, []) := by
  have htake : key.toList.takeWhile isPathChar = key.toList :=
    List.takeWhile_eq_self_iff.mpr (List.all_eq_true.mp h)
  have hpath : path? key = none ∨ path? key = some (key, []) := by
    simp only [path?, htake, List.drop_length]
    split
    case isTrue => exact .inl rfl
    case isFalse => exact .inr (by simp [pathSteps?])
  rcases hpath with hpath | hpath <;> rw [names?, hpath]
  rfl

theorem spread_of_plain (h : e.1.toList.all isPathChar = true) : spread e = e := by
  rw [spread, names?_of_plain h]
  rfl

theorem blind_nest : (nest names v).blind = nest names v.blind := by
  induction names with
  | nil => rfl
  | cons name names ih => rw [nest, nest, blind, blindEntries, ih, blindEntries]

theorem map_spread_blindEntries : (blindEntries es).map spread = blindEntries (es.map spread) := by
  rw [blindEntries_eq_map, blindEntries_eq_map, List.map_map, List.map_map]
  refine List.map_congr_left fun e _ => ?_
  simp only [Function.comp_apply, spread]
  cases names? e.1 with
  | none => rfl
  | some p => exact congrArg (Prod.mk p.1) blind_nest.symm

theorem Reordered.nest (h : Reordered v w) : Reordered (nest names v) (nest names w) := by
  induction names with
  | nil => exact h
  | cons name names ih => exact .table (.cons ⟨rfl, ih⟩ .nil)

theorem Reordered.spread {es es' : List (String × Node)}
    (h : List.Forall₂ (fun e e' => e.1 = e'.1 ∧ Reordered e.2 e'.2) es es') :
    Reordered (.table o (es.map Node.spread)) (.table o (es'.map Node.spread)) := by
  refine .table (List.forall₂_map_left_iff.mpr (List.forall₂_map_right_iff.mpr (h.imp ?_)))
  rintro ⟨key, v⟩ ⟨_, w⟩ ⟨rfl, hvalue⟩
  simp only [Node.spread]
  cases names? key with
  | none => exact ⟨rfl, hvalue⟩
  | some p => exact ⟨rfl, hvalue.nest⟩

end Node

/-! ### Files -/

namespace SourceFile

/-- The table of a settings file, if it is well-formed. -/
def table? (f : SourceFile) : Option (List (String × Toml.Value)) :=
  f.text.bind Toml.parse?

/-- The values of a settings file, as they are written. -/
def tree (f : SourceFile) : Node := Node.ofToml (some f.name) (.table (f.table?.getD []))

/-- The entries of a settings file, in the order in which they are laid over the settings. -/
def entries (f : SourceFile) : List (String × Node) := (f.tree.arrange f.ranking []).entries

/-- No key at the top of a file goes into an array: it is a name, or a path of names. -/
def ByName (f : SourceFile) : Prop := ∀ e ∈ f.tree.entries, (Node.names? e.1).isSome = true

instance : DecidablePred ByName := fun _ => List.decidableBAll _ _

/-- The entries of a settings file with tables in place of paths. -/
def layers (f : SourceFile) : List (String × Node) := f.entries.map Node.spread

/-- What a file does at a place. -/
def changeAt (path : List String) (f : SourceFile) : Change :=
  Node.changeAt path (.table none f.layers)

/-- The entries of a settings file with tables in place of paths, as they are written. -/
def written (f : SourceFile) : List (String × Node) := f.tree.entries.map Node.spread

/-- No table of a file has two keys that are the same in lower case. -/
def KeysApart (f : SourceFile) : Prop := (Node.table none f.written).keysApart = true

instance : DecidablePred KeysApart := fun _ => inferInstanceAs (Decidable (_ = true))

variable {f g : SourceFile} {path : List String}

theorem tree_eq (f : SourceFile) :
    f.tree = .table (some f.name) (Node.ofEntries (some f.name) (f.table?.getD [])) := rfl

/-- In whatever order a file is laid, it has the keys that are written. -/
theorem forall_mem_entries (f : SourceFile) (P : String → Prop) :
    (∀ e ∈ f.entries, P e.1) ↔ ∀ e ∈ f.tree.entries, P e.1 := by
  have hkeys : ∀ (path : List String) (es : List (String × Node)),
      (Node.arrangeEntries f.ranking path es).map (·.1) = es.map (·.1) := by
    intro path es
    induction es with
    | nil => rfl
    | cons e es ih => rw [Node.arrangeEntries, List.map_cons, ih, List.map_cons]
  have hperm : (f.entries.map (·.1)).Perm (f.tree.entries.map (·.1)) :=
    ((Node.byRank_perm _ _).map _).trans (.of_eq (hkeys [] f.tree.entries))
  have hall : ∀ es : List (String × Node), (∀ e ∈ es, P e.1) ↔ ∀ key ∈ es.map (·.1), P key :=
    fun _ => List.forall_mem_map.symm
  rw [hall, hall]
  exact forall_congr' fun key => imp_congr_left hperm.mem_iff

/-- **Files with plain keys** at their top have no key that goes into an array. -/
theorem byName_of_plain (h : ∀ e ∈ f.entries, e.1.toList.all Node.isPathChar = true) :
    f.ByName := by
  intro e he
  rw [Node.names?_of_plain ((f.forall_mem_entries (·.toList.all Node.isPathChar = true)).mp h e he)]
  rfl

theorem layers_of_plain (h : ∀ e ∈ f.entries, e.1.toList.all Node.isPathChar = true) :
    f.layers = f.entries :=
  (List.map_congr_left fun e he => Node.spread_of_plain (h e he)).trans (List.map_id _)

/-! ### Files with one text -/

/-- A file does what is written, in one order or another. -/
theorem reordered_written (f : SourceFile) :
    Reordered (.table none f.written) (.table none f.layers) :=
  (Reordered.spread (Node.forall₂_arrangeEntries f.ranking [] f.tree.entries)).trans
    (.of_perm ((Node.byRank_perm _ _).symm.map _))

/-- **Files with one text** do the same, in one order or another. -/
theorem reordered_of_text (h : f.text = g.text) :
    Reordered (.table none f.layers) (.table none g.layers) := by
  have hblind : (Node.table none f.written).blind = (Node.table none g.written).blind := by
    rw [Node.blind, Node.blind, written, written, ← Node.map_spread_blindEntries,
      ← Node.map_spread_blindEntries, tree_eq, tree_eq, Node.entries, Node.entries,
      Node.blindEntries_ofEntries, Node.blindEntries_ofEntries, table?, table?, h]
  exact f.reordered_written.symm.trans ((Reordered.of_blind hblind).trans g.reordered_written)

/-- Files with one text change a place as strongly. -/
theorem strength_changeAt_of_text (h : f.text = g.text) (path : List String) :
    (f.changeAt path).strength = (g.changeAt path).strength :=
  (reordered_of_text h).strength_eq path

/-- **Where keys are apart**, files with one text do the same. -/
theorem changeAt_of_text (h : f.text = g.text) (hkeys : f.KeysApart) :
    f.changeAt path = g.changeAt path := by
  have hf := f.reordered_written
  rw [changeAt, changeAt, ← hf.changeAt_eq hkeys]
  exact (hf.trans (reordered_of_text h)).changeAt_eq hkeys path

end SourceFile

/-! ### Files laid over a tree -/

variable {f : SourceFile} {root n : Node} {path : List String} {files : List SourceFile}

/-- **A file is laid** if it is well-formed, and then its entries are. -/
theorem layFile_eq_ok_iff (h : f.ByName) :
    layFile root f = .ok n ↔ f.table?.isSome = true ∧ n = layAll root f.layers := by
  have hfold : f.entries.foldl (fun root e => root.layKey e.1 e.2) root = layAll root f.layers :=
    Node.foldl_layKey ((f.forall_mem_entries fun key => (Node.names? key).isSome = true).mpr h)
  rw [← hfold, SourceFile.entries, SourceFile.tree, SourceFile.table?, layFile]
  cases f.text with
  | none => simp
  | some text =>
      cases hparse : Toml.parse? text with
      | none => simp [hparse]
      | some table => simp [hparse, Node.layFile, eq_comm]

/-- **Files are laid** if all of them are well-formed, and then the entries of all are. -/
theorem foldlM_layFile_eq_ok_iff (h : ∀ f ∈ files, f.ByName) :
    files.foldlM layFile root = .ok n ↔
      (∀ f ∈ files, f.table?.isSome = true) ∧ n = layAll root (files.flatMap (·.layers)) := by
  induction files generalizing root with
  | nil =>
      rw [List.foldlM_nil, List.flatMap_nil, layAll]
      exact ⟨fun h => ⟨List.forall_mem_nil _, (Except.ok.inj h).symm⟩,
        fun h => congrArg Except.ok h.2.symm⟩
  | cons f files ih =>
      obtain ⟨hf, hfiles⟩ := List.forall_mem_cons.mp h
      simp only [List.foldlM_cons, bind_eq_ok, layFile_eq_ok_iff hf, ih hfiles,
        List.forall_mem_cons, List.flatMap_cons, Node.layAll_append]
      constructor
      · rintro ⟨_, ⟨hwell, rfl⟩, hrest, hn⟩
        exact ⟨⟨hwell, hrest⟩, hn⟩
      · rintro ⟨⟨hwell, hrest⟩, hn⟩
        exact ⟨_, ⟨hwell, rfl⟩, hrest, hn⟩

/-- **What is seen at a place** after files were laid. -/
theorem seen?_layers (root : Node) (files : List SourceFile) (path : List String) :
    seen? path (layAll root (files.flatMap (·.layers))) =
      (Change.all (files.map (·.changeAt path))).apply (seen? path root) := by
  induction files generalizing root with
  | nil => rfl
  | cons f files ih =>
      have hfirst := Node.seen?_merged (some root) (.table none f.layers) path
      rw [List.flatMap_cons, Node.layAll_append, ih, List.map_cons, Change.all_cons,
        Change.apply_andThen]
      exact congrArg _ hfirst

theorem tidyAt_layers (h : TidyAt path (some root)) (files : List SourceFile) :
    TidyAt path (some (layAll root (files.flatMap (·.layers)))) := by
  induction files generalizing root with
  | nil => exact h
  | cons f files ih =>
      rw [List.flatMap_cons, Node.layAll_append]
      exact ih (h.merged (.table none f.layers))

end VirtEnv.Settings
