import VirtEnv.Proofs.Leaves
import VirtEnv.Proofs.Repeats

/-!
# Precedence — settings from files, of which the last one counts

The files are laid over the built-in settings one after the other, so what is read in the end is
the tree with the entries of all files laid over it (`foldlM_layFile`).  Where the sections are
tables, each setting comes to the value that it is given last, whatever the earlier ones were, and
to the built-in one if no file gives it a value; a name that is unknown in one file is still there
in the end.

A table without entries is the exception: over a setting that has a value it counts for nothing.
And of two keys of a table that are the same in lower case the one comes last that is gone through
last, in an order that is not known.

* `readAs_settle`: what a name holds in the end is read as what is given last.
* `typedAs_laid`, `exists_typedAs_laid`: what the built-in settings with files over them come to,
  and when they come to something.
* `settings_layered`: settings from any well-shaped files.
-/

namespace VirtEnv.Settings

open Node (tableAt? entriesAt TablesAt lastSet valuesOf settle layAll)

/-! ### Files -/

/-- A well-formed settings file with plain keys at its top, in which every section is a table. -/
structure SourceFile.WellShaped (f : SourceFile) : Prop where
  wellFormed : f.table?.isSome = true
  plain : ∀ e ∈ f.entries, e.1.toList.all Node.isPathChar = true
  tables : ∀ path ∈ sections, TablesAt path f.entries

instance : DecidablePred SourceFile.WellShaped := fun f =>
  decidable_of_iff
    (f.table?.isSome = true ∧ (∀ e ∈ f.entries, e.1.toList.all Node.isPathChar = true) ∧
      ∀ path ∈ sections, TablesAt path f.entries)
    ⟨fun ⟨h, h', h''⟩ => ⟨h, h', h''⟩, fun ⟨h, h', h''⟩ => ⟨h, h', h''⟩⟩

/-- The entries that files give a section, those of the first file first. -/
def given (files : List SourceFile) (path : List String) : List (String × Node) :=
  files.flatMap fun f => entriesAt path f.entries

/-- The value that files give a name in a section last.  A table without entries counts only for a
name that has no value yet, neither from an earlier file nor, if `isSet`, without any. -/
def lastGiven (files : List SourceFile) (isSet : Bool) (path : List String) (name : String) :
    Option Node :=
  lastSet isSet (valuesOf name (given files path))

/-! ### What files come to -/

section

variable {α : Type}

/-- A value, if there is one, can be converted. -/
def Convertible (read : Located → Typed α) (last : Option Node) : Prop :=
  ∀ v, last = some v → ∃ a, read ⟨"", v⟩ = .ok a

/-- What a value is converted to; without one, what was there before. -/
def chosen (read : Located → Typed α) (last : Option Node) (before : Option α) : Option α :=
  match last with
  | some v => (read ⟨"", v⟩).toOption
  | none => before

end

/-- Files that settings can be made of: no key is unknown to its section, and of every setting the
value that is given last can be converted to its type. -/
structure Usable (before : Settings) (files : List SourceFile) : Prop where
  known : ∀ table ∈ closedTables, ∀ e ∈ given files table.1, Text.lower e.1 ∈ table.2
  leaves : ∀ leaf ∈ leaves, Convertible leaf.kind.read (lastGiven files true leaf.group leaf.name)
  aliases : ∀ name, Convertible Located.asText
    (lastGiven files (before.machineAliases.has name) aliasesPath name)

/-- The settings that files come to: each is the value that is given last, or what it was before if
none is. -/
structure Overlaid (before : Settings) (files : List SourceFile) (s : Settings) : Prop where
  leaves : ∀ leaf ∈ leaves, some (leaf.get s) =
    chosen leaf.kind.read (lastGiven files true leaf.group leaf.name) (some (leaf.get before))
  sorted : s.machineAliases.Sorted
  aliases : ∀ name, s.machineAliases.lookup name =
    chosen Located.asText (lastGiven files (before.machineAliases.has name) aliasesPath name)
      (before.machineAliases.lookup name)

/-! ### Laying files -/

variable {root node : Node} {o : Option String} {es : List (String × Node)}
  {files : List SourceFile} {before s : Settings} {path : List String}

theorem SourceFile.WellShaped.byName {f : SourceFile} (h : f.WellShaped) : f.ByName :=
  SourceFile.byName_of_plain h.plain

/-- The layers of a well-shaped file are its entries. -/
theorem SourceFile.WellShaped.layers_eq {f : SourceFile} (h : f.WellShaped) :
    f.layers = f.entries :=
  SourceFile.layers_of_plain h.plain

/-- Well-shaped files are laid entry by entry. -/
theorem foldlM_layFile (h : ∀ f ∈ files, f.WellShaped) :
    files.foldlM layFile root = .ok (layAll root (files.flatMap SourceFile.entries)) := by
  have hlayers : files.flatMap SourceFile.layers = files.flatMap SourceFile.entries :=
    List.flatMap_congr fun f hf => (h f hf).layers_eq
  rw [foldlM_layFile_eq_ok_iff fun f hf => (h f hf).byName, hlayers]
  exact ⟨fun f hf => (h f hf).wellFormed, rfl⟩

theorem given_eq : given files path = entriesAt path (files.flatMap SourceFile.entries) :=
  Node.entriesAt_flatMap.symm

/-! ### The sections -/

/-- A section is laid by the entries that are given to it. -/
theorem tableAt?_layAll_of_grouped (hnode : Grouped node) (hpath : path ∈ sections)
    (h : TablesAt path es) :
    ∃ o, tableAt? path (layAll node es) =
      some (layAll (.table o (tableAt path node)) (entriesAt path es)).entries := by
  obtain ⟨before, hbefore⟩ := Option.isSome_iff_exists.mp (hnode.tables path hpath)
  cases node with
  | table o es₀ =>
      rw [tableAt, hbefore]
      exact Node.tableAt?_layAll hbefore h
  | _ => cases path <;> cases hbefore

/-- A setting is settled by the values that are given to it. -/
theorem lookup_tableAt_layAll (hnode : Grouped node) (hpath : path ∈ sections)
    (h : TablesAt path es) (name : String) :
    (tableAt path (layAll node es)).lookup name =
      settle ((tableAt path node).lookup name) (valuesOf name (entriesAt path es)) := by
  obtain ⟨o, htable⟩ := tableAt?_layAll_of_grouped hnode hpath h
  rw [tableAt, htable]
  exact Node.lookup_layAll ..

/-- The names in a section are known if they were before and those that are given are. -/
theorem onlyNames_layAll {names : List String} (hnode : Grouped node) (hpath : path ∈ sections)
    (h : TablesAt path es) (hnames : OnlyNames names (tableAt path node)) :
    OnlyNames names (tableAt path (layAll node es)) ↔
      ∀ e ∈ entriesAt path es, Text.lower e.1 ∈ names := by
  have honly : ∀ es : List (String × Node),
      OnlyNames names es ↔ ∀ k ∈ es.map (·.1), k ∈ names := by
    intro es
    simp [OnlyNames]
  obtain ⟨o, htable⟩ := tableAt?_layAll_of_grouped hnode hpath h
  rw [tableAt, htable, Option.getD_some, honly]
  rw [honly] at hnames
  constructor
  · exact fun hall e he => hall _ (Node.mem_names_layAll.mpr (.inr ⟨e, he, rfl⟩))
  · intro hall k hk
    obtain hk | ⟨e, he, rfl⟩ := Node.mem_names_layAll.mp hk
    · exact hnames k hk
    · exact hall e he

/-- **Laying entries** keeps the shape of a tree of settings. -/
theorem Grouped.layAll (hnode : Grouped node) (h : ∀ path ∈ sections, TablesAt path es) :
    Grouped (layAll node es) := by
  have haliases : aliasesPath ∈ sections := List.mem_cons_self
  have hvm : ["vm", "defaults"] ∈ sections := by decide
  refine ⟨fun path hpath => ?_, ?_, ?_⟩
  · obtain ⟨o, htable⟩ := tableAt?_layAll_of_grouped hnode hpath (h path hpath)
    rw [htable]
    rfl
  · obtain ⟨o, htable⟩ := tableAt?_layAll_of_grouped hnode haliases (h _ haliases)
    rw [tableAt, htable]
    exact Node.nodup_layAll hnode.nodup
  · rw [lookup_tableAt_layAll hnode hvm (h _ hvm), Node.isSome_settle, hnode.optional]
    rfl

/-! ### The values -/

section

variable {α : Type} {read : Located → Typed α} {e : Option Node} {vs : List Node} {x x₀ : Option α}

/-- A reader reads no table. -/
def TableFree (read : Located → Typed α) : Prop := ∀ k o es a, read ⟨k, .table o es⟩ ≠ .ok a

theorem tableFree_asText : TableFree Located.asText := fun _ _ _ _ h => nomatch h

/-- No kind of setting is read from a table. -/
theorem Kind.tableFree (kind : Kind) : TableFree kind.read := by
  intro k o es a h
  cases kind <;> cases h

theorem readAs_some {n : Node} :
    ReadAs read (some n) x ↔ ∃ a, read ⟨"", n⟩ = .ok a ∧ x = some a := by
  constructor
  · intro h
    cases h with
    | some h => exact ⟨_, h, rfl⟩
  · rintro ⟨a, h, rfl⟩
    exact .some h

/-- What is read of values that are alike is the same. -/
theorem readAs_congr (hread : TableFree read) {e' : Option Node} (h : Option.Rel Node.Alike e e') :
    ReadAs read e x ↔ ReadAs read e' x := by
  have htable : ∀ {n : Node}, n.IsTable → ¬ ReadAs read (some n) x := by
    intro n hn h
    obtain ⟨a, ha, -⟩ := readAs_some.mp h
    cases n with
    | table o es => exact hread _ _ _ _ ha
    | _ => exact hn
  cases h with
  | none => exact Iff.rfl
  | some h =>
      obtain rfl | ⟨hn, hn'⟩ := h
      · exact Iff.rfl
      · exact iff_of_false (htable hn) (htable hn')

/-- **What a name holds in the end** is read as what is given last is converted to, or as what was
there before. -/
theorem readAs_settle (hread : TableFree read) (h : ReadAs read e x₀) :
    ReadAs read (settle e vs) x ↔
      Convertible read (lastSet x₀.isSome vs) ∧ x = chosen read (lastSet x₀.isSome vs) x₀ := by
  have hset : e.isSome = x₀.isSome := by cases h <;> rfl
  rw [readAs_congr hread (Node.settle_alike e vs), hset]
  -- what is there in the end is what counted last, up to tables, and no table is read
  cases lastSet x₀.isSome vs with
  | none =>
      constructor
      · exact fun hx => ⟨nofun, hx.eq h⟩
      · rintro ⟨-, rfl⟩
        exact h
  | some v =>
      show ReadAs read (some v) x ↔ _
      rw [readAs_some]
      constructor
      · rintro ⟨a, ha, rfl⟩
        refine ⟨fun _ hv => ?_, ?_⟩
        · cases hv
          exact ⟨a, ha⟩
        · rw [chosen, ha]
          rfl
      · rintro ⟨hconvertible, rfl⟩
        obtain ⟨a, ha⟩ := hconvertible v rfl
        refine ⟨a, ha, ?_⟩
        rw [chosen, ha]
        rfl

end

/-! ### The laid files -/

/-- A tree with files laid over it. -/
def laid (node : Node) (files : List SourceFile) : Node :=
  layAll node (files.flatMap SourceFile.entries)

section

variable (hnode : Grouped node) (htyped : TypedAs node before) (h : ∀ f ∈ files, f.WellShaped)

include h in
theorem tablesAt_entries (hpath : path ∈ sections) :
    TablesAt path (files.flatMap SourceFile.entries) :=
  Node.tablesAt_flatMap fun f hf => (h f hf).tables path hpath

include hnode h in
theorem grouped_laid : Grouped (laid node files) := hnode.layAll fun _ => tablesAt_entries h

include hnode htyped h

/-- The names in a section are known exactly if all names that the files give it are. -/
theorem onlyNames_laid {table : List String × List String} (htable : table ∈ closedTables) :
    OnlyNames table.2 (tableAt table.1 (laid node files)) ↔
      ∀ e ∈ given files table.1, Text.lower e.1 ∈ table.2 := by
  have hpath : table.1 ∈ sections := List.mem_cons_of_mem _ (List.mem_map_of_mem htable)
  rw [laid, onlyNames_layAll hnode hpath (tablesAt_entries h hpath) (htyped.names table htable),
    given_eq]

omit htyped in
/-- What is read of a setting is what was given last, or what was there before. -/
theorem readAs_laid {α : Type} {read : Located → Typed α} {x x₀ : Option α} {name : String}
    (hread : TableFree read) (hpath : path ∈ sections)
    (hbefore : ReadAs read ((tableAt path node).lookup name) x₀) :
    ReadAs read ((tableAt path (laid node files)).lookup name) x ↔
      Convertible read (lastGiven files x₀.isSome path name) ∧
        x = chosen read (lastGiven files x₀.isSome path name) x₀ := by
  rw [laid, lookup_tableAt_layAll hnode hpath (tablesAt_entries h hpath),
    readAs_settle hread hbefore, lastGiven, given_eq]

/-- So it is for each of the settings with a name of its own. -/
theorem holds_laid {leaf : Leaf} (hleaf : leaf ∈ leaves) {d : Datum} :
    Holds (tableAt leaf.group (laid node files)) leaf.name leaf.kind.read d ↔
      Convertible leaf.kind.read (lastGiven files true leaf.group leaf.name) ∧
        some d = chosen leaf.kind.read (lastGiven files true leaf.group leaf.name)
          (some (leaf.get before)) := by
  have hpath : ∀ leaf ∈ leaves, leaf.group ∈ sections := by decide
  rw [holds_iff_readAs]
  exact readAs_laid hnode h leaf.kind.tableFree (hpath leaf hleaf)
    (holds_iff_readAs.mp (htyped.leaves leaf hleaf))

/-- And for each alias. -/
theorem alias_laid {name : String} {x : Option String} :
    ReadAs Located.asText ((tableAt aliasesPath (laid node files)).lookup name) x ↔
      Convertible Located.asText
          (lastGiven files (before.machineAliases.has name) aliasesPath name) ∧
        x = chosen Located.asText
          (lastGiven files (before.machineAliases.has name) aliasesPath name)
          (before.machineAliases.lookup name) :=
  readAs_laid hnode h tableFree_asText List.mem_cons_self (htyped.aliases.lookup name)

/-- **A tree that files were laid over** is typed as settings if the files are usable and the
settings are what they come to. -/
theorem typedAs_laid :
    TypedAs (laid node files) s ↔ Usable before files ∧ Overlaid before files s := by
  constructor
  · rintro ⟨hn, hl, ht⟩
    have hread := fun leaf hleaf => (holds_laid hnode htyped h hleaf).mp (hl leaf hleaf)
    have haliases := fun name => (alias_laid hnode htyped h).mp (ht.lookup name)
    exact ⟨⟨fun table htable => (onlyNames_laid hnode htyped h htable).mp (hn table htable),
        fun leaf hleaf => (hread leaf hleaf).1, fun name => (haliases name).1⟩,
      ⟨fun leaf hleaf => (hread leaf hleaf).2, ht.sorted, fun name => (haliases name).2⟩⟩
  · rintro ⟨⟨hn, hl, ht⟩, ⟨hl', hsorted, ht'⟩⟩
    exact ⟨fun table htable => (onlyNames_laid hnode htyped h htable).mpr (hn table htable),
      fun leaf hleaf => (holds_laid hnode htyped h hleaf).mpr ⟨hl leaf hleaf, hl' leaf hleaf⟩,
      hsorted, fun name => (alias_laid hnode htyped h).mpr ⟨ht name, ht' name⟩⟩

/-- It is typed as some settings if the files are usable. -/
theorem exists_typedAs_laid : (∃ s, TypedAs (laid node files) s) ↔ Usable before files := by
  constructor
  · rintro ⟨s, hs⟩
    exact ((typedAs_laid hnode htyped h).mp hs).1
  · rintro ⟨hn, hl, ht⟩
    refine (exists_typedAs (grouped_laid hnode h)).mpr
      ⟨fun table htable => (onlyNames_laid hnode htyped h htable).mpr (hn table htable),
        fun leaf hleaf => ?_, fun name => ⟨_, (alias_laid hnode htyped h).mpr ⟨ht name, rfl⟩⟩⟩
    have hconvertible := hl leaf hleaf
    cases hlast : lastGiven files true leaf.group leaf.name with
    | none =>
        refine ⟨leaf.get before, (holds_laid hnode htyped h hleaf).mpr ⟨hconvertible, ?_⟩⟩
        rw [hlast]
        rfl
    | some v =>
        obtain ⟨d, hd⟩ := hconvertible v hlast
        refine ⟨d, (holds_laid hnode htyped h hleaf).mpr ⟨hconvertible, ?_⟩⟩
        rw [hlast, chosen, hd]
        rfl

end

/-! ### The settings -/

variable {fs : Files} {paths : List String}

theorem grouped_builtIn : Grouped (builtIn fs).toNode := by
  refine ⟨?_, ?_, rfl⟩
  · simp only [sections, closedTables, List.map_cons, List.map_nil, List.forall_mem_cons]
    exact ⟨rfl, rfl, rfl, rfl, rfl, rfl, rfl, rfl, rfl, rfl, rfl, rfl, rfl, rfl, rfl,
      List.forall_mem_nil _⟩
  · show (["pc", "q35"]).Nodup
    decide

/-- The built-in settings are what they are read as. -/
theorem typedAs_builtIn : TypedAs (builtIn fs).toNode (builtIn fs) :=
  (ofNode_eq_ok grouped_builtIn).mp rfl

/-- Well-shaped files give the settings that are read of what is laid. -/
theorem fromPaths_eq_ok (h : ∀ f ∈ existing fs paths, f.WellShaped) :
    fromPaths fs paths = .ok s ↔
      TypedAs (laid (builtIn fs).toNode (existing fs paths)) s := by
  have hread : ofFiles (builtIn fs) (existing fs paths) =
      ofNode (laid (builtIn fs).toNode (existing fs paths)) := by
    rw [ofFiles, foldlM_layFile h]
    rfl
  rw [← ofNode_eq_ok (grouped_laid grouped_builtIn h), ← hread, fromPaths_eq_ok_iff]

theorem homePaths_eq (home : String) :
    homePaths home = [Files.join (Files.join home ".config/kvmconf") "config.toml",
      Files.join (Files.join home ".config/kvmconf") "kvmconf.toml"] := rfl

theorem localPaths_eq (here : List String) :
    localPaths here = [Files.join (Files.placeText here) "kvmconf.toml",
      Files.join (Files.placeText here) "configs/kvmconf.toml"] := by
  have hconfigs : Files.join "configs" fileName = "configs/kvmconf.toml" := by
    decide +kernel
  rw [localPaths, hconfigs]
  rfl

/-- The well-known places of settings.  There are fewer without a home directory or without a
working directory. -/
def wellKnown (fs : Files) : List String :=
  ["/etc/kvmconf/kvmconf.toml"]
    ++ fs.home.elim [] (fun home =>
      [Files.join (Files.join home ".config/kvmconf") "config.toml",
        Files.join (Files.join home ".config/kvmconf") "kvmconf.toml"])
    ++ fs.workingDirectory.elim [] fun here =>
      [Files.join (Files.placeText here) "kvmconf.toml",
        Files.join (Files.placeText here) "configs/kvmconf.toml"]

theorem searchPaths_eq (fs : Files) : searchPaths fs = wellKnown fs := by
  have hetc : Files.join "/etc/kvmconf" fileName = "/etc/kvmconf/kvmconf.toml" := by
    decide +kernel
  rw [searchPaths, hetc, funext homePaths_eq, funext localPaths_eq]
  rfl

/-- **Settings in layers.**  Well-shaped files are usable exactly if no key is unknown and the value
that each setting is given last can be converted, and then each setting is that value, or the
built-in one.  The order in which a table is gone through does not matter if no two of its keys are
the same in lower case.  An explicit file comes after all the well-known places. -/
theorem settings_layered (fs : Files) :
    (∀ paths, (∀ f ∈ existing fs paths, f.WellShaped) →
      ((∃ s, fromPaths fs paths = .ok s) ↔ Usable (builtIn fs) (existing fs paths)) ∧
        (∀ s, fromPaths fs paths = .ok s → Overlaid (builtIn fs) (existing fs paths) s) ∧
        ((∀ f ∈ existing fs paths, f.KeysApart) → ∀ rankings,
          (fromPaths (fs.ranked rankings) paths).toOption = (fromPaths fs paths).toOption)) ∧
      ∀ p, fs.isFile p = true → load fs (some p) = fromPaths fs (wellKnown fs ++ [p]) := by
  refine ⟨fun paths h => ⟨?_, fun s hs => ?_, ?_⟩, fun p hp => ?_⟩
  · rw [← exists_typedAs_laid grouped_builtIn typedAs_builtIn h]
    exact exists_congr fun s => fromPaths_eq_ok h
  · exact ((typedAs_laid grouped_builtIn typedAs_builtIn h).mp ((fromPaths_eq_ok h).mp hs)).2
  · exact fromPaths_ranked fun f hf => (h f hf).byName
  · rw [load, if_pos hp, searchPaths_eq]

/-- Files of a machine: settings of the machine, which give the processors a value that is no
number, those of a directory, and two more. -/
def machine : Files where
  workingDirectory := ["srv"]
  home := "/root"
  entries :=
    [(["etc", "kvmconf", "kvmconf.toml"],
        .text "[vm.defaults]\ncpu = \"many\"\nmemory = \"8GiB\"\n"),
      (["srv", "kvmconf.toml"],
        .text "[vm.defaults]\ncpu = 8\n"),
      (["srv", "mine.toml"],
        .text "[qemu.machine_aliases]\nq35 = \"pc-q35-9.1\"\nmicro = \"microvm\"\n"),
      (["srv", "empty.toml"], .text "[vm.defaults]\ncpu = \x7b\x7d\n")]

/-- Places of settings, at one of which there is no file. -/
def machinePaths : List String :=
  ["/etc/kvmconf/kvmconf.toml", "/root/.config/kvmconf/config.toml", "/srv/kvmconf.toml",
    "mine.toml"]

/-- What the first file gives the processors is passed over, and the aliases are those of the last
file over the built-in ones. -/
theorem settings_layered_machine :
    (∀ f ∈ existing machine machinePaths, f.WellShaped) ∧
      (∀ f ∈ existing machine machinePaths, f.KeysApart) ∧ machine.isFile "mine.toml" = true ∧
      (fromPaths machine machinePaths).toOption.map
          (fun s => (s.vm.cpu, s.vm.memory, s.vm.disk, s.machineAliases)) =
        some (8, "8GiB", "20GiB",
          [("micro", "microvm"), ("pc", "pc-i440fx-9.2"), ("q35", "pc-q35-9.1")]) ∧
      ((∃ s, fromPaths machine machinePaths = .ok s) ↔
        Usable (builtIn machine) (existing machine machinePaths)) ∧
      (∀ s, fromPaths machine machinePaths = .ok s →
        Overlaid (builtIn machine) (existing machine machinePaths) s) ∧
      (∀ rankings, (fromPaths (machine.ranked rankings) machinePaths).toOption =
        (fromPaths machine machinePaths).toOption) ∧
      load machine (some "mine.toml") = fromPaths machine
        ["/etc/kvmconf/kvmconf.toml", "/root/.config/kvmconf/config.toml",
          "/root/.config/kvmconf/kvmconf.toml", "/srv/kvmconf.toml",
          "/srv/configs/kvmconf.toml", "mine.toml"] := by
  have hshape : ∀ f ∈ existing machine machinePaths, f.WellShaped := by decide +kernel
  have hkeys : ∀ f ∈ existing machine machinePaths, f.KeysApart := by decide +kernel
  have hfile : machine.isFile "mine.toml" = true := by decide +kernel
  have hplaces : wellKnown machine ++ ["mine.toml"] =
      ["/etc/kvmconf/kvmconf.toml", "/root/.config/kvmconf/config.toml",
        "/root/.config/kvmconf/kvmconf.toml", "/srv/kvmconf.toml",
        "/srv/configs/kvmconf.toml", "mine.toml"] := by
    decide +kernel
  obtain ⟨hlayers, hload⟩ := settings_layered machine
  obtain ⟨hsucceeds, hvalues, horders⟩ := hlayers machinePaths hshape
  have hmine := hload "mine.toml" hfile
  rw [hplaces] at hmine
  exact ⟨hshape, hkeys, hfile, by decide +kernel, hsucceeds, hvalues, horders hkeys, hmine⟩

/-- A table without entries takes no place: the only value that the file gives the processors is no
number, and the settings are the built-in ones. -/
theorem builtIn_of_empty_table :
    (∀ f ∈ existing machine ["empty.toml"], f.WellShaped) ∧
      ¬ Convertible Located.asCount
        (valuesOf "cpu" (given (existing machine ["empty.toml"]) ["vm", "defaults"])).getLast? ∧
      fromPaths machine ["empty.toml"] = .ok (builtIn machine) := by
  refine ⟨by decide +kernel, ?_, ?_⟩
  · intro h
    have hlast : (valuesOf "cpu"
        (given (existing machine ["empty.toml"]) ["vm", "defaults"])).getLast?.map
          Node.isEmptyTable = some true := by
      decide +kernel
    obtain ⟨v, hv, hempty⟩ := Option.map_eq_some_iff.mp hlast
    obtain ⟨n, hn⟩ := h v hv
    cases v with
    | table o es => cases hn
    | _ => cases hempty
  · have hload : (fromPaths machine ["empty.toml"]).toOption = some (builtIn machine) := by
      decide +kernel
    cases hread : fromPaths machine ["empty.toml"] with
    | error e => rw [hread] at hload; cases hload
    | ok s => rw [hread] at hload; exact congrArg Except.ok (Option.some.inj hload)

end VirtEnv.Settings
