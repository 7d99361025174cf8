import VirtEnv.Proofs.Fallback
import VirtEnv.Proofs.Repeats

/-!
# Aliases — the short names of machine types

An alias has a place of its own in the settings, so what files do to it is read off there: the last
file that sets it decides, whatever it is called, and a name that no file does anything to stands
for what it stood for.  A VM is planned with what its machine type stands for.

The names of a file are taken in lower case, but a machine type is looked up as it is written.  So a
file that sets a name with a capital sets another one.

* `SourceFile.GivesAlias.sets`, `SourceFile.OmitsAlias.leaves`: what a file whose sections are tables
  does to an alias.
* `aliases_of_ofNode`: the aliases of settings are what is seen at their places.
* `aliases_expand`: what a name stands for in the settings of any files.
* `not_expanded_of_capital`: a file sets a name, which goes on standing for itself.
-/

namespace VirtEnv

namespace Settings

open Node (Change TidyAt TablesAt entriesAt seen? tableAt? valuesOf)

/-! ### What a file does to an alias -/

/-- The place of an alias. -/
def aliasPlace (name : String) : List String := aliasesPath ++ [name]

namespace SourceFile

/-- A file sets an alias to a text. -/
def SetsAlias (f : SourceFile) (name text : String) : Prop :=
  f.changeAt (aliasPlace name) = .put (some (.scalar (.string text)))

/-- A file does nothing to an alias. -/
def LeavesAlias (f : SourceFile) (name : String) : Prop := f.changeAt (aliasPlace name) = .keep

/-- The section of the aliases, wherever a file has it, is a table, and the last value that the file
gives a name in it is a text.  The names of the file are compared in lower case. -/
def GivesAlias (f : SourceFile) (name text : String) : Prop :=
  TablesAt aliasesPath f.layers ∧
    ∃ o, (valuesOf name (entriesAt aliasesPath f.layers)).getLast? = some (.scalar o (.string text))

/-- The section of the aliases, wherever a file has it, is a table, and no name in it is the given
one in lower case. -/
def OmitsAlias (f : SourceFile) (name : String) : Prop :=
  TablesAt aliasesPath f.layers ∧
    ∀ e ∈ entriesAt aliasesPath f.layers, Text.lower e.1 ≠ name

end SourceFile

namespace Node

variable {es : List (String × Node)} {o : Option String} {k k' : String}
  {path rest : List String} {vs : List Node} {v n : Node}

namespace Change

variable {a : Change} {as : List Change} {x : Option Shape}

instance : Decidable (a = keep) :=
  match a with
  | keep => isTrue rfl
  | provide | put _ => isFalse nofun

instance {v : Scalar} : Decidable (a = put (some (.scalar v))) :=
  match a with
  | put (some (.scalar v')) =>
      decidable_of_iff (v' = v) ⟨fun h => h ▸ rfl, fun h => by cases h; rfl⟩
  | keep | provide | put none | put (some .nothing) | put (some (.array _)) | put (some .table) =>
      isFalse nofun

theorem all_eq_keep_iff : all as = keep ↔ ∀ a ∈ as, a = keep := by
  induction as with
  | nil => simp [all]
  | cons a as ih =>
      rw [all_cons, List.forall_mem_cons, ← ih]
      cases a <;> cases all as <;> simp [andThen]

/-- What is put last is there. -/
theorem all_concat_put (as : List Change) (x : Option Shape) : all (as ++ [put x]) = put x := by
  rw [all_append]
  rfl

theorem all_apply_of_forall (h : ∀ a ∈ as, a.apply x = x) : (all as).apply x = x := by
  induction as with
  | nil => rfl
  | cons a as ih =>
      obtain ⟨ha, has⟩ := List.forall_mem_cons.mp h
      rw [all_cons, apply_andThen, ha, ih has]

end Change

/-- Tables change what is in them as one table with all their entries. -/
theorem changeAt_flatMap_entries (h : ∀ v ∈ vs, v.IsTable) :
    Change.all (vs.map (changeAt (k :: path))) =
      changeAt (k :: path) (.table o (vs.flatMap entries)) := by
  rw [changeAt, valuesOf_flatMap, List.map_flatMap, Change.all_flatMap]
  refine congrArg Change.all (List.map_congr_left fun v hv => ?_)
  have htable := h v hv
  cases v with
  | table o es => rfl
  | _ => exact htable.elim

/-- Along a path of tables, what is in them is changed as by the entries at its end. -/
theorem changeAt_append (h : TablesAt path es) (o o' : Option String) :
    changeAt (path ++ k :: rest) (.table o es) =
      changeAt (k :: rest) (.table o' (entriesAt path es)) := by
  induction path generalizing es o with
  | nil => rfl
  | cons first path ih =>
      obtain ⟨htables, h⟩ := h
      rw [List.cons_append, changeAt, entriesAt, ← ih h none, under]
      obtain ⟨k', rest', hrest⟩ : ∃ k' rest', path ++ k :: rest = k' :: rest' := by
        cases path <;> exact ⟨_, _, rfl⟩
      rw [hrest]
      exact changeAt_flatMap_entries htables

/-- What is seen in the table at a place. -/
theorem seen?_concat (h : tableAt? path n = some es) :
    seen? (path ++ [k]) n = (es.lookup k).map shape := by
  induction path generalizing n with
  | nil =>
      obtain ⟨-, rfl⟩ := tableAt?_nil_iff.mp h
      exact Option.map_eq_bind.symm
  | cons first path ih =>
      rw [tableAt?_cons] at h
      obtain ⟨m, hm, h⟩ := Option.bind_eq_some_iff.mp h
      rw [List.cons_append, seen?, hm]
      exact ih h

/-- What is at a place within a table is within one. -/
theorem seen?_of_cons_cons {x : Shape} (h : seen? (k :: k' :: path) n = some x) :
    seen? [k] n = some .table := by
  obtain ⟨m, hm, h⟩ := Option.bind_eq_some_iff.mp h
  obtain ⟨m', hm', -⟩ := Option.bind_eq_some_iff.mp h
  cases m with
  | table o es => exact Option.bind_eq_some_iff.mpr ⟨_, hm, rfl⟩
  | _ => cases hm'

/-- What leaves alone what is within a table leaves the table there. -/
theorem table_of_changeAt_eq_keep (h : changeAt (k :: k' :: path) v = .keep) :
    (changeAt [k] v).apply (some .table) = some .table := by
  cases v with
  | table o es =>
      -- what the value has under the name is a table as well, or it would put something there
      refine Change.all_apply_of_forall fun a ha => ?_
      obtain ⟨w, hw, rfl⟩ := List.mem_map.mp ha
      have hkeep : changeAt (k' :: path) w = .keep :=
        Change.all_eq_keep_iff.mp h _ (List.mem_map_of_mem hw)
      cases w with
      | table o es => cases es <;> rfl
      | _ => cases hkeep
  | _ => cases h

end Node

namespace SourceFile

variable {f : SourceFile} {name text : String}

instance : Decidable (f.SetsAlias name text) := inferInstanceAs (Decidable (_ = _))

instance : Decidable (f.LeavesAlias name) := inferInstanceAs (Decidable (_ = _))

theorem changeAt_aliasPlace (h : TablesAt aliasesPath f.layers) : f.changeAt (aliasPlace name) =
    Change.all ((valuesOf name (entriesAt aliasesPath f.layers)).map (Node.changeAt [])) := by
  rw [changeAt, aliasPlace, Node.changeAt_append h none none]
  rfl

/-- **A file sets an alias** to the text that it gives the name last. -/
theorem GivesAlias.sets (h : f.GivesAlias name text) : f.SetsAlias name text := by
  obtain ⟨htables, o, hlast⟩ := h
  obtain ⟨before, hvalues⟩ := List.getLast?_eq_some_iff.mp hlast
  rw [SetsAlias, changeAt_aliasPlace htables, hvalues, List.map_append]
  exact Change.all_concat_put _ _

/-- **A file does nothing to an alias** whose name it does not have. -/
theorem OmitsAlias.leaves (h : f.OmitsAlias name) : f.LeavesAlias name := by
  obtain ⟨htables, hname⟩ := h
  have hnone : valuesOf name (entriesAt aliasesPath f.layers) = [] :=
    List.filterMap_eq_nil_iff.mpr fun e he => if_neg (hname e he)
  rw [LeavesAlias, changeAt_aliasPlace htables, hnone]
  rfl

end SourceFile

/-! ### The aliases of settings -/

variable {n : Node} {s : Settings} {fs : Files} {paths : List String} {name text : String}

/-- The aliases of settings are read from their section, and no other. -/
theorem readQemu_of_ofNode {o : Option String} {es : List (String × Node)}
    (h : ofNode (.table o es) = .ok s) :
    ∃ q, es.lookup "qemu" = some q ∧ readQemu ⟨"qemu", q⟩ = .ok s.machineAliases := by
  obtain ⟨-, h⟩ := group_bind_eq_ok.mp h
  obtain ⟨version, -, h⟩ := bind_eq_ok.mp h
  obtain ⟨⟨db, imagesDir⟩, -, h⟩ := bind_eq_ok.mp h
  obtain ⟨vm, -, h⟩ := bind_eq_ok.mp h
  obtain ⟨domain, -, h⟩ := bind_eq_ok.mp h
  obtain ⟨disk, -, h⟩ := bind_eq_ok.mp h
  obtain ⟨net, -, h⟩ := bind_eq_ok.mp h
  obtain ⟨graphics, -, h⟩ := bind_eq_ok.mp h
  obtain ⟨aliases, haliases, h⟩ := bind_eq_ok.mp h
  cases h
  exact get_eq_ok.mp haliases

/-- **The aliases of settings** are what is seen at their places, once their section is a table. -/
theorem aliases_of_ofNode (h : ofNode n = .ok s) (hqemu : seen? ["qemu"] n = some .table)
    (htidy : TidyAt aliasesPath (some n)) :
    ∃ es, HoldsTexts es s.machineAliases ∧
      ∀ name, seen? (aliasPlace name) n = (es.lookup name).map Node.shape := by
  cases n with
  | table o es =>
      obtain ⟨q, hq, hshape⟩ := Option.bind_eq_some_iff.mp hqemu
      obtain ⟨q', hq', hread⟩ := readQemu_of_ofNode h
      cases hq'.symm.trans hq
      cases q with
      | table o' es' =>
          obtain ⟨-, hread⟩ := group_bind_eq_ok.mp hread
          obtain ⟨m, hm, htexts⟩ := get_eq_ok.mp hread
          cases m with
          | table o'' es'' =>
              have hat : tableAt? aliasesPath (.table o es) = some es'' := by
                rw [aliasesPath, tableAt?, hq', Option.bind_some, tableAt?, hm]
                rfl
              exact ⟨es'', (readTexts_eq_ok (htidy _ hat)).mp htexts,
                fun name => Node.seen?_concat hat⟩
          | _ => cases htexts
      | _ => cases hshape
  | _ => cases hqemu

/-- Where a text is seen, it is read; and where nothing is, nothing is. -/
theorem readAs_asText_of_shape {found : Option Node} {x : Option String}
    (h : found.map Node.shape = x.map fun text => .scalar (.string text)) :
    ReadAs Located.asText found x := by
  cases found with
  | none =>
      cases x with
      | none => exact .none
      | some text => cases h
  | some m =>
      cases x with
      | none => cases h
      | some text =>
          cases m with
          | scalar o v => cases h; exact .some rfl
          | _ => cases h

/-- What is seen in settings that files come to, from the change of each file. -/
theorem exists_laid (hnames : ∀ f ∈ existing fs paths, f.ByName)
    (h : fromPaths fs paths = .ok s) :
    ∃ n, ofNode n = .ok s ∧ (∀ path, TidyAt path (some n)) ∧ ∀ path, seen? path n =
      (Change.all ((existing fs paths).map (·.changeAt path))).apply
        (seen? path (builtIn fs).toNode) := by
  obtain ⟨n, hn, hs⟩ := bind_eq_ok.mp (fromPaths_eq_ok_iff.mp h)
  obtain ⟨-, rfl⟩ := (foldlM_layFile_eq_ok_iff hnames).mp hn
  exact ⟨_, hs, fun path => tidyAt_layers (tidyAt_builtIn path) _, seen?_layers _ _⟩

theorem seen?_builtIn (name : String) : seen? (aliasPlace name) (builtIn fs).toNode =
    ((builtIn fs).machineAliases.lookup name).map fun text => .scalar (.string text) := by
  show (((builtIn fs).machineAliases.map fun a => (a.1, textNode a.2)).lookup name).bind
    (seen? []) = _
  rw [lookup_located (f := fun _ => textNode), Option.bind_map, Option.map_eq_bind]
  rfl

/-- **A name that is set** stands for the text that it is set to last. -/
theorem machineType_of_sets (hnames : ∀ f ∈ existing fs paths, f.ByName)
    (h : fromPaths fs paths = .ok s) {earlier later : List SourceFile} {f : SourceFile}
    (hfiles : existing fs paths = earlier ++ f :: later) (hset : f.SetsAlias name text)
    (hlater : ∀ g ∈ later, g.LeavesAlias name) : s.machineType name = text := by
  obtain ⟨n, hn, htidy, hseen⟩ := exists_laid hnames h
  have hkeep : Change.all (later.map (·.changeAt (aliasPlace name))) = .keep :=
    Node.Change.all_eq_keep_iff.mpr (List.forall_mem_map.mpr hlater)
  have hname : seen? (aliasPlace name) n = some (.scalar (.string text)) := by
    rw [hseen, hfiles, List.map_append, List.map_cons, Node.Change.all_append,
      Node.Change.all_cons, hset, hkeep]
    rfl
  obtain ⟨es, htexts, hes⟩ := aliases_of_ofNode hn (Node.seen?_of_cons_cons hname) (htidy _)
  have hread : ReadAs Located.asText (es.lookup name) (some text) :=
    readAs_asText_of_shape ((hes name).symm.trans hname)
  rw [machineType, ReadAs.eq (htexts.lookup name) hread, Option.getD_some]

/-- **A name that is left alone** stands for what it stood for. -/
theorem machineType_of_leaves (hnames : ∀ f ∈ existing fs paths, f.ByName)
    (h : fromPaths fs paths = .ok s) (hleaves : ∀ f ∈ existing fs paths, f.LeavesAlias name) :
    s.machineType name = (builtIn fs).machineType name := by
  obtain ⟨n, hn, htidy, hseen⟩ := exists_laid hnames h
  have hkeep : Change.all ((existing fs paths).map (·.changeAt (aliasPlace name))) = .keep :=
    Node.Change.all_eq_keep_iff.mpr (List.forall_mem_map.mpr hleaves)
  -- the section is there from the start, and no file takes it away that leaves the alias alone
  have hqemu : seen? ["qemu"] n = some .table := by
    rw [hseen]
    refine Node.Change.all_apply_of_forall (List.forall_mem_map.mpr fun f hf => ?_)
    exact Node.table_of_changeAt_eq_keep (hleaves f hf)
  obtain ⟨es, htexts, hes⟩ := aliases_of_ofNode hn hqemu (htidy _)
  have hname : (es.lookup name).map Node.shape = ((builtIn fs).machineAliases.lookup name).map
      fun text => .scalar (.string text) := by
    rw [← hes, hseen, hkeep, ← seen?_builtIn]
    rfl
  rw [machineType, ReadAs.eq (htexts.lookup name) (readAs_asText_of_shape hname), machineType]

/-- What names stand for in settings that files come to. -/
structure Expands (before : Settings) (files : List SourceFile) (s : Settings) : Prop where
  /-- A name that a file sets, and no later file does anything to, stands for the text that it is
  set to. -/
  set : ∀ name text earlier f later, files = earlier ++ f :: later → f.SetsAlias name text →
    (∀ g ∈ later, g.LeavesAlias name) → s.machineType name = text
  /-- So does a name to which a file gives a text, and which no later file has. -/
  given : ∀ name text earlier f later, files = earlier ++ f :: later → f.GivesAlias name text →
    (∀ g ∈ later, g.OmitsAlias name) → s.machineType name = text
  /-- A name that no file does anything to stands for what it stood for, or for itself. -/
  unset : ∀ name, (∀ f ∈ files, f.LeavesAlias name) → s.machineType name = before.machineType name
  /-- So does a name that no file has. -/
  omitted : ∀ name, (∀ f ∈ files, f.OmitsAlias name) →
    s.machineType name = before.machineType name
  /-- A VM whose machine type is given as a text is planned with what that stands for, unless
  rendering an attribute ends the program. -/
  planned : ∀ v name, v.attributes.value? "machine" = some (.string name) →
    (∃ q ∈ v.attributes.values, ∃ a, q.2.evaluate [] = .error (.abort a)) ∨
      ∃ p, Planned.describeVm s v = .ok p ∧
        p.properties.lookup "machine" = some (s.machineType name)

theorem lookup_machine_of_describeVm {v : ResolvedVm} {p : Planned}
    (hmachine : v.attributes.value? "machine" = some (.string name))
    (h : Planned.describeVm s v = .ok p) :
    p.properties.lookup "machine" = some (s.machineType name) := by
  have hattribute : (ResourceDecl.vm v).attribute? "machine" = some (.string name) := hmachine
  have hshows : Planned.Shows s [] (.vm v) p := Planned.shows_of_describeVm h
  obtain ⟨text, htext, hp⟩ := hshows.attributes "machine" _ hattribute
  rw [hp]
  cases htext with
  | value hvalue _ => cases hvalue; rfl
  | computed hfault => cases hfault

/-- **Every alias takes effect** that is looked up by the name in lower case, whatever else is in
that name, and whatever the files are that come to settings. -/
theorem aliases_expand (hnames : ∀ f ∈ existing fs paths, f.ByName)
    (h : fromPaths fs paths = .ok s) : Expands (builtIn fs) (existing fs paths) s where
  set _ _ _ _ _ hfiles := machineType_of_sets hnames h hfiles
  given _ _ _ _ _ hfiles hgiven hlater :=
    machineType_of_sets hnames h hfiles hgiven.sets fun g hg => (hlater g hg).leaves
  unset _ := machineType_of_leaves hnames h
  omitted _ homits := machineType_of_leaves hnames h fun f hf => (homits f hf).leaves
  planned := by
    intro v name hmachine
    rcases Planned.describeVm_ok_or_aborts s v with ⟨-, p, hp⟩ | ⟨q, hq, a, ha, -⟩
    · exact .inr ⟨p, hp, lookup_machine_of_describeVm hmachine hp⟩
    · exact .inl ⟨q, hq, a, ha⟩

/-- Two files, the second of which sets an alias that both have. -/
def aliasFiles : Files where
  workingDirectory := some []
  home := "/root"
  entries :=
    [(["a.toml"], .text "[qemu.machine_aliases]\npc = \"pc-i440fx-8.0\"\n\"my.alias\" = \"x\"\n"),
      (["b.toml"], .text "[qemu]\nmachine_aliases = \x7b \"my.alias\" = \"pc-q35-8.1\" \x7d\n")]

/-- Two files set an alias, one file sets a built-in one, and there are others. -/
theorem aliases_expand_later : ∃ s,
    (∀ f ∈ existing aliasFiles ["a.toml", "b.toml"], f.ByName) ∧
      fromPaths aliasFiles ["a.toml", "b.toml"] = .ok s ∧ s.machineType "my.alias" = "pc-q35-8.1" ∧
      s.machineType "pc" = "pc-i440fx-8.0" ∧ s.machineType "q35" = "pc-q35-9.2" ∧
      s.machineType "isapc" = "isapc" ∧
      ((∃ q ∈ Document.towerVm.attributes.values, ∃ a, q.2.evaluate [] = .error (.abort a)) ∨
        ∃ p, Planned.describeVm s Document.towerVm = .ok p ∧
          p.properties.lookup "machine" = some (s.machineType "pc")) := by
  have hpaths : ["a.toml", "b.toml"].filter aliasFiles.isFile = ["a.toml", "b.toml"] := by
    decide +kernel
  have hfiles : existing aliasFiles ["a.toml", "b.toml"] =
      [sourceFile aliasFiles 0 "a.toml", sourceFile aliasFiles 1 "b.toml"] := by
    rw [existing, hpaths]
    rfl
  obtain ⟨hnames, hchanges⟩ : (∀ f ∈ existing aliasFiles ["a.toml", "b.toml"], f.ByName) ∧
      (sourceFile aliasFiles 0 "a.toml").SetsAlias "pc" "pc-i440fx-8.0" ∧
      (sourceFile aliasFiles 1 "b.toml").SetsAlias "my.alias" "pc-q35-8.1" ∧
      (∀ g ∈ [sourceFile aliasFiles 1 "b.toml"], g.LeavesAlias "pc") ∧
      (∀ g ∈ existing aliasFiles ["a.toml", "b.toml"], g.LeavesAlias "q35") ∧
      ∀ g ∈ existing aliasFiles ["a.toml", "b.toml"], g.LeavesAlias "isapc" := by
    decide +kernel
  obtain ⟨hpc, hown, hpcLater, hq35, hisapc⟩ := hchanges
  have hloads : (fromPaths aliasFiles ["a.toml", "b.toml"]).toOption.isSome = true := by
    decide +kernel
  obtain ⟨s, hs⟩ := Option.isSome_iff_exists.mp hloads
  have h : fromPaths aliasFiles ["a.toml", "b.toml"] = .ok s := toOption_eq_some.mp hs
  obtain ⟨hset, -, hunset, -, hplanned⟩ := aliases_expand hnames h
  exact ⟨s, hnames, h, hset _ _ [sourceFile aliasFiles 0 "a.toml"] _ [] hfiles hown nofun,
    hset _ _ [] _ [sourceFile aliasFiles 1 "b.toml"] hfiles hpc hpcLater, hunset _ hq35,
    hunset _ hisapc, hplanned _ _ rfl⟩

/-- A file that sets a name with capitals. -/
def capitalFiles : Files where
  workingDirectory := some []
  home := "/root"
  entries := [(["a.toml"], .text "[qemu.machine_aliases]\nMicroVM = \"pc-q35-8.0\"\n")]

/-- A VM whose machine type is that name. -/
def capitalVm : ResolvedVm where
  name := "web1"
  network := "lan"
  store := "pool"
  attributes := { values := [("machine", .string "MicroVM")] }

/-- The only name that a file sets goes on standing for itself, also where a VM is planned.  It is
the name in lower case that stands for what the file says. -/
theorem not_expanded_of_capital :
    ((existing capitalFiles ["a.toml"]).flatMap fun f => (entriesAt aliasesPath f.layers).map
        fun e => (e.1, (Located.asText ⟨e.1, e.2⟩).toOption)) = [("MicroVM", some "pc-q35-8.0")] ∧
      ∃ s, fromPaths capitalFiles ["a.toml"] = .ok s ∧ s.machineType "MicroVM" = "MicroVM" ∧
        s.machineType "microvm" = "pc-q35-8.0" ∧
        ∃ p, Planned.describeVm s capitalVm = .ok p ∧
          p.properties.lookup "machine" = some "MicroVM" := by
  have hnames : (fromPaths capitalFiles ["a.toml"]).toOption.map
      (fun s => (s.machineType "MicroVM", s.machineType "microvm",
        (Planned.describeVm s capitalVm).toOption.bind (·.properties.lookup "machine"))) =
      some ("MicroVM", "pc-q35-8.0", some "MicroVM") := by
    decide +kernel
  obtain ⟨s, hs, hnames⟩ := Option.map_eq_some_iff.mp hnames
  simp only [Prod.mk.injEq] at hnames
  obtain ⟨hcapital, hlower, hplanned⟩ := hnames
  obtain ⟨p, hp, hmachine⟩ := Option.bind_eq_some_iff.mp hplanned
  exact ⟨by decide +kernel, s, toOption_eq_some.mp hs, hcapital, hlower, p, toOption_eq_some.mp hp,
    hmachine⟩

end Settings

end VirtEnv
