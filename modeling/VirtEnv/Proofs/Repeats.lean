import VirtEnv.Proofs.Layers
import VirtEnv.Proofs.Sight

/-!
# Repeats — a settings file that is named twice

Only the last occurrence of a settings file counts.  A file changes each place of the settings, and a
change need not be made if one as strong is made later, whatever the files in between do; and the
settings are read from what is seen at the places.  So it does not matter that two of the well-known
places are one, or that an explicit file is one of them.

The tables of a file are gone through in an order that is not known, and another one each time.  Where
two keys of a table are the same in lower case, the order decides which of them counts.  So a file
that is named once more does not change what may come out; and if there are no such keys, it changes
nothing.

* `mayGive_iff`: what may come out is what the files come to with some rankings.
* `toOption_ofFiles_of_keysApart`: there is one outcome where keys are apart.
* `mayGive_repeated`: a path to a file that a later one leads to.
* `mayGive_lastOnly`: any paths, and those that are not repeated later.
* `last_counts`: these together, for the settings that a command loads.
* `not_same_of_twoSpellings`: a file with two such keys, named twice and once.
-/

namespace VirtEnv.Settings

open Node (Change TidyAt)

/-! ### The built-in settings -/

section

variable {o : Option String} {es : List (String × Node)}

theorem tidyAt_scalar {v : Scalar} (path : List String) : TidyAt path (some (.scalar o v)) := by
  intro es hes
  cases path <;> cases hes

/-- No table below a table has a name twice, if this holds of each value in it. -/
theorem tidyAt_table (hnames : (es.map (·.1)).Nodup)
    (h : ∀ e ∈ es, ∀ path, TidyAt path (some e.2)) (path : List String) :
    TidyAt path (some (.table o es)) := by
  cases path with
  | nil =>
      rintro _ ⟨⟩
      exact hnames
  | cons k path =>
      rw [Node.tidyAt_cons]
      show TidyAt path (es.lookup k)
      cases hlookup : es.lookup k with
      | none => exact fun _ hes => nomatch hes
      | some n => exact h _ (mem_of_lookup hlookup) path

theorem tidyAt_scalars (hnames : (es.map (·.1)).Nodup) (h : ∀ e ∈ es, ∃ o v, e.2 = .scalar o v) :
    ∀ path, TidyAt path (some (tableNode es)) := by
  refine tidyAt_table hnames fun e he path => ?_
  obtain ⟨o, v, hv⟩ := h e he
  exact hv ▸ tidyAt_scalar path

theorem tidyAt_section (hnames : (es.map (·.1)).Nodup) (h : ∀ e ∈ es, ∃ o v, e.2 = .scalar o v) :
    ∀ path, TidyAt path (some (sectionNode es)) := by
  refine tidyAt_table (List.nodup_singleton _) fun e he => ?_
  cases List.mem_singleton.mp he
  exact tidyAt_scalars hnames h

/-- No table of the built-in settings has a name twice. -/
theorem tidyAt_toNode {s : Settings} (h : (s.machineAliases.map (·.1)).Nodup) (path : List String) :
    TidyAt path (some s.toNode) := by
  have haliases : ∀ path, TidyAt path
      (some (tableNode (s.machineAliases.map fun a => (a.1, textNode a.2)))) := by
    refine tidyAt_scalars (by rwa [List.map_map]) fun e he => ?_
    obtain ⟨a, -, rfl⟩ := List.mem_map.mp he
    exact ⟨none, .string a.2, rfl⟩
  rw [toNode, tableNode]
  refine tidyAt_table ?_ ?_ path
  · show groupNames.Nodup
    decide
  simp only [List.forall_mem_cons, List.not_mem_nil, false_imp_iff, implies_true, and_true]
  refine ⟨tidyAt_scalars ?_ ?_, tidyAt_scalars ?_ ?_, tidyAt_section ?_ ?_, tidyAt_section ?_ ?_,
    tidyAt_section ?_ ?_, tidyAt_section ?_ ?_, tidyAt_section ?_ ?_,
    tidyAt_table (List.nodup_singleton _) ?aliases⟩
  case aliases =>
    intro e he
    cases List.mem_singleton.mp he
    exact haliases
  all_goals simp [textNode]

end

theorem tidyAt_builtIn {fs : Files} (path : List String) :
    TidyAt path (some (builtIn fs).toNode) :=
  tidyAt_toNode (s := builtIn fs) (show ["pc", "q35"].Nodup by decide) path

/-! ### Files that come to the same -/

variable {fs : Files} {files files' : List SourceFile} {f g : SourceFile} {base s : Settings}
  {paths a b c : List String} {p q : String} {o : Option Settings} {rankings : Nat → Ranking}

/-- Files that come to the same: both are well-formed, or neither, and they change each place
alike. -/
structure SameLayers (files files' : List SourceFile) : Prop where
  wellFormed : (∀ f ∈ files, f.table?.isSome = true) ↔ ∀ f ∈ files', f.table?.isSome = true
  changes : ∀ path, Change.all (files.map (·.changeAt path)) =
    Change.all (files'.map (·.changeAt path))

theorem SameLayers.symm (h : SameLayers files files') : SameLayers files' files :=
  ⟨h.wellFormed.symm, fun path => (h.changes path).symm⟩

/-- **A file that comes again** may be left out before, whatever the orders are. -/
theorem sameLayers_of_again (before between after : List SourceFile) (h : f.text = g.text) :
    SameLayers (before ++ f :: (between ++ g :: after)) (before ++ (between ++ g :: after)) where
  wellFormed := by
    have htable : f.table? = g.table? := by rw [SourceFile.table?, h, SourceFile.table?]
    simp only [List.forall_mem_append, List.forall_mem_cons, htable]
    tauto
  changes path := by
    -- whatever the files in between and after do, it is one change each
    have hagain : ∀ y z : Change,
        (f.changeAt path).andThen (y.andThen ((g.changeAt path).andThen z)) =
          y.andThen ((g.changeAt path).andThen z) := fun y z => by
      have hstrength := (SourceFile.strength_changeAt_of_text h path).le
      simpa only [Change.andThen_assoc] using
        congrArg (·.andThen z) (Change.andThen_of_strength_le (b := y) hstrength)
    simp only [List.map_append, List.map_cons, Change.all_append, Change.all_cons, hagain]

/-- Files that come to the same give the same settings as far as they give any. -/
theorem ofFiles_follows (hnames : ∀ f ∈ files, f.ByName) (hnames' : ∀ f ∈ files', f.ByName)
    (h : SameLayers files files') (htidy : ∀ path, TidyAt path (some base.toNode)) :
    Follows (ofFiles base files) (ofFiles base files') := by
  intro s hs
  obtain ⟨n, hn, hs⟩ := bind_eq_ok.mp hs
  obtain ⟨hwell, rfl⟩ := (foldlM_layFile_eq_ok_iff hnames).mp hn
  refine bind_eq_ok.mpr
    ⟨_, (foldlM_layFile_eq_ok_iff hnames').mpr ⟨h.wellFormed.mp hwell, rfl⟩, ?_⟩
  refine ofNode_follows (.seen (fun path => ?_) (fun path => tidyAt_layers (htidy path) _)
    fun path => tidyAt_layers (htidy path) _) s hs
  rw [seen?_layers, seen?_layers, h.changes]

/-- **Files that come to the same** give the same settings, or none. -/
theorem toOption_ofFiles_congr (hnames : ∀ f ∈ files, f.ByName) (hnames' : ∀ f ∈ files', f.ByName)
    (h : SameLayers files files') :
    (ofFiles (builtIn fs) files).toOption = (ofFiles (builtIn fs) files').toOption := by
  refine Option.ext fun s => ?_
  rw [toOption_eq_some, toOption_eq_some]
  exact ⟨ofFiles_follows hnames hnames' h tidyAt_builtIn s,
    ofFiles_follows hnames' hnames h.symm tidyAt_builtIn s⟩

theorem fromPaths_eq_ok_iff :
    fromPaths fs paths = .ok s ↔ ofFiles (builtIn fs) (existing fs paths) = .ok s := by
  rw [fromPaths]
  cases ofFiles (builtIn fs) (existing fs paths) with
  | error f => exact iff_of_false nofun nofun
  | ok s' => simp

/-- Where files give no settings, the diagnostic is about settings. -/
theorem exists_message {e : Error} (h : fromPaths fs paths = .error e) : ∃ m, e = .settings m := by
  rw [fromPaths] at h
  split at h
  · cases h
  · cases h
    exact ⟨_, rfl⟩

theorem toOption_fromPaths (fs : Files) (paths : List String) :
    (fromPaths fs paths).toOption = (ofFiles (builtIn fs) (existing fs paths)).toOption :=
  Option.ext fun s => by rw [toOption_eq_some, toOption_eq_some, fromPaths_eq_ok_iff]

/-! ### Orders -/

/-- What of a settings file has nothing to do with an order. -/
def SourceFile.source (f : SourceFile) : String × Option String := (f.name, f.text)

/-- The settings files among paths, without an order. -/
def sources (fs : Files) (paths : List String) : List (String × Option String) :=
  (paths.filter fs.isFile).map fun path => (sourceFile fs 0 path).source

/-- Rankings have nothing to do with what else a file is. -/
theorem map_source_mapIdx (fs : Files) (rankings : Nat → Ranking) (paths : List String) :
    (paths.mapIdx fun position path =>
        { sourceFile fs 0 path with ranking := rankings position }).map SourceFile.source =
      paths.map fun path => (sourceFile fs 0 path).source :=
  List.ext_getElem (by simp) fun _ _ _ => by simp [SourceFile.source]

theorem map_source_existing (fs : Files) (paths : List String) :
    (existing fs paths).map SourceFile.source = sources fs paths := by
  rw [existing, sources]
  exact map_source_mapIdx fs fs.rankings _

/-- A file with other rankings is the file, with a ranking. -/
theorem sourceFile_ranked (fs : Files) (rankings : Nat → Ranking) (position : Nat) (path : String) :
    sourceFile (fs.ranked rankings) position path =
      { sourceFile fs 0 path with ranking := rankings position } := by
  rw [sourceFile, sourceFile, Files.read_ranked]
  rfl

theorem existing_ranked (fs : Files) (rankings : Nat → Ranking) (paths : List String) :
    existing (fs.ranked rankings) paths = (paths.filter fs.isFile).mapIdx fun position path =>
      { sourceFile fs 0 path with ranking := rankings position } := by
  have hfile : (fs.ranked rankings).isFile = fs.isFile := funext (fs.isFile_ranked rankings)
  rw [existing, hfile]
  exact congrArg (List.mapIdx · _) (funext fun position => funext fun path =>
    sourceFile_ranked fs rankings position path)

theorem sources_ranked (fs : Files) (rankings : Nat → Ranking) (paths : List String) :
    sources (fs.ranked rankings) paths = sources fs paths := by
  rw [← map_source_existing, existing_ranked, sources]
  exact map_source_mapIdx fs rankings _

/-- A file is what it is without an order, and its ranking. -/
theorem SourceFile.eq_of_source (h : f.source = g.source) : { f with ranking := g.ranking } = g := by
  cases f
  cases g
  cases h
  rfl

/-- **Any rankings may be those of files.** -/
theorem exists_rankings (h : files.map SourceFile.source = sources fs paths) :
    ∃ rankings, existing (fs.ranked rankings) paths = files := by
  simp only [existing_ranked]
  rw [sources] at h
  generalize paths.filter fs.isFile = paths at h
  induction files generalizing paths with
  | nil =>
      obtain rfl : paths = [] := List.map_eq_nil_iff.mp h.symm
      exact ⟨fun _ _ _ => 0, rfl⟩
  | cons f files ih =>
      obtain ⟨path, paths, rfl, hf, hfiles⟩ := List.map_eq_cons_iff.mp h.symm
      obtain ⟨rankings, hrest⟩ := ih paths hfiles.symm
      refine ⟨fun i => i.casesOn f.ranking rankings, ?_⟩
      rw [List.mapIdx_cons]
      exact congrArg₂ List.cons (SourceFile.eq_of_source hf) hrest

/-- What the settings files among paths may give: settings or none, with some rankings. -/
def MayGive (fs : Files) (paths : List String) (o : Option Settings) : Prop :=
  ∃ rankings, (fromPaths (fs.ranked rankings) paths).toOption = o

/-- What may come out is what the files come to with some rankings. -/
theorem mayGive_iff : MayGive fs paths o ↔ ∃ files,
    files.map SourceFile.source = sources fs paths ∧ (ofFiles (builtIn fs) files).toOption = o := by
  constructor
  · rintro ⟨rankings, rfl⟩
    exact ⟨_, (map_source_existing _ _).trans (sources_ranked fs rankings paths),
      (toOption_fromPaths (fs.ranked rankings) paths).symm⟩
  · rintro ⟨files, hfiles, rfl⟩
    obtain ⟨rankings, rfl⟩ := exists_rankings hfiles
    exact ⟨rankings, toOption_fromPaths (fs.ranked rankings) paths⟩

section

variable {P : SourceFile → Prop} (hP : ∀ f g : SourceFile, f.source = g.source → P f → P g)

include hP in
/-- What holds of files holds of them with other rankings, if it has to do with no order. -/
theorem forall_mem_of_sources (h : files.map SourceFile.source = sources fs paths)
    (hall : ∀ f ∈ existing fs paths, P f) : ∀ f ∈ files, P f := by
  intro f hf
  have hmem : f.source ∈ (existing fs paths).map SourceFile.source := by
    rw [map_source_existing, ← h]
    exact List.mem_map_of_mem hf
  obtain ⟨g, hg, hsource⟩ := List.mem_map.mp hmem
  exact hP g f hsource (hall g hg)

end

theorem SourceFile.text_eq (h : f.source = g.source) : f.text = g.text := congrArg Prod.snd h

theorem SourceFile.tree_congr (h : f.source = g.source) : f.tree = g.tree := by
  rw [tree, tree, table?, table?, text_eq h, show f.name = g.name from congrArg Prod.fst h]

theorem SourceFile.byName_congr (h : f.source = g.source) (hf : f.ByName) : g.ByName := by
  rw [ByName, ← tree_congr h]
  exact hf

theorem SourceFile.keysApart_congr (h : f.source = g.source) (hf : f.KeysApart) : g.KeysApart := by
  rw [KeysApart, written, ← tree_congr h]
  exact hf

/-- Files come to the same with other rankings if keys are apart. -/
theorem sameLayers_of_sources (h : files.map SourceFile.source = files'.map SourceFile.source)
    (hkeys : ∀ f ∈ files, f.KeysApart) : SameLayers files files' := by
  induction files generalizing files' with
  | nil =>
      obtain rfl : files' = [] := List.map_eq_nil_iff.mp h.symm
      exact ⟨Iff.rfl, fun _ => rfl⟩
  | cons f files ih =>
      obtain ⟨g, files', rfl, hg, hfiles⟩ := List.map_eq_cons_iff.mp h.symm
      obtain ⟨hf, hkeys⟩ := List.forall_mem_cons.mp hkeys
      obtain ⟨hwell, hchanges⟩ := ih hfiles.symm hkeys
      have htext : f.text = g.text := SourceFile.text_eq hg.symm
      have htable : f.table? = g.table? := by rw [SourceFile.table?, htext, SourceFile.table?]
      refine ⟨by rw [List.forall_mem_cons, List.forall_mem_cons, htable, hwell], fun path => ?_⟩
      rw [List.map_cons, List.map_cons, Change.all_cons, Change.all_cons, hchanges,
        SourceFile.changeAt_of_text htext hf]

/-- **Where keys are apart** there is one outcome. -/
theorem toOption_ofFiles_of_keysApart (hnames : ∀ f ∈ existing fs paths, f.ByName)
    (hkeys : ∀ f ∈ existing fs paths, f.KeysApart)
    (h : files.map SourceFile.source = sources fs paths) :
    (ofFiles (builtIn fs) files).toOption = (fromPaths fs paths).toOption := by
  rw [toOption_fromPaths]
  refine toOption_ofFiles_congr ?_ hnames (sameLayers_of_sources (h.trans
    (map_source_existing fs paths).symm) ?_)
  · exact forall_mem_of_sources (fun _ _ => SourceFile.byName_congr) h hnames
  · exact forall_mem_of_sources (fun _ _ => SourceFile.keysApart_congr) h hkeys

/-- So rankings do not matter. -/
theorem fromPaths_ranked (hnames : ∀ f ∈ existing fs paths, f.ByName)
    (hkeys : ∀ f ∈ existing fs paths, f.KeysApart) (rankings : Nat → Ranking) :
    (fromPaths (fs.ranked rankings) paths).toOption = (fromPaths fs paths).toOption := by
  rw [← toOption_ofFiles_of_keysApart hnames hkeys
    ((map_source_existing _ _).trans (sources_ranked fs rankings paths)), toOption_fromPaths]
  rfl

/-- A command loads the well-known places, and then the explicit file. -/
theorem load_ranked_eq {explicit : Option String}
    (h : ∀ path, explicit = some path → fs.isFile path = true) (rankings : Nat → Ranking) :
    load (fs.ranked rankings) explicit =
      fromPaths (fs.ranked rankings) (searchPaths fs ++ explicit.toList) := by
  cases explicit with
  | none => rw [load, Option.toList_none, List.append_nil]; rfl
  | some path => rw [load, Files.isFile_ranked, if_pos (h path rfl), Option.toList_some]; rfl

/-- **The settings that a command loads** do not depend on an order where keys are apart. -/
theorem load_ranked {explicit : Option String}
    (hnames : ∀ f ∈ existing fs (searchPaths fs ++ explicit.toList), f.ByName)
    (hkeys : ∀ f ∈ existing fs (searchPaths fs ++ explicit.toList), f.KeysApart)
    (rankings : Nat → Ranking) :
    (load (fs.ranked rankings) explicit).toOption = (load fs explicit).toOption := by
  cases explicit with
  | none =>
      rw [Option.toList_none, List.append_nil] at hnames hkeys
      exact fromPaths_ranked hnames hkeys rankings
  | some path =>
      rw [load, load, Files.isFile_ranked]
      split
      case isTrue => exact fromPaths_ranked hnames hkeys rankings
      case isFalse => rfl

/-- **Without settings** in one order and in another, the diagnostic is the same: no file is there, or
one has a fault, which need not be the same. -/
theorem load_error_ranked {explicit : Option String} {e e' : Error}
    (h : load (fs.ranked rankings) explicit = .error e) (h' : load fs explicit = .error e') :
    e = e' ∨ (∃ m, e = .settings m) ∧ ∃ m, e' = .settings m := by
  cases explicit with
  | none => exact .inr ⟨exists_message h, exists_message h'⟩
  | some path =>
      rw [load, Files.isFile_ranked] at h
      rw [load] at h'
      split at h
      case isTrue hfile =>
        rw [if_pos hfile] at h'
        exact .inr ⟨exists_message h, exists_message h'⟩
      case isFalse hfile =>
        rw [if_neg hfile] at h'
        cases h
        cases h'
        exact .inl rfl

/-! ### Paths -/

/-- Two paths lead to the same file. -/
def SameFile (fs : Files) (p q : String) : Prop :=
  fs.isFile p = true ∧ (fs.find q).toOption = (fs.find p).toOption

instance : Decidable (SameFile fs p q) := inferInstanceAs (Decidable (_ ∧ _))

theorem SameFile.find_eq (h : SameFile fs p q) : fs.find q = fs.find p := by
  obtain ⟨hfile, hfind⟩ := h
  cases hp : fs.find p with
  | error fault => rw [Files.isFile, hp] at hfile; cases hfile
  | ok found =>
      rw [hp] at hfind
      exact toOption_eq_some.mp hfind

theorem sources_append : sources fs (a ++ b) = sources fs a ++ sources fs b := by
  rw [sources, List.filter_append, List.map_append, sources, sources]

theorem sources_cons_of_isFile (h : fs.isFile p = true) :
    sources fs (p :: a) = (sourceFile fs 0 p).source :: sources fs a := by
  rw [sources, List.filter_cons_of_pos h, List.map_cons, sources]

/-- The files among fewer paths are files among all of them, in whatever order. -/
theorem forall_mem_of_sublist {P : SourceFile → Prop}
    (hP : ∀ f g : SourceFile, f.source = g.source → P f → P g)
    (h : ∀ f ∈ existing fs (a ++ p :: b), P f) : ∀ f ∈ existing fs (a ++ b), P f := by
  intro f hf
  have hsub : (sources fs (a ++ b)).Sublist (sources fs (a ++ p :: b)) :=
    (((List.sublist_cons_self p b).append_left a).filter fs.isFile).map _
  have hmem : f.source ∈ (existing fs (a ++ p :: b)).map SourceFile.source := by
    rw [map_source_existing]
    refine hsub.subset ?_
    rw [← map_source_existing]
    exact List.mem_map_of_mem hf
  obtain ⟨g, hg, hsource⟩ := List.mem_map.mp hmem
  exact hP g f hsource (h g hg)

/-- **Where there is no file**, a path counts for nothing. -/
theorem fromPaths_of_not_isFile (h : fs.isFile p = false) :
    fromPaths fs (a ++ p :: b) = fromPaths fs (a ++ b) := by
  rw [fromPaths, fromPaths, existing, existing, List.filter_append, List.filter_append,
    List.filter_cons_of_neg (ne_true_of_eq_false h)]

/-- **A path to a file that a later path leads to** counts for nothing. -/
theorem mayGive_repeated (hsame : SameFile fs p q)
    (h : ∀ f ∈ existing fs (a ++ p :: (b ++ q :: c)), f.ByName) :
    MayGive fs (a ++ p :: (b ++ q :: c)) o ↔ MayGive fs (a ++ (b ++ q :: c)) o := by
  have hp : fs.isFile p = true := hsame.1
  have hq : fs.isFile q = true := by rwa [Files.isFile, hsame.find_eq, ← Files.isFile]
  have htext : (sourceFile fs 0 p).text = (sourceFile fs 0 q).text := by
    simp only [sourceFile, Files.read, hsame.find_eq]
  have hsources : sources fs (a ++ p :: (b ++ q :: c)) = sources fs a ++
      (sourceFile fs 0 p).source :: (sources fs b ++ (sourceFile fs 0 q).source :: sources fs c) := by
    rw [sources_append, sources_cons_of_isFile hp, sources_append, sources_cons_of_isFile hq]
  have hrest : sources fs (a ++ (b ++ q :: c)) =
      sources fs a ++ (sources fs b ++ (sourceFile fs 0 q).source :: sources fs c) := by
    rw [sources_append, sources_append, sources_cons_of_isFile hq]
  -- what the files give is what they give without the first of the two, whatever their rankings
  have hagain : ∀ {before between after : List SourceFile} {f g : SourceFile},
      (before ++ f :: (between ++ g :: after)).map SourceFile.source =
        sources fs (a ++ p :: (b ++ q :: c)) → f.text = g.text →
      (ofFiles (builtIn fs) (before ++ f :: (between ++ g :: after))).toOption =
        (ofFiles (builtIn fs) (before ++ (between ++ g :: after))).toOption := by
    intro before between after f g hfiles hfg
    have hnames := forall_mem_of_sources (fun _ _ => SourceFile.byName_congr) hfiles h
    exact toOption_ofFiles_congr hnames
      (fun f' hf' => hnames f' (((List.sublist_cons_self f _).append_left before).subset hf'))
      (sameLayers_of_again _ _ _ hfg)
  rw [mayGive_iff, mayGive_iff]
  constructor
  · rintro ⟨files, hfiles, rfl⟩
    obtain ⟨before, rest, rfl, hbefore, hfrom⟩ := List.map_eq_append_iff.mp (hfiles.trans hsources)
    obtain ⟨f, rest, rfl, hf, hfrom⟩ := List.map_eq_cons_iff.mp hfrom
    obtain ⟨between, rest, rfl, hbetween, hfrom⟩ := List.map_eq_append_iff.mp hfrom
    obtain ⟨g, after, rfl, hg, hafter⟩ := List.map_eq_cons_iff.mp hfrom
    refine ⟨before ++ (between ++ g :: after), ?_, (hagain hfiles ?_).symm⟩
    · rw [hrest, List.map_append, List.map_append, List.map_cons, hbefore, hbetween, hg, hafter]
    · exact (congrArg Prod.snd hf).trans (htext.trans (congrArg Prod.snd hg).symm)
  · rintro ⟨files, hfiles, rfl⟩
    obtain ⟨before, rest, rfl, hbefore, hfrom⟩ := List.map_eq_append_iff.mp (hfiles.trans hrest)
    obtain ⟨between, rest, rfl, hbetween, hfrom⟩ := List.map_eq_append_iff.mp hfrom
    obtain ⟨g, after, rfl, hg, hafter⟩ := List.map_eq_cons_iff.mp hfrom
    have hmore : (before ++ sourceFile fs 0 p :: (between ++ g :: after)).map SourceFile.source =
        sources fs (a ++ p :: (b ++ q :: c)) := by
      rw [hsources, List.map_append, List.map_cons, List.map_append, List.map_cons, hbefore,
        hbetween, hg, hafter]
    exact ⟨_, hmore, hagain hmore (htext.trans (congrArg Prod.snd hg).symm)⟩

/-- The paths to whose files no later one leads. -/
def lastOnly (fs : Files) : List String → List String
  | [] => []
  | p :: paths =>
      if ∃ q ∈ paths, SameFile fs p q then lastOnly fs paths else p :: lastOnly fs paths

/-- **Only the last path to a file counts.** -/
theorem mayGive_lastOnly (h : ∀ f ∈ existing fs paths, f.ByName) :
    MayGive fs paths o ↔ MayGive fs (lastOnly fs paths) o := by
  -- the paths before those that are looked at stay as they are, and a path goes from behind them
  suffices hafter : ∀ a, (∀ f ∈ existing fs (a ++ paths), f.ByName) →
      (MayGive fs (a ++ paths) o ↔ MayGive fs (a ++ lastOnly fs paths) o) from hafter [] h
  clear h
  induction paths with
  | nil => exact fun _ _ => Iff.rfl
  | cons p paths ih =>
      intro a h
      rw [lastOnly]
      split
      case isTrue hlater =>
        obtain ⟨q, hq, hsame⟩ := hlater
        obtain ⟨b, c, rfl⟩ := List.append_of_mem hq
        rw [mayGive_repeated hsame h]
        exact ih a (forall_mem_of_sublist (fun _ _ => SourceFile.byName_congr) h)
      case isFalse =>
        rw [List.append_cons a p paths, List.append_cons a p (lastOnly fs paths)]
        rw [List.append_cons a p paths] at h
        exact ih _ h

/-- What does not matter about the paths of settings files, if no file has a key at its top that
goes into an array.  Two attempts come to the same if both fail, or both come to the same
settings. -/
structure LastCounts (fs : Files) : Prop where
  /-- A path counts for nothing if it is there again later, or a later path leads to its file: the
  same may come out with it and without it. -/
  repeated : ∀ a b c p q, p = q ∨ SameFile fs p q →
    (∀ f ∈ existing fs (a ++ [p] ++ b ++ [q] ++ c), f.ByName) →
      ∀ o, MayGive fs (a ++ [p] ++ b ++ [q] ++ c) o ↔ MayGive fs (a ++ b ++ [q] ++ c) o
  /-- And it is the same that comes out, in whatever orders, if no table of a file has two keys that
  are the same in lower case. -/
  same : ∀ a b c p q, p = q ∨ SameFile fs p q →
    (∀ f ∈ existing fs (a ++ [p] ++ b ++ [q] ++ c), f.ByName ∧ f.KeysApart) →
      ∀ rankings rankings', (fromPaths (fs.ranked rankings) (a ++ [p] ++ b ++ [q] ++ c)).toOption =
        (fromPaths (fs.ranked rankings') (a ++ b ++ [q] ++ c)).toOption
  /-- A path that leads to no file counts for nothing. -/
  absent : ∀ a b p, fs.isFile p = false → fromPaths fs (a ++ [p] ++ b) = fromPaths fs (a ++ b)
  /-- Of the well-known places and an explicit file, those count that are not repeated later. -/
  loaded : ∀ explicit, (∀ path, explicit = some path → fs.isFile path = true) →
    (∀ f ∈ existing fs (searchPaths fs ++ explicit.toList), f.ByName) →
      ∀ o, (∃ rankings, (load (fs.ranked rankings) explicit).toOption = o) ↔
        MayGive fs (lastOnly fs (searchPaths fs ++ explicit.toList)) o
  /-- And it is one outcome, in whatever orders, if no table of a file has two keys that are the same
  in lower case. -/
  settled : ∀ explicit, (∀ path, explicit = some path → fs.isFile path = true) →
    (∀ f ∈ existing fs (searchPaths fs ++ explicit.toList), f.ByName ∧ f.KeysApart) →
      ∀ rankings, (load (fs.ranked rankings) explicit).toOption =
        (fromPaths fs (lastOnly fs (searchPaths fs ++ explicit.toList))).toOption

/-- **Only the last occurrence of a settings file counts**, whatever is in the files between. -/
theorem last_counts (fs : Files) : LastCounts fs := by
  have hrepeated : ∀ a b c p q, p = q ∨ SameFile fs p q →
      (∀ f ∈ existing fs (a ++ [p] ++ b ++ [q] ++ c), f.ByName) →
        ∀ o, MayGive fs (a ++ [p] ++ b ++ [q] ++ c) o ↔ MayGive fs (a ++ b ++ [q] ++ c) o := by
    intro a b c p q hpq h o
    simp only [List.append_assoc, List.singleton_append] at h ⊢
    cases hp : fs.isFile p with
    | true => exact mayGive_repeated (hpq.elim (fun heq => heq ▸ ⟨hp, rfl⟩) id) h
    | false =>
        refine exists_congr fun rankings => ?_
        rw [List.cons_append, fromPaths_of_not_isFile ((fs.isFile_ranked rankings p).trans hp)]
  exact {
    repeated := hrepeated
    same := fun a b c p q hpq h rankings rankings' => by
      have hnames := fun f hf => (h f hf).1
      have hkeys := fun f hf => (h f hf).2
      -- without the path there is nothing that does not come out with it too
      obtain ⟨rankings'', hmay⟩ := (hrepeated a b c p q hpq hnames _).mpr ⟨rankings', rfl⟩
      rw [← hmay, fromPaths_ranked hnames hkeys, fromPaths_ranked hnames hkeys]
    absent := fun a b p hp => by
      rw [List.append_assoc, List.singleton_append]
      exact fromPaths_of_not_isFile hp
    loaded := fun explicit hfile h o => by
      rw [← mayGive_lastOnly h]
      exact exists_congr fun rankings => by rw [load_ranked_eq hfile]
    settled := fun explicit hfile h rankings => by
      have hnames := fun f hf => (h f hf).1
      have hkeys := fun f hf => (h f hf).2
      obtain ⟨rankings', hmay⟩ := (mayGive_lastOnly hnames).mpr ⟨fs.rankings, rfl⟩
      rw [load_ranked_eq hfile, fromPaths_ranked hnames hkeys,
        ← fromPaths_ranked hnames hkeys rankings', hmay]
      rfl }

/-- A working directory that is the directory of the user's settings. -/
def ownFiles : Files where
  workingDirectory := ["root", ".config", "kvmconf"]
  home := "/root"
  entries :=
    [(["root", ".config", "kvmconf", "kvmconf.toml"],
        .text "[net.defaults]\ntype = \"bridge\"\nmodel = \"e1000\"\n"),
      (["root", ".config", "kvmconf", "configs", "kvmconf.toml"], .text "net = false\n")]

/-- Names without a small letter come first. -/
def capitalsFirst : Ranking := fun _ name => if name.toList.any Char.isLower then 1 else 0

/-- Three paths lead to one file, and what is between the last two of them puts a truth value in the
place of a section. -/
theorem last_counts_own :
    (∀ f ∈ existing ownFiles (searchPaths ownFiles ++ ["kvmconf.toml"]), f.ByName ∧ f.KeysApart) ∧
      lastOnly ownFiles (searchPaths ownFiles ++ ["kvmconf.toml"]) =
        ["/etc/kvmconf/kvmconf.toml", "/root/.config/kvmconf/config.toml",
          "/root/.config/kvmconf/configs/kvmconf.toml", "kvmconf.toml"] ∧
      (load ownFiles (some "kvmconf.toml")).toOption.map (·.net) = some ⟨"bridge", "e1000"⟩ ∧
      (load (ownFiles.ranked fun _ => capitalsFirst) (some "kvmconf.toml")).toOption =
        (fromPaths ownFiles
          (lastOnly ownFiles (searchPaths ownFiles ++ ["kvmconf.toml"]))).toOption := by
  have hfiles : ∀ f ∈ existing ownFiles (searchPaths ownFiles ++ ["kvmconf.toml"]),
      f.ByName ∧ f.KeysApart := by
    decide +kernel
  have hfile : ∀ path, some "kvmconf.toml" = some path → ownFiles.isFile path = true := by
    rintro _ ⟨⟩
    decide +kernel
  exact ⟨hfiles, by decide +kernel, by decide +kernel,
    (last_counts ownFiles).settled _ hfile hfiles _⟩

/-- A file with two keys that are the same in lower case. -/
def twoSpellings : Files where
  workingDirectory := some []
  home := some "/root"
  entries := [(["p.toml"], .text "[vm.defaults]\ncpu = 4\nCPU = 8\n")]

/-- **Where keys are not apart**, a file that is named twice may give other settings than the file
that is named once: in another order, the other key counts. -/
theorem not_same_of_twoSpellings :
    (∀ f ∈ existing twoSpellings ["p.toml", "p.toml"], f.ByName) ∧
      (fromPaths twoSpellings ["p.toml", "p.toml"]).toOption.map (·.vm.cpu) = some 8 ∧
      (fromPaths (twoSpellings.ranked fun _ => capitalsFirst) ["p.toml"]).toOption.map (·.vm.cpu) =
        some 4 := by
  decide +kernel

end VirtEnv.Settings
