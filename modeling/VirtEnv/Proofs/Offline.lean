import VirtEnv.Proofs.Acceptance
import VirtEnv.Proofs.Tasks

/-!
# Offline — a load without a database

A command that loads a document does without a database when it is told to, or when none is named
and there is none where the settings look for it.  Its catalog is empty then, and what it comes to
does not depend on which database is named, nor on what is in it.

* `WithoutDatabase.outcome_run`: without a database, that is a load against the empty catalog.
* `Document.resolve_empty`: such a load is refused at the first `data` block.
* `isolated`: two commands without a database, with whatever arguments, environments and files, and
  what becomes of a command when another database is named, or none.
-/

namespace VirtEnv

/-! ### The empty catalog -/

/-- How a catalog without entries refuses a block. -/
def DataBlock.refusal (b : DataBlock) : Error :=
  match b.kind? with
  | none => .unsupportedDataKind b.label
  | some kind => .unknownDataReference kind b.name

namespace Document

variable {d : Document} {b : DataBlock} {rest : List DataBlock}

/-- **A document with a `data` block is refused** at the first one, once its names, variables and
locals are in order. -/
theorem resolve_empty (hearly : AllPass d.earlyChecks) (hdata : d.data = b :: rest) :
    (d.resolve Command.emptyCatalog .never).result = .error b.refusal := by
  have hpast : d.Past Command.emptyCatalog [] (b :: rest) :=
    ⟨hearly, hdata, Catalog.knowsAll_nil⟩
  unfold DataBlock.refusal
  cases hkind : b.kind? with
  | none => rw [resolve_at_unsupported hpast (fun _ _ => Cancellation.quietAt_never) hkind]
  | some kind =>
      have hanswer : answered Command.emptyCatalog 0 kind b.name =
          some (.unknownDataReference kind b.name) := by
        cases kind <;> rfl
      rw [resolve_at_refused hpast (fun _ _ => Cancellation.quietAt_never)
        (DataBlock.lookup?_of_kind hkind) Cancellation.quietAt_never hanswer]

/-- A document that is loaded against the empty catalog has no `data` block. -/
theorem data_eq_nil_of_resolve_empty {r : Resolved}
    (h : (d.resolve Command.emptyCatalog .never).result = .ok r) : d.data = [] := by
  rcases allPass_or_firstFault d.earlyChecks with hearly | ⟨e, he⟩
  · cases hdata : d.data with
    | nil => rfl
    | cons b rest => cases (resolve_empty hearly hdata).symm.trans h
  · rw [resolve_of_refused he] at h
    cases h

end Document

/-! ### The same document -/

/-- The document at a path is found in the same place, with the same text. -/
structure SameDocument (fs fs' : Files) (file : String) : Prop where
  place : fs'.canonical file = fs.canonical file
  text : ∀ path, fs.canonical file = .ok path → fs'.read path = fs.read path

theorem SameDocument.loadFile_eq {fs fs' : Files} {file : String} {C : Catalog} {k : Cancellation}
    (h : SameDocument fs fs' file) : loadFile fs' file C k = loadFile fs file C k := by
  rw [loadFile, loadFile, h.place]
  cases hpath : fs.canonical file with
  | error fault => rfl
  | ok path => simp only [h.text path hpath]

namespace Command

/-! ### Without a database -/

/-- A command that loads a document with these settings, and without a database: it is told so, or
none is named, by the option or the variable that stands for it, and there is none where the
settings look for it. -/
structure WithoutDatabase (task : Task) (s : Subject) (settings : Settings)
    (arguments : List String) (env : Environment) (fs : Files) : Prop where
  invoked : Invokes task s env arguments
  loads : Settings.load fs s.settings = .ok settings
  without : s.catalog.offline = true ∨ s.catalog.db = none ∧ fs.pathExists settings.db = false

section

variable {task : Task} {s s' : Subject} {settings settings' : Settings}
  {arguments arguments' : List String} {env env' : Environment} {fs fs' : Files}

/-- **Without a database** a document is loaded against the empty catalog. -/
theorem WithoutDatabase.outcome_run (h : WithoutDatabase task s settings arguments env fs) :
    (run arguments env fs).outcome =
      (loadFile fs s.file emptyCatalog .never).result.mapError .error >>=
        task.text s.file settings := by
  obtain ⟨quiet, hinvoked⟩ := h.invoked
  have hopen : (s.catalog.open fs settings).1 = .ok emptyCatalog := by
    rcases h.without with hoffline | ⟨hdb, hmissing⟩
    · rw [CatalogChoice.open, if_pos hoffline]
    · simp only [CatalogChoice.open, hdb, hmissing, Bool.false_eq_true, if_false]
      split <;> rfl
  have hloaded : s.loaded fs =
      (loadFile fs s.file emptyCatalog .never).result.mapError .error >>= fun r =>
        .ok (settings, r) := by
    rw [Subject.loaded, h.loads]
    show ((s.catalog.open fs settings).1 >>= _) = _
    rw [hopen]
    rfl
  rw [Task.outcome_run hinvoked, hloaded, bind_assoc]
  rfl

/-- Files with the same document, and with settings that differ in the place of the database at
most. -/
structure Elsewhere (s : Subject) (settings : Settings) (fs fs' : Files) : Prop where
  document : SameDocument fs fs' s.file
  settings : ∃ db, Settings.load fs' s.settings = .ok { settings with db }

/-- What holds of a command that does without a database.  Two commands come to the same if they have
the same exit code, output and problem. -/
structure Isolated (task : Task) (s : Subject) (settings : Settings) (arguments : List String)
    (env : Environment) (fs : Files) : Prop where
  /-- Any other command without a database that has the same task with the same document comes to
  the same.  It may name another database, its settings may look for one elsewhere, and the files may
  differ in what is there. -/
  same : ∀ s' settings' arguments' env' fs',
    WithoutDatabase task s' settings' arguments' env' fs' →
      s'.file = s.file → settings' = { settings with db := settings'.db } →
      SameDocument fs fs' s.file →
        (run arguments' env' fs').outcome = (run arguments env fs).outcome
  /-- Offline, a command comes to the same whatever path the arguments name besides, and whatever the
  environment names. -/
  named : s.catalog.offline = true → ∀ globals options, Splits task ["db"] arguments globals options →
    ∀ path, path ≠ "" → ∀ env' fs', env'.lookup settingsVariable = env.lookup settingsVariable →
      Elsewhere s settings fs fs' →
        (run (globals ++ task.name :: ("--db=" ++ path) :: options) env' fs').outcome =
          (run arguments env fs).outcome
  /-- Offline, a command comes to the same whatever path the environment names, or if it names none. -/
  environment : s.catalog.offline = true → ∀ env' fs',
    env'.lookup settingsVariable = env.lookup settingsVariable →
      env'.lookup databaseVariable ≠ some "" → Elsewhere s settings fs fs' →
        (run arguments env' fs').outcome = (run arguments env fs).outcome
  /-- A command for which there is no database comes to the same offline. -/
  offline : ∀ globals options, Splits task ["offline"] arguments globals options →
    (run (globals ++ task.name :: "--offline" :: options) env fs).outcome =
      (run arguments env fs).outcome
  /-- An empty path is refused, in the arguments, and in the environment unless the arguments name a
  database. -/
  empty : ∀ globals options, Splits task ["db"] arguments globals options →
    (∀ env' fs',
      (run (globals ++ task.name :: "--db=" :: options) env' fs').outcome = .error .usage) ∧
      ∀ env' fs', env'.lookup databaseVariable = some "" →
        (run arguments env' fs').outcome = .error .usage
  /-- A document that is accepted has no `data` block. -/
  accepted : (run arguments env fs).code = 0 → ∃ d, DocumentAt fs s.file d ∧ d.data = []
  /-- A document whose names, variables and locals are in order is refused at its first `data`
  block. -/
  refused : ∀ d index values b rest, DocumentAt fs s.file d → Index.build d = .ok index →
    Namespace.evalDocument d = .ok values → d.data = b :: rest →
      (run arguments env fs).outcome = .error (.error b.refusal)

/-- Two commands without a database come to the same. -/
theorem WithoutDatabase.outcome_eq (h : WithoutDatabase task s settings arguments env fs)
    (h' : WithoutDatabase task s' settings' arguments' env' fs') (hfile : s'.file = s.file)
    (hsettings : settings' = { settings with db := settings'.db })
    (hdocument : SameDocument fs fs' s.file) :
    (run arguments' env' fs').outcome = (run arguments env fs).outcome := by
  -- both load the document against the empty catalog, so only the settings are left
  rw [h'.outcome_run, h.outcome_run, hfile, hdocument.loadFile_eq, hsettings]
  exact congrArg _ (funext fun r => Task.text_db ..)

/-- Offline, only the document and the settings count. -/
theorem WithoutDatabase.outcome_elsewhere {db : Option String}
    (h : WithoutDatabase task s settings arguments env fs) (hoffline : s.catalog.offline = true)
    (helsewhere : Elsewhere s settings fs fs')
    (hinvoked : Invokes task { s with catalog := { s.catalog with db } } env' arguments') :
    (run arguments' env' fs').outcome = (run arguments env fs).outcome := by
  obtain ⟨hdocument, db', hloads⟩ := helsewhere
  exact h.outcome_eq ⟨hinvoked, hloads, .inl hoffline⟩ rfl rfl hdocument

/-- **A command without a database is isolated** from every database, whatever its arguments, its
environment and the files are. -/
theorem isolated (h : WithoutDatabase task s settings arguments env fs) :
    Isolated task s settings arguments env fs where
  same _ _ _ _ _ h' hfile hsettings hdocument := h.outcome_eq h' hfile hsettings hdocument
  named hoffline _ _ hsplit _ hpath _ _ hsettings helsewhere :=
    h.outcome_elsewhere hoffline helsewhere (h.invoked.named hsplit hpath hsettings)
  environment hoffline _ _ hsettings hdb helsewhere := by
    obtain ⟨db, hinvoked⟩ := h.invoked.environment hsettings hdb
    exact h.outcome_elsewhere hoffline helsewhere hinvoked
  offline _ _ hsplit :=
    h.outcome_eq ⟨h.invoked.offline hsplit, h.loads, .inl rfl⟩ rfl rfl ⟨rfl, fun _ _ => rfl⟩
  empty _ _ hsplit :=
    ⟨fun _ _ => outcome_of_empty_option h.invoked hsplit,
      fun _ _ => outcome_of_empty_variable h.invoked hsplit⟩
  accepted := by
    intro hcode
    obtain ⟨text, htext⟩ := Report.code_eq_zero_iff.mp hcode
    rw [h.outcome_run] at htext
    obtain ⟨r, hr, -⟩ := bind_eq_ok.mp htext
    obtain ⟨d, hd, hresult⟩ := exists_documentAt (mapError_eq_ok.mp hr)
    exact ⟨d, hd, Document.data_eq_nil_of_resolve_empty hresult⟩
  refused := by
    intro d index values b rest hd hindex hvalues hdata
    have hearly : AllPass d.earlyChecks :=
      (Document.past_of_prepared (C := emptyCatalog) hindex hvalues).early
    rw [h.outcome_run, hd.loadFile_eq, Document.resolve_empty hearly hdata]
    rfl

theorem withoutDatabase_of_toOption (quiet : Bool)
    (hinvoked : (Invocation.ofArguments env arguments).toOption = some ⟨task.request s, quiet⟩)
    (hloads : (Settings.load fs s.settings).toOption = some settings)
    (hwithout : s.catalog.offline = true ∨
      s.catalog.db = none ∧ fs.pathExists settings.db = false) :
    WithoutDatabase task s settings arguments env fs :=
  ⟨⟨quiet, toOption_eq_some.mp hinvoked⟩, toOption_eq_some.mp hloads, hwithout⟩

end

/-- A directory with a document that asks for a network, and a database that knows it. -/
def linkedFiles : Files where
  workingDirectory := ["srv"]
  home := "/root"
  entries :=
    [(["srv", "kvmconf.hcl"], .text "data network uplink \x7b\x7d"),
      (["root", ".local", "share", "kvmconf", "kvmconf.db"], .database ⟨some ["uplink"], none⟩)]

/-- A directory with the same document, a file that is no database, and settings that look for a
database where there is none. -/
def severedFiles : Files where
  workingDirectory := ["srv"]
  home := "/root"
  entries :=
    [(["srv", "kvmconf.hcl"], .text "data network uplink \x7b\x7d"),
      (["srv", "kvmconf.toml"], .text "[paths]\ndb = \"lost.db\""), (["srv", "torn.db"], .bytes)]

/-- The document is accepted with the database.  It is refused in the same way offline, whatever is
named, and where there is no database. -/
theorem isolated_linked :
    (run ["check"] [] linkedFiles).code = 0 ∧
      (∃ s settings, WithoutDatabase .check s settings ["check", "--offline"] [] linkedFiles ∧
        Isolated .check s settings ["check", "--offline"] [] linkedFiles) ∧
      (run ["check", "--offline"] [] linkedFiles).outcome =
        .error (.error (.unknownDataReference .network "uplink")) ∧
      (run ["check", "--db=torn.db", "--offline"] [("KVMCONF_DB", "/")] severedFiles).outcome =
        (run ["check", "--offline"] [] linkedFiles).outcome ∧
      (run ["check", "--offline"] [("KVMCONF_DB", "torn.db")] severedFiles).outcome =
        (run ["check", "--offline"] [] linkedFiles).outcome ∧
      (run ["-q", "check"] [] severedFiles).outcome =
        (run ["check", "--offline"] [] linkedFiles).outcome := by
  let settings := Settings.default "/root"
  have hlinked : WithoutDatabase .check ⟨"kvmconf.hcl", none, ⟨none, true⟩⟩ settings
      ["check", "--offline"] [] linkedFiles :=
    withoutDatabase_of_toOption false (by decide +kernel) (by decide +kernel) (.inl rfl)
  have hlost : WithoutDatabase .check ⟨"kvmconf.hcl", none, ⟨none, false⟩⟩
      { settings with db := "lost.db" } ["-q", "check"] [] severedFiles :=
    withoutDatabase_of_toOption true (by decide +kernel) (by decide +kernel)
      (.inr ⟨rfl, by decide +kernel⟩)
  have hplace : linkedFiles.canonical "kvmconf.hcl" = .ok "/srv/kvmconf.hcl" :=
    toOption_eq_some.mp (by decide +kernel)
  have hread : linkedFiles.read "/srv/kvmconf.hcl" = .ok "data network uplink \x7b\x7d" :=
    toOption_eq_some.mp (by decide +kernel)
  have hdocument : SameDocument linkedFiles severedFiles "kvmconf.hcl" := by
    constructor
    · rw [hplace]
      exact toOption_eq_some.mp (by decide +kernel)
    · intro path hpath
      cases hplace.symm.trans hpath
      rw [hread]
      exact toOption_eq_some.mp (by decide +kernel)
  have hdata : ((Document.ofFile "/srv/kvmconf.hcl"
      (.ok "data network uplink \x7b\x7d")).toOption.map fun d =>
        (d.data, (Index.build d).toOption.isSome, (Namespace.evalDocument d).toOption.isSome)) =
      some ([⟨"network", "uplink"⟩], true, true) := by
    decide +kernel
  obtain ⟨d, hd, hdata⟩ := Option.map_eq_some_iff.mp hdata
  obtain ⟨hblocks, hrest⟩ := Prod.mk.inj hdata
  obtain ⟨hindex, hvalues⟩ := Prod.mk.inj hrest
  obtain ⟨index, hindex⟩ := Option.isSome_iff_exists.mp hindex
  obtain ⟨values, hvalues⟩ := Option.isSome_iff_exists.mp hvalues
  have hisolated := isolated hlinked
  have helsewhere : Elsewhere ⟨"kvmconf.hcl", none, ⟨none, true⟩⟩ settings linkedFiles severedFiles :=
    ⟨hdocument, "lost.db", hlost.loads⟩
  have hsplit : Splits .check ["db"] ["check", "--offline"] [] ["--offline"] :=
    ⟨rfl, by decide, by decide⟩
  refine ⟨by decide +kernel, ⟨_, _, hlinked, hisolated⟩, ?_, ?_, ?_, ?_⟩
  · exact hisolated.refused d index values _ _
      ⟨_, hplace, hread ▸ toOption_eq_some.mp hd⟩ (toOption_eq_some.mp hindex)
      (toOption_eq_some.mp hvalues) hblocks
  · exact hisolated.named rfl [] _ hsplit "torn.db" (by decide) [("KVMCONF_DB", "/")] _ rfl helsewhere
  · exact hisolated.environment rfl [("KVMCONF_DB", "torn.db")] _ rfl (by decide) helsewhere
  · exact hisolated.same _ _ _ _ _ hlost rfl rfl hdocument

/-- A directory with a document that asks for a network, and a database that knows it.  There is none
where the settings look for it. -/
def asideFiles : Files where
  workingDirectory := ["srv"]
  home := "/root"
  entries :=
    [(["srv", "kvmconf.hcl"], .text "data network uplink \x7b\x7d"),
      (["srv", "aside.db"], .database ⟨some ["uplink"], none⟩)]

/-- A directory with a document of which a VM takes its processors from the settings, and with
settings of which two keys are the same in lower case. -/
def twoPlans : Files where
  workingDirectory := ["srv"]
  home := "/root"
  entries :=
    [(["srv", "kvmconf.hcl"], .text ("network lan \x7b\x7d\nstore pool \x7b\x7d\n"
        ++ "vm web \x7b\n  network = \"lan\"\n  store = \"pool\"\n\x7d")),
      (["srv", "kvmconf.toml"], .text "[vm.defaults]\ncpu = 4\nCPU = 8\n")]

/-- **The environment counts** where the arguments name no database, and an empty path is refused
even offline.  And two runs may load two settings where keys are the same in lower case. -/
theorem not_isolated_of_variable :
    (∃ settings, (Settings.load asideFiles none).toOption = some settings ∧
        asideFiles.pathExists settings.db = false) ∧
      (run ["check"] [("KVMCONF_DB", "aside.db")] asideFiles).code = 0 ∧
      (run ["check", "--offline"] [("KVMCONF_DB", "aside.db")] asideFiles).code = 1 ∧
      (run ["check", "--offline"] [("KVMCONF_DB", "")] asideFiles).code = 2 ∧
      (run ["check", "--offline", "--db="] [] asideFiles).code = 2 ∧
      (run ["show", "--plan", "--offline"] [] twoPlans).code = 0 ∧
      (run ["show", "--plan", "--offline"] [] twoPlans).outcome.toOption ≠
        (run ["show", "--plan", "--offline"] []
          (twoPlans.ranked fun _ => Settings.capitalsFirst)).outcome.toOption := by
  refine ⟨⟨Settings.default "/root", by decide +kernel, by decide +kernel⟩, ?_⟩
  decide +kernel

end Command

end VirtEnv
