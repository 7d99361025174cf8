import VirtEnv.Catalog.Memory
import VirtEnv.Command.Report
import VirtEnv.Load
import VirtEnv.Settings.Search

/-!
# Loading for a command

A command that loads a document reads the settings first, then opens the catalog, then loads.
Without a database at the place that the settings name the catalog is empty, and a warning says
so; a database that was asked for must open.
-/

namespace VirtEnv.Command

/-- The catalog without entries. -/
def emptyCatalog : Catalog := MemoryCatalog.toCatalog {}

/-- The catalog of a choice, and whether its database was not found. -/
def CatalogChoice.open (c : CatalogChoice) (fs : Files) (settings : Settings) :
    Except Problem Catalog × Bool :=
  let openAt (path : String) : Except Problem Catalog :=
    (Database.open? path (fs.databaseFile path)).mapError (.cannotOpenCatalog path)
  if c.offline then (.ok emptyCatalog, false)
  else
    match c.db with
    | some path => (openAt path, false)
    | none =>
        if fs.pathExists settings.db then (openAt settings.db, false)
        else (.ok emptyCatalog, true)

/-- Loads the document of a command and goes on with it and the settings. -/
def Subject.load (s : Subject) (fs : Files)
    (next : Settings → Resolved → Except Problem String) : Report :=
  match Settings.load fs s.settings with
  | .error e => .failure (.error e)
  | .ok settings =>
      let (catalog, warned) := s.catalog.open fs settings
      let outcome := do
        let resolved ← (loadFile fs s.file (← catalog) .never).result.mapError .error
        next settings resolved
      { outcome, warned }

end VirtEnv.Command
