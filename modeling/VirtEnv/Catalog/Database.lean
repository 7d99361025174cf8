import VirtEnv.Catalog

/-!
# Catalogs in a database

A database may have a table for each kind; its rows are numbered from one.  Opening needs a file,
except for a database in memory, and whether the file holds a database shows at the first lookup.
-/

namespace VirtEnv

/-- The tables of a database, each a list of names. -/
structure Database where
  networks : Option (List String)
  stores : Option (List String)
  deriving DecidableEq, Repr

/-- What a database path leads to. -/
inductive DatabaseFile where
  | missing
  | directory
  | database (d : Database)
  | empty
  | other
  deriving DecidableEq, Repr

namespace Database

/-- The names in the table of a kind. -/
def table? (d : Database) : DataKind → Option (List String)
  | .network => d.networks
  | .store => d.stores

/-- The name of the table of a kind. -/
def tableName : DataKind → String
  | .network => "networks"
  | .store => "stores"

/-- The number of the first row with a name. -/
def lookup (d : Database) (kind : DataKind) (name : String) : CatalogAnswer :=
  match d.table? kind with
  | none => .error (.database (.noSuchTable (tableName kind)))
  | some names => .ok ((names.findIdx? (· == name)).map fun (row : Nat) => (row : CatalogId) + 1)

/-- The catalog that answers from a database. -/
def toCatalog (d : Database) : Catalog := .steady d.lookup

/-- A database without tables. -/
def empty : Database := ⟨none, none⟩

/-- The path of a database in memory, which begins empty. -/
def memoryPath : String := ":memory:"

/-- Opens the database at a path. -/
def open? (path : String) (file : DatabaseFile) : Except CatalogFault Catalog :=
  if path.isEmpty then .error (.unavailable "database path is empty")
  else if path == memoryPath then .ok empty.toCatalog
  else
    match file with
    | .missing => .error (.database .cannotOpen)
    | .directory => .error (.database .cannotOpen)
    | .database d => .ok d.toCatalog
    | .empty => .ok empty.toCatalog
    | .other => .ok (.steady fun _ _ => .error (.database .notADatabase))

end Database

end VirtEnv
