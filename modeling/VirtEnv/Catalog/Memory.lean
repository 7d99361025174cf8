import VirtEnv.Catalog
import VirtEnv.Table

/-!
# Catalogs in memory

Names are added one at a time; each addition takes the next number, over both kinds together,
and a name added again takes the new one.
-/

namespace VirtEnv

/-- The names of both kinds, with the number of additions so far. -/
structure MemoryCatalog where
  networks : Table CatalogId := []
  stores : Table CatalogId := []
  count : Nat := 0

namespace MemoryCatalog

/-- The names of a kind. -/
def table (c : MemoryCatalog) : DataKind → Table CatalogId
  | .network => c.networks
  | .store => c.stores

/-- Adds a name. -/
def add (c : MemoryCatalog) (kind : DataKind) (name : String) : MemoryCatalog :=
  match kind with
  | .network =>
      { c with networks := c.networks.insert name (c.count + 1), count := c.count + 1 }
  | .store => { c with stores := c.stores.insert name (c.count + 1), count := c.count + 1 }

/-- Adds names in order. -/
def addAll (c : MemoryCatalog) (additions : List (DataKind × String)) : MemoryCatalog :=
  additions.foldl (fun c a => c.add a.1 a.2) c

/-- The number of a name. -/
def lookup (c : MemoryCatalog) (kind : DataKind) (name : String) : Option CatalogId :=
  (c.table kind).lookup name

/-- The catalog that answers from memory. -/
def toCatalog (c : MemoryCatalog) : Catalog :=
  .steady fun kind name => .ok (c.lookup kind name)

end MemoryCatalog

end VirtEnv
