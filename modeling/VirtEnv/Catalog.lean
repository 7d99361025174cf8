import VirtEnv.Resource
import VirtEnv.Numeric.Shortest

/-!
# Catalogs

A catalog knows resources that were created outside a document, by kind and name.  It is
described by what it answers: to its first lookup, its second, and so on.  A steady catalog
answers alike every time.

A load may be cancelled at one moment.  What matters of that moment is where it falls among the
lookups: before one starts, or while one is pending.  A lookup that answers at once counts even
if the load was cancelled while it answered, so such a moment falls before the next lookup.
-/

namespace VirtEnv

/-- The number by which a catalog knows a resource, which may be negative. -/
abbrev CatalogId := Int

/-- What a database reports. -/
inductive DatabaseFault where
  | noSuchTable (table : String)
  | cannotOpen
  | notADatabase
  deriving DecidableEq, Repr

/-- Why a catalog does not answer. -/
inductive CatalogFault where
  | database (f : DatabaseFault)
  | unavailable (reason : String)
  deriving DecidableEq, Repr

/-- The code of a database report. -/
def DatabaseFault.code : DatabaseFault → Nat
  | noSuchTable _ => 1
  | cannotOpen => 14
  | notADatabase => 26

/-- The wording of a database report. -/
def DatabaseFault.text : DatabaseFault → String
  | noSuchTable table => "no such table: " ++ table
  | cannotOpen => "unable to open database file"
  | notADatabase => "file is not a database"

/-- The message of a catalog's fault. -/
def CatalogFault.message : CatalogFault → String
  | database f =>
      "catalog database error: error returned from database: (code: "
        ++ Numeric.digitText f.code ++ ") " ++ f.text
  | unavailable reason => "catalog unavailable: " ++ reason

/-- What a catalog answers to one lookup. -/
abbrev CatalogAnswer := Except CatalogFault (Option CatalogId)

/-- A catalog: its answer to the lookup with a given number, counted from zero. -/
structure Catalog where
  answer : Nat → DataKind → String → CatalogAnswer

namespace Catalog

/-- A catalog that answers alike every time. -/
def steady (f : DataKind → String → CatalogAnswer) : Catalog := ⟨fun _ => f⟩

/-- A catalog of which one lookup fails. -/
def failingAt (c : Catalog) (n : Nat) (fault : CatalogFault) : Catalog :=
  ⟨fun i kind name => if i == n then .error fault else c.answer i kind name⟩

end Catalog

/-- The moment at which a load is cancelled, among its lookups. -/
inductive Cancellation where
  | never
  | before (lookup : Nat)
  | during (lookup : Nat)
  deriving DecidableEq, Repr

namespace Cancellation

/-- The load is cancelled by the time a lookup would start. -/
def reached (c : Cancellation) (lookup : Nat) : Bool :=
  match c with
  | never => false
  | before n => n ≤ lookup
  | during n => n < lookup

/-- The load is cancelled while a lookup is pending. -/
def interrupts (c : Cancellation) (lookup : Nat) : Bool :=
  match c with
  | during n => n == lookup
  | _ => false

end Cancellation

end VirtEnv
