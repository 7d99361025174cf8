import VirtEnv.Index

/-!
# Namespaces

The tables that expressions of a document may refer to: `var`, `local`, `network`, `store` and
`data`.  Variables are evaluated in the empty scope and locals in a scope that holds only `var`.
The `data` blocks are then checked against the catalog, in their order, one lookup for each; the
first that is not found, or that the catalog fails on, ends the load.
-/

namespace VirtEnv

open Hcl (Value Scope)

/-- One question to a catalog. -/
structure Lookup where
  kind : DataKind
  name : String
  deriving DecidableEq, Repr

/-- A result together with the catalog lookups that were made for it. -/
structure Run (α : Type) where
  result : Except Error α
  lookups : List Lookup

namespace Run

/-- A result without lookups. -/
def pure {α : Type} (result : Except Error α) : Run α := ⟨result, []⟩

/-- Goes on with a successful result, without further lookups. -/
def andThen {α β : Type} (r : Run α) (f : α → Except Error β) : Run β :=
  ⟨r.result.bind f, r.lookups⟩

/-- Puts a lookup before those of a run. -/
def after {α : Type} (lookup : Lookup) (r : Run α) : Run α := ⟨r.result, lookup :: r.lookups⟩

end Run

/-- The names of validated `data` blocks. -/
structure DataTables where
  networks : NameSet := []
  stores : NameSet := []
  deriving DecidableEq, Repr

namespace DataTables

/-- The names of a kind. -/
def names (t : DataTables) : DataKind → NameSet
  | .network => t.networks
  | .store => t.stores

/-- A name of a kind is there. -/
def has (t : DataTables) (kind : DataKind) (name : String) : Bool := (t.names kind).contains name

/-- Adds a name. -/
def add (t : DataTables) (kind : DataKind) (name : String) : DataTables :=
  match kind with
  | .network => { t with networks := t.networks.insert name }
  | .store => { t with stores := t.stores.insert name }

/-- Checks `data` blocks against a catalog and adds them to those before them; `n` is the number
of lookups made so far. -/
def check (catalog : Catalog) (cancellation : Cancellation) (n : Nat) (t : DataTables) :
    List DataBlock → Run DataTables
  | [] => .pure (.ok t)
  | d :: ds =>
      match d.kind? with
      | none => .pure (.error (.unsupportedDataKind d.label))
      | some kind =>
          if cancellation.reached n then .pure (.error .cancelled)
          else if cancellation.interrupts n then
            .after ⟨kind, d.name⟩ (.pure (.error .cancelled))
          else
            .after ⟨kind, d.name⟩
              (match catalog.answer n kind d.name with
                | .ok (some _) => check catalog cancellation (n + 1) (t.add kind d.name) ds
                | .ok none => .pure (.error (.unknownDataReference kind d.name))
                | .error fault => .pure (.error (.catalog kind d.name fault)))

/-- The `data` table as a value. -/
def toValue (t : DataTables) : Value :=
  .object [("network", .ofNames t.networks), ("store", .ofNames t.stores)]

end DataTables

/-- The tables that expressions may refer to. -/
structure Namespace where
  vars : List (String × Value)
  locals : List (String × Value)
  networks : NameSet
  stores : NameSet
  data : DataTables

namespace Namespace

/-- The values of variables with a default, after those before them. -/
def evalVariables (done : List (String × Value)) :
    List Variable → Except Error (List (String × Value))
  | [] => .ok done
  | v :: vs =>
      match v.default with
      | none => evalVariables done vs
      | some e =>
          match e.evaluate [] with
          | .ok value => evalVariables (Hcl.setKey done v.name value) vs
          | .error f => .error (.ofFailure (.variableEval v.name) f)

/-- The values of locals, after those before them. -/
def evalLocals (scope : Scope) (done : List (String × Value)) :
    List (String × Hcl.Expr) → Except Error (List (String × Value))
  | [] => .ok done
  | (name, e) :: ls =>
      match e.evaluate scope with
      | .ok value => evalLocals scope (Hcl.setKey done name value) ls
      | .error f => .error (.ofFailure (.localEval name) f)

/-- The scope of locals. -/
def varScope (vars : List (String × Value)) : Scope := [("var", .object vars)]

/-- The variables and locals of a document. -/
def evalDocument (d : Document) :
    Except Error (List (String × Value) × List (String × Value)) := do
  let vars ← evalVariables [] d.vars
  let locals ← evalLocals (varScope vars) [] (d.locals.getD [])
  .ok (vars, locals)

/-- The namespace of an indexed document. -/
def build (d : Document) (index : Index) (catalog : Catalog) (cancellation : Cancellation) :
    Run Namespace :=
  match evalDocument d with
  | .error e => .pure (.error e)
  | .ok (vars, locals) =>
      (DataTables.check catalog cancellation 0 {} d.data).andThen fun data =>
        .ok { vars, locals, networks := index.networks, stores := index.stores, data }

/-- The scope that holds the tables of a namespace. -/
def scope (n : Namespace) : Scope :=
  [("var", .object n.vars), ("local", .object n.locals), ("network", .ofNames n.networks),
    ("store", .ofNames n.stores), ("data", n.data.toValue)]

/-- The value of a variable. -/
def var? (n : Namespace) (name : String) : Option Value := n.vars.lookup name

/-- The value of a local. -/
def local? (n : Namespace) (name : String) : Option Value := n.locals.lookup name

/-- A declared network, by name. -/
def network? (n : Namespace) (name : String) : Option String :=
  if n.networks.contains name then some name else none

/-- A declared store, by name. -/
def store? (n : Namespace) (name : String) : Option String :=
  if n.stores.contains name then some name else none

/-- A validated `data` block, by name. -/
def data? (n : Namespace) (kind : DataKind) (name : String) : Option String :=
  if n.data.has kind name then some name else none

end Namespace

end VirtEnv
