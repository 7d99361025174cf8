import VirtEnv.Namespace
import VirtEnv.Proofs.Names

/-!
# Tables — the namespace that a document means

Evaluating the variables and the locals of a document is a row of checks, one for each definition:
it has a value.  The tables that come of it are those of the values, and `Document.tables` is the
namespace with these tables, the declared names, and the names of the `data` blocks.  It is said of
the document alone: no catalog occurs in it.

* `Namespace.evalDocument_eq`: the variables and locals of a document are the row of their checks,
  with the tables of `Document.tables`.
* `DataTables.names_ofBlocks`, `DataTables.has_ofBlocks`: the names in the `data` table are those of
  the blocks of the kind.
-/

namespace VirtEnv

open Hcl (Expr Scope Value)

/-! ### Values -/

/-- The value of an expression in a scope; null if it has none. -/
def Hcl.Expr.valueIn (e : Expr) (scope : Scope) : Value :=
  match e.evaluate scope with
  | .ok v => v
  | .error _ => .null

/-- The check that an expression has a value. -/
def evaluates (scope : Scope) (fault : Hcl.Fault → Error) (e : Expr) : Check :=
  match e.evaluate scope with
  | .ok _ => none
  | .error f => some (.ofFailure fault f)

theorem evaluates_eq_none {scope : Scope} {fault : Hcl.Fault → Error} {e : Expr} :
    evaluates scope fault e = none ↔ e.evaluate scope = .ok (e.valueIn scope) := by
  cases h : e.evaluate scope <;> simp [evaluates, Expr.valueIn, h]

/-- Evaluating an expression and going on with its value is the check that it has one, followed
by the checks of what comes after. -/
theorem outcome_evaluates {α : Type} {scope : Scope} {fault : Hcl.Fault → Error} {e : Expr}
    {k : Value → Except Error α} {cs : List Check} {a : α}
    (h : k (e.valueIn scope) = outcome cs a) :
    (match e.evaluate scope with
      | .ok v => k v
      | .error f => .error (.ofFailure fault f)) = outcome (evaluates scope fault e :: cs) a := by
  cases he : e.evaluate scope with
  | ok v => simpa [evaluates, Expr.valueIn, he, outcome] using h
  | error f => simp [evaluates, he, outcome]

/-! ### Definitions -/

/-- Sets several keys, one after the other. -/
def Hcl.setKeys {α : Type} (fields pairs : List (String × α)) : List (String × α) :=
  pairs.foldl (fun fields p => setKey fields p.1 p.2) fields

/-- Setting a key changes what is found under that key only. -/
theorem Hcl.lookup_setKey {α : Type} {fields : List (String × α)} {key m : String} {a : α} :
    (setKey fields key a).lookup m = if m = key then some a else fields.lookup m := by
  induction fields with
  | nil => exact Table.lookup_cons
  | cons p rest ih =>
      obtain ⟨k, b⟩ := p
      by_cases hk : k = key
      · subst hk
        by_cases hm : m = k <;> simp [setKey, Table.lookup_cons, hm]
      · by_cases hm : m = k
        · subst hm
          simp [setKey, hk]
        · simp [setKey, Table.lookup_cons, hk, hm, ih]

/-- Of several keys that are set, the last of a name counts. -/
theorem Hcl.lookup_setKeys {α : Type} {fields pairs : List (String × α)} {m : String} :
    (setKeys fields pairs).lookup m = (pairs.reverse.lookup m).or (fields.lookup m) := by
  induction pairs generalizing fields with
  | nil => rfl
  | cons p pairs ih =>
      rw [setKeys, List.foldl_cons, ← setKeys, ih, lookup_setKey, List.reverse_cons,
        List.lookup_append, Option.or_assoc, Table.lookup_cons]
      by_cases hm : m = p.1 <;> simp [hm]

/-- The definitions with their values. -/
def valuesIn (scope : Scope) (definitions : List (String × Expr)) : List (String × Value) :=
  definitions.map fun p => (p.1, p.2.valueIn scope)

/-- The checks of definitions. -/
def definitionChecks (scope : Scope) (fault : String → Hcl.Fault → Error)
    (definitions : List (String × Expr)) : List Check :=
  definitions.map fun p => evaluates scope (fault p.1) p.2

/-- The defaults of variables. -/
def defaults (vars : List Variable) : List (String × Expr) :=
  vars.filterMap fun v => v.default.map (v.name, ·)

namespace Namespace

theorem evalVariables_eq {done : List (String × Value)} {vars : List Variable} :
    evalVariables done vars =
      outcome (definitionChecks [] .variableEval (defaults vars))
        (Hcl.setKeys done (valuesIn [] (defaults vars))) := by
  induction vars generalizing done with
  | nil => rfl
  | cons v vars ih =>
      cases hv : v.default with
      | none => simpa [evalVariables, defaults, hv] using ih
      | some e =>
          simp only [evalVariables, defaults, hv, List.filterMap_cons, Option.map_some]
          exact outcome_evaluates ih

theorem evalLocals_eq {scope : Scope} {done : List (String × Value)}
    {locals : List (String × Expr)} :
    evalLocals scope done locals =
      outcome (definitionChecks scope .localEval locals)
        (Hcl.setKeys done (valuesIn scope locals)) := by
  induction locals generalizing done with
  | nil => rfl
  | cons l locals ih => exact outcome_evaluates ih

end Namespace

/-! ### The `data` table -/

namespace DataTables

/-- Adds the name of a block, if its kind is known. -/
def addBlock (t : DataTables) (b : DataBlock) : DataTables :=
  match b.kind? with
  | some kind => t.add kind b.name
  | none => t

/-- Adds the names of several blocks. -/
def addBlocks (t : DataTables) (bs : List DataBlock) : DataTables := bs.foldl addBlock t

/-- The names of several blocks. -/
def ofBlocks (bs : List DataBlock) : DataTables := addBlocks {} bs

theorem addBlocks_cons {t : DataTables} {b : DataBlock} {bs : List DataBlock} {kind : DataKind}
    (h : b.kind? = some kind) : t.addBlocks (b :: bs) = (t.add kind b.name).addBlocks bs := by
  have hblock : t.addBlock b = t.add kind b.name := by rw [addBlock, h]
  rw [addBlocks, List.foldl_cons, hblock, addBlocks]

theorem ofBlocks_concat {b : DataBlock} {bs : List DataBlock} {kind : DataKind}
    (h : b.kind? = some kind) : ofBlocks (bs ++ [b]) = (ofBlocks bs).add kind b.name := by
  rw [ofBlocks, addBlocks, List.foldl_append]
  exact addBlocks_cons h

theorem has_iff {t : DataTables} {kind : DataKind} {name : String} :
    t.has kind name = true ↔ name ∈ t.names kind := by
  simp [has]

theorem mem_names_add {t : DataTables} {kind k : DataKind} {name n : String} :
    n ∈ (t.add kind name).names k ↔ (kind = k ∧ name = n) ∨ n ∈ t.names k := by
  cases kind <;> cases k <;> simp [add, names, NameSet.mem_insert, eq_comm]

theorem mem_names_addBlocks {t : DataTables} {bs : List DataBlock} {kind : DataKind}
    {name : String} :
    name ∈ (t.addBlocks bs).names kind ↔
      (∃ b ∈ bs, b.kind? = some kind ∧ b.name = name) ∨ name ∈ t.names kind := by
  induction bs generalizing t with
  | nil => simp [addBlocks]
  | cons b bs ih =>
      have hblock : name ∈ (t.addBlock b).names kind ↔
          (b.kind? = some kind ∧ b.name = name) ∨ name ∈ t.names kind := by
        cases hb : b.kind? with
        | none => simp [addBlock, hb]
        | some k => simp [addBlock, hb, mem_names_add]
      rw [addBlocks, List.foldl_cons, ← addBlocks, ih, hblock]
      simp only [List.mem_cons, exists_eq_or_imp, or_left_comm, or_assoc]

theorem names_addBlocks {t : DataTables} {bs : List DataBlock} {kind : DataKind} :
    (t.addBlocks bs).names kind =
      (t.names kind).addAll ((bs.filter (·.kind? = some kind)).map (·.name)) := by
  induction bs generalizing t with
  | nil => rfl
  | cons b bs ih =>
      rw [addBlocks, List.foldl_cons, ← addBlocks, ih]
      cases hb : b.kind? with
      | none => simp [addBlock, hb]
      | some k => cases k <;> cases kind <;> simp [addBlock, hb, add, names]

theorem names_ofBlocks {bs : List DataBlock} {kind : DataKind} :
    (ofBlocks bs).names kind = .ofList ((bs.filter (·.kind? = some kind)).map (·.name)) := by
  rw [ofBlocks, names_addBlocks]
  cases kind <;> rfl

theorem has_ofBlocks {bs : List DataBlock} {kind : DataKind} {name : String} :
    (ofBlocks bs).has kind name = true ↔ ∃ b ∈ bs, b.kind? = some kind ∧ b.name = name := by
  rw [has_iff, ofBlocks, mem_names_addBlocks]
  cases kind <;> simp [names]

end DataTables

/-! ### The tables of a document -/

namespace Document

/-- The definitions of locals. -/
def definitions (d : Document) : List (String × Expr) := d.locals.getD []

/-- The `var` table: the defaults with their values in the empty scope. -/
def varTable (d : Document) : List (String × Value) :=
  Hcl.setKeys [] (valuesIn [] (defaults d.vars))

/-- The `local` table: the locals with their values in the scope of the variables. -/
def localTable (d : Document) : List (String × Value) :=
  Hcl.setKeys [] (valuesIn (Namespace.varScope d.varTable) d.definitions)

/-- The namespace that a document means. -/
def tables (d : Document) : Namespace where
  vars := d.varTable
  locals := d.localTable
  networks := d.index.networks
  stores := d.index.stores
  data := .ofBlocks d.data

/-- The scope in which references are evaluated. -/
def scope (d : Document) : Scope := d.tables.scope

/-- The checks of the variables and of the locals. -/
def valueChecks (d : Document) : List Check :=
  definitionChecks [] .variableEval (defaults d.vars) ++
    definitionChecks (Namespace.varScope d.varTable) .localEval d.definitions

end Document

/-- **The variables and locals of a document** are the row of their checks, with its tables. -/
theorem Namespace.evalDocument_eq (d : Document) :
    evalDocument d = outcome d.valueChecks (d.varTable, d.localTable) := by
  show (evalVariables [] d.vars).bind _ = _
  rw [evalVariables_eq]
  refine outcome_bind fun _ => ?_
  show (evalLocals _ [] d.definitions).bind _ = _
  rw [evalLocals_eq]
  exact outcome_bind_ok

end VirtEnv
