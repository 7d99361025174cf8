import Mathlib.Data.List.ReduceOption
import VirtEnv.Proofs.Backend
import VirtEnv.Proofs.Keys
import VirtEnv.Proofs.Meaning
import VirtEnv.Proofs.Reading

/-!
# Accessors — the tables of a namespace, asked directly and by expressions

A namespace is asked for a name by its accessors, and by expressions through the scope that it
makes.  The tables of the two are kept apart: `var` and `local` are lists of values, the tables of
resources are sets of names, and a scope has objects for all of them.

* `Hcl.Expr.eval_forList`, `Hcl.Expr.eval_forObject`: a `for` over an object goes through its
  entries in their order, each once.
* `Tabled.evaluate_access`: an expression that takes a name from a table finds what the accessor
  gives, and no such key if that is nothing.
* `Namespace.holds_of_build`: what stands in the tables of a namespace that is built.
* `Namespace.agrees_of_build`: these together.
-/

namespace VirtEnv

open Hcl (Access Binder Expr Item Outcome Scope Step Value)

/-! ### A `for` over an object -/

namespace Hcl

open Outcome (raise within)

/-- The entries that a `for` goes through when its collection is an object with these fields. -/
def fieldEntries (fields : List (String × Value)) : List (Value × Value) :=
  fields.map fun f => (.string f.1, f.2)

/-- What comes of one entry: the result for it, or nothing if it is left out. -/
def visit {α β : Type} (select : α → Outcome Bool) (f : α → Outcome β) (entry : α) :
    Outcome (Option β) := do
  if ← select entry then .ok (some (← f entry)) else .ok none

/-- Results that are put in front of those before them are the results of the entries, each once,
the last foremost. -/
theorem foldEntries_cons {α : Type} {select : Value × Value → Outcome Bool}
    {f : Value × Value → Outcome α} (entries : List (Value × Value)) (before : List α) :
    foldEntries select (fun items entry => do .ok ((← f entry) :: items)) entries before =
      (entries.mapM (visit select f)).map fun results => results.reduceOption.reverse ++ before := by
  induction entries generalizing before with
  | nil => rfl
  | cons entry entries ih =>
      rw [foldEntries, List.foldlM_cons, List.mapM_cons, visit]
      cases select entry with
      | error failure => rfl
      | ok selected =>
          cases selected with
          | false =>
              show foldEntries select _ entries before = _
              rw [ih]
              cases entries.mapM (visit select f) <;> rfl
          | true =>
              cases f entry with
              | error failure => rfl
              | ok result =>
                  show foldEntries select _ entries (result :: before) = _
                  rw [ih]
                  cases entries.mapM (visit select f) with
                  | error failure => rfl
                  | ok results =>
                      show Except.ok (results.reduceOption.reverse ++ result :: before) =
                        .ok ((some result :: results).reduceOption.reverse ++ before)
                      rw [List.reduceOption_cons_of_some, List.reverse_cons, List.append_assoc,
                        List.singleton_append]

variable {scope : Scope} {binder : Binder} {collection key value : Expr} {grouped : Bool}
  {condition : Option Expr} {fields : List (String × Value)}

/-- The condition of a `for` with the expression `p`, at an entry. -/
def Binder.selects (binder : Binder) (scope : Scope) (p : Expr) (condition : Option Expr)
    (entry : Value × Value) : Outcome Bool :=
  within p (Expr.evalCondition (binder.bind entry scope) condition)

/-- The value of the body of a list `for` with the expression `p`, at an entry. -/
def Binder.valueAt (binder : Binder) (scope : Scope) (p value : Expr) (entry : Value × Value) :
    Outcome Value :=
  within p (value.eval (binder.bind entry scope))

/-- The fields of an object `for` with the expression `p`, after an entry. -/
def Binder.fieldsAt (binder : Binder) (scope : Scope) (p key value : Expr) (grouped : Bool)
    (done : List (String × Value)) (entry : Value × Value) : Outcome (List (String × Value)) :=
  within p do
    let k ← (← key.eval (binder.bind entry scope)).asKey
    addEntry grouped done k (← value.eval (binder.bind entry scope))

/-- **A list `for` over an object** has the values of its body at the entries, in their order,
without those that its condition leaves out. -/
theorem Expr.eval_forList (h : collection.eval scope = .ok (.object fields)) :
    let p := Expr.forList binder collection value condition
    p.eval scope =
      ((fieldEntries fields).mapM
        (visit (binder.selects scope p condition) (binder.valueAt scope p value))).map
        fun results => .array results.reduceOption := by
  intro p
  have hcollection : within p (collection.eval scope) = .ok (.object fields) :=
    Outcome.within_eq_ok.mpr h
  rw [Expr.eval, hcollection]
  show (foldEntries (binder.selects scope p condition)
      (fun items entry => do .ok ((← binder.valueAt scope p value entry) :: items))
      (fieldEntries fields) []).bind (fun items => .ok (Value.array items.reverse)) = _
  rw [foldEntries_cons]
  cases (fieldEntries fields).mapM
      (visit (binder.selects scope p condition) (binder.valueAt scope p value)) with
  | error failure => rfl
  | ok results =>
      show Except.ok (Value.array (results.reduceOption.reverse ++ []).reverse) = _
      rw [List.append_nil, List.reverse_reverse]
      rfl

/-- **An object `for` over an object** adds what comes of its entries, in their order, each once. -/
theorem Expr.eval_forObject (h : collection.eval scope = .ok (.object fields)) :
    let p := Expr.forObject binder collection key value grouped condition
    p.eval scope =
      (foldEntries (binder.selects scope p condition) (binder.fieldsAt scope p key value grouped)
        (fieldEntries fields) []).map .object := by
  intro p
  have hcollection : within p (collection.eval scope) = .ok (.object fields) :=
    Outcome.within_eq_ok.mpr h
  rw [Expr.eval, hcollection]
  show (foldEntries (binder.selects scope p condition)
    (binder.fieldsAt scope p key value grouped) (fieldEntries fields) []).bind _ = _
  cases foldEntries (binder.selects scope p condition)
    (binder.fieldsAt scope p key value grouped) (fieldEntries fields) [] <;> rfl

end Hcl

/-! ### Tables -/

/-- A table of a namespace.  There is one of `data` blocks for each kind. -/
inductive Tabled where
  | vars
  | locals
  | networks
  | stores
  | data (kind : DataKind)
  deriving DecidableEq, Repr

namespace Tabled

/-- The name under which a table stands in the scope. -/
def root : Tabled → String
  | vars => "var"
  | locals => "local"
  | networks => "network"
  | stores => "store"
  | data _ => "data"

/-- The keys that lead from there to the table. -/
def path : Tabled → List String
  | data kind => [kind.text]
  | _ => []

/-- The expression of the table. -/
def expr (t : Tabled) : Expr :=
  match t.path with
  | [] => .variable t.root
  | path => .traversal (.variable t.root) (path.map .member)

/-- The expression that takes a part of the table. -/
def access (t : Tabled) (s : Step) : Expr :=
  .traversal (.variable t.root) (t.path.map .member ++ [s])

/-- The entries of the table, in their order. -/
def entries (n : Namespace) : Tabled → List (String × Value)
  | vars => n.vars
  | locals => n.locals
  | networks => n.networks.map fun name => (name, .string name)
  | stores => n.stores.map fun name => (name, .string name)
  | data kind => (n.data.names kind).map fun name => (name, .string name)

/-- What the accessor of the table gives for a name. -/
def get? (n : Namespace) (name : String) : Tabled → Option Value
  | vars => n.var? name
  | locals => n.local? name
  | networks => (n.network? name).map .string
  | stores => (n.store? name).map .string
  | data kind => (n.data? kind name).map .string

end Tabled

/-- A step of an expression asks for a name: as a member, or by an index that has the name for its
value. -/
inductive Hcl.Step.Asks (scope : Scope) (name : String) : Step → Prop where
  | member : Asks scope name (.member name)
  | index {i : Expr} : i.eval scope = .ok (.string name) → Asks scope name (.index i)

/-- What the expression `p` that asks an object for a name comes to, by what is there. -/
def answered? (p : Expr) (name : String) : Option Value → Outcome Value
  | some v => .ok v
  | none => .error (.fault ⟨.noSuchKey name, some p⟩)

/-- A step that asks an object for a name. -/
theorem Hcl.Step.Asks.apply {scope : Scope} {name : String} {s : Step} (h : s.Asks scope name)
    (p : Expr) (fields : List (String × Value)) :
    Outcome.within p (Access.apply (Step.evalAll scope p [s]) (.object fields)) =
      answered? p name (fields.lookup name) := by
  have hkey : Access.apply (Step.evalAll scope p [s]) (.object fields) =
      (Value.object fields).atKey name := by
    cases h with
    | member =>
        show ((Value.object fields).atKey name).bind Except.ok = _
        cases (Value.object fields).atKey name <;> rfl
    | @index i hi =>
        show ((Outcome.within p (i.eval scope)).bind fun v =>
          ((Value.object fields).atIndex v).bind Except.ok) = _
        rw [hi]
        show ((Value.object fields).atKey name).bind Except.ok = _
        cases (Value.object fields).atKey name <;> rfl
  rw [hkey, Value.atKey]
  cases fields.lookup name <;> rfl

theorem lookup_self {names : List String} {name : String} :
    (names.map fun m => (m, Value.string m)).lookup name =
      if name ∈ names then some (.string name) else none := by
  induction names with
  | nil => rfl
  | cons m names ih =>
      rw [List.map_cons, Table.lookup_cons, ih]
      by_cases h : name = m <;> simp [h]

namespace Tabled

variable {n : Namespace} {t : Tabled} {name : String}

/-- An accessor gives what is found among the entries of its table. -/
theorem get?_eq_lookup : t.get? n name = (t.entries n).lookup name := by
  cases t with
  | vars => rfl
  | locals => rfl
  | networks | stores | data =>
      simp only [get?, entries, lookup_self, Namespace.network?, Namespace.store?, Namespace.data?,
        DataTables.has, List.contains_iff_mem]
      split <;> rfl

/-- The scope has the entries of a table at its place. -/
theorem lookup_root (n : Namespace) (t : Tabled) :
    ∃ v, n.scope.lookup t.root = some v ∧ v.atPath t.path = .ok (.object (t.entries n)) := by
  cases t with
  | data kind => cases kind <;> exact ⟨_, rfl, rfl⟩
  | _ => exact ⟨_, rfl, rfl⟩

/-- The expression of a table has its entries for its value. -/
theorem eval_expr (n : Namespace) (t : Tabled) :
    t.expr.eval n.scope = .ok (.object (t.entries n)) := by
  cases t with
  | data kind => cases kind <;> rfl
  | _ => rfl

/-- **An expression that takes a name from a table** finds what the accessor gives. -/
theorem evaluate_access {s : Step} (h : s.Asks n.scope name) :
    (t.access s).evaluate n.scope = answered? (t.access s) name (t.get? n name) := by
  obtain ⟨v, hroot, hpath⟩ := lookup_root n t
  rw [Expr.evaluate, get?_eq_lookup, access, Expr.eval_path t.path [s] hroot, hpath]
  exact h.apply _ _

/-- The name of a kind leads to the `data` table of the kind, and no other name to anything. -/
theorem evaluate_kind {s : Step} (h : s.Asks n.scope name) :
    let p := Expr.traversal (.variable "data") [s]
    p.evaluate n.scope = answered? p name
      ((DataKind.ofLabel? name).map fun kind => .object ((data kind).entries n)) := by
  intro p
  have heval : p.eval n.scope = Access.apply (Step.evalAll n.scope p [s]) n.data.toValue :=
    Expr.eval_path [] [s] rfl
  rw [Expr.evaluate, heval]
  refine (h.apply p [("network", .ofNames n.data.networks), ("store", .ofNames n.data.stores)]).trans
    (congrArg _ ?_)
  rw [Table.lookup_cons, Table.lookup_cons, DataKind.ofLabel?]
  by_cases hnetwork : name = "network"
  · simp [hnetwork, entries, DataTables.names, Value.ofNames]
  · by_cases hstore : name = "store"
    · simp [hstore, entries, DataTables.names, Value.ofNames]
    · simp [hnetwork, hstore]

end Tabled

/-! ### What stands in the tables -/

/-- A table has the values of definitions in a scope, one for one. -/
def Defines (scope : Scope) (definitions : List (String × Expr)) (table : List (String × Value)) :
    Prop :=
  List.Forall₂ (fun p q => q.1 = p.1 ∧ p.2.evaluate scope = .ok q.2) definitions table

/-- A table has names, each mapped to itself and there once, in the order of their code points. -/
structure MapsToSelf (names : List String) (table : List (String × Value)) : Prop where
  sorted : (table.map (·.1)).Pairwise (· < ·)
  names : ∀ name, name ∈ table.map (·.1) ↔ name ∈ names
  itself : ∀ entry ∈ table, entry.2 = .string entry.1

/-- What stands in the tables of the namespace of a document: the defaults with their values in the
empty scope, the locals with theirs in the scope of the variables, the declared names, and the names
of the `data` blocks of each kind. -/
structure Namespace.Holds (n : Namespace) (d : Document) : Prop where
  vars : Defines [] (defaults d.vars) (Tabled.vars.entries n)
  locals : Defines (varScope n.vars) d.definitions (Tabled.locals.entries n)
  networks : MapsToSelf (d.declared .network) (Tabled.networks.entries n)
  stores : MapsToSelf (d.declared .store) (Tabled.stores.entries n)
  data : ∀ kind, MapsToSelf ((d.data.filter (·.kind? = some kind)).map (·.name))
    ((Tabled.data kind).entries n)

theorem defines_valuesIn {scope : Scope} {fault : String → Hcl.Fault → Error}
    {definitions : List (String × Expr)}
    (h : AllPass (definitionChecks scope fault definitions)) :
    Defines scope definitions (valuesIn scope definitions) := by
  refine List.forall₂_map_right_iff.mpr (List.forall₂_same.mpr fun p hp => ⟨rfl, ?_⟩)
  exact evaluates_eq_none.mp (allPass_map.mp h p hp)

theorem mapsToSelf_of_mem_iff {names : List String} {s : NameSet} (hs : s.Sorted)
    (h : ∀ name, name ∈ s ↔ name ∈ names) :
    MapsToSelf names (s.map fun name => (name, .string name)) := by
  have hkeys : (s.map fun name => (name, Value.string name)).map (·.1) = s := by
    rw [List.map_map]
    exact List.map_id s
  refine ⟨by rwa [hkeys], by rwa [hkeys], fun entry hentry => ?_⟩
  obtain ⟨name, -, rfl⟩ := List.mem_map.mp hentry
  rfl

variable {d : Document} {i : Index} {C : Catalog} {k : Cancellation} {n : Namespace}

/-- **What stands in the tables** of a namespace that is built. -/
theorem Namespace.holds_of_build (hlocals : (d.definitions.map (·.1)).Nodup)
    (hi : Index.build d = .ok i) (hn : (build d i C k).result = .ok n) : n.Holds d := by
  obtain ⟨hpass, rfl⟩ := tables_of_build hi hn
  rw [Index.build_eq, outcome_eq_ok_iff] at hi
  obtain ⟨-, hnodup⟩ := Document.allPass_nameChecks_iff.mp hi.1 .variable
  obtain ⟨hvars, hdefinitions⟩ := allPass_append.mp hpass
  have hkeys : ∀ {scope : Scope} {definitions : List (String × Expr)},
      (definitions.map (·.1)).Nodup → Hcl.setKeys [] (valuesIn scope definitions) =
        valuesIn scope definitions := by
    intro scope definitions h
    refine Hcl.setKeys_of_nodup ?_
    rwa [List.nil_append, valuesIn, List.map_map]
  exact {
    vars := by
      show Defines [] (defaults d.vars) d.varTable
      rw [Document.varTable, hkeys (hnodup.sublist names_defaults_sublist)]
      exact defines_valuesIn hvars
    locals := by
      show Defines (varScope d.varTable) d.definitions d.localTable
      rw [Document.localTable, hkeys hlocals]
      exact defines_valuesIn hdefinitions
    networks := mapsToSelf_of_mem_iff NameSet.sorted_ofList fun _ => NameSet.mem_ofList
    stores := mapsToSelf_of_mem_iff NameSet.sorted_ofList fun _ => NameSet.mem_ofList
    data := fun kind => by
      show MapsToSelf _ (((DataTables.ofBlocks d.data).names kind).map fun name =>
        (name, .string name))
      rw [DataTables.names_ofBlocks]
      exact mapsToSelf_of_mem_iff NameSet.sorted_ofList fun _ => NameSet.mem_ofList }

/-! ### Locals -/

theorem nodup_addLocal {x : Item} {values values' : List (String × Expr)}
    (h : (values.map (·.1)).Nodup) (hx : addLocal values x = .ok values') :
    (values'.map (·.1)).Nodup := by
  cases x with
  | «attribute» key e => cases hx; exact Hcl.nodup_keys_setKey h
  | block b => cases hx

/-- The locals of a document that is decoded have distinct names. -/
theorem Document.nodup_definitions {body : List Item} (h : ofBody body = .ok d) :
    (d.definitions.map (·.1)).Nodup := by
  have hlocals := (gathers_of_ofBody h).locals
  unfold definitions
  cases hd : d.locals with
  | none => exact List.nodup_nil
  | some values =>
      rw [hd] at hlocals
      obtain ⟨b, hb⟩ : ∃ b, localsOfBlock b = .ok values := by
        obtain ⟨b, _, hb, -, -⟩ := List.forall₂_cons_right_iff.mp hlocals
        exact ⟨b, hb⟩
      unfold localsOfBlock at hb
      split at hb
      · exact foldlM_invariant (R := fun _ values => (values.map (·.1)).Nodup)
          (fun h => nodup_addLocal h)
          List.nodup_nil hb
      · cases hb

/-! ### The namespace as a whole -/

namespace Namespace

/-- The names that a scope defines. -/
def roots : List String := ["var", "local", "network", "store", "data"]

/-- The tables of a namespace and the scope that it makes say the same. -/
structure Agrees (n : Namespace) (d : Document) : Prop where
  holds : n.Holds d
  /-- A name that an expression takes from a table is there when the accessor gives it. -/
  asked : ∀ (t : Tabled) s name, s.Asks n.scope name →
    (t.access s).evaluate n.scope = answered? (t.access s) name (t.get? n name)
  /-- In `data`, the names of the kinds are found, and no others. -/
  kinds : ∀ s name, s.Asks n.scope name →
    let p := Expr.traversal (.variable "data") [s]
    p.evaluate n.scope = answered? p name
      ((DataKind.ofLabel? name).map fun kind => .object ((Tabled.data kind).entries n))
  /-- A list `for` over a table goes through its entries, in their order, each once. -/
  lists : ∀ (t : Tabled) binder value condition,
    let p := Expr.forList binder t.expr value condition
    p.eval n.scope =
      ((Hcl.fieldEntries (t.entries n)).mapM
        (Hcl.visit (binder.selects n.scope p condition) (binder.valueAt n.scope p value))).map
        fun results => .array results.reduceOption
  /-- So does an object `for`. -/
  objects : ∀ (t : Tabled) binder key value grouped condition,
    let p := Expr.forObject binder t.expr key value grouped condition
    p.eval n.scope =
      (Hcl.foldEntries (binder.selects n.scope p condition)
        (binder.fieldsAt n.scope p key value grouped) (Hcl.fieldEntries (t.entries n)) []).map
        .object
  /-- Nothing else is defined. -/
  roots : ∀ name, (∃ v, (Expr.variable name).evaluate n.scope = .ok v) ↔ name ∈ roots

theorem evaluates_root_iff {name : String} :
    (∃ v, (Expr.variable name).evaluate n.scope = .ok v) ↔ name ∈ roots := by
  have hkeys : n.scope.map (·.1) = roots := rfl
  rw [← hkeys, ← Table.has_iff, Table.has, Option.isSome_iff_exists]
  refine exists_congr fun v => ?_
  rw [Expr.evaluate, Outcome.within_eq_ok, Expr.eval]
  cases n.scope.lookup name <;> simp [Outcome.raise]

/-- The accessors of a namespace and the expressions over it agree whatever stands in its tables. -/
theorem Holds.agrees (h : n.Holds d) : n.Agrees d where
  holds := h
  asked _ _ _ := Tabled.evaluate_access
  kinds _ _ := Tabled.evaluate_kind
  lists t _ _ _ := Expr.eval_forList (Tabled.eval_expr n t)
  objects t _ _ _ _ _ := Expr.eval_forObject (Tabled.eval_expr n t)
  roots _ := evaluates_root_iff

/-- **The accessors of a namespace and the expressions over it agree**, for every name and every
table, and the tables are those of its document.  The locals of a document are a map, so that their
names are distinct. -/
theorem agrees_of_build (hlocals : (d.definitions.map (·.1)).Nodup) (hi : Index.build d = .ok i)
    (hn : (build d i C k).result = .ok n) : n.Agrees d :=
  (holds_of_build hlocals hi hn).agrees

/-- Of a document that was decoded nothing has to be known about its locals. -/
theorem agrees_of_ofBody {body : List Item} (hd : Document.ofBody body = .ok d)
    (hi : Index.build d = .ok i) (hn : (build d i C k).result = .ok n) : n.Agrees d :=
  (holds_of_build (Document.nodup_definitions hd) hi hn).agrees

/-- A document with two networks, out of their order, with a local, and with `data` blocks of which
two are the same. -/
def yard : Document where
  vars := [{ name := "zone", default := some (.string "eu") }, { name := "owner" }]
  locals := some [("first name", .traversal (.variable "var") [.member "zone"])]
  networks := [⟨"wan", {}⟩, ⟨"lan", {}⟩]
  data := [⟨"store", "iso"⟩, ⟨"store", "img"⟩, ⟨"store", "iso"⟩]

/-- The namespace of the yard: the names are in their order, and each is there once. -/
theorem agrees_of_build_yard :
    (yard.definitions.map (·.1)).Nodup ∧ Index.build yard = .ok yard.index ∧
      (build yard yard.index (.steady fun _ _ => .ok (some 7)) .never).result =
        .ok yard.tables ∧
      yard.tables.vars.map (·.1) = ["zone"] ∧ yard.tables.locals.map (·.1) = ["first name"] ∧
      yard.tables.networks = ["lan", "wan"] ∧ yard.tables.data.stores = ["img", "iso"] ∧
      yard.tables.Agrees yard :=
  ⟨by decide, rfl, rfl, rfl, rfl, rfl, rfl,
    agrees_of_build (C := .steady fun _ _ => .ok (some 7)) (k := .never) (by decide) rfl rfl⟩

end Namespace

end VirtEnv
