import VirtEnv.Proofs.Gate

/-!
# Interchange — a database in place of a memory

A load asks its catalog for names, one `data` block after the other.  The number of a name does not
matter to it, only whether there is one.  So catalogs that know the same names are interchangeable,
whatever numbers they give them.

A database is asked by a query for each name.  A table that it does not have shows when a load
comes to a block of its kind, and not before.

* `MemoryCatalog.lookup_addAll_isSome`: a memory knows the names that were added to it.
* `Database.toCatalog_eq`: the catalog of a database asks it by queries.
* `DataTables.check_agree_or_reach`: where two catalogs agree on some kinds of blocks, a check of
  blocks gives the same with both, or comes to a block of another kind.
* `Document.interchangeable`: a load from a database is a load from a memory of its names, up to the
  first block whose table is not there.
-/

namespace VirtEnv

/-! ### Rows and queries -/

namespace Database

/-- A row of a table. -/
structure Row where
  id : CatalogId
  name : String
  deriving DecidableEq, Repr

/-- The tables of a database by their kinds, as far as it has them, with their rows. -/
abbrev Tables := DataKind → Option (List Row)

/-- Each table that is there holds exactly the names of its kind that were added to a memory. -/
def Tables.Hold (tables : Tables) (additions : List (DataKind × String)) : Prop :=
  ∀ kind rows, tables kind = some rows →
    ∀ name, (∃ row ∈ rows, row.name = name) ↔ (kind, name) ∈ additions

/-- The query for the number of a name in a table; the name is bound to its parameter. -/
def query (table : String) : String := "SELECT id FROM " ++ table ++ " WHERE name = ?1"

/-- What a database gives for the first query of a load, the second, and so on, each with the name
that is bound to it. -/
abbrev Connection := Nat → String → String → CatalogAnswer

/-- The catalog that asks a database. -/
def ofConnection (connection : Connection) : Catalog :=
  ⟨fun n kind name => connection n (query (tableName kind)) name⟩

/-- A database gives for a query what its tables hold. -/
structure Answers (connection : Connection) (tables : Tables) : Prop where
  /-- It gives the number of a row of the name, if there is one. -/
  found : ∀ n kind rows row, tables kind = some rows → row ∈ rows →
    ∃ row' ∈ rows, row'.name = row.name ∧
      connection n (query (tableName kind)) row.name = .ok (some row'.id)
  /-- It gives no row if there is none. -/
  absent : ∀ n kind rows name, tables kind = some rows → (∀ row ∈ rows, row.name ≠ name) →
    connection n (query (tableName kind)) name = .ok none
  /-- It gives an error if there is no table. -/
  missing : ∀ n kind name, tables kind = none →
    ∃ fault, connection n (query (tableName kind)) name = .error fault

/-- The answer of a table, or of the lack of one, for a name: the number of its first row. -/
def select (kind : DataKind) (rows? : Option (List Row)) (name : String) : CatalogAnswer :=
  match rows? with
  | none => .error (.database (.noSuchTable (tableName kind)))
  | some rows => .ok ((rows.find? (·.name == name)).map (·.id))

/-- The connection to a database of some tables, which gives the first row of a name. -/
def Tables.connection (tables : Tables) : Connection := fun _ sql name =>
  if sql = query (tableName .network) then select .network (tables .network) name
  else if sql = query (tableName .store) then select .store (tables .store) name
  else .error (.unavailable sql)

theorem Tables.connection_query {tables : Tables} {n : Nat} {kind : DataKind} {name : String} :
    tables.connection n (query (tableName kind)) name = select kind (tables kind) name := by
  cases kind with
  | network => exact if_pos rfl
  | store => exact (if_neg (by decide)).trans (if_pos rfl)

theorem Tables.answers (tables : Tables) : Answers tables.connection tables where
  found n kind rows row htable hrow := by
    obtain ⟨row', hfind⟩ : ∃ row', rows.find? (·.name == row.name) = some row' :=
      Option.isSome_iff_exists.mp (List.find?_isSome.mpr ⟨row, hrow, beq_self_eq_true _⟩)
    refine ⟨row', List.mem_of_find?_eq_some hfind, by simpa using List.find?_some hfind, ?_⟩
    rw [connection_query, htable, select, hfind, Option.map_some]
  absent n kind rows name htable hnone := by
    have hfind : rows.find? (·.name == name) = none := by simpa using hnone
    rw [connection_query, htable, select, hfind, Option.map_none]
  missing n kind name htable := ⟨_, by rw [connection_query, htable, select]⟩

/-- Names as rows, which are numbered in their order. -/
def rowsFrom (n : Nat) : List String → List Row
  | [] => []
  | name :: names => ⟨n, name⟩ :: rowsFrom (n + 1) names

/-- The tables of a database, with its rows numbered from one. -/
def tables (d : Database) : Tables := fun kind => (d.table? kind).map (rowsFrom 1)

theorem find?_rowsFrom {n : Nat} {names : List String} {name : String} :
    ((rowsFrom n names).find? (·.name == name)).map (·.id) =
      (names.findIdx? (· == name)).map fun (row : Nat) => (row : CatalogId) + n := by
  induction names generalizing n with
  | nil => rfl
  | cons m names ih =>
      rw [rowsFrom, List.find?_cons, List.findIdx?_cons]
      cases hm : m == name with
      | true => simp
      | false =>
          rw [ih]
          cases names.findIdx? (· == name) with
          | none => rfl
          | some row =>
              have hnumber : (row : Int) + (n + 1 : Nat) = (row + 1 : Nat) + n := by omega
              exact congrArg some hnumber

/-- **The catalog of a database asks it by queries.** -/
theorem toCatalog_eq (d : Database) : d.toCatalog = ofConnection d.tables.connection := by
  refine congrArg Catalog.mk (funext fun n => funext fun kind => funext fun name => ?_)
  show d.lookup kind name = d.tables.connection n (query (tableName kind)) name
  rw [Tables.connection_query, lookup, tables]
  cases d.table? kind with
  | none => rfl
  | some names => exact congrArg Except.ok find?_rowsFrom.symm

end Database

open Database (Answers Connection Row Tables ofConnection query tableName)

/-- A memory knows the names that were added to it, and those that it knew before. -/
theorem MemoryCatalog.lookup_addAll_isSome {m : MemoryCatalog}
    {additions : List (DataKind × String)} {kind : DataKind} {name : String} :
    ((m.addAll additions).lookup kind name).isSome = true ↔
      (kind, name) ∈ additions ∨ (m.lookup kind name).isSome = true := by
  induction additions generalizing m with
  | nil => simp [addAll]
  | cons a additions ih =>
      obtain ⟨k, n⟩ := a
      rw [addAll, List.foldl_cons, ← addAll, ih, lookup_add, List.mem_cons, Prod.mk.injEq]
      by_cases h : kind = k ∧ name = n <;> simp [h]

/-! ### Two catalogs -/

namespace Catalog

/-- Two catalogs find or fail alike whatever they are asked for of some kinds. -/
def AgreeOn (C C' : Catalog) (present : DataKind → Prop) : Prop :=
  ∀ n kind name, present kind → answered C n kind name = answered C' n kind name

variable {C C' : Catalog} {present : DataKind → Prop} {bs : List DataBlock}

/-- Blocks of these kinds are known to both. -/
theorem AgreeOn.knowsAll {n : Nat} (h : C.AgreeOn C' present)
    (hkinds : ∀ b ∈ bs, ∀ kind, b.kind? = some kind → present kind) (hbs : C.KnowsAll n bs) :
    C'.KnowsAll n bs := by
  intro i b hi
  obtain ⟨kind, id, hkind, hid⟩ := hbs i b hi
  have hpresent : present kind := hkinds b (List.mem_of_getElem? hi) kind hkind
  obtain ⟨id', hid'⟩ : ∃ id', C'.answer (n + i) kind b.name = .ok (some id') := by
    rw [← answered_eq_none, ← h (n + i) kind b.name hpresent, answered_eq_none]
    exact ⟨id, hid⟩
  exact ⟨kind, id', hkind, hid'⟩

end Catalog

/-- Where two catalogs agree on some kinds of blocks, a check of blocks gives the same with both, or
it comes to a block of another kind. -/
theorem DataTables.check_agree_or_reach {C C' : Catalog} {present : DataKind → Prop}
    (h : C.AgreeOn C' present) {n : Nat} {t : DataTables} {bs : List DataBlock} :
    check C .never n t bs = check C' .never n t bs ∨
      ∃ done b rest kind, bs = done ++ b :: rest ∧ C.KnowsAll n done ∧ b.kind? = some kind ∧
        ¬ present kind := by
  induction bs generalizing n t with
  | nil => exact .inl rfl
  | cons b bs ih =>
      cases hb : b.kind? with
      | none => exact .inl (by rw [check_unsupported hb, check_unsupported hb])
      | some kind =>
          by_cases hpresent : present kind
          · have hquiet : Cancellation.never.QuietAt n := Cancellation.quietAt_never
            have hanswered := h n kind b.name hpresent
            cases ha : answered C n kind b.name with
            | some e =>
                exact .inl (by
                  rw [check_refused hb hquiet ha, check_refused hb hquiet (hanswered ▸ ha)])
            | none =>
                rw [check_found hb hquiet ha, check_found hb hquiet (hanswered ▸ ha)]
                rcases @ih (n + 1) (t.add kind b.name) with hsame | hreach
                · exact .inl (congrArg _ hsame)
                · obtain ⟨done, b', rest, kind', rfl, hdone, hkind', hmissing⟩ := hreach
                  obtain ⟨id, hid⟩ := answered_eq_none.mp ha
                  exact .inr ⟨b :: done, b', rest, kind', rfl,
                    Catalog.knowsAll_cons.mpr ⟨⟨kind, id, hb, hid⟩, hdone⟩, hkind', hmissing⟩
          · exact .inr ⟨[], b, bs, kind, rfl, Catalog.knowsAll_nil, hb, hpresent⟩

/-! ### A database and a memory -/

namespace Database.Answers

variable {connection : Connection} {tables : Tables} (h : Answers connection tables)
include h

/-- A database and a memory of its names agree on the kinds of its tables. -/
theorem agreeOn {additions : List (DataKind × String)} (hnames : tables.Hold additions) :
    (ofConnection connection).AgreeOn (MemoryCatalog.addAll {} additions).toCatalog
      fun kind => (tables kind).isSome = true := by
  intro n kind name hpresent
  obtain ⟨rows, hrows⟩ := Option.isSome_iff_exists.mp hpresent
  have hmemory : ((MemoryCatalog.addAll {} additions).lookup kind name).isSome = true ↔
      ∃ row ∈ rows, row.name = name := by
    have hnone : (MemoryCatalog.lookup {} kind name).isSome = false := by cases kind <;> rfl
    rw [MemoryCatalog.lookup_addAll_isSome, hnone, hnames kind rows hrows]
    simp
  by_cases hrow : ∃ row ∈ rows, row.name = name
  · obtain ⟨id, hid⟩ := Option.isSome_iff_exists.mp (hmemory.mpr hrow)
    obtain ⟨row, hmem, rfl⟩ := hrow
    obtain ⟨row', -, -, hfound⟩ := h.found n kind rows row hrows hmem
    rw [answered_eq_none.mpr ⟨row'.id, hfound⟩,
      answered_eq_none.mpr ⟨id, congrArg Except.ok hid⟩]
  · have habsent : connection n (query (tableName kind)) name = .ok none :=
      h.absent n kind rows name hrows fun row hmem hname => hrow ⟨row, hmem, hname⟩
    have hnone : (MemoryCatalog.addAll {} additions).lookup kind name = none :=
      Option.not_isSome_iff_eq_none.mp (mt hmemory.mp hrow)
    simp only [answered, ofConnection, MemoryCatalog.toCatalog, Catalog.steady, habsent, hnone]

/-- The blocks that a database knows are of the kinds of its tables. -/
theorem isSome_of_knowsAll {n : Nat} {bs : List DataBlock}
    (hbs : (ofConnection connection).KnowsAll n bs) {b : DataBlock} (hb : b ∈ bs)
    {kind : DataKind} (hkind : b.kind? = some kind) : (tables kind).isSome = true := by
  obtain ⟨i, hi⟩ := List.mem_iff_getElem?.mp hb
  obtain ⟨kind', id, hkind', hid⟩ := hbs i b hi
  obtain rfl : kind = kind' := Option.some.inj (hkind.symm.trans hkind')
  cases htable : tables kind with
  | some rows => rfl
  | none =>
      obtain ⟨fault, hfault⟩ := h.missing (n + i) kind b.name htable
      cases hid.symm.trans hfault

end Database.Answers

namespace Document

/-- A catalog of some tables may stand in for a memory of their names, and the memory for it. -/
structure Interchangeable (d : Document) (C memory : Catalog) (tables : Tables) : Prop where
  /-- If no table is missing, loads give the same and make the same lookups. -/
  whole : (∀ kind, (tables kind).isSome = true) → d.resolve C .never = d.resolve memory .never
  /-- So they do if a load comes to no block whose table is missing. -/
  alike : (∀ done b rest kind, d.Past C done (b :: rest) → b.kind? = some kind →
    (tables kind).isSome = true) → d.resolve C .never = d.resolve memory .never
  /-- Otherwise a load fails at the first such block, and so far the memory would have gone too. -/
  fails : ∀ done b rest kind, d.Past C done (b :: rest) → b.kind? = some kind →
    tables kind = none →
    (∀ b' ∈ done, ∀ kind', b'.kind? = some kind' → (tables kind').isSome = true) ∧
      d.Past memory done (b :: rest) ∧
      ∃ fault, C.answer done.length kind b.name = .error fault ∧
        d.resolve C .never =
          ⟨.error (.catalog kind b.name fault), lookupsOf done ++ [⟨kind, b.name⟩]⟩

variable {d : Document} {connection : Connection} {tables : Tables}
  {additions : List (DataKind × String)}

/-- Where two catalogs agree on the kinds of all blocks that a load comes to, the load is the same
with both. -/
theorem resolve_eq_of_agreeOn {C C' : Catalog} {present : DataKind → Prop}
    (h : C.AgreeOn C' present)
    (hpresent : ∀ done b rest kind, d.Past C done (b :: rest) → b.kind? = some kind →
      present kind) : d.resolve C .never = d.resolve C' .never := by
  rcases allPass_or_firstFault d.earlyChecks with hearly | ⟨e, he⟩
  · rcases @DataTables.check_agree_or_reach C C' present h 0 {} d.data with
      hsame | ⟨done, b, rest, kind, hblocks, hdone, hkind, hmissing⟩
    · rw [resolve_of_prepared hearly, resolve_of_prepared hearly, hsame]
    · exact absurd (hpresent done b rest kind ⟨hearly, hblocks, hdone⟩ hkind) hmissing
  · rw [resolve_of_refused he, resolve_of_refused he]

/-- **A database and a memory of its names are interchangeable**, in whatever order the names were
added and whatever their numbers, until a load comes to a block whose table is not there. -/
theorem interchangeable (hconnection : Answers connection tables)
    (hnames : tables.Hold additions) :
    d.Interchangeable (ofConnection connection) (MemoryCatalog.addAll {} additions).toCatalog
      tables where
  whole htables :=
    resolve_eq_of_agreeOn (hconnection.agreeOn hnames) fun _ _ _ kind _ _ => htables kind
  alike := resolve_eq_of_agreeOn (hconnection.agreeOn hnames)
  fails done b rest kind hpast hkind hmissing := by
    have hpresent : ∀ b' ∈ done, ∀ kind', b'.kind? = some kind' → (tables kind').isSome = true :=
      fun _ hb' _ => hconnection.isSome_of_knowsAll hpast.known hb'
    have hknown := (hconnection.agreeOn hnames).knowsAll hpresent hpast.known
    obtain ⟨fault, hfault⟩ := hconnection.missing done.length kind b.name hmissing
    have hanswered : answered (ofConnection connection) done.length kind b.name =
        some (.catalog kind b.name fault) := by
      simp only [answered, ofConnection, hfault]
    exact ⟨hpresent, ⟨hpast.early, hpast.blocks, hknown⟩, fault, hfault,
      resolve_at_refused hpast (fun _ _ => Cancellation.quietAt_never)
        (DataBlock.lookup?_of_kind hkind) Cancellation.quietAt_never hanswered⟩

/-- A document that takes a network and a store from a catalog. -/
def borrowed : Document where
  data := [⟨"network", "lan"⟩, ⟨"store", "images"⟩]

/-- The tables of a database without stores, with numbers of its own. -/
def networksOnly : Tables
  | .network => some [⟨40, "wan"⟩, ⟨-7, "lan"⟩]
  | .store => none

/-- The document finds its network, and fails for want of the table of its store. -/
theorem interchangeable_borrowed :
    borrowed.resolve (ofConnection networksOnly.connection) .never =
        ⟨.error (.catalog .store "images" (.database (.noSuchTable "stores"))),
          [⟨.network, "lan"⟩, ⟨.store, "images"⟩]⟩ ∧
      borrowed.Interchangeable (ofConnection networksOnly.connection)
        (MemoryCatalog.addAll {}
          [(.network, "lan"), (.store, "images"), (.network, "wan")]).toCatalog networksOnly :=
  ⟨rfl, interchangeable networksOnly.answers fun kind rows hrows name => by
    cases kind with
    | network => cases hrows; simp; tauto
    | store => cases hrows⟩

end Document

end VirtEnv
