import VirtEnv.Catalog.Database
import VirtEnv.Catalog.Memory
import VirtEnv.Proofs.Acceptance

/-!
# The gate — a catalog lets a document pass, and does nothing else

Two loads of a document with two catalogs are compared.  The tables that references are evaluated in
are built answer by answer, but those of a load that passes every block are the tables of the
document (`Document.tables`), whatever the answers were.

* `Document.resolve_of_knowsAll`: past a catalog that knows every block, a load depends on the
  document alone, its lookups included.
* `Document.failsIn_iff`: a load fails in a stage when it has passed the checks before the stage,
  and the error is the first fault of the stage.  Only the checks of the `data` blocks look at the
  catalog.
* `Document.catalog_is_gate`: a load succeeds exactly when the catalog finds every block of a
  document that is otherwise in order, and always with the same result.
-/

namespace VirtEnv

/-! ### What catalogs find -/

namespace Catalog

/-- The catalog finds whatever it is asked for. -/
def FindsAny (C : Catalog) : Prop := ∀ n kind name, ∃ id, C.answer n kind name = .ok (some id)

/-- The catalog finds each block of a supported kind. -/
def Finds (C : Catalog) (bs : List DataBlock) : Prop :=
  ∀ i b kind, bs[i]? = some b → b.kind? = some kind → ∃ id, C.answer i kind b.name = .ok (some id)

/-- What the one catalog finds, the other finds, perhaps under another number. -/
def Within (C C' : Catalog) : Prop :=
  ∀ n kind name id, C.answer n kind name = .ok (some id) →
    ∃ id', C'.answer n kind name = .ok (some id')

variable {C C' : Catalog} {bs : List DataBlock}

/-- A catalog knows blocks when their kinds are supported and it finds them. -/
theorem knowsAll_iff_finds :
    C.KnowsAll 0 bs ↔ (∀ b ∈ bs, b.kind?.isSome = true) ∧ C.Finds bs := by
  constructor
  · intro h
    constructor
    · intro b hb
      obtain ⟨i, hi⟩ := List.mem_iff_getElem?.mp hb
      obtain ⟨kind, id, hkind, -⟩ := h i b hi
      rw [hkind, Option.isSome_some]
    · intro i b kind hi hkind
      obtain ⟨kind', id, hkind', hid⟩ := h i b hi
      obtain rfl := Option.some.inj (hkind.symm.trans hkind')
      exact ⟨id, by rwa [Nat.zero_add] at hid⟩
  · rintro ⟨hkinds, hfinds⟩ i b hi
    obtain ⟨kind, hkind⟩ :=
      Option.isSome_iff_exists.mp (hkinds b (List.mem_iff_getElem?.mpr ⟨i, hi⟩))
    obtain ⟨id, hid⟩ := hfinds i b kind hi hkind
    exact ⟨kind, id, hkind, by rwa [Nat.zero_add]⟩

theorem FindsAny.finds (h : C.FindsAny) : C.Finds bs := fun i b kind _ _ => h i kind b.name

theorem Within.trans {C'' : Catalog} (h : C.Within C') (h' : C'.Within C'') : C.Within C'' := by
  intro n kind name id hid
  obtain ⟨id', hid'⟩ := h n kind name id hid
  exact h' n kind name id' hid'

theorem Within.knowsAll {n : Nat} (h : C.Within C') (hbs : C.KnowsAll n bs) : C'.KnowsAll n bs := by
  intro i b hi
  obtain ⟨kind, id, hkind, hid⟩ := hbs i b hi
  obtain ⟨id', hid'⟩ := h _ _ _ _ hid
  exact ⟨kind, id', hkind, hid'⟩

end Catalog

theorem MemoryCatalog.lookup_add {m : MemoryCatalog} {kind k : DataKind} {name n : String} :
    (m.add kind name).lookup k n =
      if k = kind ∧ n = name then some (m.count + 1 : CatalogId) else m.lookup k n := by
  cases kind <;> cases k <;> simp [lookup, table, add, Table.lookup_insert]

theorem MemoryCatalog.within_add {m : MemoryCatalog} {kind : DataKind} {name : String} :
    m.toCatalog.Within (m.add kind name).toCatalog := by
  intro i k n id h
  by_cases hn : k = kind ∧ n = name
  · exact ⟨(m.count : CatalogId) + 1, congrArg Except.ok (lookup_add.trans (if_pos hn))⟩
  · exact ⟨id, (congrArg Except.ok (lookup_add.trans (if_neg hn))).trans h⟩

/-- A catalog in memory finds what it found before names were added to it. -/
theorem MemoryCatalog.within_addAll {m : MemoryCatalog} {additions : List (DataKind × String)} :
    m.toCatalog.Within (m.addAll additions).toCatalog := by
  induction additions generalizing m with
  | nil => exact fun _ _ _ id h => ⟨id, h⟩
  | cons a additions ih => exact within_add.trans ih

/-- Every table of the one database is in the other, perhaps with more rows and in another order. -/
def Database.RowsWithin (D D' : Database) : Prop :=
  ∀ kind names, D.table? kind = some names → ∃ names', D'.table? kind = some names' ∧ names ⊆ names'

/-- A database finds what one with fewer rows finds. -/
theorem Database.RowsWithin.within {D D' : Database} (h : D.RowsWithin D') :
    D.toCatalog.Within D'.toCatalog := by
  intro n kind name id hid
  cases ht : D.table? kind with
  | none => simp [toCatalog, Catalog.steady, lookup, ht] at hid
  | some names =>
      obtain ⟨names', ht', hsub⟩ := h kind names ht
      have hmem : name ∈ names := by
        simp only [toCatalog, Catalog.steady, lookup, ht, Except.ok.injEq,
          Option.map_eq_some_iff] at hid
        obtain ⟨row, hrow, -⟩ := hid
        obtain ⟨hlt, hp, -⟩ := List.findIdx?_eq_some_iff_getElem.mp hrow
        exact (beq_iff_eq.mp hp) ▸ List.getElem_mem hlt
      obtain ⟨row, hrow⟩ : ∃ row, names'.findIdx? (· == name) = some row := by
        rw [← Option.isSome_iff_exists, List.findIdx?_isSome, List.any_eq_true]
        exact ⟨name, hsub hmem, beq_self_eq_true name⟩
      exact ⟨(row : CatalogId) + 1, by simp [toCatalog, Catalog.steady, lookup, ht', hrow]⟩

namespace Document

variable {d : Document} {C C' : Catalog} {e : Error} {r : Resolved}

/-! ### Stages -/

/-- The stages of a load, in their order. -/
inductive Stage where
  | names | values | data | references
  deriving DecidableEq, Repr

/-- A load with a catalog comes to a stage, and fails in it. -/
def FailsIn (d : Document) (C : Catalog) : Stage → Error → Prop
  | .names, e => Index.build d = .error e
  | .values, e => ∃ i, Index.build d = .ok i ∧ Namespace.evalDocument d = .error e
  | .data, e => ∃ i v, Index.build d = .ok i ∧ Namespace.evalDocument d = .ok v ∧
      (DataTables.check C .never 0 {} d.data).result = .error e
  | .references, e => ∃ i n, Index.build d = .ok i ∧
      (Namespace.build d i C .never).result = .ok n ∧ Resolve.document d i n = .error e

/-- The checks of a stage. -/
def stageChecks (d : Document) (C : Catalog) : Stage → List Check
  | .names => d.nameChecks
  | .values => d.valueChecks
  | .data => dataChecks C 0 d.data
  | .references => d.referenceChecks

/-- The checks before a stage. -/
def checksBefore (d : Document) (C : Catalog) : Stage → List Check
  | .names => []
  | .values => d.nameChecks
  | .data => d.earlyChecks
  | .references => d.earlyChecks ++ dataChecks C 0 d.data

/-- The namespace that a load builds is that of the document, whatever the catalog. -/
theorem build_eq_ok_iff {n : Namespace} :
    (Namespace.build d d.index C .never).result = .ok n ↔
      AllPass d.valueChecks ∧ C.KnowsAll 0 d.data ∧ d.tables = n := by
  rw [Namespace.build, Namespace.evalDocument_eq]
  rcases allPass_or_firstFault d.valueChecks with hv | ⟨e, hv⟩
  · have hbuild : (DataTables.check C .never 0 {} d.data).result.bind
        (fun data => .ok { d.tables with data }) = outcome (dataChecks C 0 d.data) d.tables := by
      rw [DataTables.check_result_eq]
      exact outcome_bind_ok
    rw [outcome_of_allPass hv]
    show (DataTables.check C .never 0 {} d.data).result.bind
      (fun data => .ok { d.tables with data }) = _ ↔ _
    rw [hbuild, outcome_eq_ok_iff, allPass_dataChecks_iff, and_iff_right hv]
  · rw [outcome_of_firstFault hv]
    exact iff_of_false (fun h => by cases h) fun h => not_allPass_of_firstFault hv h.1

/-- **A load fails in a stage** when it passes the checks before the stage, and the error is the
first fault of the stage. -/
theorem failsIn_iff {stage : Stage} :
    d.FailsIn C stage e ↔
      AllPass (d.checksBefore C stage) ∧ FirstFault (d.stageChecks C stage) e := by
  have hindex : ∀ i, Index.build d = .ok i ↔ AllPass d.nameChecks ∧ d.index = i := fun i => by
    rw [Index.build_eq, outcome_eq_ok_iff]
  cases stage with
  | names =>
      rw [FailsIn, Index.build_eq, outcome_eq_error_iff]
      exact (and_iff_right allPass_nil).symm
  | values =>
      rw [FailsIn, Namespace.evalDocument_eq, outcome_eq_error_iff]
      constructor
      · rintro ⟨i, hi, hfault⟩
        exact ⟨((hindex i).mp hi).1, hfault⟩
      · rintro ⟨hn, hfault⟩
        exact ⟨_, (hindex _).mpr ⟨hn, rfl⟩, hfault⟩
  | data =>
      rw [FailsIn, DataTables.check_result_eq, outcome_eq_error_iff]
      simp only [hindex, Namespace.evalDocument_eq, outcome_eq_ok_iff]
      constructor
      · rintro ⟨i, v, ⟨hn, -⟩, ⟨hv, -⟩, hfault⟩
        exact ⟨allPass_append.mpr ⟨hn, hv⟩, hfault⟩
      · rintro ⟨hearly, hfault⟩
        obtain ⟨hn, hv⟩ := allPass_append.mp hearly
        exact ⟨_, _, ⟨hn, rfl⟩, ⟨hv, rfl⟩, hfault⟩
  | references =>
      constructor
      · rintro ⟨i, n, hi, hbuild, hfault⟩
        obtain ⟨hn, rfl⟩ := (hindex i).mp hi
        obtain ⟨hv, hknown, rfl⟩ := build_eq_ok_iff.mp hbuild
        rw [Resolve.document_eq, outcome_eq_error_iff] at hfault
        exact ⟨allPass_append.mpr ⟨allPass_append.mpr ⟨hn, hv⟩,
          allPass_dataChecks_iff.mpr hknown⟩, hfault⟩
      · rintro ⟨hbefore, hfault⟩
        obtain ⟨hearly, hdata⟩ := allPass_append.mp hbefore
        obtain ⟨hn, hv⟩ := allPass_append.mp hearly
        refine ⟨d.index, d.tables, (hindex _).mpr ⟨hn, rfl⟩,
          build_eq_ok_iff.mpr ⟨hv, allPass_dataChecks_iff.mp hdata, rfl⟩, ?_⟩
        rw [Resolve.document_eq, outcome_eq_error_iff]
        exact hfault

/-! ### Two loads of a document -/

/-- A load succeeds when the document is in order and the catalog knows its blocks. -/
theorem result_eq_ok_iff :
    (d.resolve C .never).result = .ok r ↔
      AllPass d.earlyChecks ∧ C.KnowsAll 0 d.data ∧ AllPass d.referenceChecks ∧ d.resolved = r := by
  rw [resolve_result_eq, outcome_eq_ok_iff, checks, allPass_append, allPass_append,
    allPass_dataChecks_iff, and_assoc, and_assoc]

/-- **Past a catalog that knows every block** a load depends on the document alone. -/
theorem resolve_of_knowsAll (hearly : AllPass d.earlyChecks) (hknown : C.KnowsAll 0 d.data) :
    d.resolve C .never = ⟨outcome d.referenceChecks d.resolved, lookupsOf d.data⟩ := by
  rw [resolve_of_prepared hearly,
    DataTables.check_of_knowsAll hknown fun _ _ _ => Cancellation.quietAt_never]
  exact congrArg (Run.mk · _) Resolve.document_eq

/-- A load fails when it fails in some stage. -/
theorem result_eq_error_iff :
    (d.resolve C .never).result = .error e ↔ ∃ stage, d.FailsIn C stage e := by
  rw [resolve_result_eq, outcome_eq_error_iff, checks, firstFault_append, firstFault_append,
    earlyChecks, firstFault_append]
  constructor
  · rintro ((hnames | ⟨hn, hvalues⟩) | ⟨hearly, hdata | ⟨hknown, href⟩⟩)
    · exact ⟨.names, failsIn_iff.mpr ⟨allPass_nil, hnames⟩⟩
    · exact ⟨.values, failsIn_iff.mpr ⟨hn, hvalues⟩⟩
    · exact ⟨.data, failsIn_iff.mpr ⟨hearly, hdata⟩⟩
    · exact ⟨.references, failsIn_iff.mpr ⟨allPass_append.mpr ⟨hearly, hknown⟩, href⟩⟩
  · rintro ⟨stage, h⟩
    obtain ⟨hbefore, hfault⟩ := failsIn_iff.mp h
    cases stage with
    | names => exact .inl (.inl hfault)
    | values => exact .inl (.inr ⟨hbefore, hfault⟩)
    | data => exact .inr ⟨hbefore, .inl hfault⟩
    | references =>
        obtain ⟨hearly, hdata⟩ := allPass_append.mp hbefore
        exact .inr ⟨hearly, .inr ⟨hdata, hfault⟩⟩

/-- The stages before the `data` blocks fail alike with every catalog. -/
theorem FailsIn.early {stage : Stage} (hstage : stage = .names ∨ stage = .values)
    (h : d.FailsIn C stage e) : d.FailsIn C' stage e := by
  rcases hstage with rfl | rfl
  · exact h
  · exact h

/-- The stage after the `data` blocks fails alike with every catalog that finds the blocks. -/
theorem FailsIn.references (h : d.FailsIn C .references e) (hfinds : C'.Finds d.data) :
    d.FailsIn C' .references e := by
  obtain ⟨hbefore, hfault⟩ := failsIn_iff.mp h
  obtain ⟨hearly, hdata⟩ := allPass_append.mp hbefore
  -- the first load came past the blocks, so their kinds are supported; that is said of the document
  have hkinds : ∀ b ∈ d.data, b.kind?.isSome = true :=
    (Catalog.knowsAll_iff_finds.mp (allPass_dataChecks_iff.mp hdata)).1
  have hdata' : AllPass (dataChecks C' 0 d.data) :=
    allPass_dataChecks_iff.mpr (Catalog.knowsAll_iff_finds.mpr ⟨hkinds, hfinds⟩)
  exact failsIn_iff.mpr ⟨allPass_append.mpr ⟨hearly, hdata'⟩, hfault⟩

/-- A load that succeeds is the same with a catalog that finds at least as much. -/
theorem resolve_eq_of_within (h : C.Within C') (hr : (d.resolve C .never).result = .ok r) :
    d.resolve C' .never = d.resolve C .never := by
  obtain ⟨hearly, hknown, -⟩ := result_eq_ok_iff.mp hr
  rw [resolve_of_knowsAll hearly hknown, resolve_of_knowsAll hearly (h.knowsAll hknown)]

/-- What a catalog may do to the load of a document: let it pass, or not. -/
structure IsGated (d : Document) : Prop where
  /-- Loads that succeed give the same document. -/
  agree : ∀ C C' r r', (d.resolve C .never).result = .ok r → (d.resolve C' .never).result = .ok r' →
    r = r'
  /-- A load succeeds when it does with a catalog that finds anything, and its own catalog finds
  the `data` blocks. -/
  gate : ∀ C K r, K.FindsAny →
    ((d.resolve C .never).result = .ok r ↔
      (d.resolve K .never).result = .ok r ∧ C.Finds d.data)
  /-- A load that fails, fails in a stage. -/
  fails : ∀ C e, (d.resolve C .never).result = .error e ↔ ∃ stage, d.FailsIn C stage e
  /-- If it fails before the `data` blocks, it fails alike with every catalog. -/
  before : ∀ C C' e stage, stage = .names ∨ stage = .values → d.FailsIn C stage e →
    d.FailsIn C' stage e ∧ (d.resolve C' .never).result = .error e
  /-- If it fails after them, it fails alike with every catalog that finds them. -/
  after : ∀ C C' e, d.FailsIn C .references e → C'.Finds d.data →
    d.FailsIn C' .references e ∧ (d.resolve C' .never).result = .error e
  /-- A catalog that finds at least as much, under whatever numbers, leaves a load that succeeds as
  it is. -/
  within : ∀ C C' r, C.Within C' → (d.resolve C .never).result = .ok r →
    d.resolve C' .never = d.resolve C .never
  /-- So does adding names to a catalog in memory. -/
  added : ∀ (m : MemoryCatalog) additions r, (d.resolve m.toCatalog .never).result = .ok r →
    d.resolve (m.addAll additions).toCatalog .never = d.resolve m.toCatalog .never
  /-- So does adding rows to a database, or putting them in another order. -/
  stored : ∀ (D D' : Database) r, D.RowsWithin D' → (d.resolve D.toCatalog .never).result = .ok r →
    d.resolve D'.toCatalog .never = d.resolve D.toCatalog .never

/-- **The catalog is a gate.**  It lets a document pass or not, and does nothing else. -/
theorem catalog_is_gate (d : Document) : d.IsGated where
  agree := fun C C' r r' h h' => by
    obtain ⟨-, -, -, rfl⟩ := result_eq_ok_iff.mp h
    exact (result_eq_ok_iff.mp h').2.2.2
  gate := fun C K r hK => by
    rw [result_eq_ok_iff, result_eq_ok_iff, Catalog.knowsAll_iff_finds, Catalog.knowsAll_iff_finds]
    constructor
    · rintro ⟨hearly, ⟨hkinds, hfinds⟩, href, hr⟩
      exact ⟨⟨hearly, ⟨hkinds, hK.finds⟩, href, hr⟩, hfinds⟩
    · rintro ⟨⟨hearly, ⟨hkinds, -⟩, href, hr⟩, hfinds⟩
      exact ⟨hearly, ⟨hkinds, hfinds⟩, href, hr⟩
  fails := fun C e => result_eq_error_iff
  before := fun C C' e stage hstage h =>
    ⟨h.early hstage, result_eq_error_iff.mpr ⟨stage, h.early hstage⟩⟩
  after := fun C C' e h hfinds =>
    ⟨h.references hfinds, result_eq_error_iff.mpr ⟨.references, h.references hfinds⟩⟩
  within := fun C C' r h hr => resolve_eq_of_within h hr
  added := fun m additions r hr => resolve_eq_of_within MemoryCatalog.within_addAll hr
  stored := fun D D' r h hr => resolve_eq_of_within h.within hr

end Document

end VirtEnv
