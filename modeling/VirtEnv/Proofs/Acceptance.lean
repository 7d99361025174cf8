import VirtEnv.Load
import VirtEnv.Proofs.Lookups
import VirtEnv.Proofs.References

/-!
# Acceptance — what a load comes to

The checks of a document against a catalog, in their order: the declared names of each kind, the
variables, the locals, the `data` blocks, the VMs, the clusters.  A load that is not cancelled is
this row of checks and nothing else.

* `Document.resolve_result_eq`: the load comes to `Document.resolved` if every check passes, and to
  the error of the first that fails otherwise.
* `Document.resolve_of_prepared`, `Document.resolve_of_refused`: the stages before the `data`
  blocks do not look at the catalog, nor at the token.
* `Document.resolve_of_past`, `Document.resolve_eq_or_cut`: what remains of a load once it has come
  to a `data` block, and where a cancellation may cut it short.
-/

namespace VirtEnv

namespace Document

/-- The checks before the `data` blocks: names, variables and locals. -/
def earlyChecks (d : Document) : List Check := d.nameChecks ++ d.valueChecks

/-- The checks of a document against a catalog, in their order. -/
def checks (d : Document) (C : Catalog) : List Check :=
  d.earlyChecks ++ (dataChecks C 0 d.data ++ d.referenceChecks)

variable {d : Document} {C : Catalog} {k : Cancellation}

/-- A document whose names, variables and locals are in order is checked against the catalog and
resolved in its tables. -/
theorem resolve_of_prepared (h : AllPass d.earlyChecks) :
    d.resolve C k =
      (DataTables.check C k 0 {} d.data).andThen fun data =>
        Resolve.document d d.index { d.tables with data } := by
  obtain ⟨hn, hv⟩ := allPass_append.mp h
  simp only [resolve, Index.build_eq, outcome_of_allPass hn, Namespace.build,
    Namespace.evalDocument_eq, outcome_of_allPass hv, Run.andThen]
  cases (DataTables.check C k 0 {} d.data).result <;> rfl

/-- A document whose names, variables or locals are not in order is refused without a lookup. -/
theorem resolve_of_refused {e : Error} (h : FirstFault d.earlyChecks e) :
    d.resolve C k = .pure (.error e) := by
  rcases firstFault_append.mp h with hn | ⟨hn, hv⟩
  · simp only [resolve, Index.build_eq, outcome_of_firstFault hn]
  · simp only [resolve, Index.build_eq, outcome_of_allPass hn, Namespace.build,
      Namespace.evalDocument_eq, outcome_of_firstFault hv]
    rfl

/-- **A load that is not cancelled is the row of the document's checks**, and comes to the resolved
document. -/
theorem resolve_result_eq : (d.resolve C .never).result = outcome (d.checks C) d.resolved := by
  rcases allPass_or_firstFault d.earlyChecks with h | ⟨e, h⟩
  · rw [resolve_of_prepared h, checks, outcome_append_of_allPass h, Run.andThen,
      DataTables.check_result_eq]
    exact outcome_bind fun _ => Resolve.document_eq
  · rw [resolve_of_refused h, checks, outcome_of_firstFault (firstFault_append.mpr (.inl h))]
    rfl

/-- **A load succeeds exactly when every check of the document passes, and fails with the error of
the first that does not.** -/
theorem resolve_first_fault (d : Document) (C : Catalog) :
    ((∃ r, (d.resolve C .never).result = .ok r) ↔ AllPass (d.checks C)) ∧
      ∀ e, (d.resolve C .never).result = .error e ↔ FirstFault (d.checks C) e := by
  simp only [resolve_result_eq, outcome_eq_error_iff, outcome_eq_ok_iff, implies_true, and_true]
  exact ⟨fun ⟨_, h, _⟩ => h, fun h => ⟨_, h, rfl⟩⟩

/-! ### Where a load stands among the `data` blocks -/

/-- A load comes to the blocks `rest`: names, variables and locals are in order, and the catalog
knows the blocks `done` before them. -/
structure Past (d : Document) (C : Catalog) (done rest : List DataBlock) : Prop where
  early : AllPass d.earlyChecks
  blocks : d.data = done ++ rest
  known : C.KnowsAll 0 done

variable {done rest : List DataBlock} {b : DataBlock} {l : Lookup}

/-- The index and the values of a document are built exactly when its names, variables and locals
are in order. -/
theorem allPass_earlyChecks_iff :
    AllPass d.earlyChecks ↔
      Index.build d = .ok d.index ∧ Namespace.evalDocument d = .ok (d.varTable, d.localTable) := by
  rw [earlyChecks, allPass_append, Index.build_eq, Namespace.evalDocument_eq, outcome_eq_ok_iff,
    outcome_eq_ok_iff]
  simp only [and_true]

/-- A load whose names, variables and locals are in order comes to the first block. -/
theorem past_of_prepared {i : Index} {v : List (String × Hcl.Value) × List (String × Hcl.Value)}
    (hi : Index.build d = .ok i) (hv : Namespace.evalDocument d = .ok v) : d.Past C [] d.data := by
  rw [Index.build_eq, outcome_eq_ok_iff] at hi
  rw [Namespace.evalDocument_eq, outcome_eq_ok_iff] at hv
  exact ⟨allPass_append.mpr ⟨hi.1, hv.1⟩, rfl, Catalog.knowsAll_nil⟩

/-- A load comes to the next block exactly when the catalog knows the one it has come to. -/
theorem past_concat_iff :
    d.Past C (done ++ [b]) rest ↔ d.Past C done (b :: rest) ∧ C.Knows done.length b := by
  have hblocks : done ++ [b] ++ rest = done ++ b :: rest := by
    rw [List.append_assoc, List.singleton_append]
  have hknown : C.KnowsAll 0 (done ++ [b]) ↔ C.KnowsAll 0 done ∧ C.Knows done.length b := by
    rw [Catalog.knowsAll_append, Catalog.knowsAll_cons, Nat.zero_add]
    exact and_congr_right fun _ => and_iff_left Catalog.knowsAll_nil
  constructor
  · intro h
    obtain ⟨hdone, hb⟩ := hknown.mp h.known
    exact ⟨⟨h.early, hblocks ▸ h.blocks, hdone⟩, hb⟩
  · rintro ⟨h, hb⟩
    exact ⟨h.early, hblocks ▸ h.blocks, hknown.mpr ⟨h.known, hb⟩⟩

/-- What remains of a load is to check the blocks that it has come to, and to resolve. -/
theorem resolve_of_past (h : d.Past C done rest) (hk : ∀ i, i < done.length → k.QuietAt i) :
    d.resolve C k =
      ((DataTables.check C k done.length (.ofBlocks done) rest).andThen fun data =>
        Resolve.document d d.index { d.tables with data }).afterAll (lookupsOf done) := by
  have hquiet : ∀ i, 0 ≤ i → i < 0 + done.length → k.QuietAt i :=
    fun i _ hi => hk i (by rwa [Nat.zero_add] at hi)
  rw [resolve_of_prepared h.early, h.blocks, DataTables.check_append h.known hquiet, Nat.zero_add]
  rfl

section AtBlock

variable (h : d.Past C done (b :: rest)) (hk : ∀ i, i < done.length → k.QuietAt i)
include h hk

/-- At a block of an unsupported kind a load ends. -/
theorem resolve_at_unsupported (hb : b.kind? = none) :
    d.resolve C k = ⟨.error (.unsupportedDataKind b.label), lookupsOf done⟩ := by
  rw [resolve_of_past h hk, DataTables.check_unsupported hb]
  exact congrArg (Run.mk _) (List.append_nil _)

/-- At a block a load that is cancelled ends, without the lookup. -/
theorem resolve_at_stop (hl : b.lookup? = some l) (hr : k.reached done.length = true) :
    d.resolve C k = ⟨.error .cancelled, lookupsOf done⟩ := by
  obtain ⟨hb, -⟩ := DataBlock.lookup?_eq_some.mp hl
  rw [resolve_of_past h hk, DataTables.check_reached hb hr]
  exact congrArg (Run.mk _) (List.append_nil _)

/-- At a lookup that the catalog does not find a load ends. -/
theorem resolve_at_refused {e : Error} (hl : b.lookup? = some l) (hq : k.QuietAt done.length)
    (ha : answered C done.length l.kind l.name = some e) :
    d.resolve C k = ⟨.error e, lookupsOf done ++ [l]⟩ := by
  obtain ⟨hb, hname⟩ := DataBlock.lookup?_eq_some.mp hl
  rw [resolve_of_past h hk, DataTables.check_refused hb hq (hname ▸ ha), hname]
  rfl

end AtBlock

/-- After the last block a load resolves, with the tables that it has built. -/
theorem resolve_at_end {i : Index} {vars locals : List (String × Hcl.Value)}
    (h : d.Past C done []) (hk : ∀ i, i < done.length → k.QuietAt i)
    (hi : Index.build d = .ok i) (hv : Namespace.evalDocument d = .ok (vars, locals)) :
    d.resolve C k =
      ⟨Resolve.document d i
        { vars, locals, networks := i.networks, stores := i.stores, data := .ofBlocks done },
        lookupsOf done⟩ := by
  obtain ⟨hindex, hvalues⟩ := allPass_earlyChecks_iff.mp h.early
  obtain rfl := Except.ok.inj (hindex.symm.trans hi)
  obtain ⟨rfl, rfl⟩ := Prod.mk.inj (Except.ok.inj (hvalues.symm.trans hv))
  rw [resolve_of_past h hk]
  exact congrArg (Run.mk _) (List.append_nil _)

/-- A cancellation at no moment of the lookups leaves a load as it is. -/
theorem resolve_of_quiet (hk : ∀ i, i < d.data.length → k.QuietAt i) :
    d.resolve C k = d.resolve C .never := by
  rcases allPass_or_firstFault d.earlyChecks with h | ⟨e, h⟩
  · rw [resolve_of_prepared h, resolve_of_prepared h,
      DataTables.check_of_quiet fun i _ hi => hk i (by rwa [Nat.zero_add] at hi)]
  · rw [resolve_of_refused h, resolve_of_refused h]

/-- A cancelled load ends as it would have ended, or at a block of a supported kind: before its
lookup, or during it. -/
theorem resolve_eq_or_cut :
    d.resolve C k = d.resolve C .never ∨
      ∃ done b rest l, d.Past C done (b :: rest) ∧ b.lookup? = some l ∧
        (d.resolve C k = ⟨.error .cancelled, lookupsOf done⟩ ∨
          d.resolve C k = ⟨.error .cancelled, lookupsOf done ++ [l]⟩) := by
  rcases allPass_or_firstFault d.earlyChecks with h | ⟨e, h⟩
  · rw [resolve_of_prepared h, resolve_of_prepared h]
    rcases @DataTables.check_eq_or_cut C 0 {} k d.data with
      hc | ⟨done, b, rest, l, hblocks, hknown, hl, hcut⟩
    · exact .inl (by rw [hc])
    · exact .inr ⟨done, b, rest, l, ⟨h, hblocks, hknown⟩, hl,
        hcut.imp (fun hc => by rw [hc]; rfl) (fun hc => by rw [hc]; rfl)⟩
  · exact .inl (by rw [resolve_of_refused h, resolve_of_refused h])

end Document

/-! ### The document in a file -/

/-- The file at a path holds a document. -/
def DocumentAt (fs : Files) (file : String) (d : Document) : Prop :=
  ∃ path, fs.canonical file = .ok path ∧ Document.ofFile path (fs.read path) = .ok d

section

variable {fs : Files} {file : String} {d : Document} {C : Catalog} {k : Cancellation}

theorem DocumentAt.loadFile_eq (h : DocumentAt fs file d) :
    loadFile fs file C k = d.resolve C k := by
  obtain ⟨path, hpath, hd⟩ := h
  simp only [loadFile, hpath, loadDocument, hd]

/-- What is loaded from a file is a document that the file holds. -/
theorem exists_documentAt {r : Resolved} (h : (loadFile fs file C k).result = .ok r) :
    ∃ d, DocumentAt fs file d ∧ (d.resolve C k).result = .ok r := by
  cases hpath : fs.canonical file with
  | error fault => rw [loadFile, hpath] at h; cases h
  | ok path =>
      rw [loadFile, hpath] at h
      cases hd : Document.ofFile path (fs.read path) with
      | error e => simp only [hd] at h; cases h
      | ok d => simp only [hd] at h; exact ⟨d, ⟨path, hpath, hd⟩, h⟩

end

end VirtEnv
