import VirtEnv.Proofs.Tables

/-!
# Lookups — the `data` blocks against a catalog

Checking `data` blocks is a row of checks, two for each block: its kind is supported, and the
catalog knows its name.  While they pass, each block makes one lookup and adds one name.

* `DataTables.check_result_eq`: without cancellation, checking blocks is that row, and the names
  that it adds are those of the blocks, whatever the catalog.
* `DataTables.check_append`: blocks that the catalog knows make their lookups, and the blocks after
  them are checked as if they came first.
* `DataTables.check_eq_or_cut`: a cancellation leaves the run as it is, or cuts it short at one of
  the two moments at which a block looks at the token.
-/

namespace VirtEnv

/-! ### The lookups of blocks -/

/-- The lookup that a block asks for, if its kind is supported. -/
def DataBlock.lookup? (b : DataBlock) : Option Lookup := b.kind?.map fun kind => ⟨kind, b.name⟩

/-- The lookups that blocks ask for. -/
def lookupsOf (bs : List DataBlock) : List Lookup := bs.filterMap DataBlock.lookup?

theorem DataBlock.lookup?_eq_some {b : DataBlock} {l : Lookup} :
    b.lookup? = some l ↔ b.kind? = some l.kind ∧ b.name = l.name := by
  cases hb : b.kind? <;> cases l <;> simp [lookup?, hb]

theorem DataBlock.lookup?_of_kind {b : DataBlock} {kind : DataKind} (h : b.kind? = some kind) :
    b.lookup? = some ⟨kind, b.name⟩ :=
  lookup?_eq_some.mpr ⟨h, rfl⟩

theorem lookupsOf_cons {bs : List DataBlock} {b : DataBlock} {l : Lookup}
    (h : b.lookup? = some l) : lookupsOf (b :: bs) = l :: lookupsOf bs :=
  List.filterMap_cons_some h

theorem lookupsOf_concat {bs : List DataBlock} {b : DataBlock} {l : Lookup}
    (h : b.lookup? = some l) : lookupsOf (bs ++ [b]) = lookupsOf bs ++ [l] := by
  rw [lookupsOf, List.filterMap_append, List.filterMap_cons_some h, List.filterMap_nil, lookupsOf]

/-- Puts several lookups before those of a run. -/
def Run.afterAll {α : Type} (lookups : List Lookup) (r : Run α) : Run α :=
  ⟨r.result, lookups ++ r.lookups⟩

/-! ### What a catalog knows -/

/-- The catalog's `n`-th answer, to what the block asks for, is that it knows it. -/
def Catalog.Knows (C : Catalog) (n : Nat) (b : DataBlock) : Prop :=
  ∃ kind id, b.kind? = some kind ∧ C.answer n kind b.name = .ok (some id)

/-- The catalog knows what blocks ask for, one after the other from the `n`-th lookup on. -/
def Catalog.KnowsAll (C : Catalog) (n : Nat) (bs : List DataBlock) : Prop :=
  ∀ i b, bs[i]? = some b → C.Knows (n + i) b

theorem Catalog.knowsAll_nil {C : Catalog} {n : Nat} : C.KnowsAll n [] := fun _ _ h => by
  simp at h

theorem Catalog.knowsAll_cons {C : Catalog} {n : Nat} {b : DataBlock} {bs : List DataBlock} :
    C.KnowsAll n (b :: bs) ↔ C.Knows n b ∧ C.KnowsAll (n + 1) bs := by
  constructor
  · intro h
    refine ⟨h 0 b rfl, fun i b' hb => ?_⟩
    have := h (i + 1) b' hb
    rwa [Nat.add_left_comm, Nat.add_comm] at this
  · rintro ⟨hb, hbs⟩ i b' h
    cases i with
    | zero => cases h; exact hb
    | succ i =>
        have := hbs i b' h
        rwa [Nat.add_right_comm] at this

theorem Catalog.knowsAll_append {C : Catalog} {n : Nat} {bs bs' : List DataBlock} :
    C.KnowsAll n (bs ++ bs') ↔ C.KnowsAll n bs ∧ C.KnowsAll (n + bs.length) bs' := by
  induction bs generalizing n with
  | nil => simp [knowsAll_nil]
  | cons b bs ih =>
      rw [List.cons_append, knowsAll_cons, knowsAll_cons, ih, and_assoc, List.length_cons,
        Nat.add_right_comm, Nat.add_assoc]

/-- The lookups of blocks that a catalog knows stand where the blocks stand. -/
theorem lookupsOf_getElem? {C : Catalog} {n : Nat} {bs : List DataBlock} (h : C.KnowsAll n bs)
    (i : Nat) : (lookupsOf bs)[i]? = bs[i]?.bind DataBlock.lookup? := by
  induction bs generalizing n i with
  | nil => rfl
  | cons b bs ih =>
      obtain ⟨⟨kind, _, hkind, _⟩, hbs⟩ := Catalog.knowsAll_cons.mp h
      have hb : b.lookup? = some ⟨kind, b.name⟩ := DataBlock.lookup?_of_kind hkind
      rw [lookupsOf_cons hb]
      cases i with
      | zero => exact hb.symm
      | succ i => exact ih hbs i

theorem length_lookupsOf {C : Catalog} {n : Nat} {bs : List DataBlock} (h : C.KnowsAll n bs) :
    (lookupsOf bs).length = bs.length := by
  induction bs generalizing n with
  | nil => rfl
  | cons b bs ih =>
      obtain ⟨⟨kind, _, hkind, _⟩, hbs⟩ := Catalog.knowsAll_cons.mp h
      rw [lookupsOf_cons (DataBlock.lookup?_of_kind hkind), List.length_cons, List.length_cons,
        ih hbs]

/-! ### The checks of blocks -/

/-- The check of the `n`-th answer of a catalog. -/
def answered (C : Catalog) (n : Nat) (kind : DataKind) (name : String) : Check :=
  match C.answer n kind name with
  | .ok (some _) => none
  | .ok none => some (.unknownDataReference kind name)
  | .error fault => some (.catalog kind name fault)

/-- The checks of a block: its kind is supported, and the catalog knows its name. -/
def blockChecks (C : Catalog) (n : Nat) (b : DataBlock) : List Check :=
  [require (b.kind?.isSome) (.unsupportedDataKind b.label),
    b.kind?.bind fun kind => answered C n kind b.name]

/-- The checks of blocks, from the `n`-th lookup on. -/
def dataChecks (C : Catalog) (n : Nat) : List DataBlock → List Check
  | [] => []
  | b :: bs => blockChecks C n b ++ dataChecks C (n + 1) bs

theorem answered_eq_none {C : Catalog} {n : Nat} {kind : DataKind} {name : String} :
    answered C n kind name = none ↔ ∃ id, C.answer n kind name = .ok (some id) := by
  unfold answered
  split <;> simp_all

theorem allPass_blockChecks_iff {C : Catalog} {n : Nat} {b : DataBlock} :
    AllPass (blockChecks C n b) ↔ C.Knows n b := by
  cases hb : b.kind? <;> simp [blockChecks, Catalog.Knows, hb, answered_eq_none, require]

/-- The checks of blocks pass exactly when the catalog knows what they ask for. -/
theorem allPass_dataChecks_iff {C : Catalog} {n : Nat} {bs : List DataBlock} :
    AllPass (dataChecks C n bs) ↔ C.KnowsAll n bs := by
  induction bs generalizing n with
  | nil => simp [dataChecks, Catalog.knowsAll_nil]
  | cons b bs ih =>
      rw [dataChecks, allPass_append, allPass_blockChecks_iff, ih, Catalog.knowsAll_cons]

/-! ### One block -/

/-- The load is not cancelled when the `n`-th lookup would start, nor while it is pending. -/
def Cancellation.QuietAt (k : Cancellation) (n : Nat) : Prop :=
  k.reached n = false ∧ k.interrupts n = false

theorem Cancellation.quietAt_never {n : Nat} : Cancellation.never.QuietAt n := ⟨rfl, rfl⟩

theorem Cancellation.quietAt_before {m n : Nat} (h : n < m) :
    (Cancellation.before m).QuietAt n := by
  simp [QuietAt, reached, interrupts, h]

namespace DataTables

variable {C : Catalog} {n : Nat} {t : DataTables} {k : Cancellation} {b : DataBlock}
  {bs : List DataBlock} {kind : DataKind}

/-- A block of an unsupported kind ends the load without a lookup. -/
theorem check_unsupported (hb : b.kind? = none) :
    check C k n t (b :: bs) = .pure (.error (.unsupportedDataKind b.label)) := by
  simp [check, hb]

/-- A load that is cancelled before a lookup ends without it. -/
theorem check_reached (hb : b.kind? = some kind) (hr : k.reached n = true) :
    check C k n t (b :: bs) = .pure (.error .cancelled) := by
  simp [check, hb, hr]

/-- A load that is cancelled during a lookup ends with it. -/
theorem check_interrupted (hb : b.kind? = some kind) (hr : k.reached n = false)
    (hi : k.interrupts n = true) :
    check C k n t (b :: bs) = .after ⟨kind, b.name⟩ (.pure (.error .cancelled)) := by
  simp [check, hb, hr, hi]

/-- A lookup whose answer does not pass ends the load. -/
theorem check_refused {e : Error} (hb : b.kind? = some kind) (hk : k.QuietAt n)
    (ha : answered C n kind b.name = some e) :
    check C k n t (b :: bs) = .after ⟨kind, b.name⟩ (.pure (.error e)) := by
  simp only [check, hb, hk.1, hk.2, Bool.false_eq_true, if_false]
  unfold answered at ha
  split at ha <;> simp_all

/-- A lookup whose answer passes adds the name. -/
theorem check_found (hb : b.kind? = some kind) (hk : k.QuietAt n)
    (ha : answered C n kind b.name = none) :
    check C k n t (b :: bs) =
      .after ⟨kind, b.name⟩ (check C k (n + 1) (t.add kind b.name) bs) := by
  obtain ⟨id, ha⟩ := answered_eq_none.mp ha
  simp [check, hb, hk.1, hk.2, ha]

/-! ### Blocks in a row -/

/-- **Checking blocks is the row of their checks**, and adds their names. -/
theorem check_result_eq :
    (check C .never n t bs).result = outcome (dataChecks C n bs) (t.addBlocks bs) := by
  induction bs generalizing n t with
  | nil => rfl
  | cons b bs ih =>
      cases hb : b.kind? with
      | none =>
          rw [check_unsupported hb]
          simp [dataChecks, blockChecks, hb, require, outcome, Run.pure]
      | some kind =>
          cases ha : answered C n kind b.name with
          | some e =>
              rw [check_refused hb Cancellation.quietAt_never ha]
              simp [dataChecks, blockChecks, hb, require, outcome, ha, Run.after, Run.pure]
          | none =>
              rw [check_found hb Cancellation.quietAt_never ha, Run.after, ih, addBlocks_cons hb]
              simp [dataChecks, blockChecks, hb, require, outcome, ha]

/-- **Blocks that the catalog knows**, while the load is not cancelled, make their lookups, and the
blocks after them are checked as if they came first. -/
theorem check_append {rest : List DataBlock} (hbs : C.KnowsAll n bs)
    (hk : ∀ i, n ≤ i → i < n + bs.length → k.QuietAt i) :
    check C k n t (bs ++ rest) =
      (check C k (n + bs.length) (t.addBlocks bs) rest).afterAll (lookupsOf bs) := by
  induction bs generalizing n t with
  | nil => rfl
  | cons b bs ih =>
      obtain ⟨⟨kind, id, hb, hid⟩, hbs⟩ := Catalog.knowsAll_cons.mp hbs
      have hlen : n + (b :: bs).length = n + 1 + bs.length := by
        rw [List.length_cons, Nat.add_right_comm, Nat.add_assoc]
      have hfirst : k.QuietAt n := hk n (Nat.le_refl n) (by rw [hlen]; omega)
      have hrest : ∀ i, n + 1 ≤ i → i < n + 1 + bs.length → k.QuietAt i :=
        fun i h₁ h₂ => hk i (by omega) (hlen ▸ h₂)
      rw [List.cons_append, check_found hb hfirst (answered_eq_none.mpr ⟨id, hid⟩),
        ih hbs hrest, addBlocks_cons hb, lookupsOf_cons (DataBlock.lookup?_of_kind hb), hlen]
      rfl

/-- Blocks that the catalog knows, while the load is not cancelled, add their names. -/
theorem check_of_knowsAll (hbs : C.KnowsAll n bs)
    (hk : ∀ i, n ≤ i → i < n + bs.length → k.QuietAt i) :
    check C k n t bs = ⟨.ok (t.addBlocks bs), lookupsOf bs⟩ := by
  have h := @check_append C n t k bs [] hbs hk
  rw [List.append_nil] at h
  rw [h, check, Run.pure, Run.afterAll, List.append_nil]

/-- A cancellation at no moment of the checking of blocks leaves it as it is. -/
theorem check_of_quiet (hk : ∀ i, n ≤ i → i < n + bs.length → k.QuietAt i) :
    check C k n t bs = check C .never n t bs := by
  induction bs generalizing n t with
  | nil => rfl
  | cons b bs ih =>
      rw [List.length_cons] at hk
      have hfirst : k.QuietAt n := hk n (Nat.le_refl n) (by omega)
      have hrest : ∀ i, n + 1 ≤ i → i < n + 1 + bs.length → k.QuietAt i :=
        fun i h₁ h₂ => hk i (by omega) (by omega)
      have hnever : Cancellation.never.QuietAt n := Cancellation.quietAt_never
      cases hb : b.kind? with
      | none => rw [check_unsupported hb, check_unsupported hb]
      | some kind =>
          cases ha : answered C n kind b.name with
          | some e => rw [check_refused hb hfirst ha, check_refused hb hnever ha]
          | none => rw [check_found hb hfirst ha, check_found hb hnever ha, ih hrest]

/-- A lookup that is not cancelled is made. -/
theorem check_lookups_cons (hb : b.kind? = some kind) (hk : k.QuietAt n) :
    ∃ lookups, (check C k n t (b :: bs)).lookups = ⟨kind, b.name⟩ :: lookups := by
  cases ha : answered C n kind b.name with
  | some e => exact ⟨[], by rw [check_refused hb hk ha]; rfl⟩
  | none => exact ⟨_, by rw [check_found hb hk ha]; rfl⟩

/-- **A cancellation leaves the checking of blocks as it is, or cuts it short** at a block of a
supported kind, past blocks that the catalog knows: before its lookup, or during it. -/
theorem check_eq_or_cut :
    check C k n t bs = check C .never n t bs ∨
      ∃ done b rest l, bs = done ++ b :: rest ∧ C.KnowsAll n done ∧ b.lookup? = some l ∧
        (check C k n t bs = ⟨.error .cancelled, lookupsOf done⟩ ∨
          check C k n t bs = ⟨.error .cancelled, lookupsOf done ++ [l]⟩) := by
  induction bs generalizing n t with
  | nil => exact .inl rfl
  | cons b bs ih =>
      have hnever : Cancellation.never.QuietAt n := Cancellation.quietAt_never
      cases hb : b.kind? with
      | none => exact .inl (by rw [check_unsupported hb, check_unsupported hb])
      | some kind =>
          have hl : b.lookup? = some ⟨kind, b.name⟩ := DataBlock.lookup?_of_kind hb
          -- the token is looked at twice: before the lookup, and while it is pending
          cases hr : k.reached n with
          | true =>
              exact .inr ⟨[], b, bs, _, rfl, Catalog.knowsAll_nil, hl,
                .inl (by rw [check_reached hb hr]; rfl)⟩
          | false =>
          cases hi : k.interrupts n with
          | true =>
              exact .inr ⟨[], b, bs, _, rfl, Catalog.knowsAll_nil, hl,
                .inr (by rw [check_interrupted hb hr hi]; rfl)⟩
          | false =>
          cases ha : answered C n kind b.name with
          | some e => exact .inl (by rw [check_refused hb ⟨hr, hi⟩ ha, check_refused hb hnever ha])
          | none =>
              rw [check_found hb ⟨hr, hi⟩ ha, check_found hb hnever ha]
              rcases @ih (n + 1) (t.add kind b.name) with
                h | ⟨done, b', rest, l, rfl, hdone, hl', hcut⟩
              · exact .inl (by rw [h])
              · obtain ⟨id, hid⟩ := answered_eq_none.mp ha
                have hknows : C.Knows n b := ⟨kind, id, hb, hid⟩
                refine .inr ⟨b :: done, b', rest, l, rfl, Catalog.knowsAll_cons.mpr ⟨hknows, hdone⟩,
                  hl', ?_⟩
                rw [lookupsOf_cons hl]
                exact hcut.imp (fun h => by rw [h]; rfl) (fun h => by rw [h]; rfl)

end DataTables

end VirtEnv
