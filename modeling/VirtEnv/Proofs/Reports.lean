import VirtEnv.Proofs.Acceptance

/-!
# Reports — which errors a check reports

Reading a text, decoding it and resolving what it declares are separate stages, and each has errors
of its own.  The checks of a document report what the document says, or what the catalog answers to
it: never that a text could not be read or decoded, and never that the load was cancelled.

* `Document.ofDocument_checks`: every check of a document reports an error of the document.
* `Document.isOfDocument_of_resolve`: so resolving ends with such an error, or as cancelled.
-/

namespace VirtEnv

/-- The error lies in what a document says, or in what the catalog answers to it. -/
def Error.isOfDocument : Error → Bool
  | .duplicateName _ _ | .emptyName _ | .variableEval _ _ | .localEval _ _ => true
  | .unknownDataReference _ _ | .unsupportedDataKind _ | .catalog _ _ _ => true
  | .missingAttribute _ _ | .expressionEval _ _ _ | .typeMismatch _ _ => true
  | .unknownReference _ _ _ | .aborted _ => true
  | .parse _ | .decode _ _ | .readFailed _ _ | .cancelled => false
  | .assembly _ | .settings _ | .settingsNotFound _ => false

/-- The checks of a row report errors of the document only. -/
def OfDocument (cs : List Check) : Prop := ∀ c ∈ cs, c.all Error.isOfDocument = true

theorem ofDocument_nil : OfDocument [] := fun _ h => by cases h

@[simp] theorem ofDocument_cons {c : Check} {cs : List Check} :
    OfDocument (c :: cs) ↔ c.all Error.isOfDocument = true ∧ OfDocument cs :=
  List.forall_mem_cons

@[simp] theorem ofDocument_append {cs cs' : List Check} :
    OfDocument (cs ++ cs') ↔ OfDocument cs ∧ OfDocument cs' :=
  List.forall_mem_append

/-- Checks of the elements of a list, one for each. -/
theorem ofDocument_map {α : Type} {f : α → Check} {xs : List α}
    (h : ∀ x, (f x).all Error.isOfDocument = true) : OfDocument (xs.map f) := by
  intro c hc
  obtain ⟨x, -, rfl⟩ := List.mem_map.mp hc
  exact h x

/-- Checks of the elements of a list, a row for each. -/
theorem ofDocument_flatMap {α : Type} {f : α → List Check} {xs : List α}
    (h : ∀ x, OfDocument (f x)) : OfDocument (xs.flatMap f) := by
  intro c hc
  obtain ⟨x, -, hx⟩ := List.mem_flatMap.mp hc
  exact h x c hx

/-- A requirement reports its own error. -/
theorem require_ofDocument {p : Prop} [Decidable p] {e : Error} (h : e.isOfDocument = true) :
    (require p e).all Error.isOfDocument = true := by
  unfold require
  split
  · rfl
  · exact h

/-- An expression that has no value is reported as the document has it, or ends the program. -/
theorem evaluates_ofDocument {scope : Hcl.Scope} {fault : Hcl.Fault → Error} {e : Hcl.Expr}
    (h : ∀ f, (fault f).isOfDocument = true) :
    (evaluates scope fault e).all Error.isOfDocument = true := by
  unfold evaluates
  split
  · rfl
  · rename_i f _
    cases f with
    | fault f => exact h f
    | abort a => rfl

/-- The catalog reports what it does not know, and its faults. -/
theorem answered_ofDocument {C : Catalog} {n : Nat} {kind : DataKind} {name : String} :
    (answered C n kind name).all Error.isOfDocument = true := by
  unfold answered
  split <;> rfl

/-- Names are reported as empty or as there twice. -/
theorem ofDocument_nameChecks {kind : ResourceKind} {before names : List String} :
    OfDocument (nameChecks kind before names) := by
  induction names generalizing before with
  | nil => exact ofDocument_nil
  | cons name names ih =>
      exact ofDocument_cons.mpr
        ⟨require_ofDocument rfl, ofDocument_cons.mpr ⟨require_ofDocument rfl, ih⟩⟩

theorem ofDocument_definitionChecks {scope : Hcl.Scope} {fault : String → Hcl.Fault → Error}
    {definitions : List (String × Hcl.Expr)} (h : ∀ name f, (fault name f).isOfDocument = true) :
    OfDocument (definitionChecks scope fault definitions) :=
  ofDocument_map fun p => evaluates_ofDocument (h p.1)

/-- A `data` block is reported for its kind, or for what the catalog answers. -/
theorem ofDocument_dataChecks {C : Catalog} {n : Nat} {bs : List DataBlock} :
    OfDocument (dataChecks C n bs) := by
  induction bs generalizing n with
  | nil => exact ofDocument_nil
  | cons b bs ih =>
      refine ofDocument_append.mpr ⟨ofDocument_cons.mpr ⟨require_ofDocument rfl,
        ofDocument_cons.mpr ⟨?_, ofDocument_nil⟩⟩, ih⟩
      cases b.kind? with
      | none => rfl
      | some kind => exact answered_ofDocument

theorem ofDocument_partChecks {scope : Hcl.Scope} {owner : Owner} {field : Field}
    {e : Option Hcl.Expr} : OfDocument (partChecks scope owner field e) := by
  refine ofDocument_cons.mpr ⟨require_ofDocument rfl, ofDocument_cons.mpr ⟨?_, ofDocument_nil⟩⟩
  cases e with
  | none => rfl
  | some e => exact evaluates_ofDocument fun _ => rfl

/-- Orders are reported for the names that are not members. -/
theorem ofDocument_lifecycleChecks {owner : Owner} {members : List String}
    {lifecycle : Option Lifecycle} : OfDocument (lifecycleChecks owner members lifecycle) := by
  have horder : ∀ field order, OfDocument (orderChecks owner field members order) :=
    fun field order => ofDocument_map fun name => require_ofDocument rfl
  cases lifecycle with
  | none => exact ofDocument_nil
  | some l => exact ofDocument_append.mpr ⟨horder _ _, horder _ _⟩

namespace Document

variable {d : Document} {C : Catalog}

/-- A VM is reported for its references. -/
theorem ofDocument_vmChecks {v : Vm} : OfDocument (d.vmChecks v) := by
  have hresource : ∀ kind owner field e, OfDocument (d.resourceChecks kind owner field e) := by
    intro kind owner field e
    simp only [resourceChecks, stringChecks, ofDocument_append, ofDocument_cons]
    exact ⟨⟨ofDocument_partChecks, require_ofDocument rfl, ofDocument_nil⟩,
      require_ofDocument rfl, ofDocument_nil⟩
  exact ofDocument_append.mpr ⟨hresource _ _ _ _, hresource _ _ _ _⟩

/-- A cluster is reported for its members and its orders. -/
theorem ofDocument_clusterChecks {c : Cluster} : OfDocument (d.clusterChecks c) := by
  have hmember : ∀ owner item, OfDocument (d.memberChecks owner item) := by
    intro owner item
    exact ofDocument_cons.mpr ⟨require_ofDocument rfl,
      ofDocument_cons.mpr ⟨require_ofDocument rfl, ofDocument_nil⟩⟩
  simp only [clusterChecks, ofDocument_append, ofDocument_cons]
  exact ⟨ofDocument_partChecks, require_ofDocument rfl, ofDocument_flatMap (hmember _),
    ofDocument_lifecycleChecks⟩

/-- **Every check reports an error of the document.** -/
theorem ofDocument_checks : OfDocument (d.checks C) := by
  simp only [checks, earlyChecks, valueChecks, referenceChecks, ofDocument_append]
  exact ⟨⟨ofDocument_flatMap fun _ => ofDocument_nameChecks,
      ofDocument_definitionChecks fun _ _ => rfl, ofDocument_definitionChecks fun _ _ => rfl⟩,
    ofDocument_dataChecks, ofDocument_flatMap fun _ => ofDocument_vmChecks,
    ofDocument_flatMap fun _ => ofDocument_clusterChecks⟩

variable {k : Cancellation} {e : Error}

/-- A load that is not cancelled ends with the error of one of its checks. -/
theorem isOfDocument_of_uncancelled (h : (d.resolve C .never).result = .error e) :
    e.isOfDocument = true := by
  rw [resolve_result_eq, outcome_eq_error_iff] at h
  obtain ⟨passed, rest, hchecks, -⟩ := h
  have hmem : some e ∈ d.checks C := by
    rw [hchecks]
    exact List.mem_append_right _ List.mem_cons_self
  exact ofDocument_checks _ hmem

/-- **Resolving ends with an error of the document**, or as cancelled. -/
theorem isOfDocument_of_resolve (h : (d.resolve C k).result = .error e) :
    e.isOfDocument = true ∨ e = .cancelled := by
  rcases resolve_eq_or_cut with hk | ⟨_, _, _, _, -, -, hk | hk⟩
  · exact .inl (isOfDocument_of_uncancelled (hk ▸ h))
  · rw [hk] at h; exact .inr (Except.error.inj h).symm
  · rw [hk] at h; exact .inr (Except.error.inj h).symm

end Document

end VirtEnv
