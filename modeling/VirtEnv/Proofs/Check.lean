import VirtEnv.Error

/-!
# Checks — the first that fails decides

A check either passes or reports an error.  `outcome cs a` is what a row of checks comes to: `a`
if every check passes, otherwise the error of the first that does not.

* `outcome_eq_ok_iff`, `outcome_eq_error_iff`: a row of checks comes to its result when all pass,
  and to an error when that is its first fault.
* `outcome_bind`, `outcome_mapM`: rows that follow each other are one row.  A stage of the load
  that is a row of checks composes with the next stage, which may rely on the checks before it.
-/

namespace VirtEnv

/-- A check: the error that it reports, if it fails. -/
abbrev Check := Option Error

/-- The check that `p` holds. -/
def require (p : Prop) [Decidable p] (e : Error) : Check := if p then none else some e

theorem require_eq_none {p : Prop} [Decidable p] {e : Error} : require p e = none ↔ p := by
  simp [require]

/-- Every check passes. -/
def AllPass (cs : List Check) : Prop := ∀ c ∈ cs, c = none

/-- What a row of checks comes to: `a`, or the error of the first that fails. -/
def outcome {α : Type} : List Check → α → Except Error α
  | [], a => .ok a
  | none :: cs, a => outcome cs a
  | some e :: _, _ => .error e

@[simp] theorem allPass_nil : AllPass [] := fun _ h => nomatch h

@[simp] theorem allPass_cons {c : Check} {cs : List Check} :
    AllPass (c :: cs) ↔ c = none ∧ AllPass cs := by
  simp [AllPass]

@[simp] theorem allPass_append {cs cs' : List Check} :
    AllPass (cs ++ cs') ↔ AllPass cs ∧ AllPass cs' := by
  simp only [AllPass, List.mem_append]
  exact ⟨fun h => ⟨fun c hc => h c (.inl hc), fun c hc => h c (.inr hc)⟩,
    fun h c hc => hc.elim (h.1 c) (h.2 c)⟩

theorem allPass_flatMap {α : Type} {f : α → List Check} {xs : List α} :
    AllPass (xs.flatMap f) ↔ ∀ x ∈ xs, AllPass (f x) := by
  simp only [AllPass, List.mem_flatMap]
  exact ⟨fun h x hx c hc => h c ⟨x, hx, hc⟩, fun h c ⟨x, hx, hc⟩ => h x hx c hc⟩

theorem allPass_map {α : Type} {f : α → Check} {xs : List α} :
    AllPass (xs.map f) ↔ ∀ x ∈ xs, f x = none := by
  simp [AllPass]

/-! ### What the outcome means -/

/-- The first check of a row that fails reports `e`. -/
def FirstFault (cs : List Check) (e : Error) : Prop :=
  ∃ passed rest, cs = passed ++ some e :: rest ∧ AllPass passed

/-- A row of checks comes to its result exactly when every check passes. -/
theorem outcome_eq_ok_iff {α : Type} {cs : List Check} {a b : α} :
    outcome cs a = .ok b ↔ AllPass cs ∧ a = b := by
  induction cs with
  | nil => simp [outcome]
  | cons c cs ih =>
      cases c with
      | none => simp [outcome, ih]
      | some e => simp [outcome]

theorem outcome_of_allPass {α : Type} {cs : List Check} {a : α} (h : AllPass cs) :
    outcome cs a = .ok a :=
  outcome_eq_ok_iff.mpr ⟨h, rfl⟩

/-- A row of checks comes to an error exactly when that is its first fault. -/
theorem outcome_eq_error_iff {α : Type} {cs : List Check} {a : α} {e : Error} :
    outcome cs a = .error e ↔ FirstFault cs e := by
  induction cs with
  | nil => simp [outcome, FirstFault]
  | cons c cs ih =>
      cases c with
      | none =>
          rw [outcome, ih]
          constructor
          · rintro ⟨passed, rest, rfl, hp⟩
            exact ⟨none :: passed, rest, rfl, allPass_cons.mpr ⟨rfl, hp⟩⟩
          · rintro ⟨passed, rest, hcs, hp⟩
            cases passed with
            | nil => cases hcs
            | cons c passed =>
                obtain ⟨-, rfl⟩ := List.cons.inj hcs
                exact ⟨passed, rest, rfl, (allPass_cons.mp hp).2⟩
      | some e' =>
          constructor
          · rintro ⟨⟩
            exact ⟨[], cs, rfl, allPass_nil⟩
          · rintro ⟨passed, rest, hcs, hp⟩
            cases passed with
            | nil => cases hcs; rfl
            | cons c passed =>
                obtain ⟨rfl, -⟩ := List.cons.inj hcs
                cases (allPass_cons.mp hp).1

theorem outcome_of_firstFault {α : Type} {cs : List Check} {a : α} {e : Error}
    (h : FirstFault cs e) : outcome cs a = .error e :=
  outcome_eq_error_iff.mpr h

theorem not_allPass_of_firstFault {cs : List Check} {e : Error} (h : FirstFault cs e) :
    ¬ AllPass cs := by
  intro hpass
  have hok : outcome cs () = .ok () := outcome_of_allPass hpass
  rw [outcome_of_firstFault h] at hok
  cases hok

/-- A row either passes or has a first fault. -/
theorem allPass_or_firstFault (cs : List Check) : AllPass cs ∨ ∃ e, FirstFault cs e := by
  cases h : outcome cs () with
  | ok _ => exact .inl (outcome_eq_ok_iff.mp h).1
  | error e => exact .inr ⟨e, outcome_eq_error_iff.mp h⟩

/-! ### Rows in a row -/

/-- A row of checks and what follows it: the second row may rely on the first. -/
theorem outcome_bind {α β : Type} {cs cs' : List Check} {a : α} {b : β}
    {f : α → Except Error β} (h : AllPass cs → f a = outcome cs' b) :
    (outcome cs a).bind f = outcome (cs ++ cs') b := by
  induction cs with
  | nil => exact h allPass_nil
  | cons c cs ih =>
      cases c with
      | none => exact ih fun hcs => h (allPass_cons.mpr ⟨rfl, hcs⟩)
      | some e => rfl

/-- A row that passes does not change what comes of the next. -/
theorem outcome_append_of_allPass {α : Type} {cs cs' : List Check} {a : α} (h : AllPass cs) :
    outcome (cs ++ cs') a = outcome cs' a := by
  rw [← outcome_bind fun _ => rfl, outcome_of_allPass h]
  rfl

/-- The first fault of two rows is that of the first, or that of the second if the first passes. -/
theorem firstFault_append {cs cs' : List Check} {e : Error} :
    FirstFault (cs ++ cs') e ↔ FirstFault cs e ∨ AllPass cs ∧ FirstFault cs' e := by
  have hbind : outcome (cs ++ cs') () = (outcome cs ()).bind (outcome cs') :=
    (outcome_bind fun _ => rfl).symm
  simp only [← outcome_eq_error_iff (a := ()), hbind]
  cases h : outcome cs () with
  | ok _ =>
      have hpass : AllPass cs := (outcome_eq_ok_iff.mp h).1
      simp [Except.bind, hpass]
  | error e' =>
      have hfail : ¬ AllPass cs := not_allPass_of_firstFault (outcome_eq_error_iff.mp h)
      simp [Except.bind, hfail]

/-- What a row comes to, put to use. -/
theorem outcome_bind_ok {α β : Type} {cs : List Check} {a : α} {f : α → β} :
    ((outcome cs a).bind fun x => .ok (f x)) = outcome cs (f a) := by
  have h : ((outcome cs a).bind fun x => .ok (f x)) = outcome (cs ++ []) (f a) :=
    outcome_bind fun _ => rfl
  rwa [List.append_nil] at h

/-- One row for each element of a list. -/
theorem outcome_mapM {α β : Type} {f : α → Except Error β} {checks : α → List Check} {g : α → β}
    {xs : List α} (h : ∀ x ∈ xs, f x = outcome (checks x) (g x)) :
    xs.mapM f = outcome (xs.flatMap checks) (xs.map g) := by
  induction xs with
  | nil => rfl
  | cons x xs ih =>
      have hxs : xs.mapM f = outcome (xs.flatMap checks) (xs.map g) :=
        ih fun y hy => h y (List.mem_cons_of_mem x hy)
      rw [List.mapM_cons, h x List.mem_cons_self, List.flatMap_cons, List.map_cons]
      refine outcome_bind fun _ => ?_
      rw [hxs]
      exact outcome_bind_ok

end VirtEnv
