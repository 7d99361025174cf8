import Mathlib.Data.List.Induction
import VirtEnv.Proofs.Interchange

/-!
# Numbering — the numbers that a catalog in memory gives

Names of both kinds are numbered by one counter, which counts the additions.  So the number of a
name is the place of the addition that gave it, and a later addition of the same name gives it a new
one.

* `MemoryCatalog.count_addAll`: the counter.
* `MemoryCatalog.lookup_addAll_eq_some`: a name is found under the place of its last addition.
* `MemoryCatalog.numbered`: what a catalog answers after any additions.
-/

namespace VirtEnv

/-- The `i`-th addition, counted from one, is the last one of `a`. -/
def LastAdded (additions : List (DataKind × String)) (a : DataKind × String) (i : Int) : Prop :=
  ∃ before after, additions = before ++ a :: after ∧ a ∉ after ∧ i = before.length + 1

namespace LastAdded

variable {additions : List (DataKind × String)} {a b : DataKind × String} {i : Int}

/-- What is added last is added last at the end. -/
theorem concat_self : LastAdded (additions ++ [a]) a i ↔ i = additions.length + 1 := by
  constructor
  · rintro ⟨before, after, hsplit, hlast, rfl⟩
    rcases List.eq_nil_or_concat' after with rfl | ⟨after', b, rfl⟩
    · obtain ⟨rfl, -⟩ := List.append_inj' hsplit rfl
      rfl
    · rw [← List.cons_append, ← List.append_assoc] at hsplit
      obtain ⟨-, hab⟩ := List.append_inj' hsplit rfl
      cases hab
      exact absurd (List.mem_append_right _ (List.mem_singleton_self a)) hlast
  · rintro rfl
    exact ⟨additions, [], rfl, List.not_mem_nil, rfl⟩

/-- Anything else is added last where it was before. -/
theorem concat_of_ne (h : b ≠ a) : LastAdded (additions ++ [b]) a i ↔ LastAdded additions a i := by
  constructor
  · rintro ⟨before, after, hsplit, hlast, rfl⟩
    rcases List.eq_nil_or_concat' after with rfl | ⟨after', c, rfl⟩
    · obtain ⟨-, hba⟩ := List.append_inj' hsplit rfl
      cases hba
      exact absurd rfl h
    · rw [← List.cons_append, ← List.append_assoc] at hsplit
      obtain ⟨rfl, -⟩ := List.append_inj' hsplit rfl
      exact ⟨before, after', rfl, fun hmem => hlast (List.mem_append_left _ hmem), rfl⟩
  · rintro ⟨before, after, rfl, hlast, rfl⟩
    refine ⟨before, after ++ [b], List.append_assoc .., fun hmem => ?_, rfl⟩
    rcases List.mem_append.mp hmem with hmem | hmem
    · exact hlast hmem
    · exact h (List.mem_singleton.mp hmem).symm

theorem mem (h : LastAdded additions a i) : a ∈ additions := by
  obtain ⟨before, after, rfl, -, -⟩ := h
  exact List.mem_append_right _ List.mem_cons_self

theorem pos (h : LastAdded additions a i) : 0 < i := by
  obtain ⟨before, after, -, -, rfl⟩ := h
  omega

theorem le_length (h : LastAdded additions a i) : i ≤ additions.length := by
  obtain ⟨before, after, rfl, -, rfl⟩ := h
  simp only [List.length_append, List.length_cons]
  omega

/-- One addition gives one number. -/
theorem unique (h : LastAdded additions a i) (h' : LastAdded additions b i) : a = b := by
  obtain ⟨before, after, rfl, -, rfl⟩ := h
  obtain ⟨before', after', hsplit, -, hlength⟩ := h'
  have hbefore : before.length = before'.length := by omega
  exact (List.cons.inj (List.append_inj hsplit hbefore).2).1

/-- Where something was added last before it was added again, nothing is added last. -/
theorem not_append {more : List (DataKind × String)} (h : LastAdded additions a i)
    (hmore : a ∈ more) : ¬ LastAdded (additions ++ more) b i := by
  rintro hb
  obtain ⟨before, after, rfl, -, rfl⟩ := h
  obtain ⟨before', after', hsplit, hlast, hlength⟩ := hb
  have hbefore : before.length = before'.length := by omega
  rw [List.append_assoc, List.cons_append] at hsplit
  obtain ⟨rfl, rfl⟩ := List.cons.inj (List.append_inj hsplit hbefore).2
  exact hlast (List.mem_append_right _ hmore)

end LastAdded

namespace MemoryCatalog

variable {m : MemoryCatalog} {additions : List (DataKind × String)} {kind : DataKind}
  {name : String} {i : CatalogId}

theorem addAll_concat (m : MemoryCatalog) (additions : List (DataKind × String))
    (a : DataKind × String) : m.addAll (additions ++ [a]) = (m.addAll additions).add a.1 a.2 :=
  List.foldl_concat ..

theorem count_add (m : MemoryCatalog) (kind : DataKind) (name : String) :
    (m.add kind name).count = m.count + 1 := by
  cases kind <;> rfl

theorem count_addAll (additions : List (DataKind × String)) :
    (addAll {} additions).count = additions.length := by
  induction additions using List.reverseRecOn with
  | nil => rfl
  | append_singleton additions a ih => rw [addAll_concat, count_add, ih, List.length_append]; rfl

/-- **A name is found under the place of its last addition**, whatever its kind. -/
theorem lookup_addAll_eq_some :
    (addAll {} additions).lookup kind name = some i ↔ LastAdded additions (kind, name) i := by
  -- from the end, since it is the last addition of a name that counts
  induction additions using List.reverseRecOn with
  | nil =>
      have hnone : lookup {} kind name = none := by cases kind <;> rfl
      exact iff_of_false (fun h => nomatch hnone.symm.trans h) fun h => nomatch h.mem
  | append_singleton additions a ih =>
      rw [addAll_concat, lookup_add]
      by_cases ha : a = (kind, name)
      · subst ha
        rw [if_pos ⟨rfl, rfl⟩, count_addAll, LastAdded.concat_self, Option.some.injEq, eq_comm]
      · have hother : ¬ (kind = a.1 ∧ name = a.2) := fun ⟨hkind, hname⟩ =>
          ha (Prod.ext hkind.symm hname.symm)
        rw [if_neg hother, ih, LastAdded.concat_of_ne ha]

/-- A name is not found exactly if it was never added. -/
theorem lookup_addAll_eq_none :
    (addAll {} additions).lookup kind name = none ↔ (kind, name) ∉ additions := by
  have hempty : (lookup {} kind name).isSome = false := by cases kind <;> rfl
  rw [← Option.not_isSome_iff_eq_none, lookup_addAll_isSome, hempty]
  simp

theorem lookup_add_of_ne {other : DataKind} {added : String} (h : other ≠ kind) :
    (m.add other added).lookup kind name = m.lookup kind name := by
  rw [lookup_add, if_neg fun heq => h heq.1.symm]

/-- Additions of one kind do not change what is found of the other. -/
theorem lookup_addAll_of_ne {more : List (DataKind × String)} (h : ∀ a ∈ more, a.1 ≠ kind) :
    (m.addAll more).lookup kind name = m.lookup kind name := by
  induction more generalizing m with
  | nil => rfl
  | cons a more ih =>
      obtain ⟨ha, hmore⟩ := List.forall_mem_cons.mp h
      exact (ih hmore).trans (lookup_add_of_ne ha)

theorem answer_eq (m : MemoryCatalog) (n : Nat) (kind : DataKind) (name : String) :
    m.toCatalog.answer n kind name = .ok (m.lookup kind name) := rfl

/-- What a catalog that was empty answers after additions, whichever lookup it is. -/
structure Numbered (additions : List (DataKind × String)) : Prop where
  /-- The number of a name is the place of its last addition among those of both kinds. -/
  found : ∀ n kind name i, (addAll {} additions).toCatalog.answer n kind name = .ok (some i) ↔
    LastAdded additions (kind, name) i
  /-- A name that was not added is not there. -/
  missing : ∀ n kind name, (addAll {} additions).toCatalog.answer n kind name = .ok none ↔
    (kind, name) ∉ additions
  /-- Numbers go from one to the number of additions. -/
  bounded : ∀ n kind name i, (addAll {} additions).toCatalog.answer n kind name = .ok (some i) →
    0 < i ∧ i ≤ additions.length
  /-- No two names have the same number. -/
  distinct : ∀ n n' kind kind' name name' i,
    (addAll {} additions).toCatalog.answer n kind name = .ok (some i) →
      (addAll {} additions).toCatalog.answer n' kind' name' = .ok (some i) →
        kind = kind' ∧ name = name'
  /-- A name that is added again leaves its number, which no name has from then on. -/
  retired : ∀ more n kind name i,
    (addAll {} additions).toCatalog.answer n kind name = .ok (some i) → (kind, name) ∈ more →
      ∀ n' kind' name',
        (addAll {} (additions ++ more)).toCatalog.answer n' kind' name' ≠ .ok (some i)
  /-- Additions of one kind do not change the answers about the other. -/
  apart : ∀ more n kind name, (∀ a ∈ more, a.1 ≠ kind) →
    (addAll {} (additions ++ more)).toCatalog.answer n kind name =
      (addAll {} additions).toCatalog.answer n kind name

/-- **A catalog in memory numbers names by their additions**, whatever these are. -/
theorem numbered (additions : List (DataKind × String)) : Numbered additions := by
  have hfound : ∀ {additions : List (DataKind × String)} {n kind name i},
      (addAll {} additions).toCatalog.answer n kind name = .ok (some i) ↔
        LastAdded additions (kind, name) i := by
    intro additions n kind name i
    rw [answer_eq, Except.ok.injEq, lookup_addAll_eq_some]
  exact {
    found := fun _ _ _ _ => hfound
    missing := fun n kind name => by rw [answer_eq, Except.ok.injEq, lookup_addAll_eq_none]
    bounded := fun _ _ _ _ h => ⟨(hfound.mp h).pos, (hfound.mp h).le_length⟩
    distinct := fun _ _ _ _ _ _ _ h h' =>
      Prod.mk.inj ((hfound.mp h).unique (hfound.mp h'))
    retired := fun more _ _ _ _ h hmore _ _ _ h' =>
      (hfound.mp h).not_append hmore (hfound.mp h')
    apart := fun more n kind name h => by
      have hsplit : addAll {} (additions ++ more) = (addAll {} additions).addAll more :=
        List.foldl_append ..
      rw [answer_eq, answer_eq, hsplit, lookup_addAll_of_ne h] }

/-- A network and a store of one name, and the network once more: its first number is not used
again. -/
example :
    [DataKind.network, .store].map
      ((addAll {} [(.network, "lan"), (.store, "lan"), (.network, "lan")]).lookup · "lan") =
        [some 3, some 2] := by
  decide

end MemoryCatalog

end VirtEnv
