import VirtEnv.Proofs.Changes

/-!
# Orders — the entries of a table in one order or another

The order in which the entries of a table are gone through is not known.  Whatever it is, the same
changes are made at each place, in one order or another (`Node.Reordered`).  So a value changes a
place as strongly in every order.  And if no table gives a name twice, there is one change at most,
and nothing that an order could do to it.

* `reordered_arrange`: a value whose tables have their entries in the order of a ranking.
* `Reordered.strength_eq`: how strongly a place is changed.
* `Reordered.changeAt_eq`: values in which no table has two keys that are the same in lower case.
-/

namespace VirtEnv.Settings.Node

variable {n n' n'' : Node} {o : Option String} {es es' : List (String × Node)} {k : String}
  {path : List String}

/-- The same changes are made at each place, in one order or another. -/
def Reordered (n n' : Node) : Prop := ∀ path, (changesAt path n).Perm (changesAt path n')

namespace Reordered

theorem refl (n : Node) : Reordered n n := fun _ => .refl _

theorem symm (h : Reordered n n') : Reordered n' n := fun path => (h path).symm

theorem trans (h : Reordered n n') (h' : Reordered n' n'') : Reordered n n'' :=
  fun path => (h path).trans (h' path)

/-- The file that a value comes from does not matter. -/
theorem of_blind (h : n.blind = n'.blind) : Reordered n n' := fun path => by
  rw [← changesAt_blind, h, changesAt_blind]

/-- Tables whose entries are the same but for the order in the values. -/
theorem table (h : List.Forall₂ (fun e e' => e.1 = e'.1 ∧ Reordered e.2 e'.2) es es') :
    Reordered (.table o es) (.table o es') := by
  intro path
  cases path with
  | nil => cases h <;> exact .refl _
  | cons k path =>
      rw [changesAt, changesAt]
      induction h with
      | nil => exact .refl _
      | cons he _ ih =>
          obtain ⟨hkey, hvalue⟩ := he
          rw [valuesOf_cons, valuesOf_cons, ← hkey]
          split
          case isTrue => exact (hvalue path).append ih
          case isFalse => exact ih

/-- Tables with the same entries in another order. -/
theorem of_perm (h : es.Perm es') : Reordered (.table o es) (.table o es') := by
  intro path
  cases path with
  | nil =>
      cases es with
      | nil =>
          obtain rfl := h.nil_eq
          exact .refl _
      | cons e es =>
          cases es' with
          | nil => exact absurd h.eq_nil (List.cons_ne_nil _ _)
          | cons e' es' => exact .refl _
  | cons k path => exact (h.filterMap _).flatMap_right _

end Reordered

theorem insertByRank_perm (rank : String → Nat) (e : String × Node) (es : List (String × Node)) :
    (insertByRank rank e es).Perm (e :: es) := by
  induction es with
  | nil => exact .refl _
  | cons e' es ih =>
      rw [insertByRank]
      split
      case isTrue => exact .refl _
      case isFalse => exact (ih.cons e').trans (.swap e e' es)

/-- Entries in the order of their ranks are the same entries. -/
theorem byRank_perm (rank : String → Nat) (es : List (String × Node)) :
    (byRank rank es).Perm es := by
  induction es with
  | nil => exact .refl _
  | cons e es ih => exact (insertByRank_perm rank e (byRank rank es)).trans (ih.cons e)

mutual

/-- **Arranging a value** does the same in another order. -/
theorem reordered_arrange (r : Ranking) (path : List String) :
    ∀ n : Node, Reordered n (n.arrange r path)
  | .table _ es =>
      (Reordered.table (forall₂_arrangeEntries r path es)).trans
        (.of_perm (byRank_perm _ _).symm)
  | .nothing | .scalar _ _ | .array _ _ => .refl _

theorem forall₂_arrangeEntries (r : Ranking) (path : List String) :
    ∀ es : List (String × Node),
      List.Forall₂ (fun e e' => e.1 = e'.1 ∧ Reordered e.2 e'.2) es (arrangeEntries r path es)
  | [] => .nil
  | (k, v) :: es =>
      .cons ⟨rfl, reordered_arrange r (path ++ [k]) v⟩ (forall₂_arrangeEntries r path es)

end

/-- **How strongly a place is changed** does not depend on the order. -/
theorem Reordered.strength_eq (h : Reordered n n') (path : List String) :
    (changeAt path n).strength = (changeAt path n').strength := by
  rw [changeAt_eq_all, changeAt_eq_all]
  exact Change.strength_all_of_perm (h path)

/-! ### Keys that are apart -/

mutual

/-- No table within a value has two keys that are the same in lower case. -/
def keysApart : Node → Bool
  | .table _ entries => decide (entries.map fun e => Text.lower e.1).Nodup && entriesApart entries
  | .nothing | .scalar _ _ | .array _ _ => true

/-- No table within the values of entries has two keys that are the same in lower case. -/
def entriesApart : List (String × Node) → Bool
  | [] => true
  | (_, v) :: entries => keysApart v && entriesApart entries

end

theorem keysApart_of_mem (h : entriesApart es = true) {e : String × Node} (he : e ∈ es) :
    e.2.keysApart = true := by
  induction es with
  | nil => cases he
  | cons p es ih =>
      obtain ⟨hp, hes⟩ := Bool.and_eq_true_iff.mp h
      rcases List.mem_cons.mp he with rfl | he
      · exact hp
      · exact ih hes he

theorem eq_nil_or_singleton {α : Type} {as : List α} (h : as.length ≤ 1) :
    as = [] ∨ ∃ a, as = [a] :=
  (Nat.le_one_iff_eq_zero_or_eq_one.mp h).imp List.length_eq_zero_iff.mp List.length_eq_one_iff.mp

/-- A name is given one value at most if no two keys are the same in lower case. -/
theorem length_valuesOf_le_one (h : (es.map fun e => Text.lower e.1).Nodup) (k : String) :
    (valuesOf k es).length ≤ 1 := by
  induction es with
  | nil => exact Nat.zero_le 1
  | cons e es ih =>
      obtain ⟨hnew, hes⟩ := List.nodup_cons.mp h
      by_cases hk : Text.lower e.1 = k
      · -- no other key is the name
        have hnone : valuesOf k es = [] := List.filterMap_eq_nil_iff.mpr fun e' he' =>
          if_neg fun hk' => hnew (List.mem_map.mpr ⟨e', he', hk'.trans hk.symm⟩)
        rw [valuesOf_cons, if_pos hk, hnone]
        exact Nat.le_refl 1
      · rw [valuesOf_cons, if_neg hk]
        exact ih hes

/-- At each place there is one change at most. -/
theorem length_changesAt_le_one (h : n.keysApart = true) (path : List String) :
    (changesAt path n).length ≤ 1 := by
  induction path generalizing n with
  | nil =>
      cases n with
      | table o es => cases es <;> exact Nat.le_refl 1
      | _ => exact Nat.le_refl 1
  | cons k path ih =>
      cases n with
      | table o es =>
          obtain ⟨hkeys, hvalues⟩ := Bool.and_eq_true_iff.mp h
          have hone := length_valuesOf_le_one (of_decide_eq_true hkeys) k
          rw [changesAt]
          rcases eq_nil_or_singleton hone with hgiven | ⟨v, hgiven⟩
          · rw [hgiven]
            exact Nat.zero_le 1
          · obtain ⟨e, he, hv⟩ := List.mem_filterMap.mp
              (show v ∈ valuesOf k es from hgiven ▸ List.mem_singleton_self v)
            obtain ⟨-, ⟨⟩⟩ := Option.ite_none_right_eq_some.mp hv
            rw [hgiven, List.flatMap_singleton]
            exact ih (keysApart_of_mem hvalues he)
      | _ => exact Nat.le_refl 1

/-- **Where keys are apart**, what is changed does not depend on the order. -/
theorem Reordered.changeAt_eq (h : Reordered n n') (hkeys : n.keysApart = true)
    (path : List String) : changeAt path n = changeAt path n' := by
  have hsame : changesAt path n = changesAt path n' := by
    have hperm := h path
    rcases eq_nil_or_singleton (length_changesAt_le_one hkeys path) with hchanges | ⟨a, hchanges⟩
    · rw [hchanges] at hperm ⊢
      exact hperm.nil_eq
    · rw [hchanges] at hperm ⊢
      exact (List.perm_singleton.mp hperm.symm).symm
  rw [changeAt_eq_all, changeAt_eq_all, hsame]

end VirtEnv.Settings.Node
