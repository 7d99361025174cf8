import Mathlib.Data.List.Forall2

/-!
# Results — what a success tells of its steps

A computation that may fail succeeds only if each of its steps does.

* `bind_eq_ok`: a step and what goes on from it.
* `forall₂_of_mapM`, `exists_of_mapM`, `exists_of_foldlM`: the elements of a list.
* `foldlM_invariant`: what every element keeps holds of the whole list.
* `foldlM_eq_error_iff`, `foldlM_refuses_iff`: a run over a list fails with the first step that does.
* `mapM_image`, `foldlM_image`: what the images of elements come to is the image of what the
  elements come to, if that holds of each step.
-/

namespace VirtEnv

variable {ε α β : Type}

/-- What goes on from a result succeeds when the result does, and what comes of it. -/
theorem bind_eq_ok {o : Except ε α} {f : α → Except ε β} {b : β} :
    (o >>= f) = .ok b ↔ ∃ a, o = .ok a ∧ f a = .ok b := by
  cases o with
  | error e => exact iff_of_false (fun h => nomatch h) fun ⟨_, h, _⟩ => nomatch h
  | ok a =>
      constructor
      · exact fun h => ⟨a, rfl, h⟩
      · rintro ⟨_, ⟨⟩, h⟩
        exact h

theorem mapError_eq_ok {δ : Type} {o : Except ε α} {f : ε → δ} {a : α} :
    o.mapError f = .ok a ↔ o = .ok a := by
  cases o <;> simp [Except.mapError]

theorem toOption_eq_some {o : Except ε α} {a : α} : o.toOption = some a ↔ o = .ok a := by
  cases o <;> simp [Except.toOption]

/-- A list of results succeeds with the results of its elements. -/
theorem forall₂_of_mapM {f : α → Except ε β} {xs : List α} {ys : List β}
    (h : xs.mapM f = .ok ys) : List.Forall₂ (fun x y => f x = .ok y) xs ys := by
  induction xs generalizing ys with
  | nil => cases h; exact .nil
  | cons x xs ih =>
      rw [List.mapM_cons] at h
      obtain ⟨y, hy, h⟩ := bind_eq_ok.mp h
      obtain ⟨ys, hys, h⟩ := bind_eq_ok.mp h
      cases h
      exact .cons hy (ih hys)

/-- What every related element on the right has, all elements on the right have. -/
theorem forall_of_forall₂ {R : α → β → Prop} {P : β → Prop} {xs : List α} {ys : List β}
    (hR : ∀ {x y}, R x y → P y) (h : List.Forall₂ R xs ys) : ∀ y ∈ ys, P y := by
  induction h with
  | nil => exact fun _ hy => nomatch hy
  | cons hxy _ ih => exact List.forall_mem_cons.mpr ⟨hR hxy, ih⟩

theorem exists_of_mapM {f : α → Except ε β} {xs : List α} {ys : List β} (h : xs.mapM f = .ok ys)
    {x : α} (hx : x ∈ xs) : ∃ y, f x = .ok y := by
  obtain ⟨i, hi, rfl⟩ := List.getElem_of_mem hx
  have hys := forall₂_of_mapM h
  exact ⟨_, hys.get hi (hys.length_eq ▸ hi)⟩

section

variable {g : β → α → Except ε β} {xs : List α} {b c : β}

/-- A run over a list that succeeds has succeeded at each of its elements. -/
theorem exists_of_foldlM (h : xs.foldlM g b = .ok c) {x : α} (hx : x ∈ xs) :
    ∃ b c, g b x = .ok c := by
  induction xs generalizing b with
  | nil => cases hx
  | cons y xs ih =>
      rw [List.foldlM_cons] at h
      obtain ⟨b', hb', h⟩ := bind_eq_ok.mp h
      rcases List.mem_cons.mp hx with rfl | hx
      · exact ⟨b, b', hb'⟩
      · exact ih h hx

/-- A relation between the elements that have been gone through and what they have come to, if every
element keeps it, holds of the whole list. -/
theorem foldlM_invariant {R : List α → β → Prop}
    (hstep : ∀ {before x b c}, R before b → g b x = .ok c → R (before ++ [x]) c)
    (hstart : R [] b) (h : xs.foldlM g b = .ok c) : R xs c := by
  suffices hafter : ∀ before b, R before b → xs.foldlM g b = .ok c → R (before ++ xs) c from
    hafter [] b hstart h
  clear hstart h
  intro before b hbefore h
  induction xs generalizing before b with
  | nil => cases h; rwa [List.append_nil]
  | cons x xs ih =>
      rw [List.foldlM_cons] at h
      obtain ⟨b', hb', h⟩ := bind_eq_ok.mp h
      rw [List.append_cons]
      exact ih _ b' (hstep hbefore hb') h

/-- A run over a list fails with the first step that does. -/
theorem foldlM_eq_error_iff {e : ε} :
    xs.foldlM g b = .error e ↔
      ∃ before x after c, xs = before ++ x :: after ∧ before.foldlM g b = .ok c ∧
        g c x = .error e := by
  induction xs generalizing b with
  | nil =>
      constructor
      · rintro ⟨⟩
      · rintro ⟨before, x, after, c, hxs, -⟩
        exact absurd hxs (by simp)
  | cons x xs ih =>
      rw [List.foldlM_cons]
      cases hx : g b x with
      | error e' =>
          constructor
          · intro h
            cases h
            exact ⟨[], x, xs, b, rfl, rfl, hx⟩
          · rintro ⟨before, y, after, c, hxs, hbefore, hy⟩
            cases before with
            | nil =>
                cases hxs
                cases hbefore
                exact hx.symm.trans hy
            | cons z before =>
                cases hxs
                rw [List.foldlM_cons, hx] at hbefore
                cases hbefore
      | ok b' =>
          show xs.foldlM g b' = .error e ↔ _
          rw [ih]
          constructor
          · rintro ⟨before, y, after, c, rfl, hbefore, hy⟩
            refine ⟨x :: before, y, after, c, rfl, ?_, hy⟩
            rw [List.foldlM_cons, hx]
            exact hbefore
          · rintro ⟨before, y, after, c, hxs, hbefore, hy⟩
            cases before with
            | nil =>
                cases hxs
                cases hbefore
                cases hx.symm.trans hy
            | cons z before =>
                cases hxs
                rw [List.foldlM_cons, hx] at hbefore
                exact ⟨before, y, after, c, rfl, hbefore, hy⟩

/-- A run over a list that succeeds has succeeded on every first part of it. -/
theorem exists_of_foldlM_append {xs ys : List α} {c : β} (h : (xs ++ ys).foldlM g b = .ok c) :
    ∃ c', xs.foldlM g b = .ok c' := by
  rw [List.foldlM_append] at h
  obtain ⟨c', hc', -⟩ := bind_eq_ok.mp h
  exact ⟨c', hc'⟩

/-- If what a step refuses depends on the elements that have been gone through, a run over a list
fails with what is refused first. -/
theorem foldlM_refuses_iff {R : List α → β → Prop} {refuses : List α → α → ε → Prop}
    (hstep : ∀ {before x b c}, R before b → g b x = .ok c → R (before ++ [x]) c)
    (hrefuses : ∀ {before x b e}, R before b → (g b x = .error e ↔ refuses before x e))
    (hstart : R [] b) {e : ε} :
    xs.foldlM g b = .error e ↔
      ∃ before x after, xs = before ++ x :: after ∧ (∃ c, before.foldlM g b = .ok c) ∧
        refuses before x e := by
  rw [foldlM_eq_error_iff]
  constructor
  · rintro ⟨before, x, after, c, hxs, hc, he⟩
    exact ⟨before, x, after, hxs, ⟨c, hc⟩, (hrefuses (foldlM_invariant hstep hstart hc)).mp he⟩
  · rintro ⟨before, x, after, hxs, ⟨c, hc⟩, he⟩
    exact ⟨before, x, after, c, hxs, hc, (hrefuses (foldlM_invariant hstep hstart hc)).mpr he⟩

/-- Such a run succeeds if nothing is refused. -/
theorem exists_foldlM_iff {R : List α → β → Prop} {refuses : List α → α → ε → Prop}
    (hstep : ∀ {before x b c}, R before b → g b x = .ok c → R (before ++ [x]) c)
    (hrefuses : ∀ {before x b e}, R before b → (g b x = .error e ↔ refuses before x e))
    (hstart : R [] b) :
    (∃ c, xs.foldlM g b = .ok c) ↔
      ∀ before x after, xs = before ++ x :: after → ∀ e, ¬ refuses before x e := by
  constructor
  · rintro ⟨c, hc⟩ before x after rfl e he
    have herror := (foldlM_refuses_iff (g := g) (R := R) hstep hrefuses hstart).mpr
      ⟨before, x, after, rfl, exists_of_foldlM_append hc, he⟩
    cases hc.symm.trans herror
  · intro h
    cases hc : xs.foldlM g b with
    | ok c => exact ⟨c, rfl⟩
    | error e =>
        obtain ⟨before, x, after, hxs, -, he⟩ :=
          (foldlM_refuses_iff (g := g) (R := R) hstep hrefuses hstart).mp hc
        exact absurd he (h before x after hxs e)

end

section Image

variable {α' β' : Type} {image : α → α'} {image' : β → β'}

/-- The results of the images of elements are the images of the results. -/
theorem mapM_image {f : α → Except ε β} {f' : α' → Except ε β'}
    (h : ∀ x, f' (image x) = (f x).map image') (xs : List α) :
    (xs.map image).mapM f' = (xs.mapM f).map (List.map image') := by
  induction xs with
  | nil => rfl
  | cons x xs ih =>
      rw [List.map_cons, List.mapM_cons, List.mapM_cons, h, ih]
      cases f x with
      | error e => rfl
      | ok y => cases xs.mapM f <;> rfl

/-- A run over the images of elements, from the image of a start, comes to the image of what the run
over the elements comes to. -/
theorem foldlM_image {f : β → α → Except ε β} {f' : β' → α' → Except ε β'}
    (h : ∀ b x, f' (image' b) (image x) = (f b x).map image') (xs : List α) (b : β) :
    (xs.map image).foldlM f' (image' b) = (xs.foldlM f b).map image' := by
  induction xs generalizing b with
  | nil => rfl
  | cons x xs ih =>
      rw [List.map_cons, List.foldlM_cons, List.foldlM_cons, h]
      cases f b x with
      | error e => rfl
      | ok c => exact ih c

end Image

end VirtEnv
