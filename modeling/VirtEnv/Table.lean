/-!
# Sorted tables

Names in the order of their code points, each once, with or without something attached to them.
-/

namespace VirtEnv

/-- A list of names with values, sorted by name. -/
abbrev Table (α : Type) := List (String × α)

namespace Table

/-- Sets the value of a name. -/
def insert {α : Type} (t : Table α) (name : String) (a : α) : Table α :=
  match t with
  | [] => [(name, a)]
  | (n, b) :: rest =>
      if name == n then (name, a) :: rest
      else if name < n then (name, a) :: (n, b) :: rest
      else (n, b) :: insert rest name a

theorem lookup_cons {α : Type} {t : Table α} {name m : String} {a : α} :
    List.lookup m ((name, a) :: t) = if m = name then some a else t.lookup m := by
  by_cases h : m = name
  · simp [h]
  · simp [List.lookup_cons, beq_eq_false_iff_ne.mpr h, h]

/-- Setting the value of a name changes what is found under that name only. -/
theorem lookup_insert {α : Type} {t : Table α} {name m : String} {a : α} :
    (t.insert name a).lookup m = if m = name then some a else t.lookup m := by
  induction t with
  | nil => exact lookup_cons
  | cons p rest ih =>
      obtain ⟨n, b⟩ := p
      by_cases h : name = n
      · subst h
        by_cases hm : m = name <;> simp [insert, lookup_cons, hm]
      · by_cases h' : name < n
        · simp [insert, lookup_cons, h, h']
        · by_cases hm : m = n
          · simp [insert, h, h', hm, Ne.symm h]
          · simpa [insert, lookup_cons, h, h', hm] using ih

/-- The names of a table. -/
def names {α : Type} (t : Table α) : List String := t.map (·.1)

/-- The table has the name. -/
def has {α : Type} (t : Table α) (name : String) : Bool := (t.lookup name).isSome

end Table

/-- A set of names, sorted. -/
abbrev NameSet := List String

namespace NameSet

/-- Adds a name. -/
def insert (s : NameSet) (name : String) : NameSet :=
  match s with
  | [] => [name]
  | n :: rest =>
      if name == n then n :: rest
      else if name < n then name :: n :: rest
      else n :: insert rest name

/-- The members of a set are the added name and those before. -/
theorem mem_insert {s : NameSet} {name m : String} : m ∈ s.insert name ↔ m = name ∨ m ∈ s := by
  induction s with
  | nil => simp [insert]
  | cons n rest ih =>
      by_cases h : name = n
      · subst h; simp [insert]
      · by_cases h' : name < n
        · simp [insert, h, h']
        · simp only [insert, beq_eq_false_iff_ne.mpr h, Bool.false_eq_true, if_false, h',
            List.mem_cons, ih]
          constructor
          · rintro (rfl | rfl | hm)
            · exact .inr (.inl rfl)
            · exact .inl rfl
            · exact .inr (.inr hm)
          · rintro (rfl | rfl | hm)
            · exact .inr (.inl rfl)
            · exact .inl rfl
            · exact .inr (.inr hm)

end NameSet

end VirtEnv
