import Mathlib.Data.List.Sort
import VirtEnv.Index
import VirtEnv.Proofs.Check

/-!
# Names — what an index holds

Building the index is a row of checks, two for each declared name: it is not empty, and it is not
among the names of its kind that come before it.

* `Index.build_eq`: the index is that row, and holds the declared names of each kind.
* `allPass_nameChecks_iff`: the row passes exactly when the names of every kind are non-empty and
  distinct.  Kinds do not interfere.
* `NameSet.ofList_congr`: the set of the names of a list depends on which names occur in it, not on
  their order.
* `Table.eq_of_lookup`: a table is what is found in it.
* `lookup_of_nodup`: among pairs with distinct names, each is found under its name.
-/

namespace VirtEnv

namespace NameSet

/-- Adds several names. -/
def addAll (s : NameSet) (names : List String) : NameSet := names.foldl insert s

@[simp] theorem addAll_cons {s : NameSet} {name : String} {names : List String} :
    s.addAll (name :: names) = (s.insert name).addAll names := rfl

theorem mem_addAll {s : NameSet} {names : List String} {m : String} :
    m ∈ s.addAll names ↔ m ∈ names ∨ m ∈ s := by
  induction names generalizing s with
  | nil => simp [addAll]
  | cons name names ih =>
      rw [addAll_cons, ih, mem_insert, List.mem_cons, or_left_comm, or_assoc]

/-- The set of the names of a list. -/
def ofList (names : List String) : NameSet := addAll [] names

theorem mem_ofList {names : List String} {m : String} : m ∈ ofList names ↔ m ∈ names := by
  simp [ofList, mem_addAll]

/-- The names stand in their order, each once. -/
def Sorted (s : NameSet) : Prop := s.Pairwise (· < ·)

theorem Sorted.insert {s : NameSet} {name : String} (h : s.Sorted) : (s.insert name).Sorted := by
  induction s with
  | nil => exact List.pairwise_singleton _ _
  | cons n rest ih =>
      obtain ⟨hn, hrest⟩ := List.pairwise_cons.mp h
      by_cases heq : name = n
      · have hinsert : NameSet.insert (n :: rest) name = n :: rest := by
          rw [NameSet.insert, if_pos (beq_iff_eq.mpr heq)]
        rwa [hinsert]
      · by_cases hlt : name < n
        · have hall : ∀ m ∈ n :: rest, name < m :=
            List.forall_mem_cons.mpr ⟨hlt, fun m hm => String.lt_trans hlt (hn m hm)⟩
          have hinsert : NameSet.insert (n :: rest) name = name :: n :: rest := by
            rw [NameSet.insert, if_neg (mt beq_iff_eq.mp heq), if_pos hlt]
          rw [hinsert]
          exact List.pairwise_cons.mpr ⟨hall, h⟩
        · have hgt : n < name := Decidable.byContradiction fun hle =>
            heq (String.le_antisymm (String.not_lt.mp hle) (String.not_lt.mp hlt))
          have hall : ∀ m ∈ NameSet.insert rest name, n < m := fun m hm =>
            (mem_insert.mp hm).elim (fun e => e ▸ hgt) (hn m)
          have hinsert : NameSet.insert (n :: rest) name = n :: NameSet.insert rest name := by
            rw [NameSet.insert, if_neg (mt beq_iff_eq.mp heq), if_neg hlt]
          rw [hinsert]
          exact List.pairwise_cons.mpr ⟨hall, ih hrest⟩

theorem Sorted.addAll {s : NameSet} {names : List String} (h : s.Sorted) :
    (s.addAll names).Sorted := by
  induction names generalizing s with
  | nil => exact h
  | cons name names ih => exact ih h.insert

theorem sorted_ofList {names : List String} : (ofList names).Sorted :=
  Sorted.addAll List.Pairwise.nil

/-- **A set is its members**: lists of the same names have the same set. -/
theorem ofList_congr {names names' : List String} (h : ∀ m, m ∈ names ↔ m ∈ names') :
    ofList names = ofList names' :=
  sorted_ofList.eq_of_mem_iff sorted_ofList fun m => by rw [mem_ofList, mem_ofList, h]

end NameSet

namespace Table

variable {α : Type}

/-- The names of a table stand in their order, each once. -/
def Sorted (t : Table α) : Prop := NameSet.Sorted t.names

theorem names_insert (t : Table α) (name : String) (a : α) :
    (t.insert name a).names = NameSet.insert t.names name := by
  induction t with
  | nil => rfl
  | cons p rest ih =>
      obtain ⟨n, b⟩ := p
      have hnames : names ((n, b) :: rest) = n :: names rest := rfl
      rw [hnames]
      by_cases heq : name = n
      · subst heq
        simp [insert, NameSet.insert, names]
      · by_cases hlt : name < n
        · simp [insert, NameSet.insert, names, heq, hlt]
        · rw [insert, NameSet.insert, if_neg (mt beq_iff_eq.mp heq), if_neg hlt,
            if_neg (mt beq_iff_eq.mp heq), if_neg hlt, ← ih]
          rfl

theorem Sorted.insert {t : Table α} {name : String} {a : α} (h : t.Sorted) :
    (t.insert name a).Sorted := by
  rw [Sorted, names_insert]
  exact NameSet.Sorted.insert h

/-- A name is in a table if something is found under it. -/
theorem has_iff {t : List (String × α)} {name : String} :
    has t name = true ↔ name ∈ t.map (·.1) := by
  rw [has]
  induction t with
  | nil => simp
  | cons p rest ih =>
      rw [lookup_cons, List.map_cons, List.mem_cons]
      by_cases h : name = p.1
      · simp [h]
      · rw [if_neg h, ih, or_iff_right h]

/-- **A table is what is found in it.** -/
theorem eq_of_lookup {t t' : Table α} (ht : t.Sorted) (ht' : t'.Sorted)
    (h : ∀ name, t.lookup name = t'.lookup name) : t = t' := by
  have hnames : t.names = t'.names := by
    refine List.Pairwise.eq_of_mem_iff ht ht' fun name => ?_
    have hhas : t.has name = t'.has name := by rw [has, has, h]
    exact has_iff.symm.trans ((Bool.eq_iff_iff.mp hhas).trans has_iff)
  induction t generalizing t' with
  | nil =>
      cases t' with
      | nil => rfl
      | cons q rest' => cases hnames
  | cons p rest ih =>
      cases t' with
      | nil => cases hnames
      | cons q rest' =>
          obtain ⟨hname, hrest⟩ := List.cons.inj hnames
          obtain ⟨n, a⟩ := p
          obtain ⟨n', b⟩ := q
          obtain rfl : n = n' := hname
          obtain ⟨hn, hs⟩ := List.pairwise_cons.mp ht
          obtain ⟨hn', hs'⟩ := List.pairwise_cons.mp ht'
          have hab : a = b := by simpa [lookup_cons] using h n
          -- the first name is not among the others, so nothing is found under it there
          have habsent : ∀ {u : Table α}, (∀ m ∈ u.names, n < m) → u.lookup n = none := by
            intro u hu
            have hnone : ¬(u.lookup n).isSome = true := fun hmem =>
              String.lt_irrefl n (hu n (has_iff.mp hmem))
            exact Option.not_isSome_iff_eq_none.mp hnone
          rw [hab, ih hs hs' (fun m => ?_) hrest]
          by_cases hm : m = n
          · rw [hm, habsent hn, habsent hn']
          · simpa [lookup_cons, hm] using h m

end Table

/-- What is found under a key is paired with it. -/
theorem mem_of_lookup {α : Type} {pairs : List (String × α)} {key : String} {a : α}
    (h : pairs.lookup key = some a) : (key, a) ∈ pairs := by
  induction pairs with
  | nil => cases h
  | cons p pairs ih =>
      rw [Table.lookup_cons] at h
      split at h
      case isTrue hkey => cases h; exact hkey ▸ List.mem_cons_self
      case isFalse => exact List.mem_cons_of_mem p (ih h)

/-- Where keys are distinct, every pair is found. -/
theorem lookup_of_nodup {α : Type} {pairs : List (String × α)} (h : (pairs.map (·.1)).Nodup)
    {p : String × α} (hp : p ∈ pairs) : pairs.lookup p.1 = some p.2 := by
  induction pairs with
  | nil => cases hp
  | cons q pairs ih =>
      obtain ⟨hq, hpairs⟩ := List.nodup_cons.mp h
      rw [Table.lookup_cons]
      rcases List.mem_cons.mp hp with rfl | hp
      · exact if_pos rfl
      · have hne : p.1 ≠ q.1 := fun heq => hq (List.mem_map.mpr ⟨p, hp, heq⟩)
        rw [if_neg hne]
        exact ih hpairs hp

/-- The checks of names that follow the names `before` them. -/
def nameChecks (kind : ResourceKind) (before : List String) : List String → List Check
  | [] => []
  | name :: names =>
      require (name ≠ "") (.emptyName kind) :: require (name ∉ before) (.duplicateName kind name)
        :: nameChecks kind (name :: before) names

/-- Collecting names is the row of their checks. -/
theorem Index.collect_eq {kind : ResourceKind} {seen : NameSet} {before names : List String}
    (h : ∀ m, m ∈ seen ↔ m ∈ before) :
    Index.collect kind seen names = outcome (nameChecks kind before names) (seen.addAll names) := by
  induction names generalizing seen before with
  | nil => rfl
  | cons name names ih =>
      by_cases hempty : name = ""
      · simp [collect, nameChecks, require, outcome, hempty]
      · by_cases hseen : name ∈ before
        · simp [collect, nameChecks, require, outcome, hempty, hseen, (h name).mpr hseen]
        · have hrest : ∀ m, m ∈ seen.insert name ↔ m ∈ name :: before := fun m => by
            rw [NameSet.mem_insert, List.mem_cons, h m]
          simp [collect, nameChecks, require, outcome, hempty, hseen, mt (h name).mp hseen,
            ih hrest]

/-- Names that are not empty, each once. -/
def WellNamed (names : List String) : Prop := (∀ name ∈ names, name ≠ "") ∧ names.Nodup

/-- The order of the names does not matter. -/
theorem wellNamed_congr {names names' : List String} (h : names.Perm names') :
    WellNamed names ↔ WellNamed names' :=
  and_congr (forall_congr' fun _ => imp_congr_left h.mem_iff) h.nodup_iff

theorem allPass_names_iff {kind : ResourceKind} {before names : List String} :
    AllPass (nameChecks kind before names) ↔
      WellNamed names ∧ ∀ name ∈ names, name ∉ before := by
  induction names generalizing before with
  | nil => simp [nameChecks, WellNamed]
  | cons name names ih =>
      simp only [nameChecks, allPass_cons, require_eq_none, ih, WellNamed, List.mem_cons,
        List.nodup_cons, forall_eq_or_imp, not_or]
      constructor
      · rintro ⟨hne, hbefore, ⟨hall, hnd⟩, hrest⟩
        exact ⟨⟨⟨hne, hall⟩, fun hm => (hrest name hm).1 rfl, hnd⟩, hbefore,
          fun m hm => (hrest m hm).2⟩
      · rintro ⟨⟨⟨hne, hall⟩, hnotin, hnd⟩, hbefore, hrest⟩
        exact ⟨hne, hbefore, ⟨hall, hnd⟩, fun m hm => ⟨fun e => hnotin (e ▸ hm), hrest m hm⟩⟩

/-! ### The index of a document -/

namespace Document

/-- The declared names of a kind, in their order. -/
def declared (d : Document) : ResourceKind → List String
  | .network => d.networks.map (·.name)
  | .store => d.stores.map (·.name)
  | .vm => d.vms.map (·.name)
  | .cluster => d.clusters.map (·.name)
  | .variable => d.vars.map (·.name)

/-- The checks of the declared names, kind by kind. -/
def nameChecks (d : Document) : List Check :=
  [ResourceKind.network, .store, .vm, .cluster, .variable].flatMap fun kind =>
    VirtEnv.nameChecks kind [] (d.declared kind)

/-- The declared names of each kind, as sets. -/
def index (d : Document) : Index where
  networks := .ofList (d.declared .network)
  stores := .ofList (d.declared .store)
  vms := .ofList (d.declared .vm)
  clusters := .ofList (d.declared .cluster)
  vars := .ofList (d.declared .variable)

theorem allPass_nameChecks_iff {d : Document} :
    AllPass d.nameChecks ↔ ∀ kind, WellNamed (d.declared kind) := by
  have hkind : ∀ kind, AllPass (VirtEnv.nameChecks kind [] (d.declared kind)) ↔
      WellNamed (d.declared kind) := fun kind => by simp [allPass_names_iff]
  rw [nameChecks, allPass_flatMap]
  constructor
  · intro h kind
    exact (hkind kind).mp (h kind (by cases kind <;> simp))
  · exact fun h kind _ => (hkind kind).mpr (h kind)

end Document

/-- **The index of a document** is the row of the checks of its names, and holds these names. -/
theorem Index.build_eq (d : Document) : Index.build d = outcome d.nameChecks d.index := by
  have hkind : ∀ kind, collect kind [] (d.declared kind) =
      outcome (nameChecks kind [] (d.declared kind)) (.ofList (d.declared kind)) :=
    fun kind => collect_eq fun m => Iff.rfl
  show (collect .network [] (d.declared .network)).bind _ = _
  rw [hkind]
  refine outcome_bind fun _ => ?_
  show (collect .store [] (d.declared .store)).bind _ = _
  rw [hkind]
  refine outcome_bind fun _ => ?_
  show (collect .vm [] (d.declared .vm)).bind _ = _
  rw [hkind]
  refine outcome_bind fun _ => ?_
  show (collect .cluster [] (d.declared .cluster)).bind _ = _
  rw [hkind]
  refine outcome_bind fun _ => ?_
  show (collect .variable [] (d.declared .variable)).bind _ = _
  rw [hkind]
  exact outcome_bind fun _ => rfl

end VirtEnv
