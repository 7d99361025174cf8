import Mathlib
import VirtEnv.Proofs.Gate

/-!
# Traces — which lookups a load makes

A load that fails before its `data` blocks makes no lookup.  A load that comes to them makes the
lookup of each block, in document order and again where a block is repeated, until a block stops it:
a block of an unsupported kind before its lookup, a block that the catalog does not find with it.

* `Traced`: the lookups of blocks with a catalog, said by the block that stops them.
* `DataTables.lookups_eq_iff`: checking blocks makes these lookups and no other.
* `DataTables.check_congr`: a catalog matters by its answers to the lookups that are made.
* `loadSource_isTraced`: the lookups of a load, from the text on.
* `not_built_iff_whole`: that every block was looked up does not say that every block was found.
  The last lookup may be the one that ends the load.
-/

namespace VirtEnv

/-! ### The lookups of blocks -/

/-- The lookups that blocks make with a catalog that is asked for the first time. -/
inductive Traced (C : Catalog) (bs : List DataBlock) : List Lookup → Prop where
  /-- The catalog knows every block. -/
  | whole : C.KnowsAll 0 bs → Traced C bs (lookupsOf bs)
  /-- The first block that it does not know is of an unsupported kind, and is not looked up. -/
  | unsupported {done rest : List DataBlock} {b : DataBlock} : bs = done ++ b :: rest →
      C.KnowsAll 0 done → b.kind? = none → Traced C bs (lookupsOf done)
  /-- The first block that it does not know is looked up, and is not found. -/
  | refused {done rest : List DataBlock} {b : DataBlock} {l : Lookup} : bs = done ++ b :: rest →
      C.KnowsAll 0 done → b.lookup? = some l → ¬ C.Knows done.length b →
      Traced C bs (lookupsOf done ++ [l])

/-- A catalog knows every block, or there is a first block that it does not know. -/
theorem Catalog.knowsAll_or_first (C : Catalog) (n : Nat) (bs : List DataBlock) :
    C.KnowsAll n bs ∨ ∃ done b rest, bs = done ++ b :: rest ∧ C.KnowsAll n done ∧
      ¬ C.Knows (n + done.length) b := by
  induction bs generalizing n with
  | nil => exact .inl knowsAll_nil
  | cons b bs ih =>
      by_cases hb : C.Knows n b
      · rcases ih (n + 1) with hbs | ⟨done, b', rest, rfl, hdone, hb'⟩
        · exact .inl (knowsAll_cons.mpr ⟨hb, hbs⟩)
        · refine .inr ⟨b :: done, b', rest, rfl, knowsAll_cons.mpr ⟨hb, hdone⟩, ?_⟩
          rwa [List.length_cons, Nat.add_comm done.length, ← Nat.add_assoc]
      · exact .inr ⟨[], b, bs, rfl, knowsAll_nil, hb⟩

theorem DataBlock.kind?_eq_some_iff {b : DataBlock} {kind : DataKind} :
    b.kind? = some kind ↔ b.label = kind.text := by
  unfold kind? DataKind.ofLabel?
  by_cases hn : b.label = "network"
  · cases kind <;> simp [hn, DataKind.text]
  · by_cases hs : b.label = "store"
    · cases kind <;> simp [hs, DataKind.text]
    · cases kind <;> simp [hn, hs, DataKind.text]

/-- Blocks that a catalog knows ask for one lookup each. -/
theorem map_some_lookupsOf {C : Catalog} {n : Nat} {bs : List DataBlock} (h : C.KnowsAll n bs) :
    (lookupsOf bs).map some = bs.map DataBlock.lookup? := by
  induction bs generalizing n with
  | nil => rfl
  | cons b bs ih =>
      obtain ⟨⟨kind, _, hkind, _⟩, hbs⟩ := Catalog.knowsAll_cons.mp h
      have hb : b.lookup? = some ⟨kind, b.name⟩ := DataBlock.lookup?_of_kind hkind
      rw [lookupsOf_cons hb, List.map_cons, List.map_cons, ih hbs, hb]

/-- The lookups that blocks make are those that the first of them ask for. -/
theorem Traced.isPrefix {C : Catalog} {bs : List DataBlock} {ls : List Lookup}
    (h : Traced C bs ls) : ls.map some <+: bs.map DataBlock.lookup? := by
  cases h with
  | whole hknown => exact ⟨[], by rw [List.append_nil, map_some_lookupsOf hknown]⟩
  | @unsupported done rest b hbs hdone _ =>
      exact ⟨(b :: rest).map DataBlock.lookup?, by
        rw [hbs, map_some_lookupsOf hdone, List.map_append]⟩
  | @refused done rest b l hbs hdone hl _ =>
      exact ⟨rest.map DataBlock.lookup?, by
        simp [hbs, map_some_lookupsOf hdone, hl]⟩

/-- A lookup is that of the block in its place, and asks for what the block is labelled with. -/
theorem Traced.asked {C : Catalog} {bs : List DataBlock} {ls : List Lookup} (h : Traced C bs ls)
    {i : Nat} {l : Lookup} (hl : ls[i]? = some l) :
    ∃ b, bs[i]? = some b ∧ b.label = l.kind.text ∧ b.name = l.name := by
  have hi : (bs.map DataBlock.lookup?)[i]? = some (some l) := by
    obtain ⟨more, hmore⟩ := h.isPrefix
    have hlt : i < (ls.map some).length := by
      rw [List.length_map]
      exact (List.getElem?_eq_some_iff.mp hl).1
    rw [← hmore, List.getElem?_append_left hlt, List.getElem?_map, hl, Option.map_some]
  rw [List.getElem?_map, Option.map_eq_some_iff] at hi
  obtain ⟨b, hb, hlookup⟩ := hi
  obtain ⟨hkind, hname⟩ := DataBlock.lookup?_eq_some.mp hlookup
  exact ⟨b, hb, DataBlock.kind?_eq_some_iff.mp hkind, hname⟩

namespace DataTables

variable {C C' : Catalog} {n : Nat} {t : DataTables} {bs : List DataBlock} {ls : List Lookup}

/-- **Checking blocks makes the lookups of `Traced`**, and no other. -/
theorem lookups_eq_iff : (check C .never 0 t bs).lookups = ls ↔ Traced C bs ls := by
  have hquiet : ∀ {m : Nat} i, 0 ≤ i → i < m → Cancellation.never.QuietAt i :=
    fun _ _ _ => Cancellation.quietAt_never
  constructor
  · rintro rfl
    rcases C.knowsAll_or_first 0 bs with hknown | ⟨done, b, rest, rfl, hdone, hb⟩
    · rw [check_of_knowsAll hknown hquiet]
      exact .whole hknown
    · rw [check_append hdone hquiet, Nat.zero_add]
      rw [Nat.zero_add] at hb
      cases hkind : b.kind? with
      | none =>
          rw [check_unsupported hkind, Run.afterAll, Run.pure, List.append_nil]
          exact .unsupported rfl hdone hkind
      | some kind =>
          cases ha : answered C done.length kind b.name with
          | none =>
              obtain ⟨id, hid⟩ := answered_eq_none.mp ha
              exact absurd ⟨kind, id, hkind, hid⟩ hb
          | some e =>
              rw [check_refused hkind Cancellation.quietAt_never ha]
              exact .refused rfl hdone (DataBlock.lookup?_of_kind hkind) hb
  · intro h
    cases h with
    | whole hknown => rw [check_of_knowsAll hknown hquiet]
    | @unsupported done rest b hbs hdone hkind =>
        rw [hbs, check_append hdone hquiet, check_unsupported hkind]
        exact List.append_nil _
    | @refused done rest b l hbs hdone hl hb =>
        obtain ⟨hkind, hname⟩ := DataBlock.lookup?_eq_some.mp hl
        cases ha : answered C done.length l.kind b.name with
        | none =>
            obtain ⟨id, hid⟩ := answered_eq_none.mp ha
            exact absurd ⟨l.kind, id, hkind, hid⟩ hb
        | some e =>
            rw [hbs, check_append hdone hquiet, Nat.zero_add,
              check_refused hkind Cancellation.quietAt_never ha, hname]
            rfl

/-- **A catalog matters by its answers** to the lookups that are made. -/
theorem check_congr
    (h : ∀ i l, (check C .never n t bs).lookups[i]? = some l →
      C'.answer (n + i) l.kind l.name = C.answer (n + i) l.kind l.name) :
    check C' .never n t bs = check C .never n t bs := by
  induction bs generalizing n t with
  | nil => rfl
  | cons b bs ih =>
      cases hb : b.kind? with
      | none => rw [check_unsupported hb, check_unsupported hb]
      | some kind =>
          have hquiet : Cancellation.never.QuietAt n := Cancellation.quietAt_never
          obtain ⟨more, hmore⟩ := @check_lookups_cons C n t .never b bs kind hb hquiet
          have hfirst : C'.answer n kind b.name = C.answer n kind b.name :=
            h 0 ⟨kind, b.name⟩ (by rw [hmore]; rfl)
          have hanswered : answered C' n kind b.name = answered C n kind b.name := by
            rw [answered, answered, hfirst]
          cases ha : answered C n kind b.name with
          | some e =>
              rw [check_refused hb hquiet ha, check_refused hb hquiet (hanswered.trans ha)]
          | none =>
              rw [check_found hb hquiet ha] at h
              rw [check_found hb hquiet ha, check_found hb hquiet (hanswered.trans ha)]
              refine congrArg _ (ih fun i l hl => ?_)
              have hnext := h (i + 1) l hl
              rwa [Nat.add_comm i, ← Nat.add_assoc] at hnext

end DataTables

/-- A catalog that is asked for every block knows them all, unless it does not find the last. -/
theorem Traced.knowsAll_iff {C : Catalog} {bs : List DataBlock} {ls : List Lookup}
    (h : Traced C bs ls) :
    C.KnowsAll 0 bs ↔
      ls.map some = bs.map DataBlock.lookup? ∧
        ∀ b, bs.getLast? = some b → C.Knows (bs.length - 1) b := by
  constructor
  · intro hknown
    have hls : ls = lookupsOf bs := by
      rw [← DataTables.lookups_eq_iff (t := {}).mpr h]
      exact DataTables.lookups_eq_iff.mpr (.whole hknown)
    refine ⟨hls ▸ map_some_lookupsOf hknown, fun b hb => ?_⟩
    rw [List.getLast?_eq_getElem?] at hb
    have hlast := hknown _ b hb
    rwa [Nat.zero_add] at hlast
  · rintro ⟨hwhole, hlast⟩
    have hlen : ls.length = bs.length := by
      have := congrArg List.length hwhole
      rwa [List.length_map, List.length_map] at this
    cases h with
    | whole hknown => exact hknown
    | @unsupported done rest b hbs hdone _ =>
        rw [hbs, length_lookupsOf hdone, List.length_append, List.length_cons] at hlen
        omega
    | @refused done rest b l hbs hdone _ hb =>
        rw [hbs, List.length_append, length_lookupsOf hdone, List.length_append,
          List.length_singleton, List.length_cons] at hlen
        obtain rfl : rest = [] := List.length_eq_zero_iff.mp (by omega)
        refine absurd (hlast b ?_) ?_
        · rw [hbs, List.getLast?_append_cons, List.getLast?_singleton]
        · rwa [hbs, List.length_append, List.length_singleton, Nat.add_sub_cancel]

/-! ### The lookups of a load -/

/-- A load of a text comes to the `data` blocks of a document: the text is read, the names are
indexed, and the variables and locals have values. -/
structure ComesToData (source : String) (d : Document) (i : Index) : Prop where
  read : Document.ofSource source = .ok d
  indexed : Index.build d = .ok i
  valued : ∃ v, Namespace.evalDocument d = .ok v

theorem loadSource_of_read {source : String} {d : Document} {C : Catalog} {k : Cancellation}
    (h : Document.ofSource source = .ok d) : loadSource source C k = d.resolve C k := by
  rw [loadSource, h, loadDocument]

namespace ComesToData

variable {source : String} {d : Document} {i : Index} {C : Catalog}

/-- A load that comes to the `data` blocks makes the lookups of its namespace.  Resolution adds
none. -/
theorem lookups_eq_build (h : ComesToData source d i) :
    (loadSource source C .never).lookups = (Namespace.build d i C .never).lookups := by
  rw [loadSource_of_read h.read, Document.resolve, h.indexed]
  rfl

/-- The lookups of a namespace are those of the `data` blocks. -/
theorem build_lookups (h : ComesToData source d i) :
    (Namespace.build d i C .never).lookups = (DataTables.check C .never 0 {} d.data).lookups := by
  obtain ⟨v, hv⟩ := h.valued
  rw [Namespace.build, hv]
  rfl

theorem lookups_eq_iff (h : ComesToData source d i) {ls : List Lookup} :
    (loadSource source C .never).lookups = ls ↔ Traced C d.data ls := by
  rw [h.lookups_eq_build, h.build_lookups, DataTables.lookups_eq_iff]

theorem isTraced (h : ComesToData source d i) :
    Traced C d.data (loadSource source C .never).lookups :=
  h.lookups_eq_iff.mp rfl

theorem build_eq_ok_iff (h : ComesToData source d i) :
    (∃ n, (Namespace.build d i C .never).result = .ok n) ↔ C.KnowsAll 0 d.data := by
  obtain ⟨v, hv⟩ := h.valued
  have hindex : AllPass d.nameChecks ∧ d.index = i := by
    rw [← outcome_eq_ok_iff, ← Index.build_eq, h.indexed]
  have hvalues : AllPass d.valueChecks := by
    rw [Namespace.evalDocument_eq, outcome_eq_ok_iff] at hv
    exact hv.1
  rw [← hindex.2]
  simp only [Document.build_eq_ok_iff, hvalues, true_and, exists_and_left, exists_eq', and_true]

end ComesToData

/-- A load that is refused before its `data` blocks makes no lookup. -/
theorem lookups_of_refused {d : Document} {C : Catalog}
    (h : (∃ e, Index.build d = .error e) ∨ ∃ e, Namespace.evalDocument d = .error e) :
    (d.resolve C .never).lookups = [] := by
  rcases allPass_or_firstFault d.earlyChecks with hearly | ⟨e, hfault⟩
  · obtain ⟨hindex, hvalues⟩ := Document.allPass_earlyChecks_iff.mp hearly
    rcases h with ⟨e, he⟩ | ⟨e, he⟩
    · rw [hindex] at he; cases he
    · rw [hvalues] at he; cases he
  · rw [Document.resolve_of_refused hfault]
    rfl

/-- What the lookups of a load are, if it is not cancelled. -/
structure IsTraced (source : String) (C : Catalog) : Prop where
  /-- There is none if the text cannot be read as a document. -/
  unread : ∀ e, Document.ofSource source = .error e → (loadSource source C .never).lookups = []
  /-- Nor if a name is refused, or a variable or local has no value. -/
  refused : ∀ d, Document.ofSource source = .ok d →
    ((∃ e, Index.build d = .error e) ∨ ∃ e, Namespace.evalDocument d = .error e) →
    (loadSource source C .never).lookups = []
  /-- Otherwise they are those of the `data` blocks, up to the first that stops the load. -/
  traced : ∀ d i, ComesToData source d i → ∀ ls,
    (loadSource source C .never).lookups = ls ↔ Traced C d.data ls
  /-- A lookup is that of the block in its place, of the kind that the block is labelled with. -/
  asked : ∀ d i, ComesToData source d i → ∀ (j : Nat) (l : Lookup),
    (loadSource source C .never).lookups[j]? = some l →
    ∃ b, d.data[j]? = some b ∧ b.label = l.kind.text ∧ b.name = l.name
  /-- They are all made for the namespace: resolution adds none. -/
  resolved : ∀ d i, ComesToData source d i →
    (loadSource source C .never).lookups = (Namespace.build d i C .never).lookups
  /-- If the namespace is built, every block was looked up.  If every block was looked up, the
  namespace is built, unless the last of them was not found. -/
  built : ∀ d i, ComesToData source d i →
    ((∃ n, (Namespace.build d i C .never).result = .ok n) ↔
      (loadSource source C .never).lookups.map some = d.data.map DataBlock.lookup? ∧
        ∀ b, d.data.getLast? = some b → C.Knows (d.data.length - 1) b)
  /-- Nothing else is asked: a catalog with the same answers to these lookups gives the same
  load. -/
  answers : ∀ C' : Catalog,
    (∀ (j : Nat) (l : Lookup), (loadSource source C .never).lookups[j]? = some l →
      C'.answer j l.kind l.name = C.answer j l.kind l.name) →
    loadSource source C' .never = loadSource source C .never

theorem loadSource_congr {source : String} {C C' : Catalog}
    (h : ∀ (j : Nat) (l : Lookup), (loadSource source C .never).lookups[j]? = some l →
      C'.answer j l.kind l.name = C.answer j l.kind l.name) :
    loadSource source C' .never = loadSource source C .never := by
  cases hread : Document.ofSource source with
  | error e => rw [loadSource, loadSource, hread, loadDocument, loadDocument]
  | ok d =>
      rw [loadSource_of_read hread, loadSource_of_read hread]
      rw [loadSource_of_read hread] at h
      rcases allPass_or_firstFault d.earlyChecks with hearly | ⟨e, hfault⟩
      · rw [Document.resolve_of_prepared hearly] at h
        have hcheck : DataTables.check C' .never 0 {} d.data =
            DataTables.check C .never 0 {} d.data :=
          DataTables.check_congr fun j l hl => (Nat.zero_add j).symm ▸ h j l hl
        rw [Document.resolve_of_prepared hearly, Document.resolve_of_prepared hearly, hcheck]
      · rw [Document.resolve_of_refused hfault, Document.resolve_of_refused hfault]

/-- **The lookups of a load** with any catalog: those of its `data` blocks in document order, up to
the first that stops it, and no other. -/
theorem loadSource_isTraced (source : String) (C : Catalog) : IsTraced source C where
  unread := fun e he => by rw [loadSource, he]; rfl
  refused := fun d hd h => by rw [loadSource_of_read hd]; exact lookups_of_refused h
  traced := fun _ _ h _ => h.lookups_eq_iff
  asked := fun _ _ h _ _ hl => h.isTraced.asked hl
  resolved := fun _ _ h => h.lookups_eq_build
  built := fun _ _ h => h.build_eq_ok_iff.trans h.isTraced.knowsAll_iff
  answers := fun _ h => loadSource_congr h

/-- **That every block was looked up does not say that the namespace is built.**  The one block of
the text is looked up and is not found. -/
theorem not_built_iff_whole :
    ¬ ∀ source C d i, ComesToData source d i →
      ((∃ n, (Namespace.build d i C .never).result = .ok n) ↔
        (loadSource source C .never).lookups.map some = d.data.map DataBlock.lookup?) := by
  intro h
  let d : Document := { data := [⟨"network", "uplink"⟩] }
  let C : Catalog := .steady fun _ _ => .ok none
  have hread : Document.ofSource "data \"network\" \"uplink\" \x7b\x7d\n" = .ok d := by cbv
  have hwhole : (loadSource "data \"network\" \"uplink\" \x7b\x7d\n" C .never).lookups.map some =
      d.data.map DataBlock.lookup? := by
    rw [loadSource_of_read hread]
    rfl
  obtain ⟨n, hn⟩ := (h _ C d d.index ⟨hread, rfl, _, rfl⟩).mpr hwhole
  cases hn

end VirtEnv
