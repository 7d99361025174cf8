import VirtEnv.Proofs.Changes
import VirtEnv.Proofs.Leaves

/-!
# Sight — what the settings are read from

Two trees are the same to a reader if nothing is seen in one at any place that is not seen in the
other, and tables have no name twice; it does not matter in which order a table has its entries, nor
from which file a value came (`Same`).  A reader goes down a tree by names and positions, and
converts what it finds, so it gives the same on both.

* `SightOnly`: a reader that gives the same on trees that are the same.
* `Follows.group`: a group is read by what its settings are read as.
* `sightOnly_readTable`: texts under any names.
* `ofNode_follows`: the settings.
-/

namespace VirtEnv.Settings

open Node (TidyAt blindEntries blindItems seen?)

variable {α β : Type} {n n' : Node} {e e' : Option Node} {o : Option String}
  {es es' : List (String × Node)} {items items' : List Node}

/-! ### Trees that are the same -/

/-- Two values are the same but for their files; or the same is seen in both, and neither has a
table with a name twice. -/
inductive Same (n n' : Node) : Prop where
  | blind (h : n.blind = n'.blind)
  | seen (h : ∀ path, seen? path n = seen? path n') (tidy : ∀ path, TidyAt path (some n))
      (tidy' : ∀ path, TidyAt path (some n'))

namespace Same

/-- A value is of one kind in both. -/
theorem shape_eq (h : Same n n') : n.shape = n'.shape := by
  cases h with
  | blind h => rw [← Node.shape_blind, h, Node.shape_blind]
  | seen h _ _ => exact Option.some.inj (h [])

/-- A scalar is the same scalar in both. -/
theorem exists_scalar {v : Scalar} (h : Same (.scalar o v) n') : ∃ o', n' = .scalar o' v := by
  have hshape := h.shape_eq
  cases n' <;> simp_all [Node.shape]

/-- An array is one in both, with the same items but for their files. -/
theorem exists_array (h : Same (.array o items) n') :
    ∃ o' items', n' = .array o' items' ∧ blindItems items = blindItems items' := by
  have hshape := h.shape_eq
  cases n' <;> simp_all [Node.shape]

theorem exists_table (h : Same (.table o es) n') : ∃ o' es', n' = .table o' es' := by
  have hshape := h.shape_eq
  cases n' <;> simp_all [Node.shape]

theorem entries_blind : n.blind.entries = blindEntries n.entries := by cases n <;> rfl

/-- What is under a name, without the file that it came from. -/
theorem lookup_blindEntries {k : String} :
    (blindEntries es).lookup k = (es.lookup k).map Node.blind := by
  rw [Node.blindEntries_eq_map]
  exact lookup_located (f := fun _ => Node.blind)

/-- Under each name there is nothing in both, or the same. -/
theorem lookup (h : Same n n') (k : String) :
    Option.Rel Same (n.entries.lookup k) (n'.entries.lookup k) := by
  cases h with
  | blind h =>
      have hk : (n.entries.lookup k).map Node.blind = (n'.entries.lookup k).map Node.blind := by
        rw [← lookup_blindEntries, ← entries_blind, h, entries_blind, lookup_blindEntries]
      generalize n.entries.lookup k = e, n'.entries.lookup k = e' at hk
      cases e <;> cases e' <;> simp_all [Option.rel_some_some, Same.blind]
  | seen h tidy tidy' =>
      have hk : ∀ path, (n.entries.lookup k).bind (seen? path) =
          (n'.entries.lookup k).bind (seen? path) := fun path => h (k :: path)
      have htidy : ∀ path, TidyAt path (n.entries.lookup k) := fun path =>
        Node.tidyAt_cons.mp (tidy (k :: path))
      have htidy' : ∀ path, TidyAt path (n'.entries.lookup k) := fun path =>
        Node.tidyAt_cons.mp (tidy' (k :: path))
      generalize n.entries.lookup k = e, n'.entries.lookup k = e' at hk htidy htidy'
      cases e with
      | none =>
          cases e' with
          | none => exact .none
          | some m' => cases hk []
      | some m =>
          cases e' with
          | none => cases hk []
          | some m' => exact .some (.seen hk htidy htidy')

end Same

/-! ### Readers -/

/-- What one reading gives, the other gives as well. -/
def Follows (x y : Typed α) : Prop := ∀ a, x = .ok a → y = .ok a

theorem Follows.refl (x : Typed α) : Follows x x := fun _ h => h

/-- A reading and what goes on from it. -/
theorem Follows.bind {x y : Typed α} {f g : α → Typed β} (h : Follows x y)
    (hf : ∀ a, Follows (f a) (g a)) : Follows (x >>= f) (y >>= g) := by
  intro b hb
  obtain ⟨a, ha, hb⟩ := bind_eq_ok.mp hb
  exact bind_eq_ok.mpr ⟨a, h a ha, hf a b hb⟩

/-- A reader that gives the same on trees that are the same, wherever they stand. -/
def SightOnly (read : Located → Typed α) : Prop :=
  ∀ {l l' : Located}, Same l.node l'.node → Follows (read l) (read l')

/-- A reader of scalars that does not look at the file. -/
theorem sightOnly_of_scalar {read : Located → Typed α}
    (hother : ∀ k n a, (∀ o v, n ≠ .scalar o v) → read ⟨k, n⟩ ≠ .ok a)
    (hscalar : ∀ {k k' o o' v a}, read ⟨k, .scalar o v⟩ = .ok a →
      read ⟨k', .scalar o' v⟩ = .ok a) : SightOnly read := by
  rintro ⟨k, n⟩ ⟨k', n'⟩ h a ha
  by_cases hn : ∃ o v, n = .scalar o v
  · obtain ⟨o, v, rfl⟩ := hn
    obtain ⟨o', rfl⟩ := h.exists_scalar
    exact hscalar ha
  · exact absurd ha (hother k n a fun o v heq => hn ⟨o, v, heq⟩)

/-- A number is read from what is seen. -/
theorem sightOnly_asCount : SightOnly Located.asCount := by
  refine sightOnly_of_scalar (fun k n a hn h => ?_) asCount_scalar
  cases n with
  | scalar o v => exact hn o v rfl
  | _ => cases h

/-- So is a text. -/
theorem sightOnly_asText : SightOnly Located.asText := by
  refine sightOnly_of_scalar (fun k n a hn h => ?_) asText_scalar
  cases n with
  | scalar o v => exact hn o v rfl
  | _ => cases h

/-- So is a truth value. -/
theorem sightOnly_asBool : SightOnly Located.asBool := by
  refine sightOnly_of_scalar (fun k n a hn h => ?_) asBool_scalar
  cases n with
  | scalar o v => exact hn o v rfl
  | _ => cases h

/-! ### Groups -/

/-- Two groups have the same settings. -/
def SameGroup (g g' : Group) : Prop :=
  ∀ name, Option.Rel (fun l l' : Located => Same l.node l'.node) (g.values.lookup name)
    (g'.values.lookup name)

section

variable {g g' : Group} {read : Located → Typed α}

/-- A setting is read alike in groups with the same settings. -/
theorem SameGroup.get (hg : SameGroup g g') (hread : SightOnly read) (name : String) :
    Follows (g.get name read) (g'.get name read) := by
  have hname := hg name
  unfold Group.get
  generalize g.values.lookup name = v, g'.values.lookup name = v' at hname
  cases hname with
  | none =>
      intro a ha
      dsimp only at ha
      split at ha <;> cases ha
  | some h => exact hread h

theorem SameGroup.getD (hg : SameGroup g g') (hread : SightOnly read) (name : String) (d : α) :
    Follows (g.getD name read d) (g'.getD name read d) := by
  have hname := hg name
  unfold Group.getD
  generalize g.values.lookup name = v, g'.values.lookup name = v' at hname
  cases hname with
  | none => exact .refl _
  | some h => exact hread h

end

/-- The same names are in both tables. -/
theorem OnlyNames.of_same {names : List String} {o' : Option String}
    (h : Same (.table o es) (.table o' es')) (hnames : OnlyNames names es) :
    OnlyNames names es' := by
  intro p hp
  have hlookup : Option.Rel Same (es.lookup p.1) (es'.lookup p.1) := h.lookup p.1
  have hfound : (es'.lookup p.1).isSome = true :=
    Table.has_iff.mpr (List.mem_map_of_mem (f := (·.1)) hp)
  have hbefore : (es.lookup p.1).isSome = true := by
    generalize es.lookup p.1 = m, es'.lookup p.1 = m' at hlookup hfound
    cases hlookup with
    | none => cases hfound
    | some _ => rfl
  obtain ⟨q, hq, hname⟩ := List.mem_map.mp (Table.has_iff.mp hbefore)
  exact hname ▸ hnames q hq

/-- Items that are the same but for their files give a name the same. -/
theorem rel_lookup_items (l l' : Located) (names : List String)
    (h : blindItems items = blindItems items') (i : Nat) (name : String) :
    Option.Rel (fun l l' : Located => Same l.node l'.node)
      ((((names.zip items).zipIdx i).map fun p => (p.1.1, l.item p.2 p.1.2)).lookup name)
      ((((names.zip items').zipIdx i).map fun p => (p.1.1, l'.item p.2 p.1.2)).lookup name) := by
  induction names generalizing items items' i with
  | nil => exact .none
  | cons first names ih =>
      cases items with
      | nil =>
          cases items' with
          | nil => exact .none
          | cons n' items' => cases h
      | cons n items =>
          cases items' with
          | nil => cases h
          | cons n' items' =>
              obtain ⟨hn, hitems⟩ := List.cons.inj h
              simp only [List.zip_cons_cons, List.zipIdx_cons, List.map_cons, Table.lookup_cons]
              split
              · exact .some (.blind hn)
              · exact ih hitems (i + 1)

/-- **A group is read alike** if what goes on from it is read alike in groups with the same
settings. -/
theorem Follows.group {l l' : Located} {type : String} {names : List String}
    {f f' : Group → Typed β} (h : Same l.node l'.node)
    (hf : ∀ g g', SameGroup g g' → Follows (f g) (f' g')) :
    Follows (l.group type names >>= f) (l'.group type names >>= f') := by
  obtain ⟨k, n⟩ := l
  obtain ⟨k', n'⟩ := l'
  intro b hb
  cases n with
  | table o es =>
      obtain ⟨o', es', rfl⟩ := h.exists_table
      obtain ⟨hnames, hb⟩ := group_bind_eq_ok.mp hb
      refine group_bind_eq_ok.mpr ⟨hnames.of_same h, hf _ _ (fun name => ?_) b hb⟩
      have hlookup : Option.Rel Same (es.lookup name) (es'.lookup name) := h.lookup name
      rw [groupOf, groupOf, lookup_located, lookup_located]
      generalize es.lookup name = m, es'.lookup name = m' at hlookup
      cases hlookup with
      | none => exact .none
      | some hm => exact .some hm
  | array o items =>
      obtain ⟨o', items', rfl, hitems⟩ := h.exists_array
      exact hf ⟨type, names, true, _⟩ ⟨type, names, true, _⟩
        (rel_lookup_items ⟨k, _⟩ ⟨k', _⟩ names hitems 0) b hb
  | _ => cases hb

/-! ### The groups -/

theorem sightOnly_readMeta : SightOnly readMeta := fun h =>
  Follows.group h fun _ _ hg => hg.get sightOnly_asCount _

theorem sightOnly_readPaths : SightOnly readPaths := fun h =>
  Follows.group h fun _ _ hg => (hg.get sightOnly_asText _).bind fun _ =>
    (hg.get sightOnly_asText _).bind fun _ => .refl _

/-- A section is read from what is seen if its defaults are. -/
theorem sightOnly_readSection {read : Located → Typed α} (hread : SightOnly read) :
    SightOnly (readSection read) := fun h =>
  Follows.group h fun _ _ hg => hg.get hread _

/-- The defaults of a VM are read one after the other; the prefix of its name may be left out. -/
theorem sightOnly_readVm : SightOnly readVm := fun h =>
  Follows.group h fun _ _ hg => (hg.get sightOnly_asCount _).bind fun _ =>
    (hg.get sightOnly_asText _).bind fun _ => (hg.get sightOnly_asText _).bind fun _ =>
      (hg.getD sightOnly_asText _ _).bind fun _ => (hg.get sightOnly_asText _).bind fun _ => .refl _

theorem sightOnly_readDomain : SightOnly readDomain := fun h =>
  Follows.group h fun _ _ hg => (hg.get sightOnly_asText _).bind fun _ =>
    (hg.get sightOnly_asText _).bind fun _ => (hg.get sightOnly_asText _).bind fun _ =>
      (hg.get sightOnly_asText _).bind fun _ => .refl _

theorem sightOnly_readDisk : SightOnly readDisk := fun h =>
  Follows.group h fun _ _ hg => (hg.get sightOnly_asText _).bind fun _ =>
    (hg.get sightOnly_asText _).bind fun _ => (hg.get sightOnly_asText _).bind fun _ => .refl _

theorem sightOnly_readNet : SightOnly readNet := fun h =>
  Follows.group h fun _ _ hg => (hg.get sightOnly_asText _).bind fun _ =>
    (hg.get sightOnly_asText _).bind fun _ => .refl _

theorem sightOnly_readGraphics : SightOnly readGraphics := fun h =>
  Follows.group h fun _ _ hg => (hg.get sightOnly_asText _).bind fun _ =>
    (hg.get sightOnly_asText _).bind fun _ => (hg.get sightOnly_asBool _).bind fun _ => .refl _

/-! ### Texts under any names -/

/-- What is found under a name is read alike. -/
theorem ReadAs.of_same {read : Located → Typed α} {x : Option α} (hread : SightOnly read)
    (h : Option.Rel Same e e') (hx : ReadAs read e x) : ReadAs read e' x := by
  cases h with
  | none => exact hx
  | some h =>
      cases hx with
      | some ha => exact .some (hread h _ ha)

/-- Texts that are the same but for their files are read alike. -/
theorem follows_readTexts (l l' : Located) (done : Table String)
    (h : blindEntries es = blindEntries es') :
    Follows (readTexts l done es) (readTexts l' done es') := by
  induction es generalizing es' done with
  | nil =>
      cases es' with
      | nil => exact .refl _
      | cons p' es' => cases h
  | cons p es ih =>
      cases es' with
      | nil => cases h
      | cons p' es' =>
          obtain ⟨name, n⟩ := p
          obtain ⟨name', n'⟩ := p'
          obtain ⟨hentry, hrest⟩ := List.cons.inj h
          obtain ⟨rfl, hn⟩ := Prod.mk.inj hentry
          have htext : Follows (l.child name n).asText (l'.child name n').asText :=
            sightOnly_asText (.blind hn)
          exact htext.bind fun s => ih (done.insert name s) hrest

/-- **A table of texts** is read alike, in whatever order it has them. -/
theorem sightOnly_readTable : SightOnly readTable := by
  rintro ⟨k, n⟩ ⟨k', n'⟩ h t ht
  cases n with
  | table o es =>
      obtain ⟨o', es', rfl⟩ := h.exists_table
      have hlookup : ∀ name, Option.Rel Same (es.lookup name) (es'.lookup name) := h.lookup
      cases h with
      | blind h => exact follows_readTexts _ _ [] (Node.table.inj h).2 t ht
      | seen _ tidy tidy' =>
          obtain ⟨hsorted, hread⟩ := (readTexts_eq_ok (tidy [] es rfl)).mp ht
          exact (readTexts_eq_ok (tidy' [] es' rfl)).mpr
            ⟨hsorted, fun name => (hread name).of_same sightOnly_asText (hlookup name)⟩
  | _ => cases ht

theorem sightOnly_readQemu : SightOnly readQemu := fun h =>
  Follows.group h fun _ _ hg => hg.get sightOnly_readTable _

/-- **The settings** are read from what is seen. -/
theorem ofNode_follows (h : Same n n') : Follows (ofNode n) (ofNode n') :=
  have hnodes : Same (Located.mk "" n).node (Located.mk "" n').node := h
  Follows.group hnodes fun _ _ hg =>
    (hg.get sightOnly_readMeta _).bind fun _ => (hg.get sightOnly_readPaths _).bind fun _ =>
      (hg.get (sightOnly_readSection sightOnly_readVm) _).bind fun _ =>
        (hg.get (sightOnly_readSection sightOnly_readDomain) _).bind fun _ =>
          (hg.get (sightOnly_readSection sightOnly_readDisk) _).bind fun _ =>
            (hg.get (sightOnly_readSection sightOnly_readNet) _).bind fun _ =>
              (hg.get (sightOnly_readSection sightOnly_readGraphics) _).bind fun _ =>
                (hg.get sightOnly_readQemu _).bind fun _ => .refl _

end VirtEnv.Settings
