import VirtEnv.Proofs.Overlay
import VirtEnv.Proofs.Results
import VirtEnv.Settings.Merge

/-!
# Leaves — what a tree of settings is typed as

The settings are some twenty values of their own, each with a place and a type (`leaves`), and the
short names of machine types, which are texts under any names.  Reading a tree of tables goes down
to these values: it succeeds exactly if every table but that of the short names holds known names
only, and every value can be converted to its type (`ofNode_eq_ok`, `exists_typedAs`).

* `asUnsigned_scalar` and those after it: a value is converted alike wherever it stands.
* `group_bind_eq_ok`, `get_eq_ok`: a table read as a group.
* `readTexts_eq_ok`: texts under any names.
* `ofNode_eq_ok`: the whole tree.
-/

namespace VirtEnv.Settings

/-! ### Data -/

/-- The value of one setting. -/
inductive Datum where
  | count (n : Nat)
  | text (s : String)
  | truth (b : Bool)
  deriving DecidableEq, Repr

/-- The type of one setting. -/
inductive Kind where
  | count | text | truth
  deriving DecidableEq, Repr

/-- The type of a value. -/
def Datum.kind : Datum → Kind
  | .count _ => .count
  | .text _ => .text
  | .truth _ => .truth

/-- What a value is converted to. -/
def Kind.read : Kind → Located → Typed Datum
  | .count, l => l.asCount.map .count
  | .text, l => l.asText.map .text
  | .truth, l => l.asBool.map .truth

/-- A setting: the path of the table it stands in, its name there, its type, and its value. -/
structure Leaf where
  group : List String
  name : String
  kind : Kind
  get : Settings → Datum

/-- The path of a setting, as faults show it. -/
def Leaf.key (leaf : Leaf) : String := String.intercalate "." (leaf.group ++ [leaf.name])

/-- The settings but for the short names of machine types. -/
def leaves : List Leaf :=
  [⟨["meta"], "version", .count, (.count ·.version)⟩,
    ⟨["paths"], "db", .text, (.text ·.db)⟩,
    ⟨["paths"], "images_dir", .text, (.text ·.imagesDir)⟩,
    ⟨["vm", "defaults"], "cpu", .count, (.count ·.vm.cpu)⟩,
    ⟨["vm", "defaults"], "memory", .text, (.text ·.vm.memory)⟩,
    ⟨["vm", "defaults"], "disk", .text, (.text ·.vm.disk)⟩,
    ⟨["vm", "defaults"], "name_prefix", .text, (.text ·.vm.namePrefix)⟩,
    ⟨["vm", "defaults"], "namespace", .text, (.text ·.vm.space)⟩,
    ⟨["domain", "defaults"], "machine", .text, (.text ·.domain.machine)⟩,
    ⟨["domain", "defaults"], "arch", .text, (.text ·.domain.arch)⟩,
    ⟨["domain", "defaults"], "domain_type", .text, (.text ·.domain.domainType)⟩,
    ⟨["domain", "defaults"], "boot_device", .text, (.text ·.domain.bootDevice)⟩,
    ⟨["disk", "defaults"], "bus", .text, (.text ·.disk.bus)⟩,
    ⟨["disk", "defaults"], "format", .text, (.text ·.disk.format)⟩,
    ⟨["disk", "defaults"], "target_prefix", .text, (.text ·.disk.targetPrefix)⟩,
    ⟨["net", "defaults"], "type", .text, (.text ·.net.kind)⟩,
    ⟨["net", "defaults"], "model", .text, (.text ·.net.model)⟩,
    ⟨["graphics", "defaults"], "type", .text, (.text ·.graphics.kind)⟩,
    ⟨["graphics", "defaults"], "listen", .text, (.text ·.graphics.listen)⟩,
    ⟨["graphics", "defaults"], "autoport", .truth, (.truth ·.graphics.autoport)⟩]

/-- The tables that hold known names only, by their paths. -/
def closedTables : List (List String × List String) :=
  [([], groupNames), (["meta"], ["version"]), (["paths"], ["db", "images_dir"]),
    (["vm"], ["defaults"]),
    (["vm", "defaults"], ["cpu", "memory", "disk", "name_prefix", "namespace"]),
    (["domain"], ["defaults"]),
    (["domain", "defaults"], ["machine", "arch", "domain_type", "boot_device"]),
    (["disk"], ["defaults"]), (["disk", "defaults"], ["bus", "format", "target_prefix"]),
    (["net"], ["defaults"]), (["net", "defaults"], ["type", "model"]),
    (["graphics"], ["defaults"]), (["graphics", "defaults"], ["type", "listen", "autoport"]),
    (["qemu"], ["machine_aliases"])]

/-- The path of the short names of machine types. -/
def aliasesPath : List String := ["qemu", "machine_aliases"]

/-- The tables of the settings, by their paths. -/
def sections : List (List String) := aliasesPath :: closedTables.map (·.1)

/-! ### Groups -/

variable {α β : Type} {k : String} {o : Option String} {es : List (String × Node)}

/-- Only these names are in a table. -/
def OnlyNames (names : List String) (es : List (String × Node)) : Prop := ∀ e ∈ es, e.1 ∈ names

/-- A reader reads the same from a value wherever it stands. -/
def PathFree (read : Located → Typed α) : Prop :=
  ∀ k k' n a, read ⟨k, n⟩ = .ok a → read ⟨k', n⟩ = .ok a

/-- What is found is read as `x`; or there is neither. -/
def ReadAs (read : Located → Typed α) (found : Option Node) (x : Option α) : Prop :=
  Option.Rel (fun n a => read ⟨"", n⟩ = .ok a) found x

theorem ReadAs.eq {read : Located → Typed α} {found : Option Node} {x y : Option α}
    (h : ReadAs read found x) (h' : ReadAs read found y) : x = y := by
  cases h with
  | none => cases h'; rfl
  | some h =>
      cases h' with
      | some h' => exact congrArg some (Except.ok.inj (h.symm.trans h'))

/-- A table has a value of a name, which is read as `a`. -/
def Holds (es : List (String × Node)) (name : String) (read : Located → Typed α) (a : α) : Prop :=
  ∃ n, es.lookup name = some n ∧ read ⟨"", n⟩ = .ok a

theorem holds_iff_readAs {name : String} {read : Located → Typed α} {a : α} :
    Holds es name read a ↔ ReadAs read (es.lookup name) (some a) := by
  rw [Holds]
  cases es.lookup name with
  | none => exact iff_of_false (fun ⟨_, h, _⟩ => nomatch h) (fun h => nomatch h)
  | some n =>
      constructor
      · rintro ⟨_, ⟨⟩, h⟩
        exact .some h
      · intro h
        cases h with
        | some h => exact ⟨n, rfl, h⟩

/-- Two choices by one condition give the same wherever their branches do. -/
theorem ok_of_ite {p : Prop} [Decidable p] {x x' y y' : Typed α} {a : α}
    (hx : x = .ok a → x' = .ok a) (hy : y = .ok a → y' = .ok a)
    (h : (if p then x else y) = .ok a) : (if p then x' else y') = .ok a := by
  split at h
  case isTrue hp => rw [if_pos hp]; exact hx h
  case isFalse hp => rw [if_neg hp]; exact hy h

theorem ok_of_ite_error {p : Prop} [Decidable p] {x : Typed α} {e e' : Fault} {a : α}
    (h : (if p then x else .error e) = .ok a) : (if p then x else .error e') = .ok a := by
  split at h
  case isTrue hp => rwa [if_pos hp]
  case isFalse => cases h

section

variable {k' : String} {o' : Option String} {v : Scalar}

/-- A scalar is converted alike from whatever file it came. -/
theorem asUnsigned_scalar {a : Nat} (h : Located.asUnsigned ⟨k, .scalar o v⟩ = .ok a) :
    Located.asUnsigned ⟨k', .scalar o' v⟩ = .ok a := by
  cases v with
  | integer i =>
      have hsplit : ∀ k o, Located.asUnsigned ⟨k, .scalar o (.integer i)⟩ =
          if 0 ≤ i then .ok i.toNat
          else .error (.wrongType (.integer i) "an unsigned 64 bit or less integer" k o) :=
        fun _ _ => rfl
      rw [hsplit] at h ⊢
      exact ok_of_ite_error h
  | string s =>
      have hsplit : ∀ k o, Located.asUnsigned ⟨k, .scalar o (.string s)⟩ =
          if Located.trueWords.contains (Text.lower s) then .ok 1
          else if Located.falseWords.contains (Text.lower s) then .ok 0
          else (Located.unsigned? s).elim
            (.error (.wrongType (.string s) "an integer" k o)) .ok := by
        intro k o
        simp only [Located.asUnsigned, Located.scalar]
        show (if _ then _ else _) = _
        cases Located.unsigned? s <;> rfl
      rw [hsplit] at h ⊢
      refine ok_of_ite id (ok_of_ite id ?_) h
      cases Located.unsigned? s with
      | some n => exact id
      | none => exact nofun
  | bool b => exact h
  | real x => exact h

/-- A number is converted alike, with its bound. -/
theorem asCount_scalar {a : Nat} (h : Located.asCount ⟨k, .scalar o v⟩ = .ok a) :
    Located.asCount ⟨k', .scalar o' v⟩ = .ok a := by
  obtain ⟨m, hm, h⟩ := bind_eq_ok.mp h
  exact bind_eq_ok.mpr ⟨m, asUnsigned_scalar hm, ok_of_ite_error h⟩

theorem asText_scalar {a : String} (h : Located.asText ⟨k, .scalar o v⟩ = .ok a) :
    Located.asText ⟨k', .scalar o' v⟩ = .ok a := h

/-- A truth value may also be written as a word. -/
theorem asBool_scalar {a : Bool} (h : Located.asBool ⟨k, .scalar o v⟩ = .ok a) :
    Located.asBool ⟨k', .scalar o' v⟩ = .ok a := by
  cases v with
  | string s =>
      have hsplit : ∀ k o, Located.asBool ⟨k, .scalar o (.string s)⟩ =
          if (Text.lower s == "1" || Located.trueWords.contains (Text.lower s)) = true then
            .ok true
          else if (Text.lower s == "0" || Located.falseWords.contains (Text.lower s)) = true
          then .ok false
          else .error (.wrongType (.string (Text.lower s)) "a boolean" k o) :=
        fun _ _ => rfl
      rw [hsplit] at h ⊢
      exact ok_of_ite id ok_of_ite_error h
  | _ => exact h

end

/-- Where a number stands matters to a fault only. -/
theorem pathFree_asCount : PathFree Located.asCount := by
  intro k k' n a h
  cases n with
  | scalar origin v => exact asCount_scalar h
  | _ => cases h

theorem pathFree_asText : PathFree Located.asText := by
  intro k k' n a h
  cases n with
  | scalar origin v => exact asText_scalar h
  | _ => cases h

theorem pathFree_asBool : PathFree Located.asBool := by
  intro k k' n a h
  cases n with
  | scalar origin v => exact asBool_scalar h
  | _ => cases h

/-- What is under a name, with the place that the name leads to. -/
theorem lookup_located {γ δ : Type} {es : List (String × γ)} {f : String → γ → δ} {name : String} :
    (es.map fun e => (e.1, f e.1 e.2)).lookup name = (es.lookup name).map (f name) := by
  induction es with
  | nil => rfl
  | cons e es ih =>
      obtain ⟨m, n⟩ := e
      rw [List.map_cons, Table.lookup_cons, Table.lookup_cons, ih]
      split
      case isTrue h => rw [h]; rfl
      case isFalse => rfl

/-- The group that a table with known names only is. -/
def groupOf (k type : String) (names : List String) (o : Option String)
    (es : List (String × Node)) : Group :=
  ⟨type, names, false, es.map fun e => (e.1, Located.child ⟨k, .table o es⟩ e.1 e.2)⟩

/-- A table is read if only known names are in it, and what goes on from it is. -/
theorem group_bind_eq_ok {type : String} {names : List String} {f : Group → Typed β} {b : β} :
    (Located.group ⟨k, .table o es⟩ type names >>= f) = .ok b ↔
      OnlyNames names es ∧ f (groupOf k type names o es) = .ok b := by
  have hknown : OnlyNames names es ↔ es.find? (fun e => !names.contains e.1) = none := by
    simp [OnlyNames, List.find?_eq_none]
  rw [hknown]
  simp only [Located.group]
  cases es.find? (fun e => !names.contains e.1) with
  | none => exact (and_iff_right rfl).symm
  | some e => exact iff_of_false (fun h => nomatch h) fun h => nomatch h.1

variable {type name : String} {names : List String} {read : Located → Typed α} {a d : α}

/-- A setting is read if it is there and its value is. -/
theorem get_eq_ok :
    (groupOf k type names o es).get name read = .ok a ↔
      ∃ n, es.lookup name = some n ∧ read (Located.child ⟨k, .table o es⟩ name n) = .ok a := by
  rw [Group.get, groupOf, lookup_located]
  cases es.lookup name with
  | none => exact iff_of_false (fun h => nomatch h) fun ⟨_, h, _⟩ => nomatch h
  | some n => simp

/-- Where it stands does not matter if its type does not look at it. -/
theorem get_eq_ok_iff_holds (hread : PathFree read) :
    (groupOf k type names o es).get name read = .ok a ↔ Holds es name read a := by
  rw [get_eq_ok]
  exact exists_congr fun n => and_congr_right fun _ => ⟨hread _ _ n a, hread _ _ n a⟩

/-- A setting that may be left out is read as any other one where it is not. -/
theorem getD_eq_ok_iff_holds (hread : PathFree read) (h : (es.lookup name).isSome = true) :
    (groupOf k type names o es).getD name read d = .ok a ↔ Holds es name read a := by
  have hget : (groupOf k type names o es).getD name read d =
      (groupOf k type names o es).get name read := by
    obtain ⟨n, hn⟩ := Option.isSome_iff_exists.mp h
    rw [Group.getD, Group.get, groupOf, lookup_located, hn]
    rfl
  rw [hget, get_eq_ok_iff_holds hread]

/-! ### The groups -/

/-- The version is read from its table. -/
theorem readMeta_eq_ok {n : Nat} :
    readMeta ⟨k, .table o es⟩ = .ok n ↔
      OnlyNames ["version"] es ∧ Holds es "version" Located.asCount n := by
  rw [readMeta, group_bind_eq_ok, get_eq_ok_iff_holds pathFree_asCount]

theorem readPaths_eq_ok {p : String × String} :
    readPaths ⟨k, .table o es⟩ = .ok p ↔
      OnlyNames ["db", "images_dir"] es ∧ Holds es "db" Located.asText p.1 ∧
        Holds es "images_dir" Located.asText p.2 := by
  rw [readPaths, group_bind_eq_ok]
  simp only [bind_eq_ok, get_eq_ok_iff_holds pathFree_asText]
  constructor
  · rintro ⟨hnames, db, hdb, images, himages, ⟨⟩⟩
    exact ⟨hnames, hdb, himages⟩
  · rintro ⟨hnames, hdb, himages⟩
    exact ⟨hnames, _, hdb, _, himages, rfl⟩

/-- The defaults of a VM are read from its table, where the one that may be left out is there. -/
theorem readVm_eq_ok {v : VmDefaults} (h : (es.lookup "name_prefix").isSome = true) :
    readVm ⟨k, .table o es⟩ = .ok v ↔
      OnlyNames ["cpu", "memory", "disk", "name_prefix", "namespace"] es ∧
        Holds es "cpu" Located.asCount v.cpu ∧ Holds es "memory" Located.asText v.memory ∧
        Holds es "disk" Located.asText v.disk ∧
        Holds es "name_prefix" Located.asText v.namePrefix ∧
        Holds es "namespace" Located.asText v.space := by
  rw [readVm, group_bind_eq_ok]
  simp only [bind_eq_ok, get_eq_ok_iff_holds pathFree_asCount, get_eq_ok_iff_holds pathFree_asText,
    getD_eq_ok_iff_holds pathFree_asText h]
  constructor
  · rintro ⟨hnames, cpu, hcpu, memory, hmemory, disk, hdisk, pre, hprefix, space, hspace, ⟨⟩⟩
    exact ⟨hnames, hcpu, hmemory, hdisk, hprefix, hspace⟩
  · rintro ⟨hnames, hcpu, hmemory, hdisk, hprefix, hspace⟩
    exact ⟨hnames, _, hcpu, _, hmemory, _, hdisk, _, hprefix, _, hspace, rfl⟩

theorem readDomain_eq_ok {d : DomainDefaults} :
    readDomain ⟨k, .table o es⟩ = .ok d ↔
      OnlyNames ["machine", "arch", "domain_type", "boot_device"] es ∧
        Holds es "machine" Located.asText d.machine ∧ Holds es "arch" Located.asText d.arch ∧
        Holds es "domain_type" Located.asText d.domainType ∧
        Holds es "boot_device" Located.asText d.bootDevice := by
  rw [readDomain, group_bind_eq_ok]
  simp only [bind_eq_ok, get_eq_ok_iff_holds pathFree_asText]
  constructor
  · rintro ⟨hnames, machine, hmachine, arch, harch, domainType, htype, bootDevice, hboot, ⟨⟩⟩
    exact ⟨hnames, hmachine, harch, htype, hboot⟩
  · rintro ⟨hnames, hmachine, harch, htype, hboot⟩
    exact ⟨hnames, _, hmachine, _, harch, _, htype, _, hboot, rfl⟩

theorem readDisk_eq_ok {d : DiskDefaults} :
    readDisk ⟨k, .table o es⟩ = .ok d ↔
      OnlyNames ["bus", "format", "target_prefix"] es ∧ Holds es "bus" Located.asText d.bus ∧
        Holds es "format" Located.asText d.format ∧
        Holds es "target_prefix" Located.asText d.targetPrefix := by
  rw [readDisk, group_bind_eq_ok]
  simp only [bind_eq_ok, get_eq_ok_iff_holds pathFree_asText]
  constructor
  · rintro ⟨hnames, bus, hbus, format, hformat, pre, hprefix, ⟨⟩⟩
    exact ⟨hnames, hbus, hformat, hprefix⟩
  · rintro ⟨hnames, hbus, hformat, hprefix⟩
    exact ⟨hnames, _, hbus, _, hformat, _, hprefix, rfl⟩

theorem readNet_eq_ok {n : NetDefaults} :
    readNet ⟨k, .table o es⟩ = .ok n ↔
      OnlyNames ["type", "model"] es ∧ Holds es "type" Located.asText n.kind ∧
        Holds es "model" Located.asText n.model := by
  rw [readNet, group_bind_eq_ok]
  simp only [bind_eq_ok, get_eq_ok_iff_holds pathFree_asText]
  constructor
  · rintro ⟨hnames, kind, hkind, model, hmodel, ⟨⟩⟩
    exact ⟨hnames, hkind, hmodel⟩
  · rintro ⟨hnames, hkind, hmodel⟩
    exact ⟨hnames, _, hkind, _, hmodel, rfl⟩

/-- The defaults of the graphics are read from their table. -/
theorem readGraphics_eq_ok {g : GraphicsDefaults} :
    readGraphics ⟨k, .table o es⟩ = .ok g ↔
      OnlyNames ["type", "listen", "autoport"] es ∧ Holds es "type" Located.asText g.kind ∧
        Holds es "listen" Located.asText g.listen ∧
        Holds es "autoport" Located.asBool g.autoport := by
  rw [readGraphics, group_bind_eq_ok]
  simp only [bind_eq_ok, get_eq_ok_iff_holds pathFree_asText, get_eq_ok_iff_holds pathFree_asBool]
  constructor
  · rintro ⟨hnames, kind, hkind, listen, hlisten, autoport, hautoport, ⟨⟩⟩
    exact ⟨hnames, hkind, hlisten, hautoport⟩
  · rintro ⟨hnames, hkind, hlisten, hautoport⟩
    exact ⟨hnames, _, hkind, _, hlisten, _, hautoport, rfl⟩

/-- A section is its defaults. -/
theorem readSection_eq_ok {o' : Option String} {es' : List (String × Node)}
    (h : es.lookup "defaults" = some (.table o' es')) :
    readSection read ⟨k, .table o es⟩ = .ok a ↔
      OnlyNames ["defaults"] es ∧
        read (Located.child ⟨k, .table o es⟩ "defaults" (.table o' es')) = .ok a := by
  rw [readSection, group_bind_eq_ok, get_eq_ok, h]
  simp

/-! ### Texts under any names -/

/-- A table of texts: what is found under each name is the text that the value there is read as. -/
structure HoldsTexts (es : List (String × Node)) (t : Table String) : Prop where
  sorted : t.Sorted
  lookup : ∀ name, ReadAs Located.asText (es.lookup name) (t.lookup name)

/-- Texts that are read go over those before them. -/
theorem lookup_of_readTexts {l : Located} {done t : Table String} (hnodup : (es.map (·.1)).Nodup)
    (hdone : done.Sorted) (h : readTexts l done es = .ok t) :
    t.Sorted ∧ ∀ name, (es.lookup name = none → t.lookup name = done.lookup name) ∧
      ∀ n, es.lookup name = some n →
        ∃ s, Located.asText ⟨"", n⟩ = .ok s ∧ t.lookup name = some s := by
  induction es generalizing done with
  | nil =>
      cases h
      exact ⟨hdone, fun name => ⟨fun _ => rfl, nofun⟩⟩
  | cons e es ih =>
      obtain ⟨first, v⟩ := e
      obtain ⟨s, hs, h⟩ := bind_eq_ok.mp h
      obtain ⟨hfirst, hnodup⟩ := List.nodup_cons.mp hnodup
      obtain ⟨hsorted, hlookup⟩ := ih hnodup hdone.insert h
      refine ⟨hsorted, fun name => ?_⟩
      obtain ⟨hmissing, hfound⟩ := hlookup name
      rw [Table.lookup_cons]
      split
      case isTrue hname =>
        subst hname
        have habsent : es.lookup name = none := by
          rw [← Option.not_isSome_iff_eq_none]
          exact fun hmem => hfirst (Table.has_iff.mp hmem)
        refine ⟨nofun, fun n hn => ?_⟩
        cases hn
        refine ⟨s, pathFree_asText _ _ _ _ hs, (hmissing habsent).trans ?_⟩
        rw [Table.lookup_insert, if_pos rfl]
      case isFalse hname =>
        refine ⟨fun hnone => (hmissing hnone).trans ?_, hfound⟩
        rw [Table.lookup_insert, if_neg hname]

/-- Texts are read if what is found under each name is a text. -/
theorem exists_readTexts (l : Located) (done : Table String) (hnodup : (es.map (·.1)).Nodup)
    (h : ∀ name, ∃ x, ReadAs Located.asText (es.lookup name) x) :
    ∃ t, readTexts l done es = .ok t := by
  have htexts : ∀ e ∈ es, ∃ s, Located.asText ⟨"", e.2⟩ = .ok s := by
    intro e he
    obtain ⟨x, hx⟩ := h e.1
    rw [lookup_of_nodup hnodup he] at hx
    cases hx with
    | some hs => exact ⟨_, hs⟩
  clear hnodup h
  induction es generalizing done with
  | nil => exact ⟨done, rfl⟩
  | cons e es ih =>
      obtain ⟨⟨s, hs⟩, hes⟩ := List.forall_mem_cons.mp htexts
      obtain ⟨t, ht⟩ := ih (done.insert e.1 s) hes
      exact ⟨t, bind_eq_ok.mpr ⟨s, pathFree_asText _ _ _ _ hs, ht⟩⟩

theorem HoldsTexts.of_readTexts {l : Located} {t : Table String} (hnodup : (es.map (·.1)).Nodup)
    (h : readTexts l [] es = .ok t) : HoldsTexts es t := by
  have hempty : Table.Sorted ([] : Table String) := List.Pairwise.nil
  obtain ⟨hsorted, hlookup⟩ := lookup_of_readTexts hnodup hempty h
  refine ⟨hsorted, fun name => ?_⟩
  obtain ⟨hmissing, hfound⟩ := hlookup name
  cases hn : es.lookup name with
  | none => rw [hmissing hn]; exact .none
  | some n =>
      obtain ⟨s, hs, ht⟩ := hfound n hn
      rw [ht]
      exact .some hs

/-- The texts that a table holds are settled by the table. -/
theorem HoldsTexts.unique {t t' : Table String} (h : HoldsTexts es t) (h' : HoldsTexts es t') :
    t = t' :=
  Table.eq_of_lookup h.sorted h'.sorted fun name => ReadAs.eq (h.lookup name) (h'.lookup name)

/-- **A table of texts is read** as the texts that it holds. -/
theorem readTexts_eq_ok {l : Located} {t : Table String} (hnodup : (es.map (·.1)).Nodup) :
    readTexts l [] es = .ok t ↔ HoldsTexts es t := by
  refine ⟨.of_readTexts hnodup, fun h => ?_⟩
  obtain ⟨t', ht'⟩ := exists_readTexts l [] hnodup fun name => ⟨_, h.lookup name⟩
  rw [ht', h.unique (.of_readTexts hnodup ht')]

theorem readQemu_eq_ok {o' : Option String} {es' : List (String × Node)} {t : Table String}
    (h : es.lookup "machine_aliases" = some (.table o' es')) (hnodup : (es'.map (·.1)).Nodup) :
    readQemu ⟨k, .table o es⟩ = .ok t ↔ OnlyNames ["machine_aliases"] es ∧ HoldsTexts es' t := by
  rw [readQemu, group_bind_eq_ok, get_eq_ok, h]
  refine and_congr_right fun _ => ?_
  rw [← readTexts_eq_ok (l := Located.child ⟨k, .table o es⟩ "machine_aliases" (.table o' es'))
    hnodup]
  constructor
  · rintro ⟨n, hn, ht⟩
    cases hn
    exact ht
  · exact fun ht => ⟨_, rfl, ht⟩

/-! ### The whole tree -/

open Node (tableAt?)

/-- The entries at the end of a path. -/
def tableAt (path : List String) (node : Node) : List (String × Node) :=
  (tableAt? path node).getD []

/-- The shape of a tree of settings: all tables are there, each short name of a machine type once,
and so is the one setting that could be left out. -/
structure Grouped (node : Node) : Prop where
  tables : ∀ path ∈ sections, (tableAt? path node).isSome = true
  nodup : ((tableAt aliasesPath node).map (·.1)).Nodup
  optional : ((tableAt ["vm", "defaults"] node).lookup "name_prefix").isSome = true

/-- A tree of settings is typed as settings: only known names are in it, each setting is read from
its place, and so are the short names of machine types. -/
structure TypedAs (node : Node) (s : Settings) : Prop where
  names : ∀ table ∈ closedTables, OnlyNames table.2 (tableAt table.1 node)
  leaves : ∀ leaf ∈ leaves, Holds (tableAt leaf.group node) leaf.name leaf.kind.read (leaf.get s)
  aliases : HoldsTexts (tableAt aliasesPath node) s.machineAliases

/-- A table that is there is found under its name. -/
theorem exists_table {name : String} (h : (tableAt? [name] (.table o es)).isSome = true) :
    ∃ o' es', es.lookup name = some (.table o' es') ∧ tableAt [name] (.table o es) = es' := by
  simp only [tableAt, tableAt?] at h ⊢
  cases hn : es.lookup name with
  | none => rw [hn] at h; cases h
  | some n =>
      rw [hn] at h
      cases n with
      | table o' es' => exact ⟨o', es', rfl, rfl⟩
      | _ => cases h

theorem exists_table_of_table {name inner : String}
    (h : (tableAt? [name, inner] (.table o es)).isSome = true) :
    ∃ o₁ es₁ o₂ es₂, es.lookup name = some (.table o₁ es₁) ∧
      es₁.lookup inner = some (.table o₂ es₂) ∧ tableAt [name] (.table o es) = es₁ ∧
      tableAt [name, inner] (.table o es) = es₂ := by
  obtain ⟨found, hfound⟩ := Option.isSome_iff_exists.mp h
  obtain ⟨n, hn, hfound⟩ := Option.bind_eq_some_iff.mp hfound
  cases n with
  | table o₁ es₁ =>
      obtain ⟨o₂, es₂, hes₂, htable⟩ := exists_table (Option.isSome_of_mem hfound)
      refine ⟨o₁, es₁, o₂, es₂, hn, hes₂, ?_, ?_⟩
      · simp [tableAt, tableAt?, hn]
      · rw [← htable]
        simp [tableAt, tableAt?, hn]
  | _ => cases hfound

/-- A value is held in a type of its own as it is held without one. -/
theorem holds_map {f : α → β} (hf : Function.Injective f) {name : String}
    {read : Located → Typed α} {a : α} :
    Holds es name (fun l => (read l).map f) (f a) ↔ Holds es name read a := by
  refine exists_congr fun v => and_congr_right fun _ => ?_
  dsimp only
  cases read ⟨"", v⟩ with
  | error e => exact iff_of_false nofun nofun
  | ok a' => exact ⟨fun h => congrArg Except.ok (hf (Except.ok.inj h)),
      fun h => congrArg Except.ok (congrArg f (Except.ok.inj h))⟩

theorem holds_count {name : String} {n : Nat} :
    Holds es name Kind.count.read (.count n) ↔ Holds es name Located.asCount n :=
  holds_map fun _ _ => Datum.count.inj

theorem holds_text {name s : String} :
    Holds es name Kind.text.read (.text s) ↔ Holds es name Located.asText s :=
  holds_map fun _ _ => Datum.text.inj

theorem holds_truth {name : String} {b : Bool} :
    Holds es name Kind.truth.read (.truth b) ↔ Holds es name Located.asBool b :=
  holds_map fun _ _ => Datum.truth.inj

/-- **A tree of that shape** is read as settings exactly if it is typed as them. -/
theorem ofNode_eq_ok {node : Node} {s : Settings} (h : Grouped node) :
    ofNode node = .ok s ↔ TypedAs node s := by
  obtain ⟨htables, hnodup, hoptional⟩ := h
  simp only [sections, closedTables, List.map_cons, List.map_nil, List.forall_mem_cons] at htables
  obtain ⟨haliases, hroot, hmeta, hpaths, -, hvm, -, hdomain, -, hdisk, -, hnet, -, hgraphics, -⟩ :=
    htables
  obtain ⟨o, es, rfl⟩ : ∃ o es, node = .table o es := by
    cases node with
    | table o es => exact ⟨o, es, rfl⟩
    | _ => cases hroot
  obtain ⟨_, _, hmeta, rfl⟩ := exists_table hmeta
  obtain ⟨_, _, hpaths, rfl⟩ := exists_table hpaths
  obtain ⟨_, _, _, _, hvm, hvm', rfl, rfl⟩ := exists_table_of_table hvm
  obtain ⟨_, _, _, _, hdomain, hdomain', rfl, rfl⟩ := exists_table_of_table hdomain
  obtain ⟨_, _, _, _, hdisk, hdisk', rfl, rfl⟩ := exists_table_of_table hdisk
  obtain ⟨_, _, _, _, hnet, hnet', rfl, rfl⟩ := exists_table_of_table hnet
  obtain ⟨_, _, _, _, hgraphics, hgraphics', rfl, rfl⟩ := exists_table_of_table hgraphics
  obtain ⟨_, _, _, _, hqemu, hqemu', rfl, rfl⟩ := exists_table_of_table haliases
  rw [ofNode, group_bind_eq_ok]
  -- the groups are found first, since the lemmas on their readers are about tables
  simp only [bind_eq_ok, get_eq_ok]
  simp only [hmeta, hpaths, hvm, hdomain, hdisk, hnet, hgraphics, hqemu,
    Option.some.injEq, exists_eq_left', Located.child, readMeta_eq_ok, readPaths_eq_ok,
    readSection_eq_ok hvm', readSection_eq_ok hdomain', readSection_eq_ok hdisk',
    readSection_eq_ok hnet', readSection_eq_ok hgraphics', readVm_eq_ok hoptional,
    readDomain_eq_ok, readDisk_eq_ok, readNet_eq_ok, readGraphics_eq_ok,
    readQemu_eq_ok hqemu' hnodup]
  constructor
  · rintro ⟨hnames, version, ⟨hn₁, hversion⟩, paths, ⟨hn₂, hdb, himages⟩,
      vm, ⟨hn₃, hn₄, hcpu, hmemory, hsize, hprefix, hspace⟩,
      domain, ⟨hn₅, hn₆, hmachine, harch, htype, hboot⟩,
      disk, ⟨hn₇, hn₈, hbus, hformat, htarget⟩, net, ⟨hn₉, hn₁₀, hkind, hmodel⟩,
      graphics, ⟨hn₁₁, hn₁₂, hshown, hlisten, hauto⟩, aliases, ⟨hn₁₃, htexts⟩, ⟨⟩⟩
    refine ⟨?_, ?_, htexts⟩
    · simp only [closedTables, List.forall_mem_cons]
      exact ⟨hnames, hn₁, hn₂, hn₃, hn₄, hn₅, hn₆, hn₇, hn₈, hn₉, hn₁₀, hn₁₁, hn₁₂, hn₁₃, nofun⟩
    · simp only [leaves, List.forall_mem_cons, holds_count, holds_text, holds_truth]
      exact ⟨hversion, hdb, himages, hcpu, hmemory, hsize, hprefix, hspace, hmachine, harch, htype,
        hboot, hbus, hformat, htarget, hkind, hmodel, hshown, hlisten, hauto, nofun⟩
  · rintro ⟨hnames, hleaves, htexts⟩
    simp only [closedTables, List.forall_mem_cons] at hnames
    simp only [leaves, List.forall_mem_cons, holds_count, holds_text, holds_truth] at hleaves
    obtain ⟨hnames, hn₁, hn₂, hn₃, hn₄, hn₅, hn₆, hn₇, hn₈, hn₉, hn₁₀, hn₁₁, hn₁₂, hn₁₃, -⟩ :=
      hnames
    obtain ⟨hversion, hdb, himages, hcpu, hmemory, hsize, hprefix, hspace, hmachine, harch, htype,
      hboot, hbus, hformat, htarget, hkind, hmodel, hshown, hlisten, hauto, -⟩ := hleaves
    exact ⟨hnames, _, ⟨hn₁, hversion⟩, (s.db, s.imagesDir), ⟨hn₂, hdb, himages⟩,
      _, ⟨hn₃, hn₄, hcpu, hmemory, hsize, hprefix, hspace⟩,
      _, ⟨hn₅, hn₆, hmachine, harch, htype, hboot⟩, _, ⟨hn₇, hn₈, hbus, hformat, htarget⟩,
      _, ⟨hn₉, hn₁₀, hkind, hmodel⟩, _, ⟨hn₁₁, hn₁₂, hshown, hlisten, hauto⟩,
      _, ⟨hn₁₃, htexts⟩, rfl⟩

/-! ### Any values -/

/-- Some value of a type is some value that the type is made of. -/
theorem exists_datum {kind : Kind} {f : α → Datum} {P : Datum → Prop}
    (hkind : ∀ a, (f a).kind = kind) (hall : ∀ d : Datum, d.kind = kind → ∃ a, f a = d) :
    (∃ d : Datum, d.kind = kind ∧ P d) ↔ ∃ a, P (f a) := by
  constructor
  · rintro ⟨d, hd, h⟩
    obtain ⟨a, rfl⟩ := hall d hd
    exact ⟨a, h⟩
  · exact fun ⟨a, h⟩ => ⟨f a, hkind a, h⟩

theorem exists_count {P : Datum → Prop} :
    (∃ d : Datum, d.kind = .count ∧ P d) ↔ ∃ n, P (.count n) :=
  exists_datum (fun _ => rfl) fun d hd => by cases d <;> first | exact ⟨_, rfl⟩ | cases hd

theorem exists_text {P : Datum → Prop} :
    (∃ d : Datum, d.kind = .text ∧ P d) ↔ ∃ s, P (.text s) :=
  exists_datum (fun _ => rfl) fun d hd => by cases d <;> first | exact ⟨_, rfl⟩ | cases hd

theorem exists_truth {P : Datum → Prop} :
    (∃ d : Datum, d.kind = .truth ∧ P d) ↔ ∃ b, P (.truth b) :=
  exists_datum (fun _ => rfl) fun d hd => by cases d <;> first | exact ⟨_, rfl⟩ | cases hd

/-- Values of the types of the settings are settings. -/
theorem exists_settings {R : Leaf → Datum → Prop} (t : Table String)
    (h : ∀ leaf ∈ leaves, ∃ d : Datum, d.kind = leaf.kind ∧ R leaf d) :
    ∃ s : Settings, s.machineAliases = t ∧ ∀ leaf ∈ leaves, R leaf (leaf.get s) := by
  simp only [leaves, List.forall_mem_cons, exists_count, exists_text, exists_truth] at h ⊢
  obtain ⟨⟨version, h₁⟩, ⟨db, h₂⟩, ⟨imagesDir, h₃⟩, ⟨cpu, h₄⟩, ⟨memory, h₅⟩, ⟨size, h₆⟩,
    ⟨namePrefix, h₇⟩, ⟨space, h₈⟩, ⟨machine, h₉⟩, ⟨arch, h₁₀⟩, ⟨domainType, h₁₁⟩,
    ⟨bootDevice, h₁₂⟩, ⟨bus, h₁₃⟩, ⟨format, h₁₄⟩, ⟨targetPrefix, h₁₅⟩, ⟨kind, h₁₆⟩, ⟨model, h₁₇⟩,
    ⟨shown, h₁₈⟩, ⟨listen, h₁₉⟩, ⟨autoport, h₂₀⟩, -⟩ := h
  exact ⟨⟨version, db, imagesDir, ⟨cpu, memory, size, namePrefix, space⟩,
      ⟨machine, arch, domainType, bootDevice⟩, ⟨bus, format, targetPrefix⟩, ⟨kind, model⟩,
      ⟨shown, listen, autoport⟩, t⟩, rfl,
    h₁, h₂, h₃, h₄, h₅, h₆, h₇, h₈, h₉, h₁₀, h₁₁, h₁₂, h₁₃, h₁₄, h₁₅, h₁₆, h₁₇, h₁₈, h₁₉, h₂₀,
    nofun⟩

/-- A value is read with its own type. -/
theorem Kind.kind_of_read {kind : Kind} {l : Located} {d : Datum} (h : kind.read l = .ok d) :
    d.kind = kind := by
  have hmap : ∀ {α : Type} {f : α → Datum} {o : Typed α}, (∀ a, (f a).kind = kind) →
      o.map f = .ok d → d.kind = kind := by
    intro α f o hf h
    cases o with
    | error e => cases h
    | ok a => cases h; exact hf a
  cases kind with
  | count => exact hmap (fun _ => rfl) h
  | text => exact hmap (fun _ => rfl) h
  | truth => exact hmap (fun _ => rfl) h

/-- A tree of that shape is typed as some settings as soon as each value in it has its type. -/
theorem exists_typedAs {node : Node} (h : Grouped node) :
    (∃ s, TypedAs node s) ↔
      (∀ table ∈ closedTables, OnlyNames table.2 (tableAt table.1 node)) ∧
        (∀ leaf ∈ leaves, ∃ d, Holds (tableAt leaf.group node) leaf.name leaf.kind.read d) ∧
        ∀ name, ∃ x, ReadAs Located.asText ((tableAt aliasesPath node).lookup name) x := by
  constructor
  · rintro ⟨s, hnames, hleaves, htexts⟩
    exact ⟨hnames, fun leaf hleaf => ⟨_, hleaves leaf hleaf⟩, fun name => ⟨_, htexts.lookup name⟩⟩
  · rintro ⟨hnames, hleaves, htexts⟩
    obtain ⟨t, ht⟩ := exists_readTexts ⟨"", .nothing⟩ [] h.nodup htexts
    obtain ⟨s, hs, hvalues⟩ := exists_settings t fun leaf hleaf => by
      obtain ⟨d, n, hn, hd⟩ := hleaves leaf hleaf
      exact ⟨d, Kind.kind_of_read hd, (⟨n, hn, hd⟩ : Holds _ _ _ d)⟩
    exact ⟨s, hnames, hvalues, hs ▸ .of_readTexts h.nodup ht⟩

end VirtEnv.Settings
