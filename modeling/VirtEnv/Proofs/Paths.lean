import Mathlib.Data.List.Infix
import VirtEnv.Files
import VirtEnv.Proofs.Results

/-!
# Paths — the absolute path of what is found

A path is followed name by name.  The place that it leads to is spelled by names that are plain: no
separator, nothing that stands for the same directory or the one above.  So the absolute path of the
place is followed down the same names, and leads there again.

This needs of a file system that its working directory, if there is one, is such a place: its names
are plain, and what is above it are directories.

* `Files.components_placeText`: the components of an absolute path are its names.
* `Files.Reachable.of_follow`: a path leads to such a place from such a place.
* `Files.find_placeText`, `Files.read_canonical`: the absolute path of what is found leads there,
  and the same is read.
* `Files.find_of_write`, `Files.WellFormed.write`: what is written to a path is found there, and
  the file system stays such a one.
-/

namespace VirtEnv

namespace Files

/-- A name that is followed as a name. -/
structure Plain (name : String) : Prop where
  apart : '/' ∉ name.toList
  nonempty : name ≠ ""
  here : name ≠ "."
  above : name ≠ ".."

instance (name : String) : Decidable (Plain name) :=
  decidable_of_iff ('/' ∉ name.toList ∧ name ≠ "" ∧ name ≠ "." ∧ name ≠ "..")
    ⟨fun ⟨apart, nonempty, here, above⟩ => ⟨apart, nonempty, here, above⟩,
      fun h => ⟨h.apart, h.nonempty, h.here, h.above⟩⟩

/-- A place has plain names, and all that is above it are directories. -/
structure Reachable (fs : Files) (place : List String) : Prop where
  plain : ∀ name ∈ place, Plain name
  root : fs.entryAt? [] = some .directory
  above : ∀ place' name, place' ++ [name] <+: place → fs.entryAt? place' = some .directory

/-- The working directory is a place that can be reached, or the root is where there is none. -/
def WellFormed (fs : Files) : Prop := fs.Reachable (fs.workingDirectory.getD [])

/-- A file system is well-formed if the names of its working directory are plain and no file stands
in its way. -/
theorem WellFormed.of_entries {fs : Files}
    (hplain : ∀ name ∈ fs.workingDirectory.getD [], Plain name)
    (hentries : ∀ p ∈ fs.entries, p.1 <+: fs.workingDirectory.getD [] → p.2 = .directory) :
    fs.WellFormed := by
  have hdirectory : ∀ place, place <+: fs.workingDirectory.getD [] →
      fs.entryAt? place = some .directory := by
    intro place hunder
    unfold entryAt?
    split
    case h_1 e he =>
      obtain ⟨before, after, hsplit, -⟩ := List.lookup_eq_some_iff.mp he
      have hmem : (place, e) ∈ fs.entries := hsplit ▸ List.mem_append_right _ List.mem_cons_self
      exact congrArg some (hentries _ hmem hunder)
    case h_2 => rw [List.isPrefixOf_iff_prefix.mpr hunder, Bool.true_or, if_pos rfl]
  exact ⟨hplain, hdirectory [] List.nil_prefix, fun place name hunder =>
    hdirectory place ((List.prefix_append place [name]).trans hunder)⟩

/-! ### Components -/

theorem not_mem_of_mem_splitOn {sep : Char} {cs c : List Char} (h : c ∈ cs.splitOn sep) :
    sep ∉ c := by
  induction cs generalizing c with
  | nil =>
      obtain rfl : c = [] := by simpa using h
      exact List.not_mem_nil
  | cons x cs ih =>
      rw [List.splitOn_cons_eq_if_modifyHead] at h
      split at h
      case isTrue =>
        rcases List.mem_cons.mp h with rfl | h
        · exact List.not_mem_nil
        · exact ih h
      case isFalse hx =>
        obtain ⟨first, rest, hsplit⟩ := List.exists_cons_of_ne_nil (List.splitOn_ne_nil sep cs)
        rw [hsplit, List.modifyHead_cons] at h
        rcases List.mem_cons.mp h with rfl | h
        · have hfirst : sep ∉ first := ih (hsplit ▸ List.mem_cons_self)
          have hne : sep ≠ x := fun heq => hx (beq_iff_eq.mpr heq.symm)
          exact fun hmem => (List.mem_cons.mp hmem).elim hne hfirst
        · exact ih (hsplit ▸ List.mem_cons_of_mem _ h)

/-- No component of a path has a separator. -/
theorem not_mem_of_mem_components {path c : String} (h : c ∈ components path) : '/' ∉ c.toList := by
  obtain ⟨cs, hcs, rfl⟩ := List.mem_map.mp h
  rw [String.toList_ofList]
  exact not_mem_of_mem_splitOn hcs

/-- The components of an absolute path are its names. -/
theorem components_placeText {place : List String} (h : ∀ name ∈ place, Plain name) :
    components (placeText place) = if place = [] then ["", ""] else "" :: place := by
  split
  case isTrue hroot =>
    subst hroot
    rfl
  case isFalse hplace =>
    have htext : (placeText place).toList = ['/'].intercalate ([] :: place.map String.toList) := by
      cases place with
      | nil => exact absurd rfl hplace
      | cons name place => simp [placeText]
    have hapart : ∀ cs ∈ [] :: place.map String.toList, '/' ∉ cs := by
      simpa using fun name hname => (h name hname).apart
    rw [components, htext, List.splitOn_intercalate _ hapart (List.cons_ne_nil _ _)]
    simp

variable {fs : Files} {path : String} {place place' cs : List String} {e : FileEntry}

theorem isAbsolute_placeText : isAbsolute (placeText place) = true := by
  simp [isAbsolute, placeText]

/-! ### Following names -/

theorem Reachable.dropLast (h : fs.Reachable place) : fs.Reachable place.dropLast where
  plain name hname := h.plain name (List.dropLast_subset _ hname)
  root := h.root
  above place' name hunder := h.above place' name (hunder.trans (List.dropLast_prefix _))

theorem Reachable.concat {name : String} (h : fs.Reachable place)
    (hplace : fs.entryAt? place = some .directory) (hname : Plain name) :
    fs.Reachable (place ++ [name]) where
  plain := by
    intro n hn
    rcases List.mem_append.mp hn with hn | hn
    · exact h.plain n hn
    · exact List.mem_singleton.mp hn ▸ hname
  root := h.root
  above place' n hunder := by
    rcases List.prefix_concat_iff.mp hunder with heq | hunder
    · rw [(List.append_inj' heq rfl).1]
      exact hplace
    · exact h.above place' n hunder

/-- **Components lead from a place that can be reached to such a place.** -/
theorem Reachable.of_follow (h : fs.Reachable place) (hcs : ∀ c ∈ cs, '/' ∉ c.toList)
    (hfollow : fs.follow place cs = .ok place') : fs.Reachable place' := by
  induction cs generalizing place with
  | nil => cases hfollow; exact h
  | cons c cs ih =>
      obtain ⟨hc, hcs⟩ := List.forall_mem_cons.mp hcs
      unfold follow at hfollow
      split at hfollow
      case h_1 => cases hfollow
      case h_2 hplace =>
        split at hfollow
        case isTrue => exact ih h hcs hfollow
        case isFalse hhere =>
          split at hfollow
          case isTrue => exact ih h.dropLast hcs hfollow
          case isFalse habove =>
            obtain ⟨hempty, hpoint⟩ : c ≠ "" ∧ c ≠ "." := by simpa using hhere
            have hplain : Plain c := ⟨hc, hempty, hpoint, by simpa using habove⟩
            exact ih (h.concat hplace hplain) hcs hfollow
      case h_3 => cases hfollow

/-- Names are followed one below the other. -/
theorem Reachable.follow_eq (h : fs.Reachable (place ++ cs)) :
    fs.follow place cs = .ok (place ++ cs) := by
  induction cs generalizing place with
  | nil => rw [List.append_nil]; rfl
  | cons c cs ih =>
      have hsplit : place ++ c :: cs = place ++ [c] ++ cs := List.append_cons place c cs
      have hplace : fs.entryAt? place = some .directory :=
        h.above place c ⟨cs, hsplit.symm⟩
      have hc : Plain c := h.plain c (List.mem_append_right _ List.mem_cons_self)
      rw [hsplit] at h ⊢
      simp [follow, hplace, hc.nonempty, hc.here, hc.above, ih h]

/-! ### The path of what is found -/

theorem find_eq_ok : fs.find path = .ok (place, e) ↔
    path ≠ "" ∧ ∃ start, fs.start? path = some start ∧
      fs.follow start (components path) = .ok place ∧ fs.entryAt? place = some e := by
  unfold find
  cases fs.start? path with
  | none => exact iff_of_false nofun fun ⟨_, _, h, _⟩ => nomatch h
  | some start =>
      dsimp only
      split
      case isTrue hempty => simp [String.isEmpty_iff.mp hempty]
      case isFalse hempty =>
        have hpath : path ≠ "" := mt String.isEmpty_iff.mpr hempty
        rw [bind_eq_ok]
        constructor
        · rintro ⟨there, hfollow, h⟩
          split at h
          case h_1 he => cases h; exact ⟨hpath, start, rfl, hfollow, he⟩
          case h_2 => cases h
        · rintro ⟨-, _, ⟨⟩, hfollow, he⟩
          exact ⟨place, hfollow, by rw [he]⟩

theorem WellFormed.start {start : List String} (h : fs.WellFormed)
    (hstart : fs.start? path = some start) : fs.Reachable start := by
  unfold start? at hstart
  split at hstart
  case isTrue =>
    cases hstart
    exact ⟨nofun, h.root, fun place' name hunder => by simp at hunder⟩
  case isFalse =>
    rw [WellFormed, hstart] at h
    exact h

/-- **The absolute path of what is found leads there.** -/
theorem find_placeText (hfs : fs.WellFormed) (h : fs.find path = .ok (place, e)) :
    fs.find (placeText place) = .ok (place, e) := by
  obtain ⟨-, start, hstart, hfollow, he⟩ := find_eq_ok.mp h
  have hplace : fs.Reachable place :=
    (hfs.start hstart).of_follow (fun _ => not_mem_of_mem_components) hfollow
  have hroot : fs.start? (placeText place) = some [] := if_pos isAbsolute_placeText
  refine find_eq_ok.mpr ⟨by simp [placeText], [], hroot, ?_, he⟩
  rw [components_placeText hplace.plain]
  split
  case isTrue hroot =>
    subst hroot
    simp [follow, hplace.root]
  case isFalse =>
    have hnames : fs.follow [] place = .ok place := hplace.follow_eq
    simp [follow, hplace.root, hnames]

theorem read_canonical {absolute : String} (hfs : fs.WellFormed)
    (h : fs.canonical path = .ok absolute) : fs.read absolute = fs.read path := by
  obtain ⟨⟨place, e⟩, hfind, ⟨⟩⟩ := bind_eq_ok.mp h
  rw [read, read, find_placeText hfs hfind, hfind]

/-! ### Writing -/

variable {fs' : Files} {content : String}

/-- Directories of the one file system are directories of the other. -/
def KeepsDirectories (fs fs' : Files) : Prop :=
  ∀ place, fs.entryAt? place = some .directory → fs'.entryAt? place = some .directory

theorem KeepsDirectories.follow_eq (h : fs.KeepsDirectories fs')
    (hfollow : fs.follow place cs = .ok place') : fs'.follow place cs = .ok place' := by
  induction cs generalizing place with
  | nil => exact hfollow
  | cons c cs ih =>
      unfold follow at hfollow ⊢
      split at hfollow
      case h_1 => cases hfollow
      case h_2 hplace =>
        rw [h place hplace]
        dsimp only
        split at hfollow
        case isTrue hhere => rw [if_pos hhere]; exact ih hfollow
        case isFalse hhere =>
          rw [if_neg hhere]
          split at hfollow
          case isTrue habove => rw [if_pos habove]; exact ih hfollow
          case isFalse habove => rw [if_neg habove]; exact ih hfollow
      case h_3 => cases hfollow

theorem KeepsDirectories.reachable (h : fs.KeepsDirectories fs') (hplace : fs.Reachable place) :
    fs'.Reachable place :=
  ⟨hplace.plain, h [] hplace.root, fun place' name hunder =>
    h place' (hplace.above place' name hunder)⟩

theorem follow_append (place cs cs' : List String) :
    fs.follow place (cs ++ cs') = (fs.follow place cs).bind (fs.follow · cs') := by
  induction cs generalizing place with
  | nil => rfl
  | cons c cs ih =>
      simp only [List.cons_append, follow, ih]
      split
      case h_1 => rfl
      case h_2 =>
        split
        case isTrue => rfl
        case isFalse => split <;> rfl
      case h_3 => rfl

/-- What was there before an entry was added is still there, unless the entry took its place. -/
theorem keepsDirectories_cons (h : fs.entryAt? place ≠ some .directory) :
    fs.KeepsDirectories { fs with entries := (place, e) :: fs.entries } := by
  intro other hother
  have hne : (other == place) = false := beq_false_of_ne fun heq => h (heq ▸ hother)
  unfold entryAt? at hother ⊢
  rw [List.lookup_cons, hne]
  split at hother
  case h_1 he => simpa [he] using hother
  case h_2 he =>
    rw [he]
    dsimp only
    split at hother
    case isTrue hunder =>
      rw [if_pos]
      simp only [List.any_cons, Bool.or_eq_true] at hunder ⊢
      tauto
    case isFalse => cases hother

theorem write?_eq_some (h : fs.write? path content = some fs') :
    ∃ name start directory, components path = (components path).dropLast ++ [name] ∧
      fs.start? path = some start ∧
      fs.follow start (components path).dropLast = .ok directory ∧
      ["", ".", ".."].contains name = false ∧ fs.entryAt? directory = some .directory ∧
      fs.entryAt? (directory ++ [name]) ≠ some .directory ∧
      fs' = { fs with entries := (directory ++ [name], .text content) :: fs.entries } := by
  simp only [write?] at h
  split at h
  case h_1 name directory hlast hfollow =>
    obtain ⟨start, hstart, hfollow⟩ := Option.map_eq_some_iff.mp hfollow
    have hparts := (List.dropLast_append_getLast? name (Option.mem_def.mpr hlast)).symm
    split at h
    case isTrue => cases h
    case isFalse hname =>
      split at h
      case h_1 => cases h
      case h_2 hdirectory hplace =>
        exact ⟨name, start, directory, hparts, hstart, hfollow, Bool.eq_false_iff.mpr hname, hdirectory,
          hplace, (Option.some.inj h).symm⟩
      case h_3 => cases h
  case h_2 => cases h

/-- **What is written to a path is found there**, and no directory goes away. -/
theorem find_of_write (h : fs.write? path content = some fs') :
    fs.KeepsDirectories fs' ∧ fs'.workingDirectory = fs.workingDirectory ∧
      ∃ place, fs'.find path = .ok (place, .text content) := by
  obtain ⟨name, start, directory, hparts, hstart, hfollow, hname, hdirectory, hplace, rfl⟩ :=
    write?_eq_some h
  have hkeeps := keepsDirectories_cons (e := .text content) hplace
  refine ⟨hkeeps, rfl, directory ++ [name], find_eq_ok.mpr ⟨?_, start, hstart, ?_, ?_⟩⟩
  · rintro rfl
    -- the last component of the empty path is empty
    obtain rfl : name = "" := by
      have hcomponents : components "" = [""] := rfl
      rw [hcomponents] at hparts
      exact (by simpa using hparts : "" = name).symm
    exact absurd hname (by decide)
  · have hthere := hkeeps.follow_eq hfollow
    rw [hparts, follow_append]
    refine (congrArg (Except.bind · _) hthere).trans ?_
    have hplain : (name == "" || name == ".") = false ∧ (name == "..") = false := by
      simpa [not_or, and_assoc] using hname
    simp [Except.bind, follow, hkeeps _ hdirectory, hplain]
  · simp [entryAt?]

/-- A file can be written where there are such places, and leaves them. -/
theorem WellFormed.write (hfs : fs.WellFormed) (h : fs.write? path content = some fs') :
    fs'.WellFormed := by
  obtain ⟨hkeeps, hworking, -⟩ := find_of_write h
  rw [WellFormed, hworking]
  exact hkeeps.reachable hfs

end Files

end VirtEnv
