import VirtEnv.Catalog.PageFile
import VirtEnv.Error

/-!
# Files

What the program sees of a file system: the working directory and the home directory, if there are
such, and the files and directories that exist.  A directory that holds something exists too.

A path is followed component by component.  Everything but the last component must be a
directory, and so must the last one when something, even an empty component, comes after it.  The
path of a database alone is read by its spelling.

The tables of a settings file are kept by hash, and every time in another way.  So the order in
which their entries are gone through is nothing that the file decides, and is given here too.
-/

namespace VirtEnv

/-- Something in the file system. -/
inductive FileEntry where
  | text (content : String)
  | bytes
  | directory
  | database (d : Database)
  deriving DecidableEq, Repr

/-- The file with the given content: it is a text if it is valid UTF-8. -/
def FileEntry.ofBytes (bytes : ByteArray) : FileEntry :=
  match String.fromUTF8? bytes with
  | some s => .text s
  | none =>
      match Database.ofBytes? bytes with
      | some d => .database d
      | none => .bytes

/-- In which order the entries of the tables in a file are gone through: in that of their ranks, and
as they are written where the ranks are the same.  A table is known by the names that lead to it. -/
abbrev Ranking := List String → String → Nat

/-- A file system as the program sees it.  The settings files are read one after the other, and each
has a ranking of its own. -/
structure Files where
  workingDirectory : Option (List String)
  home : Option String
  entries : List (List String × FileEntry)
  rankings : Nat → Ranking := fun _ _ _ => 0

namespace Files

/-- The components of a path. -/
def components (path : String) : List String := (path.toList.splitOn '/').map String.ofList

/-- The components of a path that name something: not empty, and not a single point. -/
def names (path : String) : List String :=
  (components path).filter fun c => c != "" && c != "."

/-- A path begins at the root. -/
def isAbsolute (path : String) : Bool := path.toList.head? == some '/'

/-- The absolute path of a place. -/
def placeText (place : List String) : String := "/" ++ String.intercalate "/" place

/-- A path under another one; an absolute one stands for itself. -/
def join (base path : String) : String :=
  if isAbsolute path then path
  else if base.isEmpty || base.endsWith "/" then base ++ path
  else base ++ "/" ++ path

/-- What is at a place. -/
def entryAt? (fs : Files) (place : List String) : Option FileEntry :=
  match fs.entries.lookup place with
  | some e => some e
  | none =>
      if place.isPrefixOf (fs.workingDirectory.getD [])
          || fs.entries.any fun e => place.isPrefixOf e.1 then some .directory
      else none

/-- Follows components from a place. -/
def follow (fs : Files) (place : List String) : List String → Except ReadFault (List String)
  | [] => .ok place
  | c :: cs =>
      match fs.entryAt? place with
      | none => .error .notFound
      | some .directory =>
          if c == "" || c == "." then follow fs place cs
          else if c == ".." then follow fs place.dropLast cs
          else follow fs (place ++ [c]) cs
      | some _ => .error .notADirectory

/-- The place from which a path is followed. -/
def start? (fs : Files) (path : String) : Option (List String) :=
  if isAbsolute path then some [] else fs.workingDirectory

/-- The place that a path leads to, and what is there. -/
def find (fs : Files) (path : String) : Except ReadFault (List String × FileEntry) :=
  match fs.start? path with
  | none => .error .notFound
  | some start => do
      if path.isEmpty then .error .notFound
      else
        let place ← fs.follow start (components path)
        match fs.entryAt? place with
        | some e => .ok (place, e)
        | none => .error .notFound

/-- A path leads to something. -/
def pathExists (fs : Files) (path : String) : Bool := (fs.find path).toBool

/-- A path leads to a file. -/
def isFile (fs : Files) (path : String) : Bool :=
  match fs.find path with
  | .ok (_, .directory) => false
  | .ok _ => true
  | .error _ => false

/-- The text of a file. -/
def read (fs : Files) (path : String) : Except ReadFault String := do
  match (← fs.find path).2 with
  | .text content => .ok content
  | .bytes => .error .invalidData
  | .database _ => .error .invalidData
  | .directory => .error .isADirectory

/-- The absolute path that a path leads to. -/
def canonical (fs : Files) (path : String) : Except ReadFault String := do
  .ok (placeText (← fs.find path).1)

/-- The place that the names of a path spell, whether or not there are such directories: two
points take back the name before them. -/
def spelledPlace? (fs : Files) (path : String) : Option (List String) :=
  (fs.start? path).map fun start =>
    (names path).foldl (fun place name => if name == ".." then place.dropLast else place ++ [name])
      start

/-- The database at the place that a path spells. -/
def databaseFile (fs : Files) (path : String) : DatabaseFile :=
  match (fs.spelledPlace? path).bind fs.entryAt? with
  | none => .missing
  | some .directory => .directory
  | some (.database d) => .database d
  | some (.text content) =>
      if content.isEmpty then .empty
      else
        match Database.ofBytes? content.toUTF8 with
        | some d => .database d
        | none => .other
  | some .bytes => .other

/-- The files after a text is written to a path, unless its directory does not exist or it is a
directory itself. -/
def write? (fs : Files) (path content : String) : Option Files :=
  let parts := components path
  match parts.getLast?, (fs.start? path).map (fs.follow · parts.dropLast) with
  | some name, some (.ok directory) =>
      let place := directory ++ [name]
      if ["", ".", ".."].contains name then none
      else
        match fs.entryAt? directory, fs.entryAt? place with
        | some .directory, some .directory => none
        | some .directory, _ => some { fs with entries := (place, .text content) :: fs.entries }
        | _, _ => none
  | _, _ => none

/-- Drops what two lists have in common at their beginning. -/
def dropCommon : List String → List String → List String × List String
  | a :: as, b :: bs => if a == b then dropCommon as bs else (a :: as, b :: bs)
  | as, bs => (as, bs)

/-- A path as seen from the working directory; the path itself where there is none. -/
def relativeTo (fs : Files) (path : String) : String :=
  match fs.workingDirectory with
  | none => path
  | some here =>
      let absolute := if isAbsolute path then names path else here ++ names path
      let (up, down) := dropCommon here absolute
      String.intercalate "/" (up.map (fun _ => "..") ++ down)

/-! ### Other rankings -/

/-- The same files, with other rankings for the settings files. -/
def ranked (fs : Files) (rankings : Nat → Ranking) : Files := { fs with rankings }

variable (fs : Files) (rankings : Nat → Ranking)

theorem follow_ranked (place cs : List String) :
    (fs.ranked rankings).follow place cs = fs.follow place cs := by
  induction cs generalizing place with
  | nil => rfl
  | cons c cs ih =>
      simp only [follow, ih]
      rfl

@[simp] theorem find_ranked (path : String) : (fs.ranked rankings).find path = fs.find path := by
  unfold find
  simp only [follow_ranked]
  rfl

@[simp] theorem isFile_ranked (path : String) :
    (fs.ranked rankings).isFile path = fs.isFile path := by
  rw [isFile, find_ranked, isFile]

@[simp] theorem pathExists_ranked (path : String) :
    (fs.ranked rankings).pathExists path = fs.pathExists path := by
  rw [pathExists, find_ranked, pathExists]

@[simp] theorem read_ranked (path : String) : (fs.ranked rankings).read path = fs.read path := by
  rw [read, find_ranked, read]

@[simp] theorem canonical_ranked (path : String) :
    (fs.ranked rankings).canonical path = fs.canonical path := by
  rw [canonical, find_ranked, canonical]

@[simp] theorem databaseFile_ranked (path : String) :
    (fs.ranked rankings).databaseFile path = fs.databaseFile path := rfl

end Files

end VirtEnv
