import VirtEnv.Files
import VirtEnv.Settings.Merge

/-!
# Where settings are looked for

The well-known places, from the most general to the most specific, and a file given explicitly,
which must exist.  Places where there is no file are passed over, and so are the home directory and
the working directory where there are none.
-/

namespace VirtEnv

namespace Settings

/-- The name of a settings file. -/
def fileName : String := "kvmconf.toml"

/-- The built-in settings of a user. -/
def builtIn (fs : Files) : Settings := default fs.home

/-- The places in a user's home directory. -/
def homePaths (home : String) : List String :=
  let config := Files.join home ".config/kvmconf"
  [Files.join config "config.toml", Files.join config fileName]

/-- The places in the working directory. -/
def localPaths (workingDirectory : List String) : List String :=
  let here := Files.placeText workingDirectory
  [Files.join here fileName, Files.join here (Files.join "configs" fileName)]

/-- The well-known places, in the order in which they are layered. -/
def searchPaths (fs : Files) : List String :=
  [Files.join "/etc/kvmconf" fileName] ++ fs.home.elim [] homePaths
    ++ fs.workingDirectory.elim [] localPaths

/-- The settings file at a path, which is read after so many others. -/
def sourceFile (fs : Files) (position : Nat) (path : String) : SourceFile :=
  { name := fs.relativeTo path
    text := match fs.read path with
      | .ok content => some content
      | .error _ => none
    ranking := fs.rankings position }

/-- The settings files among paths. -/
def existing (fs : Files) (paths : List String) : List SourceFile :=
  (paths.filter fs.isFile).mapIdx (sourceFile fs)

/-- The settings of the files among paths. -/
def fromPaths (fs : Files) (paths : List String) : Except Error Settings :=
  match ofFiles (builtIn fs) (existing fs paths) with
  | .ok s => .ok s
  | .error f => .error (.settings f.message)

/-- The settings of the well-known places and of an explicit file. -/
def load (fs : Files) (explicit : Option String) : Except Error Settings :=
  match explicit with
  | none => fromPaths fs (searchPaths fs)
  | some path =>
      if fs.isFile path then fromPaths fs (searchPaths fs ++ [path])
      else .error (.settingsNotFound path)

end Settings

end VirtEnv
