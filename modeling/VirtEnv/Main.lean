import VirtEnv.Command.Run

/-!
# The program

Looks at the files that a command may need, runs the command on them, and does what its report
says.  The files are looked at in two steps, because the settings name the catalog's database.
-/

namespace VirtEnv

open Command (Environment Invocation Report Request)

/-- The file or directory at a path with its place, if there is one. -/
def lookAt (path : String) : IO (List (List String × FileEntry)) := do
  try
    let real ← IO.FS.realPath path
    let place := Files.names real.toString
    if ← real.isDir then return [(place, .directory)]
    else return [(place, .ofBytes (← IO.FS.readBinFile real))]
  catch _ => return []

/-- The files with what is at further paths, followed and spelled. -/
def lookAtAll (fs : Files) (paths : List String) : IO Files := do
  let spelled := paths.filterMap fun path => (fs.spelledPlace? path).map Files.placeText
  let found ← (paths ++ spelled).mapM lookAt
  return { fs with entries := fs.entries ++ found.flatten }

/-- The working directory, if there is one. -/
def workingDirectory : IO (Option (List String)) := do
  try
    let here ← IO.FS.realPath (← IO.currentDir)
    return some (Files.names here.toString)
  catch _ => return none

/-- The working and the home directory, without any file. -/
def emptyFiles : IO Files := do
  return { workingDirectory := ← workingDirectory
           home := (← IO.getEnv "HOME").filter (! ·.isEmpty), entries := [] }

/-- The variables of the environment that count. -/
def readEnvironment : IO Environment := do
  let mut env : Environment := []
  for name in Command.variableNames do
    if let some value ← IO.getEnv name then env := (name, value) :: env
  return env

/-- The files that a request may need. -/
def filesFor (request : Request) : IO Files := do
  let fs ← emptyFiles
  let fs ← lookAtAll fs (Settings.searchPaths fs ++ request.paths)
  match Settings.load fs request.settings? with
  | .ok s => lookAtAll fs [s.db]
  | .error _ => return fs

/-- Does what a report says, and answers the exit code. -/
def carryOut (report : Report) : IO UInt32 := do
  if let some file := report.created then IO.FS.writeFile file.path file.content
  if report.warned then
    IO.eprintln "WARN catalog database not found, data blocks cannot be validated"
  IO.print report.output
  if let .error p := report.outcome then IO.eprint (Command.lines p.lines)
  return UInt32.ofNat report.code

end VirtEnv

/-- Runs the program. -/
def main (arguments : List String) : IO UInt32 := do
  let env ← VirtEnv.readEnvironment
  let fs ←
    match VirtEnv.Command.Invocation.ofArguments env arguments with
    | .ok i => VirtEnv.filesFor i.request
    | .error _ => VirtEnv.emptyFiles
  VirtEnv.carryOut (VirtEnv.Command.run arguments env fs)
