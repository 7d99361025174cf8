import VirtEnv.Command.Check
import VirtEnv.Command.Create
import VirtEnv.Command.Display
import VirtEnv.Command.Settings

/-!
# The command line

From arguments, an environment and the files that exist to a report.
-/

namespace VirtEnv.Command

/-- How the program is used. -/
def usage : String :=
  lines
    ["Usage: kvmconf [-v] [-q] <command> [options]", "",
      "  init [path]  create kvmconf.hcl (--vm, --network, --store, --existing)",
      "  check        validate a document (--file, --settings, --db, --offline)",
      "  show         display a document (as check, --plan, --format table|yaml|json)",
      "  settings     display the settings (--files, --format yaml|json, --settings)"]

/-- The report on a request. -/
def Request.run (r : Request) (fs : Files) : Report :=
  match r with
  | .create d => d.create fs
  | .check s => s.check fs
  | .display s plan format => s.display plan format fs
  | .listSettings path files format => settingsReport path files format fs

/-- The report on arguments.  Nobody is warned who asked for quiet. -/
def run (arguments : List String) (env : Environment) (fs : Files) : Report :=
  match Invocation.ofArguments env arguments with
  | .error .misuse => .failure .usage
  | .error .help => .success usage
  | .error .version => .success (lines [programName ++ " " ++ programVersion])
  | .ok i =>
      let report := i.request.run fs
      { report with warned := report.warned && !i.quiet }

end VirtEnv.Command
