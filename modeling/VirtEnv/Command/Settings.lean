import VirtEnv.Command.Report
import VirtEnv.Output.Json
import VirtEnv.Output.Settings
import VirtEnv.Output.Yaml
import VirtEnv.Settings.Search
import VirtEnv.Text.Blank

/-!
# The `settings` command

Shows the settings in effect, and if wanted the files that were looked for.
-/

namespace VirtEnv.Command

/-- The lines about the files that were looked for. -/
def fileLines (fs : Files) (explicit : Option String) : List String :=
  ["Settings Files:"]
    ++ (Settings.searchPaths fs ++ explicit.toList).map (fun path =>
      "  " ++ path ++ " [" ++ (if fs.isFile path then "found" else "missing") ++ "]")
    ++ [""]

/-- Settings in a format, YAML for any that is unknown. -/
def settingsText (s : Settings) (format : String) : Except Problem String :=
  if format == "json" then rendered format s.toTree.prettyJson?
  else rendered format s.toTree.yaml?

/-- Shows the settings. -/
def settingsReport (path : Option String) (files : Bool) (format : String) (fs : Files) : Report :=
  { outcome := do
      let s ← (Settings.load fs path).mapError .error
      let text ← settingsText s format
      .ok (lines ((if files then fileLines fs path else []) ++ [Text.trimEnd text])) }

end VirtEnv.Command
