import VirtEnv.Command.Report

/-!
# The `init` command

Writes a document to start from, with one VM in it.  An existing document is left alone.
-/

namespace VirtEnv.Command

namespace Draft

/-- A text between quotes, as it is. -/
def inQuotes (s : String) : String := "\"" ++ s ++ "\""

/-- The line that opens a block. -/
def header (type : String) (labels : List String) : String :=
  String.intercalate " " (type :: labels.map inQuotes) ++ " \x7b"

/-- The lines that declare the network and the store, or refer to them. -/
def resources (d : Draft) : List String :=
  if d.existing then
    ["# Resources managed outside this document", header "data" ["network", d.network] ++ "\x7d",
      header "data" ["store", d.store] ++ "\x7d"]
  else
    [header "network" [d.network], "  mode = " ++ inQuotes "nat", "\x7d", "",
      header "store" [d.store],
      "  path = " ++ inQuotes ("/var/lib/" ++ programName ++ "/" ++ d.store), "\x7d"]

/-- How the VM refers to a resource. -/
def reference (d : Draft) (kind name : String) : String :=
  (if d.existing then "data." else "") ++ kind ++ "." ++ name

/-- The new document. -/
def content (d : Draft) : String :=
  lines
    (["# " ++ programName ++ " environment document", "", "# " ++ header "variable" ["bridge"],
      "#   description = " ++ inQuotes "Network used by every VM",
      "#   default     = " ++ inQuotes d.network, "# \x7d", ""]
      ++ d.resources
      ++ ["", header "vm" [d.vm], "  network = " ++ d.reference "network" d.network,
        "  store   = " ++ d.reference "store" d.store, "  cpu     = 2",
        "  memory  = " ++ inQuotes "2GiB", "\x7d", "", "# " ++ header "cluster" ["web"],
        "#   vms    = [" ++ inQuotes d.vm ++ "]",
        "#   labels = \x7b tier = " ++ inQuotes "frontend" ++ " \x7d", "# \x7d"])

/-- What is said about a new document. -/
def notice (d : Draft) : String :=
  lines
    ["Created " ++ documentName ++ " at " ++ Text.quoted d.path, "", "Next steps:",
      "  1. Edit the file to describe your environment",
      "  2. Run '" ++ programName ++ " check' to validate it against the catalog",
      "  3. Run '" ++ programName ++ " show --plan' to preview the resources"]

/-- Creates the document. -/
def create (d : Draft) (fs : Files) : Report :=
  if fs.pathExists d.path then .failure (.alreadyExists d.path)
  else
    match fs.write? d.path d.content with
    | none => .failure (.cannotWrite d.path)
    | some _ => { outcome := .ok d.notice, created := some ⟨d.path, d.content⟩ }

end Draft

end VirtEnv.Command
