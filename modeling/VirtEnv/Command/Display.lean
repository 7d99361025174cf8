import VirtEnv.Command.Subject
import VirtEnv.Output.Json
import VirtEnv.Output.Plan
import VirtEnv.Output.Resolved
import VirtEnv.Output.Yaml

/-!
# The `show` command

Shows a loaded document, or the plan of its resources, as a table, as YAML or as JSON.
-/

namespace VirtEnv.Command

open Output (Tree)

/-- The lines of a list, or of its absence. -/
def listing (ls : List String) : List String := if ls.isEmpty then ["  (none)"] else numbered ls

/-- The lines of an order, unless it is empty. -/
def orderLines (word : String) (names : List String) : List String :=
  if names.isEmpty then [] else ["     " ++ word ++ String.intercalate " -> " names]

/-- The lines of a cluster. -/
def clusterLines (c : ResolvedCluster) : List String :=
  ["  " ++ c.name ++ " [" ++ String.intercalate ", " c.members ++ "]"]
    ++ c.labels.map (fun l => "     " ++ l.1 ++ "=" ++ l.2)
    ++ (match c.lifecycle with
      | none => []
      | some l => orderLines "start: " l.startOrder ++ orderLines "stop:  " l.stopOrder)

/-- The table of a document. -/
def documentTable (r : Resolved) : String :=
  lines
    ((match r.sourcePath with
      | some path => ["Document: " ++ path, ""]
      | none => [])
      ++ ["Networks:"] ++ listing (r.networks.map (·.name))
      ++ ["", "Stores:"] ++ listing (r.stores.map (·.name))
      ++ ["", "Virtual Machines:"]
      ++ listing (r.vms.map fun v =>
        v.name ++ "  network=" ++ v.network ++ "  store=" ++ v.store)
      ++ (if r.clusters.isEmpty then []
        else ["", "Clusters:"] ++ r.clusters.flatMap clusterLines))

/-- The lines of planned resources, numbered from `n`. -/
def plannedLines (n : Nat) : List Planned → List String
  | [] => []
  | p :: ps =>
      ["  " ++ Numeric.digitText n ++ ". " ++ p.kind.text ++ " " ++ p.name]
        ++ p.properties.map (fun q => "     " ++ q.1 ++ " = " ++ q.2)
        ++ plannedLines (n + 1) ps

/-- The table of a plan. -/
def planTable (ps : List Planned) : String :=
  lines
    (["Planned Resources:", ""] ++ plannedLines 1 ps
      ++ ["", "Total: " ++ Numeric.digitText ps.length ++ " resource(s)"])

/-- A tree in a format, or the table for any other. -/
def inFormat (format : String) (t : Tree) (table : String) : Except Problem String :=
  if format == "yaml" then rendered format t.yaml?
  else if format == "json" then rendered format (t.prettyJson?.map (· ++ "\n"))
  else .ok table

/-- Shows a document or its plan. -/
def Subject.display (s : Subject) (plan : Bool) (format : String) (fs : Files) : Report :=
  s.load fs fun settings r =>
    if plan then do
      let planned ← (r.plan settings).mapError fun a => .error (.aborted a)
      inFormat format (Planned.planTree planned) (planTable planned)
    else inFormat format r.toTree (documentTable r)

end VirtEnv.Command
