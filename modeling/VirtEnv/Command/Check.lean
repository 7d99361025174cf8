import VirtEnv.Command.Subject

/-!
# The `check` command

Loads a document and counts what it declares.
-/

namespace VirtEnv.Command

/-- The lines about a document that was loaded from `file`. -/
def summary (file : String) (r : Resolved) : String :=
  let count (n : Nat) (what : String) := Numeric.digitText n ++ " " ++ what ++ "(s)"
  lines
    ["✓ " ++ r.sourcePath.getD file,
      "  " ++ String.intercalate ", "
        [count r.networks.length "network", count r.stores.length "store",
          count r.vms.length "vm", count r.clusters.length "cluster"]]

/-- Checks a document. -/
def Subject.check (s : Subject) (fs : Files) : Report :=
  s.load fs fun _ r => .ok (summary s.file r)

end VirtEnv.Command
