import VirtEnv.Command
import VirtEnv.Error

/-!
# Reports

What a command leaves behind: an exit code, its output, and for a failure the problem it met.
-/

namespace VirtEnv.Command

/-- Why a command fails. -/
inductive Problem where
  | error (e : Error)
  | cannotOpenCatalog (path : String) (fault : CatalogFault)
  | alreadyExists (path : String)
  | cannotWrite (path : String)
  | cannotRender (format : String)
  | usage

/-- The code of a problem, for those that have one. -/
def Problem.code? : Problem → Option String
  | error (.aborted _) => none
  | error e => some e.code
  | _ => none

/-- The message of a problem. -/
def Problem.message : Problem → String
  | error e => e.message
  | cannotOpenCatalog path fault =>
      "Failed to open catalog " ++ Text.quoted path ++ ": " ++ fault.message
  | alreadyExists path => documentName ++ " already exists at " ++ Text.quoted path
  | cannotWrite path => "Failed to write " ++ Text.quoted path
  | cannotRender format => "Failed to render " ++ format ++ ": a key cannot be written"
  | usage => "unusable arguments, see --help"

/-- What is written about a problem: its message, its code and what to do about it. -/
def Problem.lines (p : Problem) : List String :=
  ["Error: " ++ p.message]
    ++ (match p.code? with
      | some code => ["  code: " ++ programName ++ "::" ++ code]
      | none => [])
    ++ (match p with
      | error e => (e.help?.map ("  help: " ++ ·)).toList
      | _ => [])

/-- The exit code of a problem. -/
def Problem.exitCode : Problem → Nat
  | usage => 2
  | error (.aborted _) => 101
  | _ => 1

/-- A file to be written. -/
structure NewFile where
  path : String
  content : String
  deriving DecidableEq, Repr

/-- What a command leaves behind. -/
structure Report where
  outcome : Except Problem String
  warned : Bool := false
  created : Option NewFile := none

namespace Report

/-- The exit code. -/
def code (r : Report) : Nat :=
  match r.outcome with
  | .ok _ => 0
  | .error p => p.exitCode

/-- The text for the standard output. -/
def output (r : Report) : String :=
  match r.outcome with
  | .ok s => s
  | .error _ => ""

/-- A report of success. -/
def success (output : String) : Report := { outcome := .ok output }

/-- A report of failure. -/
def failure (p : Problem) : Report := { outcome := .error p }

end Report

/-- What was rendered in a format, if it could be. -/
def rendered (format : String) (text : Option String) : Except Problem String :=
  match text with
  | some s => .ok s
  | none => .error (.cannotRender format)

/-- Text of lines. -/
def lines (ls : List String) : String := String.join (ls.map (· ++ "\n"))

/-- Lines numbered from one. -/
def numbered (ls : List String) : List String :=
  ls.zipIdx.map fun l => "  " ++ Numeric.digitText (l.2 + 1) ++ ". " ++ l.1

end VirtEnv.Command
