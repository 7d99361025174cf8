import VirtEnv.Output.Tree
import VirtEnv.Plan

/-!
# Plans as trees
-/

namespace VirtEnv

open Output (Tree)

/-- A planned resource. -/
def Planned.toTree (p : Planned) : Tree :=
  .ofFields
    [("kind", .text p.kind.text), ("name", .text p.name), ("properties", .ofTexts p.properties)]

/-- A plan. -/
def Planned.planTree (ps : List Planned) : Tree := .list (ps.map (·.toTree))

end VirtEnv
