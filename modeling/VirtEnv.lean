import VirtEnv.Main
import VirtEnv.Proofs.Cancellation
import VirtEnv.Proofs.Creation
import VirtEnv.Proofs.Gate
import VirtEnv.Proofs.Integrity
import VirtEnv.Proofs.Frozen
import VirtEnv.Proofs.Reordering
import VirtEnv.Proofs.Trace
import VirtEnv.Proofs.Addition
import VirtEnv.Proofs.Layering
import VirtEnv.Proofs.Meaning
import VirtEnv.Proofs.Selection
import VirtEnv.Proofs.Backend
import VirtEnv.Proofs.Interchange
import VirtEnv.Proofs.Paths
import VirtEnv.Proofs.Location
import VirtEnv.Proofs.Fallback
import VirtEnv.Proofs.Starter
import VirtEnv.Proofs.Precedence
import VirtEnv.Proofs.DryRun
import VirtEnv.Proofs.Accessors
import VirtEnv.Proofs.Shapes
import VirtEnv.Proofs.Agreement
import VirtEnv.Proofs.Numbering
import VirtEnv.Proofs.Offline
import VirtEnv.Proofs.Repeats
import VirtEnv.Proofs.Aliases
import VirtEnv.Proofs.Indexes
