import VirtEnv.Document
import VirtEnv.Hcl.Eval
import VirtEnv.Text.Quoted

/-!
# Faults of a document's shape

A document may be well formed and still not have the shape of a document.  A fault says which
rule is broken; places are named by their path.
-/

namespace VirtEnv

open Text (quoted)

/-- A declaration whose content is checked. -/
inductive Place where
  | variable (name : String)
  | locals
  | cluster (name : String)
  | lifecycle (owner : String)
  deriving DecidableEq, Repr

/-- The path of a place. -/
def Place.text : Place → String
  | .variable name => "var." ++ name
  | locals => "locals"
  | cluster name => "cluster." ++ name
  | lifecycle owner => "cluster." ++ owner ++ ".lifecycle"

/-- What an attribute that is no reference must be. -/
inductive Shape where
  | text | textList | textMap
  deriving DecidableEq, Repr

/-- The wording of a shape. -/
def Shape.wording : Shape → String
  | text => "string"
  | textList => "list of string"
  | textMap => "map of string"

/-- A broken rule. -/
inductive ShapeFault where
  | topLevelAttribute (key : String)
  | duplicateLocals
  | unsupportedBlock (type : String)
  | labelCount (type : String) (expected found : Nat)
  | dataBody (label name : String)
  | unsupportedArgument (place : Place) (key : String)
  | unexpectedBlock (place : Place) (type : String)
  | nestedBlock (place : Place)
  | duplicateLifecycle (cluster : String)
  | badValue (place : Place) (key : String) (fault : Hcl.Fault)
  | wrongShape (place : Place) (key : String) (shape : Shape)
  | wrongEntry (place : Place) (key entry : String)

/-- The message of a broken rule. -/
def ShapeFault.message : ShapeFault → String
  | topLevelAttribute key => "unexpected top-level attribute " ++ quoted key
  | duplicateLocals => "duplicate locals block"
  | unsupportedBlock type => "unsupported block type " ++ quoted type
  | labelCount type expected found =>
      type ++ " block expects " ++ Numeric.digitText expected ++ " label(s), found "
        ++ Numeric.digitText found
  | dataBody label name => "data." ++ label ++ "." ++ name ++ ": body must be empty"
  | unsupportedArgument place key => place.text ++ ": unsupported argument " ++ quoted key
  | unexpectedBlock place type => place.text ++ ": unexpected block " ++ quoted type
  | nestedBlock place => place.text ++ ": unexpected nested block"
  | duplicateLifecycle cluster => (Place.cluster cluster).text ++ ": duplicate lifecycle block"
  | badValue place key fault => place.text ++ "." ++ key ++ ": " ++ fault.message
  | wrongShape place key shape => place.text ++ "." ++ key ++ ": must be " ++ shape.wording
  | wrongEntry place key entry => place.text ++ "." ++ key ++ "." ++ entry ++ ": must be string"

/-- How decoding fails. -/
inductive DecodeFailure where
  | fault (f : ShapeFault)
  | abort (a : Hcl.Abort)

end VirtEnv
