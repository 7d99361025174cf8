import VirtEnv.Catalog
import VirtEnv.Document.Decode

/-!
# Errors

Why a document cannot be loaded or built, or the settings cannot be read.  Every error has a
message, a code, and for some a hint at what to do.
-/

namespace VirtEnv

open Text (quoted)

/-- Why a file cannot be read. -/
inductive ReadFault where
  | notFound | isADirectory | notADirectory | invalidData
  deriving DecidableEq, Repr

/-- An error. -/
inductive Error where
  | parse (path : String)
  | decode (path : String) (fault : ShapeFault)
  | readFailed (path : String) (fault : ReadFault)
  | duplicateName (kind : ResourceKind) (name : String)
  | emptyName (kind : ResourceKind)
  | variableEval (name : String) (fault : Hcl.Fault)
  | localEval (name : String) (fault : Hcl.Fault)
  | unknownDataReference (kind : DataKind) (name : String)
  | unsupportedDataKind (label : String)
  | catalog (kind : DataKind) (name : String) (fault : CatalogFault)
  | cancelled
  | missingAttribute (owner : Owner) (field : Field)
  | expressionEval (owner : Owner) (field : Field) (fault : Hcl.Fault)
  | typeMismatch (owner : Owner) (field : Field)
  | unknownReference (owner : Owner) (field : Field) (value : String)
  | assembly (message : String)
  | settings (cause : String)
  | settingsNotFound (path : String)
  | aborted (a : Hcl.Abort)

namespace Error

/-- The error of a failed evaluation, given the one of a fault. -/
def ofFailure (ofFault : Hcl.Fault → Error) : Hcl.Failure → Error
  | .fault f => ofFault f
  | .abort a => .aborted a

/-- The error of a document at `path` that does not have the shape of one. -/
def ofDecode (path : String) : DecodeFailure → Error
  | .fault f => .decode path f
  | .abort a => .aborted a

/-- The message of an error. -/
def message : Error → String
  | parse path => "Failed to parse " ++ quoted path
  | decode path fault => "Invalid document " ++ quoted path ++ ": " ++ fault.message
  | readFailed path _ => "Failed to read file: " ++ quoted path
  | duplicateName kind name => "duplicate " ++ kind.text ++ " " ++ quoted name
  | emptyName kind => kind.text ++ " with empty name"
  | variableEval name fault => "var." ++ name ++ ": " ++ fault.message
  | localEval name fault => "local." ++ name ++ ": " ++ fault.message
  | unknownDataReference kind name =>
      "data." ++ kind.text ++ "." ++ name ++ ": not found in catalog"
  | unsupportedDataKind label =>
      "unknown data type " ++ quoted label ++ " (supported: store, network)"
  | catalog kind name _ => "data." ++ kind.text ++ "." ++ name ++ ": catalog lookup failed"
  | cancelled => "Load cancelled"
  | missingAttribute owner field => owner.text ++ "." ++ field.text ++ ": missing attribute"
  | expressionEval owner field fault => owner.text ++ "." ++ field.text ++ ": " ++ fault.message
  | typeMismatch owner field => owner.text ++ "." ++ field.text ++ ": must be " ++ field.expected
  | unknownReference owner field value =>
      owner.text ++ "." ++ field.text ++ ": unknown " ++ field.target.text ++ " " ++ quoted value
  | assembly message => message
  | settings _ => "Failed to load settings"
  | settingsNotFound path => "explicit settings path " ++ quoted path ++ " not found"
  | aborted _ => "aborted"

/-- The code of an error, without the program's name. -/
def code : Error → String
  | parse _ => "parse"
  | decode _ _ => "decode"
  | readFailed _ _ => "read_failed"
  | duplicateName _ _ => "duplicate_name"
  | emptyName _ => "empty_name"
  | variableEval _ _ => "variable_eval"
  | localEval _ _ => "local_eval"
  | unknownDataReference _ _ => "unknown_data_reference"
  | unsupportedDataKind _ => "unsupported_data_kind"
  | catalog _ _ _ => "catalog"
  | cancelled => "cancelled"
  | missingAttribute _ _ => "missing_attribute"
  | expressionEval _ _ _ => "expression_eval"
  | typeMismatch _ _ => "type_mismatch"
  | unknownReference _ _ _ => "unknown_reference"
  | assembly _ => "assembly"
  | settings _ => "settings"
  | settingsNotFound _ => "settings_not_found"
  | aborted _ => "aborted"

/-- What to do about an error. -/
def help? : Error → Option String
  | parse _ => some "Check the HCL syntax of the document"
  | duplicateName kind _ => some ("Each " ++ kind.text ++ " block must have a unique name")
  | variableEval _ _ =>
      some "Variable defaults must be literal values and cannot reference other variables"
  | localEval _ _ =>
      some "Locals may only reference \x60var.*\x60 values that have a default"
  | unknownDataReference kind _ =>
      some ("Create the " ++ kind.text ++ " first or declare it in this document instead")
  | unknownReference _ _ _ =>
      some "Declare it in this document or add a matching \x60data\x60 block"
  | _ => none

end Error

end VirtEnv
