import VirtEnv.Files
import VirtEnv.Resolve

/-!
# Loading

The whole way from text to a resolved document: parsing, decoding, the index of names, the
namespace with its catalog lookups, and resolution.  The first stage that fails decides the
error.
-/

namespace VirtEnv

namespace Document

/-- The document that a text is; `path` is the path shown in errors. -/
def parse (path source : String) : Except Error Document :=
  match Hcl.Item.parse? source with
  | none => .error (.parse path)
  | some body =>
      match Document.ofBody body with
      | .ok d => .ok d
      | .error f => .error (.ofDecode path f)

/-- The document that a text on its own is. -/
def ofSource (source : String) : Except Error Document := parse inlinePath source

/-- The document in a file, given the path and what reading the file gave. -/
def ofFile (path : String) (content : Except ReadFault String) : Except Error Document :=
  match content with
  | .error fault => .error (.readFailed path fault)
  | .ok source => do .ok { ← parse path source with sourcePath := some path }

/-- A document with all references bound. -/
def resolve (d : Document) (catalog : Catalog) (cancellation : Cancellation) : Run Resolved :=
  match Index.build d with
  | .error e => .pure (.error e)
  | .ok index =>
      (Namespace.build d index catalog cancellation).andThen (Resolve.document d index)

end Document

/-- Loads what a document was parsed to. -/
def loadDocument (d : Except Error Document) (catalog : Catalog) (cancellation : Cancellation) :
    Run Resolved :=
  match d with
  | .error e => .pure (.error e)
  | .ok d => d.resolve catalog cancellation

/-- Loads a text. -/
def loadSource (source : String) (catalog : Catalog) (cancellation : Cancellation) :
    Run Resolved :=
  loadDocument (Document.ofSource source) catalog cancellation

/-- Loads the document in a file: its path is made absolute first. -/
def loadFile (fs : Files) (path : String) (catalog : Catalog) (cancellation : Cancellation) :
    Run Resolved :=
  match fs.canonical path with
  | .error fault => .pure (.error (.readFailed path fault))
  | .ok absolute =>
      loadDocument (Document.ofFile absolute (fs.read absolute)) catalog cancellation

end VirtEnv
