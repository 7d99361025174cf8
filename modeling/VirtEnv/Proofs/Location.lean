import VirtEnv.Load
import VirtEnv.Proofs.Decoding
import VirtEnv.Proofs.Integrity
import VirtEnv.Proofs.Paths
import VirtEnv.Proofs.Reports

/-!
# Location — a file loads as its text does

A text is read to a body, and a body is decoded to a document, in the same way whether the text
stood in a file or not.  Only two things tell them apart: the path of the document, and the path in
an error of reading or decoding.

A file is loaded by its absolute path, and a text on its own by none.  The path stands in the
resolved document, and in an error of reading or decoding the text.  Every later stage reports
errors of the document, which have no path, and asks the catalog without looking at it.  So where a
file lies can be told from what a load gives, and from nothing that a load does.

* `Document.ofSource_eq`, `Document.ofFile_eq`: a text, and a file with this text, are read to the
  same body, and fail to be read together.
* `Document.resolve_image`: a change to a document that neither its names nor its values nor its
  `data` blocks notice shows in the resolved document only.
* `Document.resolve_locatedAt`: a document resolves in the same way wherever it lies.
* `loadFile_eq_locatedAt`: a file that can be read loads as its text, located at its absolute path.
* `loadFile_loadsAsText`: this, and what becomes of a file that cannot be read.
-/

namespace VirtEnv

open Hcl (Item)

/-! ### Texts and bodies -/

namespace Document

/-- The path that an error shows. -/
def shownPath (path? : Option String) : String := path?.getD inlinePath

/-- The document that a body is, with the path of its file if it has one. -/
def ofItems (path? : Option String) (body : List Item) : Except Error Document :=
  match ofBody body with
  | .ok d => .ok { d with sourcePath := path? }
  | .error f => .error (.ofDecode (shownPath path?) f)

/-- The document that a text is, with the path of its file if it has one. -/
def ofText (path? : Option String) (source : String) : Except Error Document :=
  match Item.parse? source with
  | none => .error (.parse (shownPath path?))
  | some body => ofItems path? body

variable {path source : String}

theorem ofSource_eq : ofSource source = ofText none source := by
  rw [ofSource, parse, ofText]
  cases Item.parse? source with
  | none => rfl
  | some body =>
      cases hd : ofBody body with
      | error f => simp only [ofItems, hd]; rfl
      | ok d =>
          have hpath : { d with sourcePath := none } = d := by
            rw [← (gathers_of_ofBody hd).sourcePath]
          simp only [ofItems, hd, hpath]

theorem ofFile_eq : ofFile path (.ok source) = ofText (some path) source := by
  rw [ofFile, parse, ofText]
  cases Item.parse? source with
  | none => rfl
  | some body =>
      cases hd : ofBody body with
      | error f => simp only [ofItems, hd]; rfl
      | ok d => simp only [ofItems, hd]; rfl

/-- Documents of the same names, values and `data` blocks make the same lookups, and what they are
resolved to is related as what is left of them is. -/
theorem resolve_image {d d' : Document} {C : Catalog} {k : Cancellation} {f : Resolved → Resolved}
    (hindex : Index.build d' = Index.build d)
    (hbuild : ∀ i, Namespace.build d' i C k = Namespace.build d i C k)
    (hdocument : ∀ i n, Resolve.document d' i n = (Resolve.document d i n).map f) :
    d'.resolve C k = ⟨(d.resolve C k).result.map f, (d.resolve C k).lookups⟩ := by
  rw [resolve, resolve, hindex]
  cases Index.build d with
  | error e => rfl
  | ok i =>
      show (Namespace.build d' i C k).andThen _ = _
      rw [hbuild]
      show Run.mk ((Namespace.build d i C k).result.bind _) _ =
        Run.mk (((Namespace.build d i C k).result.bind _).map _) _
      cases (Namespace.build d i C k).result with
      | error e => rfl
      | ok n => exact congrArg (Run.mk · _) (hdocument i n)

end Document

/-- Loads the document that a body is, with the path of its file if it has one. -/
def loadBody (path? : Option String) (body : List Item) (C : Catalog) (k : Cancellation) :
    Run Resolved :=
  loadDocument (Document.ofItems path? body) C k

/-- Loading a text is loading the body that it is read to. -/
theorem loadSource_of_parse {source : String} {body : List Item} {C : Catalog} {k : Cancellation}
    (h : Item.parse? source = some body) : loadSource source C k = loadBody none body C k := by
  rw [loadSource, loadBody, Document.ofSource_eq, Document.ofText, h]

/-! ### Located results -/

/-- An error, if what it tells of lies in the file at a path. -/
def Error.locatedAt (path : String) : Error → Error
  | .parse _ => .parse path
  | .decode _ fault => .decode path fault
  | e => e

/-- A resolved document, if it lies in the file at a path. -/
def Resolved.locatedAt (path : String) (r : Resolved) : Resolved :=
  { r with sourcePath := some path }

/-- A load, if what is loaded lies in the file at a path. -/
def Run.locatedAt (path : String) (run : Run Resolved) : Run Resolved :=
  ⟨(run.result.map (Resolved.locatedAt path)).mapError (Error.locatedAt path), run.lookups⟩

/-- The path that an error shows. -/
def Error.path? : Error → Option String
  | .parse path | .decode path _ | .readFailed path _ => some path
  | _ => none

/-- What a load gives for a text that lies in no file. -/
structure Run.Inline (run : Run Resolved) : Prop where
  ok : ∀ r, run.result = .ok r → r.sourcePath = none
  error : ∀ e path, run.result = .error e → e.path? = some path → path = Document.inlinePath

variable {path source : String} {C : Catalog} {k : Cancellation}

/-- An error of a document has no path, nor has a cancellation. -/
theorem Error.path?_of_resolve {e : Error} (h : e.isOfDocument = true ∨ e = .cancelled) :
    e.path? = none := by
  rcases h with h | rfl
  · cases e <;> first | rfl | cases h
  · rfl

theorem Error.locatedAt_of_path? {e : Error} (h : e.path? = none) : e.locatedAt path = e := by
  cases e <;> first | rfl | cases h

theorem Run.inline_of_error {e : Error} {lookups : List Lookup}
    (h : ∀ path, e.path? = some path → path = Document.inlinePath) :
    (Run.mk (.error e) lookups).Inline where
  ok _ hr := by cases hr
  error _ path he hpath := by cases he; exact h path hpath

namespace Document

variable {d : Document}

theorem document_locatedAt (d : Document) (i : Index) (n : Namespace) :
    Resolve.document { d with sourcePath := some path } i n =
      (Resolve.document d i n).map (Resolved.locatedAt path) := by
  show (d.vms.mapM (Resolve.vm i n) >>= _) = (d.vms.mapM (Resolve.vm i n) >>= _).map _
  cases d.vms.mapM (Resolve.vm i n) with
  | error e => rfl
  | ok vms =>
      show (d.clusters.mapM (Resolve.cluster i n) >>= _) =
        (d.clusters.mapM (Resolve.cluster i n) >>= _).map _
      cases d.clusters.mapM (Resolve.cluster i n) <;> rfl

/-- **A document resolves in the same way wherever it lies.** -/
theorem resolve_locatedAt :
    { d with sourcePath := some path }.resolve C k = (d.resolve C k).locatedAt path := by
  have hmap : { d with sourcePath := some path }.resolve C k =
      ⟨(d.resolve C k).result.map (Resolved.locatedAt path), (d.resolve C k).lookups⟩ :=
    resolve_image rfl (fun _ => rfl) (document_locatedAt d)
  rw [hmap, Run.locatedAt]
  cases hr : (d.resolve C k).result with
  | ok r => rfl
  | error e =>
      have herror : e.locatedAt path = e :=
        Error.locatedAt_of_path? (Error.path?_of_resolve (isOfDocument_of_resolve hr))
      exact congrArg (Run.mk · _) (congrArg Except.error herror.symm)

end Document

/-! ### A file and its text -/

/-- A text in a file loads as the text on its own, located in the file. -/
theorem loadDocument_ofText (path source : String) :
    loadDocument (Document.ofText (some path) source) C k =
      (loadSource source C k).locatedAt path := by
  rw [loadSource, Document.ofSource_eq, Document.ofText, Document.ofText]
  cases Hcl.Item.parse? source with
  | none => rfl
  | some body =>
      simp only [Document.ofItems]
      cases hd : Document.ofBody body with
      | error f => cases f <;> rfl
      | ok d => exact Document.resolve_locatedAt (d := { d with sourcePath := none })

/-- A text on its own has no path, but the one that errors show in its place. -/
theorem loadSource_inline (source : String) : (loadSource source C k).Inline := by
  rw [loadSource, Document.ofSource_eq, Document.ofText]
  cases Hcl.Item.parse? source with
  | none => exact Run.inline_of_error fun _ h => (Option.some.inj h).symm
  | some body =>
      simp only [Document.ofItems]
      cases hd : Document.ofBody body with
      | error f =>
          refine Run.inline_of_error fun path h => ?_
          cases f with
          | fault f => exact (Option.some.inj h).symm
          | abort a => cases h
      | ok d =>
          constructor
          case ok =>
            intro r hr
            obtain ⟨-, rfl, -⟩ := Document.resolve_eq_ok hr
            rfl
          case error =>
            intro e path he hpath
            cases (Error.path?_of_resolve (Document.isOfDocument_of_resolve he)).symm.trans hpath

/-- **A file that can be read loads as its text**, located at its absolute path. -/
theorem loadFile_eq_locatedAt {fs : Files} {absolute : String}
    (hpath : fs.canonical path = .ok absolute) (hread : fs.read absolute = .ok source) :
    loadFile fs path C k = (loadSource source C k).locatedAt absolute := by
  simp only [loadFile, hpath, hread, Document.ofFile_eq, loadDocument_ofText]

/-- A load of a file is a load of its text, up to the path that it shows. -/
structure LoadsAsText (fs : Files) (path : String) (C : Catalog) (k : Cancellation) : Prop where
  /-- A file can be read if its content is valid UTF-8, and not otherwise. -/
  valid : ∀ place bytes source, fs.find path = .ok (place, .ofBytes bytes) →
    String.fromUTF8? bytes = some source → fs.read path = .ok source
  invalid : ∀ place bytes, fs.find path = .ok (place, .ofBytes bytes) →
    String.fromUTF8? bytes = none → fs.read path = .error .invalidData
  /-- Loading a file that can be read makes the lookups that loading its text makes, and ends alike:
  with the same document or the same error, but for the path. -/
  read : ∀ source, fs.read path = .ok source →
    ∃ absolute, fs.canonical path = .ok absolute ∧
      loadFile fs path C k = (loadSource source C k).locatedAt absolute
  /-- A text on its own is located nowhere. -/
  inline : ∀ source, (loadSource source C k).Inline
  /-- What cannot be read is not loaded, and no lookup is made. -/
  unread : ∀ fault, fs.read path = .error fault →
    ∃ shown, loadFile fs path C k = .pure (.error (.readFailed shown fault)) ∧
      (fs.canonical path = .ok shown ∨ fs.canonical path = .error fault ∧ shown = path)

theorem Files.read_of_valid {fs : Files} {place : List String} {bytes : ByteArray}
    (h : fs.find path = .ok (place, .ofBytes bytes))
    (hvalid : String.fromUTF8? bytes = some source) :
    fs.read path = .ok source := by
  have hentry : FileEntry.ofBytes bytes = .text source := by rw [FileEntry.ofBytes, hvalid]
  rw [read, h, hentry]
  rfl

theorem Files.read_of_invalid {fs : Files} {place : List String} {bytes : ByteArray}
    (h : fs.find path = .ok (place, .ofBytes bytes)) (hinvalid : String.fromUTF8? bytes = none) :
    fs.read path = .error .invalidData := by
  rw [read, h, FileEntry.ofBytes, hinvalid]
  cases Database.ofBytes? bytes <;> rfl

/-- **A file loads as its text does.** -/
theorem loadFile_loadsAsText {fs : Files} (hfs : fs.WellFormed) : LoadsAsText fs path C k where
  valid _ _ _ := Files.read_of_valid
  invalid _ _ := Files.read_of_invalid
  read source hsource := by
    obtain ⟨absolute, hpath⟩ : ∃ absolute, fs.canonical path = .ok absolute := by
      obtain ⟨found, hfind, -⟩ := bind_eq_ok.mp hsource
      exact ⟨_, by rw [Files.canonical, hfind]; rfl⟩
    exact ⟨absolute, hpath,
      loadFile_eq_locatedAt hpath ((Files.read_canonical hfs hpath).trans hsource)⟩
  inline := loadSource_inline
  unread fault hfault := by
    cases hfind : fs.find path with
    | ok found =>
        have hpath : fs.canonical path = .ok (Files.placeText found.1) := by
          rw [Files.canonical, hfind]
          rfl
        have hread : fs.read (Files.placeText found.1) = .error fault :=
          (Files.read_canonical hfs hpath).trans hfault
        refine ⟨_, ?_, .inl hpath⟩
        simp only [loadFile, hpath, hread]
        rfl
    | error fault' =>
        have hpath : fs.canonical path = .error fault' := by rw [Files.canonical, hfind]; rfl
        obtain rfl : fault' = fault := by
          rw [Files.read, hfind] at hfault
          exact Except.error.inj hfault
        exact ⟨path, by simp only [loadFile, hpath], .inr ⟨hpath, rfl⟩⟩

/-- A directory with a text and a file that is none. -/
def siteFiles : Files where
  workingDirectory := ["srv", "site"]
  home := "/srv"
  entries := [(["srv", "site", "net.hcl"], .text "network lan {}"),
    (["srv", "site", "raw.hcl"], .bytes)]

/-- The text is found on a roundabout way, and loads as it does on its own. -/
theorem loadFile_loadsAsText_site :
    siteFiles.WellFormed ∧
      siteFiles.canonical "..//site/./net.hcl" = .ok "/srv/site/net.hcl" ∧
      siteFiles.read "..//site/./net.hcl" = .ok "network lan {}" ∧
      siteFiles.read "raw.hcl" = .error .invalidData ∧
      LoadsAsText siteFiles "..//site/./net.hcl" (.steady fun _ _ => .ok none) .never := by
  have hfs : siteFiles.WellFormed := .of_entries (by decide) (by decide)
  exact ⟨hfs, by decide, by decide, by decide, loadFile_loadsAsText hfs⟩

end VirtEnv
