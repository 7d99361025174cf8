import VirtEnv.Command.Create
import VirtEnv.Proofs.Gate
import VirtEnv.Proofs.Location
import VirtEnv.Proofs.Reading
import VirtEnv.Proofs.Written

/-!
# Starter — a new document loads

A new document is written line by line, with the names of its draft put in as they are: into a
comment, between quotes, and as parts of a path.  What is read back is the document that was meant
if each name can stand where it is put (`Draft.Plain`).  One that cannot, such as a network's name
with a blank in it, makes a document that does not load.

* `Draft.parse?_content`: the items that the text of the document is read as.
* `Draft.loadSource_content`: what loading that text comes to.
* `Draft.loads_of_created`: the created file loads, from the path that it is written to.
-/

namespace VirtEnv.Command

open Hcl (Blanks Expr IsIdentifier Item Reads Spells Verbatim assigned blockBody_empty
  blockBody_lines body_assigned body_blanks body_block body_close body_end labelled)

/-! ### Lines -/

theorem lines_cons (l : String) (ls : List String) :
    (lines (l :: ls)).toList = l.toList ++ '\n' :: (lines ls).toList := by
  simp [lines]

theorem lines_empty_cons (ls : List String) :
    (lines ("" :: ls)).toList = ['\n'] ++ (lines ls).toList := by
  simp [lines]

theorem lines_append (ls ls' : List String) :
    (lines (ls ++ ls')).toList = (lines ls).toList ++ (lines ls').toList := by
  induction ls with
  | nil => simp [lines]
  | cons l ls ih => simp [lines_cons, ih]

/-- A text on one line. -/
def OneLine (s : String) : Prop := ∀ x ∈ s.toList, x ≠ '\n' ∧ x ≠ '\r'

instance : DecidablePred OneLine := fun s =>
  inferInstanceAs (Decidable (∀ x ∈ s.toList, x ≠ '\n' ∧ x ≠ '\r'))

theorem OneLine.append {s t : String} (hs : OneLine s) (ht : OneLine t) : OneLine (s ++ t) := by
  intro x hx
  rw [String.toList_append, List.mem_append] at hx
  exact hx.elim (hs x) (ht x)

/-- A line that is empty or a comment. -/
structure IsComment (l : String) : Prop where
  marked : l.toList.head?.all (· == '#') = true
  oneLine : OneLine l

instance : DecidablePred IsComment := fun l =>
  decidable_of_iff (l.toList.head?.all (· == '#') = true ∧ OneLine l)
    ⟨fun h => ⟨h.1, h.2⟩, fun h => ⟨h.marked, h.oneLine⟩⟩

/-- A comment may go on with any text on its line. -/
theorem IsComment.append {l t : String} (hl : IsComment l) (hne : l ≠ "") (ht : OneLine t) :
    IsComment (l ++ t) := by
  refine ⟨?_, hl.oneLine.append ht⟩
  have hmarked := hl.marked
  rw [String.toList_append]
  cases hcs : l.toList with
  | nil => exact absurd (String.toList_eq_nil_iff.mp hcs) hne
  | cons x cs =>
      rw [hcs] at hmarked
      exact hmarked

/-- Comments on lines of their own are blanks. -/
theorem blanks_lines {ls : List String} (h : ∀ l ∈ ls, IsComment l) :
    Blanks .many (lines ls).toList := by
  induction ls with
  | nil => exact Blanks.nil
  | cons l ls ih =>
      obtain ⟨hl, hls⟩ := List.forall_mem_cons.mp h
      have hline : Blanks .many (l.toList ++ ['\n']) := by
        cases hcs : l.toList with
        | nil => exact Blanks.lineFeed
        | cons x cs =>
            have honeLine := hl.oneLine
            have hmarked := hl.marked
            rw [OneLine, hcs] at honeLine
            rw [hcs] at hmarked
            obtain rfl : x = '#' := by simpa using hmarked
            exact Blanks.comment fun y hy => honeLine y (List.mem_cons_of_mem _ hy)
      rw [lines_cons, List.append_cons]
      exact hline.append (ih hls)

namespace Draft

/-! ### Plain drafts -/

/-- The names of a draft stand in its document as they are: that of the VM between quotes and in a
comment, the others also as parts of a path. -/
structure Plain (d : Draft) : Prop where
  nonempty : d.vm ≠ ""
  verbatim : Verbatim d.vm.toList
  oneLine : OneLine d.vm
  network : IsIdentifier d.network.toList
  store : IsIdentifier d.store.toList

variable {d : Draft}

/-- The lines before the resources. -/
def opening (d : Draft) : List String :=
  ["# " ++ programName ++ " environment document", "", "# " ++ header "variable" ["bridge"],
    "#   description = " ++ inQuotes "Network used by every VM",
    "#   default     = " ++ inQuotes d.network, "# \x7d", ""]

/-- The lines of the VM. -/
def vmLines (d : Draft) : List String :=
  [header "vm" [d.vm], "  network = " ++ d.reference "network" d.network,
    "  store   = " ++ d.reference "store" d.store, "  cpu     = 2",
    "  memory  = " ++ inQuotes "2GiB", "\x7d"]

/-- The lines after the VM. -/
def closing (d : Draft) : List String :=
  ["", "# " ++ header "cluster" ["web"], "#   vms    = [" ++ inQuotes d.vm ++ "]",
    "#   labels = \x7b tier = " ++ inQuotes "frontend" ++ " \x7d", "# \x7d"]

theorem content_eq (d : Draft) :
    d.content = lines (d.opening ++ (d.resources ++ ("" :: (d.vmLines ++ d.closing)))) := by
  simp only [content, opening, vmLines, closing, List.cons_append, List.nil_append]

theorem oneLine_inQuotes {s : String} (h : OneLine s) : OneLine (inQuotes s) :=
  .append (.append (by decide) h) (by decide)

theorem oneLine_of_identifier {s : String} (h : IsIdentifier s.toList) : OneLine s := by
  intro x hx
  refine ⟨?_, ?_⟩
  · rintro rfl
    exact h.not_mem (by decide) (by decide) hx
  · rintro rfl
    exact h.not_mem (by decide) (by decide) hx

theorem opening_blank (h : d.Plain) : Blanks .many (lines d.opening).toList := by
  have hdefault : IsComment ("#   default     = " ++ inQuotes d.network) :=
    .append (by decide) (by decide) (oneLine_inQuotes (oneLine_of_identifier h.network))
  have hdescription : IsComment ("#   description = " ++ inQuotes "Network used by every VM") :=
    .append (by decide) (by decide) (oneLine_inQuotes (by decide))
  refine blanks_lines ?_
  simp only [opening, List.forall_mem_cons]
  exact ⟨by decide +kernel, by decide, by decide +kernel, hdescription, hdefault, by decide,
    by decide, nofun⟩

theorem closing_blank (h : d.Plain) : Blanks .many (lines d.closing).toList := by
  have hmembers : IsComment ("#   vms    = [" ++ inQuotes d.vm ++ "]") :=
    .append (.append (by decide) (by decide) (oneLine_inQuotes h.oneLine)) (by simp) (by decide)
  have hlabels : IsComment ("#   labels = \x7b tier = " ++ inQuotes "frontend" ++ " \x7d") :=
    .append (.append (by decide) (by decide) (oneLine_inQuotes (by decide))) (by simp) (by decide)
  refine blanks_lines ?_
  simp only [closing, List.forall_mem_cons]
  exact ⟨by decide, by decide +kernel, hmembers, hlabels, by decide, nofun⟩

/-! ### What the document is read as -/

/-- The expression by which the VM refers to a resource. -/
def referenceExpr (d : Draft) (kind name : String) : Expr :=
  if d.existing then .traversal (.variable "data") [.member kind, .member name]
  else .traversal (.variable kind) [.member name]

theorem spells_inQuotes {s : String} (h : Verbatim s.toList) :
    Spells (inQuotes s).toList (.string s) := by
  simpa [inQuotes] using Spells.quoted h

theorem spells_reference (d : Draft) {kind name : String} (hkind : IsIdentifier kind.toList)
    (hvariable : Hcl.IsVariable kind.toList) (hname : IsIdentifier name.toList) :
    Spells (d.reference kind name).toList (d.referenceExpr kind name) := by
  unfold reference referenceExpr
  split
  case isTrue =>
    have h : Spells ("data".toList ++ Hcl.dotted [kind.toList, name.toList]) _ :=
      Spells.path (by decide) rfl (by simpa using ⟨hkind, hname⟩) (Nat.le_add_left 1 2)
    simpa [Hcl.dotted] using h
  case isFalse =>
    have h : Spells (kind.toList ++ Hcl.dotted [name.toList]) _ :=
      Spells.path hkind hvariable (by simpa using hname) (Nat.zero_le 3)
    simpa [Hcl.dotted] using h

/-- The block of the VM. -/
def vmItem (d : Draft) : Item :=
  .block (.mk "vm" [.text d.vm]
    [.attribute "network" (d.referenceExpr "network" d.network),
      .attribute "store" (d.referenceExpr "store" d.store), .attribute "cpu" (.number (.ofNat 2)),
      .attribute "memory" (.string "2GiB")])

theorem reads_vm {c : Hcl.Context} {fuel : Nat} {tail rest : List Char} {items : List Item}
    (h : d.Plain) (hfuel : 13 ≤ fuel)
    (htail : Reads (Hcl.Read.body fuel []) c tail (· = items) rest) :
    Reads (Hcl.Read.body (fuel + 1) []) c ((lines d.vmLines).toList ++ tail)
      (· = d.vmItem :: items) rest := by
  obtain ⟨k, rfl⟩ := Nat.exists_eq_add_of_le' hfuel
  have hnetwork := d.spells_reference (show IsIdentifier "network".toList by decide) rfl h.network
  have hstore := d.spells_reference (show IsIdentifier "store".toList by decide) rfl h.store
  have hcpu : Spells ['2'] (.number (.ofNat 2)) := Spells.digits (by decide) (by decide)
  have hmemory := Spells.quoted (show Verbatim "2GiB".toList by decide)
  have hindent : Blanks .many [' ', ' '] := Blanks.spaces (by decide)
  have hbody : Reads (Hcl.Read.body (k + 12) []) c
      (assigned [' ', ' '] "network".toList [] (d.reference "network" d.network).toList ++
        (assigned [' ', ' '] "store".toList [' ', ' '] (d.reference "store" d.store).toList ++
          (assigned [' ', ' '] "cpu".toList [' ', ' ', ' ', ' '] ['2'] ++
            (assigned [' ', ' '] "memory".toList [' '] ('"' :: "2GiB".toList ++ ['"']) ++
              '\x7d' :: '\n' :: tail))))
      (· = [.attribute "network" (d.referenceExpr "network" d.network),
        .attribute "store" (d.referenceExpr "store" d.store), .attribute "cpu" (.number (.ofNat 2)),
        .attribute "memory" (.string "2GiB")])
      ('\x7d' :: '\n' :: tail) := by
    refine body_assigned hindent (by decide) (Blanks.spaces (by decide)) (by decide) hnetwork
      (by omega) ?_
    refine body_assigned hindent (by decide) (Blanks.spaces (by decide)) (by decide) hstore
      (by omega) ?_
    refine body_assigned hindent (by decide) (Blanks.spaces (by decide)) (by decide) hcpu
      (by omega) ?_
    refine body_assigned hindent (by decide) (Blanks.spaces (by decide)) (by decide) hmemory
      (by omega) ?_
    exact body_close
  have hblock := body_block (show IsIdentifier "vm".toList by decide)
    (show ∀ t ∈ [d.vm.toList], Verbatim t by simpa using h.verbatim) (by simp)
    (blockBody_lines hbody) htail
  have htext : (lines d.vmLines).toList ++ tail = "vm".toList ++ ([' '] ++
      (labelled [d.vm.toList] ++ '\x7b' :: '\n' ::
        (assigned [' ', ' '] "network".toList [] (d.reference "network" d.network).toList ++
        (assigned [' ', ' '] "store".toList [' ', ' '] (d.reference "store" d.store).toList ++
          (assigned [' ', ' '] "cpu".toList [' ', ' ', ' ', ' '] ['2'] ++
            (assigned [' ', ' '] "memory".toList [' '] ('"' :: "2GiB".toList ++ ['"']) ++
              '\x7d' :: '\n' :: tail)))))) := by
    simp [vmLines, header, inQuotes, labelled, assigned, lines]
  rw [htext]
  simpa [vmItem] using hblock

/-- The path of the store that the document declares. -/
def storePath (d : Draft) : String := "/var/lib/" ++ programName ++ "/" ++ d.store

/-- The blocks of the resources. -/
def resourceItems (d : Draft) : List Item :=
  if d.existing then
    [.block (.mk "data" [.text "network", .text d.network] []),
      .block (.mk "data" [.text "store", .text d.store] [])]
  else
    [.block (.mk "network" [.text d.network] [.attribute "mode" (.string "nat")]),
      .block (.mk "store" [.text d.store] [.attribute "path" (.string d.storePath)])]

theorem verbatim_storePath (h : d.Plain) : Verbatim d.storePath.toList := by
  have hpath : d.storePath.toList = "/var/lib/kvmconf/".toList ++ d.store.toList := by
    simp [storePath, programName]
  -- what may not stand between quotes is neither in the directory nor in an identifier
  have hapart : ∀ x, Text.isIdentifierStart x = false → Text.isIdentifierRest x = false →
      x ∉ "/var/lib/kvmconf/".toList → x ∉ d.storePath.toList := by
    intro x hstart hrest hprefix hx
    rw [hpath, List.mem_append] at hx
    exact hx.elim hprefix (h.store.not_mem hstart hrest)
  exact Verbatim.of_not_mem (hapart _ (by decide) (by decide) (by decide))
    (hapart _ (by decide) (by decide) (by decide)) (hapart _ (by decide) (by decide) (by decide))

section

variable {c : Hcl.Context} {fuel : Nat} {tail rest : List Char} {items : List Item}

/-- A line that refers to a resource is read as a block without a body. -/
theorem reads_dataLine {kind name : String} (hkind : Verbatim kind.toList)
    (hname : Verbatim name.toList) (hfuel : 3 ≤ fuel)
    (htail : Reads (Hcl.Read.body fuel []) c tail (· = items) rest) :
    Reads (Hcl.Read.body (fuel + 1) []) c
      ((lines [header "data" [kind, name] ++ "\x7d"]).toList ++ tail)
      (· = .block (.mk "data" [.text kind, .text name] []) :: items) rest := by
  obtain ⟨k, rfl⟩ := Nat.exists_eq_add_of_le' hfuel
  have htext : (lines [header "data" [kind, name] ++ "\x7d"]).toList ++ tail =
      "data".toList ++ ([' '] ++ (labelled [kind.toList, name.toList] ++
        '\x7b' :: '\x7d' :: '\n' :: tail)) := by
    simp [header, inQuotes, labelled, lines]
  have hlabels : ∀ t ∈ [kind.toList, name.toList], Verbatim t := by
    simpa using ⟨hkind, hname⟩
  have hblock := body_block (show IsIdentifier "data".toList by decide) hlabels (by simp)
    blockBody_empty htail
  rw [htext]
  simpa using hblock

/-- The lines of a resource with one attribute are read as its block. -/
theorem reads_resourceLines {kind name key v : String} {e : Expr}
    (hkind : IsIdentifier kind.toList) (hname : Verbatim name.toList)
    (hkey : IsIdentifier key.toList) (hv : Spells v.toList e) (hfuel : 10 ≤ fuel)
    (htail : Reads (Hcl.Read.body fuel []) c tail (· = items) rest) :
    Reads (Hcl.Read.body (fuel + 1) []) c
      ((lines [header kind [name], "  " ++ key ++ " = " ++ v, "\x7d"]).toList ++ tail)
      (· = .block (.mk kind [.text name] [.attribute key e]) :: items) rest := by
  obtain ⟨k, rfl⟩ := Nat.exists_eq_add_of_le' hfuel
  have htext : (lines [header kind [name], "  " ++ key ++ " = " ++ v, "\x7d"]).toList ++ tail =
      kind.toList ++ ([' '] ++ (labelled [name.toList] ++ '\x7b' :: '\n' ::
        (assigned [' ', ' '] key.toList [] v.toList ++ '\x7d' :: '\n' :: tail))) := by
    simp [header, inQuotes, labelled, lines, assigned]
  have hindent : Blanks .many [' ', ' '] := Blanks.spaces (by decide)
  have hspace : Blanks .one [' '] := Blanks.spaces (by decide)
  have hlabels : ∀ t ∈ [name.toList], Verbatim t := by simpa using hname
  have hbody : Reads (Hcl.Read.body (k + 9) []) c
      (assigned [' ', ' '] key.toList [] v.toList ++ '\x7d' :: '\n' :: tail)
      (· = [.attribute (String.ofList key.toList) e]) ('\x7d' :: '\n' :: tail) :=
    body_assigned hindent hkey hspace (by simp) hv (by omega) body_close
  have hblock := body_block hkind hlabels (by simp) (blockBody_lines hbody) htail
  rw [htext]
  simpa using hblock

/-- The lines of the resources are read as their blocks. -/
theorem reads_resources (h : d.Plain) (hfuel : 10 ≤ fuel)
    (htail : Reads (Hcl.Read.body fuel []) c tail (· = items) rest) :
    Reads (Hcl.Read.body (fuel + 2) []) c ((lines d.resources).toList ++ tail)
      (· = d.resourceItems ++ items) rest := by
  have hnetwork : Verbatim d.network.toList := .of_identifier h.network
  have hstore : Verbatim d.store.toList := .of_identifier h.store
  unfold resources resourceItems
  split
  case isTrue =>
    have hcomment : Blanks .many (lines ["# Resources managed outside this document"]).toList :=
      blanks_lines (by decide)
    have hlines : ∀ a b e : String, (lines [a, b, e]).toList ++ tail =
        (lines [a]).toList ++ ((lines [b]).toList ++ ((lines [e]).toList ++ tail)) := by
      intro a b e
      simp [lines]
    rw [hlines]
    exact body_blanks hcomment (reads_dataLine (by decide) hnetwork (by omega)
      (reads_dataLine (by decide) hstore (by omega) htail))
  case isFalse =>
    have hmode : Spells (inQuotes "nat").toList (.string "nat") := spells_inQuotes (by decide)
    have hpath := spells_inQuotes (verbatim_storePath h)
    have hmodeLine : "  mode = " = "  " ++ "mode" ++ " = " := by decide
    have hpathLine : "  path = " = "  " ++ "path" ++ " = " := by decide
    have hlines : ∀ a b e a' b' e' : String, (lines [a, b, e, "", a', b', e']).toList ++ tail =
        (lines [a, b, e]).toList ++ (['\n'] ++ ((lines [a', b', e']).toList ++ tail)) := by
      intro a b e a' b' e'
      simp [lines]
    rw [hmodeLine, hpathLine, hlines]
    exact reads_resourceLines (by decide) hnetwork (by decide) hmode (by omega)
      (body_blanks Blanks.lineFeed
        (reads_resourceLines (by decide) hstore (by decide) hpath hfuel htail))

end

/-- The items of the document. -/
def items (d : Draft) : List Item := d.resourceItems ++ [d.vmItem]

/-- **A plain draft's document is read as its items.** -/
theorem parse?_content (h : d.Plain) : Item.parse? d.content = some d.items := by
  refine Reads.readAll? ?_
  obtain ⟨k, hk⟩ := Nat.exists_eq_add_of_le'
    (Nat.le_mul_of_pos_right 16 (Nat.succ_pos d.content.toList.length))
  rw [Hcl.Read.fuelFor, hk, content_eq, lines_append, lines_append, lines_empty_cons,
    lines_append]
  have hend : Reads (Hcl.Read.body (k + 13) []) ⟨.one, true⟩ ((lines d.closing).toList ++ [])
      (· = []) [] := body_blanks (closing_blank h) body_end
  rw [List.append_nil] at hend
  have hvm := reads_vm h (Nat.le_add_left 13 k) hend
  have hresources := reads_resources h (Nat.le_trans (by decide) (Nat.le_add_left 14 k))
    (body_blanks Blanks.lineFeed hvm)
  exact body_blanks (opening_blank h) hresources

/-! ### What the document declares -/

/-- The `data` blocks of the document. -/
def dataBlocks (d : Draft) : List DataBlock :=
  if d.existing then [⟨"network", d.network⟩, ⟨"store", d.store⟩] else []

/-- The document. -/
def document (d : Draft) : Document where
  networks := if d.existing then [] else
    [⟨d.network, { values := [("mode", .string "nat")] }⟩]
  stores := if d.existing then [] else
    [⟨d.store, { values := [("path", .string d.storePath)] }⟩]
  vms := [{ name := d.vm, network := some (d.referenceExpr "network" d.network),
            store := some (d.referenceExpr "store" d.store),
            attributes := { values := [("cpu", .number (.ofNat 2)), ("memory", .string "2GiB")] } }]
  data := d.dataBlocks

theorem ofBody_items (d : Draft) : Document.ofBody d.items = .ok d.document := by
  unfold items resourceItems document dataBlocks
  cases d.existing <;> rfl

/-! ### How the document loads -/

/-- A reference of the VM stands for the name that it ends with. -/
theorem evaluate_referenceExpr (d : Draft) :
    (d.referenceExpr "network" d.network).evaluate d.document.scope = .ok (.string d.network) ∧
      (d.referenceExpr "store" d.store).evaluate d.document.scope = .ok (.string d.store) := by
  have hself : ∀ name, (Hcl.Value.ofNames [name]).atPath [name] = .ok (.string name) := by
    intro name
    simp [Hcl.Value.ofNames, Hcl.Value.atPath, Hcl.Value.atKey]
  unfold referenceExpr document dataBlocks
  cases d.existing
  · exact ⟨Expr.evaluate_path [d.network] rfl (hself _),
      Expr.evaluate_path [d.store] rfl (hself _)⟩
  · exact ⟨Expr.evaluate_path ["network", d.network] rfl (hself _),
      Expr.evaluate_path ["store", d.store] rfl (hself _)⟩

theorem allPass_earlyChecks (h : d.Plain) : AllPass d.document.earlyChecks := by
  have hvm := h.nonempty
  have hnetwork : d.network ≠ "" := fun hempty => h.network.ne_nil (by rw [hempty]; rfl)
  have hstore : d.store ≠ "" := fun hempty => h.store.ne_nil (by rw [hempty]; rfl)
  refine allPass_append.mpr ⟨Document.allPass_nameChecks_iff.mpr fun kind => ?_, ?_⟩
  · have hnone : WellNamed [] := ⟨nofun, List.nodup_nil⟩
    have hone : ∀ {name : String}, name ≠ "" → WellNamed [name] := fun hname =>
      ⟨by simpa using hname, List.nodup_singleton _⟩
    unfold document
    cases kind <;> cases d.existing
    all_goals first | exact hnone | exact hone hnetwork | exact hone hstore | exact hone hvm
  · exact allPass_nil

theorem mem_offers (d : Draft) :
    d.network ∈ d.document.offers .network ∧ d.store ∈ d.document.offers .store := by
  unfold document dataBlocks Document.offers Document.declared
  cases d.existing <;> exact ⟨List.mem_cons_self, List.mem_cons_self⟩

theorem allPass_referenceChecks (d : Draft) : AllPass d.document.referenceChecks := by
  obtain ⟨hnetwork, hstore⟩ := d.evaluate_referenceExpr
  obtain ⟨hoffered, hoffered'⟩ := d.mem_offers
  refine allPass_append.mpr ⟨allPass_flatMap.mpr fun v hv => ?_, allPass_nil⟩
  obtain rfl := List.mem_singleton.mp hv
  refine allPass_append.mpr
    ⟨Document.allPass_resourceChecks_iff.mpr ?_, Document.allPass_resourceChecks_iff.mpr ?_⟩
  · rw [partIn_of_evaluate hnetwork]
    exact ⟨⟨_, rfl, hnetwork⟩, hoffered⟩
  · rw [partIn_of_evaluate hstore]
    exact ⟨⟨_, rfl, hstore⟩, hoffered'⟩

/-- The document with its references bound. -/
def resolved (d : Draft) : Resolved where
  sourcePath := none
  networks := d.document.networks
  stores := d.document.stores
  vms := [{ name := d.vm, network := d.network, store := d.store,
            attributes := { values := [("cpu", .number (.ofNat 2)), ("memory", .string "2GiB")] } }]
  clusters := []

theorem resolved_document (d : Draft) : d.document.resolved = d.resolved := by
  obtain ⟨hnetwork, hstore⟩ := d.evaluate_referenceExpr
  have hvm : d.document.vms.map d.document.resolvedVm = d.resolved.vms := by
    simp only [document, List.map_cons, List.map_nil, Document.resolvedVm]
    rw [← document, partIn_of_evaluate hnetwork, partIn_of_evaluate hstore]
    rfl
  rw [Document.resolved, hvm]
  rfl

variable {C : Catalog} {k : Cancellation}

/-- **A plain draft's document loads** to one VM on the given network and store, with a catalog that
knows them if they are not the document's own. -/
theorem loadSource_content (h : d.Plain) (hknown : C.KnowsAll 0 d.dataBlocks)
    (hquiet : ∀ i, i < d.dataBlocks.length → k.QuietAt i) :
    loadSource d.content C k = ⟨.ok d.resolved, lookupsOf d.dataBlocks⟩ := by
  have hload : loadSource d.content C k = d.document.resolve C k := by
    rw [loadSource_of_parse (parse?_content h), loadBody, Document.ofItems, ofBody_items]
    rfl
  rw [hload, Document.resolve_of_quiet hquiet,
    Document.resolve_of_knowsAll (allPass_earlyChecks h) hknown,
    outcome_of_allPass d.allPass_referenceChecks, resolved_document]
  rfl

theorem created_eq_some {fs : Files} {file : NewFile} :
    (d.create fs).created = some file ↔
      fs.pathExists d.path = false ∧ (fs.write? d.path d.content).isSome = true ∧
        file = ⟨d.path, d.content⟩ := by
  unfold create
  split
  case isTrue hthere => simp [Report.failure, hthere]
  case isFalse hthere =>
    cases hwrite : fs.write? d.path d.content <;> simp [Report.failure, hthere, eq_comm]

/-- What a load of the new document comes to. -/
structure LoadsTo (d : Draft) (run : Run Resolved) (r : Resolved) : Prop where
  result : run.result = .ok r
  /-- There is one VM, attached to the network and the store. -/
  vms : r.vms.map (fun v => (v.name, v.network, v.store)) = [(d.vm, d.network, d.store)]
  /-- The network and the store are the document's only ones, and nothing is looked up. -/
  own : d.existing = false → r.networks.map (·.name) = [d.network] ∧
    r.stores.map (·.name) = [d.store] ∧ run.lookups = []
  /-- Or the document has none, and both are looked up. -/
  found : d.existing = true → r.networks = [] ∧ r.stores = [] ∧
    run.lookups = [⟨.network, d.network⟩, ⟨.store, d.store⟩]

/-- **The document that is created from a plain draft loads**, from the path that it is written to:
with any catalog if it declares the network and the store, and with one that finds both
otherwise. -/
theorem loads_of_created {fs fs' : Files} {file : NewFile} (hfs : fs.WellFormed) (h : d.Plain)
    (hcreated : (d.create fs).created = some file)
    (hwritten : fs.write? file.path file.content = some fs')
    (hfound : d.existing = true → (∃ id, C.answer 0 .network d.network = .ok (some id)) ∧
      ∃ id, C.answer 1 .store d.store = .ok (some id))
    (hquiet : d.existing = true → k.QuietAt 0 ∧ k.QuietAt 1) :
    ∃ r, d.LoadsTo (loadFile fs' d.path C k) r := by
  obtain ⟨-, -, rfl⟩ := created_eq_some.mp hcreated
  obtain ⟨-, -, place, hplace⟩ := Files.find_of_write hwritten
  have hpath : fs'.canonical d.path = .ok (Files.placeText place) := by
    rw [Files.canonical, hplace]
    rfl
  have hread : fs'.read (Files.placeText place) = .ok d.content := by
    rw [Files.read_canonical (hfs.write hwritten) hpath, Files.read, hplace]
    rfl
  have hknown : C.KnowsAll 0 d.dataBlocks := by
    unfold dataBlocks
    split
    case isTrue hexisting =>
      obtain ⟨⟨id, hid⟩, id', hid'⟩ := hfound hexisting
      exact Catalog.knowsAll_cons.mpr ⟨⟨.network, id, rfl, hid⟩,
        Catalog.knowsAll_cons.mpr ⟨⟨.store, id', rfl, hid'⟩, Catalog.knowsAll_nil⟩⟩
    case isFalse => exact Catalog.knowsAll_nil
  have hquietAt : ∀ i, i < d.dataBlocks.length → k.QuietAt i := by
    intro i hi
    unfold dataBlocks at hi
    split at hi
    case isTrue hexisting =>
      obtain ⟨hfirst, hsecond⟩ := hquiet hexisting
      cases i with
      | zero => exact hfirst
      | succ i =>
          have hi : i + 1 < 2 := hi
          obtain rfl : i = 0 := by omega
          exact hsecond
    case isFalse => exact absurd hi (Nat.not_lt_zero i)
  have hload := loadFile_eq_locatedAt (C := C) (k := k) hpath hread
  rw [loadSource_content h hknown hquietAt] at hload
  refine ⟨d.resolved.locatedAt (Files.placeText place), ?_⟩
  rw [hload]
  refine ⟨rfl, rfl, fun howned => ?_, fun hexisting => ?_⟩
  · have hblocks : d.dataBlocks = [] := if_neg (by simp [howned])
    simp [Resolved.locatedAt, Run.locatedAt, resolved, document, howned, hblocks, lookupsOf]
  · have hblocks : d.dataBlocks = [⟨"network", d.network⟩, ⟨"store", d.store⟩] := if_pos hexisting
    simp only [Resolved.locatedAt, Run.locatedAt, resolved, document, hexisting, hblocks]
    exact ⟨rfl, rfl, rfl⟩

/-- The files of a site after a document is written to it. -/
def siteWith (content : String) : Files :=
  { siteFiles with
    entries := (["srv", "site", "kvmconf.hcl"], .text content) :: siteFiles.entries }

theorem created_at_site (hpath : d.path = "./kvmconf.hcl") :
    (d.create siteFiles).created = some ⟨"./kvmconf.hcl", d.content⟩ := by
  refine created_eq_some.mpr ⟨?_, ?_, ?_⟩
  · rw [hpath]
    decide
  · rw [hpath]
    rfl
  · rw [hpath]

/-- A draft whose names can all stand as they are. -/
def tower : Draft := ⟨".", "tower vm", "lan", "pool-1", false⟩

/-- Its document loads with a catalog that does not answer. -/
theorem loads_of_created_tower :
    (tower.create siteFiles).created = some ⟨"./kvmconf.hcl", tower.content⟩ ∧
      siteFiles.write? "./kvmconf.hcl" tower.content = some (siteWith tower.content) ∧
      ∃ r, tower.LoadsTo (loadFile (siteWith tower.content) "./kvmconf.hcl"
        ⟨fun _ _ _ => .error (.unavailable "no route")⟩ (.before 0)) r := by
  have hpath : tower.path = "./kvmconf.hcl" := by decide +kernel
  have hfs : siteFiles.WellFormed := .of_entries (by decide) (by decide)
  have hplain : tower.Plain :=
    ⟨by decide, by decide +kernel, by decide, by decide +kernel, by decide +kernel⟩
  have hwritten : siteFiles.write? "./kvmconf.hcl" tower.content = some (siteWith tower.content) :=
    rfl
  refine ⟨created_at_site hpath, hwritten, ?_⟩
  rw [← hpath]
  exact loads_of_created hfs hplain (created_at_site hpath) hwritten nofun nofun

/-- A draft with a network whose name no path can have: there is a blank in it. -/
def divided : Draft := ⟨".", "vm1", "my net", "pool1", false⟩

/-- Its document is created all the same, and does not load with any catalog. -/
theorem not_loads_of_created_divided :
    (divided.create siteFiles).created = some ⟨"./kvmconf.hcl", divided.content⟩ ∧
      siteFiles.write? "./kvmconf.hcl" divided.content = some (siteWith divided.content) ∧
      ∀ C k, loadFile (siteWith divided.content) "./kvmconf.hcl" C k =
        .pure (.error (.parse "/srv/site/kvmconf.hcl")) := by
  have hpath : divided.path = "./kvmconf.hcl" := by decide +kernel
  have hparse : Item.parse? divided.content = none := by
    -- the characters are spelled out line by line before anything is read
    rw [Item.parse?, content_eq]
    simp only [lines_cons, lines_append, opening, resources, vmLines, closing, reference, header,
      inQuotes, divided, Bool.false_eq_true, if_false, String.toList_append,
      String.toList_intercalate]
    decide +kernel
  refine ⟨created_at_site hpath, rfl, fun C k => ?_⟩
  have hcanonical : (siteWith divided.content).canonical "./kvmconf.hcl" =
    .ok "/srv/site/kvmconf.hcl" := rfl
  rw [loadFile_eq_locatedAt hcanonical rfl, loadSource, Document.ofSource, Document.parse, hparse]
  rfl

end Draft

end VirtEnv.Command
