import VirtEnv.Document.Decode
import VirtEnv.Proofs.Results

/-!
# Decoding — a document block by block

A body is decoded item by item.  Every item is decoded as if it stood alone, and a block of locals
must not follow another one; nothing else of a body matters to an item of it.

* `Document.foldlM_addItem_eq_ok_iff`: a body decodes when its items do and it has one block of
  locals at most, and the document collects what they declare.
* `Document.gathers_of_ofBody`: the declarations of each type are those of the blocks of the type,
  one for one and in their order.
* `Document.ofBody_eq_error_iff`: the fault of a body is that of the first item that has one.
* `Document.ofBody_blockwise`: these together, and what they say of a body whose blocks are
  reordered.
-/

namespace VirtEnv

open Hcl (Block Item)

/-! ### Blocks of a type -/

/-- The block that an item is, if it is one of the type. -/
def Hcl.Item.ofType? (type : String) : Item → Option Block
  | .attribute _ _ => none
  | .block b => if b.type = type then some b else none

/-- The blocks of a type, in their order. -/
def blocksOf (type : String) (body : List Item) : List Block := body.filterMap (Item.ofType? type)

/-! ### What a block declares -/

/-- The network that a block declares. -/
def Network.ofBlock (b : Block) : Decoded Network := do .ok ⟨← oneLabel b, .ofBody b.body⟩

/-- The store that a block declares. -/
def Store.ofBlock (b : Block) : Decoded Store := do .ok ⟨← oneLabel b, .ofBody b.body⟩

namespace Declaration

/-- The declaration that an item is. -/
def ofItem : Item → Decoded Declaration
  | .attribute key _ => Decoded.refuse (.topLevelAttribute key)
  | .block b => ofBlock b

/-- The declared variable. -/
def var? : Declaration → Option Variable
  | .variable v => some v
  | _ => none

/-- The declared locals. -/
def locals? : Declaration → Option (List (String × Hcl.Expr))
  | .locals values => some values
  | _ => none

/-- The declared network. -/
def network? : Declaration → Option Network
  | .network n => some n
  | _ => none

/-- The declared store. -/
def store? : Declaration → Option Store
  | .store s => some s
  | _ => none

/-- The declared VM. -/
def vm? : Declaration → Option Vm
  | .vm v => some v
  | _ => none

/-- The declared cluster. -/
def cluster? : Declaration → Option Cluster
  | .cluster c => some c
  | _ => none

/-- The `data` block. -/
def data? : Declaration → Option DataBlock
  | .data b => some b
  | _ => none

/-- What a block declares, by its type. -/
inductive Of (b : Block) : Declaration → Prop where
  | variable {v : Variable} : b.type = "variable" → Variable.ofBlock b = .ok v → Of b (.variable v)
  | locals {values : List (String × Hcl.Expr)} : b.type = "locals" →
      localsOfBlock b = .ok values → Of b (.locals values)
  | network {n : Network} : b.type = "network" → Network.ofBlock b = .ok n → Of b (.network n)
  | store {s : Store} : b.type = "store" → Store.ofBlock b = .ok s → Of b (.store s)
  | vm {v : Vm} : b.type = "vm" → Vm.ofBlock b = .ok v → Of b (.vm v)
  | cluster {c : Cluster} : b.type = "cluster" → Cluster.ofBlock b = .ok c → Of b (.cluster c)
  | data {d : DataBlock} : b.type = "data" → DataBlock.ofBlock b = .ok d → Of b (.data d)

theorem of_ofBlock {b : Block} {decl : Declaration} (h : ofBlock b = .ok decl) : Of b decl := by
  unfold ofBlock at h
  split at h
  case h_1 htype => obtain ⟨v, hv, ⟨⟩⟩ := bind_eq_ok.mp h; exact .variable htype hv
  case h_2 htype => obtain ⟨v, hv, ⟨⟩⟩ := bind_eq_ok.mp h; exact .locals htype hv
  case h_3 htype =>
    obtain ⟨name, hname, ⟨⟩⟩ := bind_eq_ok.mp h
    exact .network htype (by rw [Network.ofBlock, hname]; rfl)
  case h_4 htype =>
    obtain ⟨name, hname, ⟨⟩⟩ := bind_eq_ok.mp h
    exact .store htype (by rw [Store.ofBlock, hname]; rfl)
  case h_5 htype => obtain ⟨v, hv, ⟨⟩⟩ := bind_eq_ok.mp h; exact .vm htype hv
  case h_6 htype => obtain ⟨v, hv, ⟨⟩⟩ := bind_eq_ok.mp h; exact .cluster htype hv
  case h_7 htype => obtain ⟨v, hv, ⟨⟩⟩ := bind_eq_ok.mp h; exact .data htype hv
  case h_8 => cases h

end Declaration

/-- The declarations of one sort are those of the blocks of one type, each decoded in one way. -/
def Declares {α : Type} (type : String) (decode : Block → Decoded α)
    (pick : Declaration → Option α) : Prop :=
  ∀ {b decl}, Declaration.Of b decl →
    (b.type = type ∧ ∃ a, decode b = .ok a ∧ pick decl = some a) ∨
      (b.type ≠ type ∧ pick decl = none)

theorem declares_var : Declares "variable" Variable.ofBlock Declaration.var? := fun h => by
  cases h <;> simp_all [Declaration.var?]

theorem declares_locals : Declares "locals" localsOfBlock Declaration.locals? := fun h => by
  cases h <;> simp_all [Declaration.locals?]

theorem declares_network : Declares "network" Network.ofBlock Declaration.network? := fun h => by
  cases h <;> simp_all [Declaration.network?]

theorem declares_store : Declares "store" Store.ofBlock Declaration.store? := fun h => by
  cases h <;> simp_all [Declaration.store?]

theorem declares_vm : Declares "vm" Vm.ofBlock Declaration.vm? := fun h => by
  cases h <;> simp_all [Declaration.vm?]

theorem declares_cluster : Declares "cluster" Cluster.ofBlock Declaration.cluster? := fun h => by
  cases h <;> simp_all [Declaration.cluster?]

theorem declares_data : Declares "data" DataBlock.ofBlock Declaration.data? := fun h => by
  cases h <;> simp_all [Declaration.data?]

/-- The items of a body declare these declarations, one for one. -/
def DeclaredBy (body : List Item) (decls : List Declaration) : Prop :=
  List.Forall₂ (fun x decl => Declaration.ofItem x = .ok decl) body decls

/-- The blocks of a type are decoded to these, one for one. -/
def DecodedBy {α : Type} (decode : Block → Decoded α) (blocks : List Block) (as : List α) : Prop :=
  List.Forall₂ (fun b a => decode b = .ok a) blocks as

variable {body : List Item} {decls : List Declaration}

/-- The declarations of one sort are those of the blocks of its type, in their order. -/
theorem Declares.decodedBy {α : Type} {type : String} {decode : Block → Decoded α}
    {pick : Declaration → Option α} (h : Declares type decode pick)
    (hbody : DeclaredBy body decls) :
    DecodedBy decode (blocksOf type body) (decls.filterMap pick) := by
  induction hbody with
  | nil => exact .nil
  | @cons x decl body decls hx _ ih =>
      cases x with
      | «attribute» key e => cases hx
      | block b =>
          rcases h (Declaration.of_ofBlock hx) with ⟨htype, a, ha, hpick⟩ | ⟨htype, hpick⟩
          · have hb : (Item.block b).ofType? type = some b := if_pos htype
            rw [blocksOf, List.filterMap_cons_some hb, List.filterMap_cons_some hpick]
            exact .cons ha ih
          · have hb : (Item.block b).ofType? type = none := if_neg htype
            rw [blocksOf, List.filterMap_cons_none hb, List.filterMap_cons_none hpick]
            exact ih

theorem exists_declaredBy_iff :
    (∃ decls, DeclaredBy body decls) ↔ ∀ x ∈ body, ∃ decl, Declaration.ofItem x = .ok decl := by
  induction body with
  | nil => exact iff_of_true ⟨[], .nil⟩ fun _ h => nomatch h
  | cons x body ih =>
      rw [List.forall_mem_cons, ← ih]
      constructor
      · rintro ⟨_, h⟩
        cases h with
        | cons hx hbody => exact ⟨⟨_, hx⟩, _, hbody⟩
      · rintro ⟨⟨decl, hx⟩, decls, hbody⟩
        exact ⟨decl :: decls, .cons hx hbody⟩

namespace Document

/-! ### Collecting declarations -/

/-- A document with more declarations. -/
def addAll (d : Document) (decls : List Declaration) : Document := decls.foldl add d

/-- The declarations of each sort are added after those that are there. -/
theorem addAll_eq (d : Document) (decls : List Declaration) :
    d.addAll decls =
      { vars := d.vars ++ decls.filterMap Declaration.var?
        locals := (decls.filterMap Declaration.locals?).getLast?.or d.locals
        networks := d.networks ++ decls.filterMap Declaration.network?
        stores := d.stores ++ decls.filterMap Declaration.store?
        vms := d.vms ++ decls.filterMap Declaration.vm?
        clusters := d.clusters ++ decls.filterMap Declaration.cluster?
        data := d.data ++ decls.filterMap Declaration.data?
        sourcePath := d.sourcePath } := by
  induction decls generalizing d with
  | nil => simp [addAll]
  | cons decl decls ih =>
      rw [addAll, List.foldl_cons, ← addAll, ih]
      cases decl <;>
        simp [add, Declaration.var?, Declaration.locals?, Declaration.network?, Declaration.store?,
          Declaration.vm?, Declaration.cluster?, Declaration.data?, List.filterMap_cons,
          List.getLast?_cons]

/-- An item is decoded as if it stood alone, unless it is a second block of locals. -/
theorem addItem_eq (d : Document) (x : Item) :
    d.addItem x =
      if (x.ofType? "locals").isSome ∧ d.locals.isSome then Decoded.refuse .duplicateLocals
      else (Declaration.ofItem x).map d.add := by
  cases x with
  | «attribute» key e => rfl
  | block b =>
      have hmap : (do .ok (d.add (← Declaration.ofBlock b)) : Decoded Document) =
          (Declaration.ofBlock b).map d.add := by
        cases Declaration.ofBlock b <;> rfl
      by_cases htype : b.type = "locals"
      · simp [addItem, Item.ofType?, Declaration.ofItem, htype, hmap]
      · simp [addItem, Item.ofType?, Declaration.ofItem, htype, hmap]

theorem addItem_eq_ok_iff {d d' : Document} {x : Item} :
    d.addItem x = .ok d' ↔
      (∃ decl, Declaration.ofItem x = .ok decl ∧ d.add decl = d') ∧
        ¬((x.ofType? "locals").isSome ∧ d.locals.isSome) := by
  rw [addItem_eq]
  by_cases h : (x.ofType? "locals").isSome ∧ d.locals.isSome
  · simp [h, Decoded.refuse]
  · cases Declaration.ofItem x <;> simp [h, Except.map]

/-- A declaration is of locals when its item is a block of that type. -/
theorem locals_add {d : Document} {x : Item} {decl : Declaration}
    (h : Declaration.ofItem x = .ok decl) :
    ((x.ofType? "locals").isSome ∧ (d.add decl).locals.isSome) ∨
      (x.ofType? "locals" = none ∧ (d.add decl).locals = d.locals) := by
  cases x with
  | «attribute» key e => cases h
  | block b =>
      rcases declares_locals (Declaration.of_ofBlock h) with
        ⟨htype, values, -, hpick⟩ | ⟨htype, hpick⟩
      · cases decl with
        | locals _ => exact .inl ⟨by simp [Item.ofType?, htype], rfl⟩
        | _ => cases hpick
      · cases decl with
        | locals _ => cases hpick
        | _ => exact .inr ⟨if_neg htype, rfl⟩

/-- The blocks of locals that a document has taken up, and those that are to come. -/
theorem count_locals_add {d : Document} {x : Item} {decl : Declaration}
    (h : Declaration.ofItem x = .ok decl) :
    d.locals.toList.length + (blocksOf "locals" (x :: body)).length ≤ 1 ↔
      ¬((x.ofType? "locals").isSome ∧ d.locals.isSome) ∧
        (d.add decl).locals.toList.length + (blocksOf "locals" body).length ≤ 1 := by
  rcases locals_add (d := d) h with ⟨hx, hadd⟩ | ⟨hx, hadd⟩
  · obtain ⟨b, hb⟩ := Option.isSome_iff_exists.mp hx
    obtain ⟨values, hvalues⟩ := Option.isSome_iff_exists.mp hadd
    rw [blocksOf, List.filterMap_cons_some hb, ← blocksOf, hb, hvalues]
    cases d.locals with
    | none => simp [Nat.add_comm]
    | some _ => simp
  · rw [blocksOf, List.filterMap_cons_none hx, ← blocksOf, hx, hadd]
    simp

/-- **A body decodes** when its items do, and one block of locals is there at most. -/
theorem foldlM_addItem_eq_ok_iff {d d' : Document} :
    body.foldlM addItem d = .ok d' ↔
      (∃ decls, DeclaredBy body decls ∧ d.addAll decls = d') ∧
        d.locals.toList.length + (blocksOf "locals" body).length ≤ 1 := by
  induction body generalizing d with
  | nil =>
      constructor
      · rintro ⟨⟩
        exact ⟨⟨[], .nil, rfl⟩, by cases d'.locals <;> simp [blocksOf]⟩
      · rintro ⟨⟨_, ⟨⟩, rfl⟩, -⟩
        rfl
  | cons x body ih =>
      rw [List.foldlM_cons]
      constructor
      · intro h
        cases hx : d.addItem x with
        | error f => rw [hx] at h; cases h
        | ok d₁ =>
            obtain ⟨⟨decl, hdecl, rfl⟩, hlocals⟩ := addItem_eq_ok_iff.mp hx
            rw [hx] at h
            obtain ⟨⟨decls, hbody, rfl⟩, hcount⟩ := ih.mp h
            exact ⟨⟨decl :: decls, .cons hdecl hbody, rfl⟩,
              (count_locals_add hdecl).mpr ⟨hlocals, hcount⟩⟩
      · rintro ⟨⟨_, hbody, rfl⟩, hcount⟩
        cases hbody with
        | @cons _ decl _ decls hdecl hbody =>
            obtain ⟨hlocals, hcount⟩ := (count_locals_add hdecl).mp hcount
            rw [addItem_eq_ok_iff.mpr ⟨⟨decl, hdecl, rfl⟩, hlocals⟩]
            exact ih.mpr ⟨⟨decls, hbody, rfl⟩, hcount⟩

/-! ### Bodies -/

/-- A body decodes to the declarations of its items. -/
theorem ofBody_eq_ok_iff {d : Document} :
    ofBody body = .ok d ↔
      (∃ decls, DeclaredBy body decls ∧ addAll {} decls = d) ∧
        (blocksOf "locals" body).length ≤ 1 := by
  rw [ofBody, foldlM_addItem_eq_ok_iff]
  simp

theorem exists_ofBody_singleton_iff {x : Item} :
    (∃ d, ofBody [x] = .ok d) ↔ ∃ decl, Declaration.ofItem x = .ok decl := by
  have hcount : (blocksOf "locals" [x]).length ≤ 1 := List.length_filterMap_le _ _
  simp only [ofBody_eq_ok_iff, hcount, and_true]
  constructor
  · rintro ⟨d, decls, hx, -⟩
    cases hx with
    | cons hx _ => exact ⟨_, hx⟩
  · rintro ⟨decl, hx⟩
    exact ⟨_, [decl], .cons hx .nil, rfl⟩

/-- A body decodes exactly when it has no attribute, each of its blocks decodes alone, and one block
of locals is there at most. -/
theorem exists_ofBody_iff :
    (∃ d, ofBody body = .ok d) ↔
      (∀ key e, Item.attribute key e ∉ body) ∧
        (∀ b, Item.block b ∈ body → ∃ d, ofBody [.block b] = .ok d) ∧
        (blocksOf "locals" body).length ≤ 1 := by
  have hitems : (∃ decls, DeclaredBy body decls) ↔
      (∀ key e, Item.attribute key e ∉ body) ∧
        ∀ b, Item.block b ∈ body → ∃ d, ofBody [.block b] = .ok d := by
    rw [exists_declaredBy_iff]
    constructor
    · intro h
      refine ⟨fun key e hmem => ?_, fun b hb => exists_ofBody_singleton_iff.mpr (h _ hb)⟩
      obtain ⟨_, hdecl⟩ := h _ hmem
      cases hdecl
    · rintro ⟨hattributes, hblocks⟩ x hx
      cases x with
      | «attribute» key e => exact absurd hx (hattributes key e)
      | block b => exact exists_ofBody_singleton_iff.mp (hblocks b hx)
  rw [← and_assoc, ← hitems]
  simp only [ofBody_eq_ok_iff]
  constructor
  · rintro ⟨_, ⟨decls, hbody, -⟩, hcount⟩
    exact ⟨⟨decls, hbody⟩, hcount⟩
  · rintro ⟨⟨decls, hbody⟩, hcount⟩
    exact ⟨_, ⟨decls, hbody, rfl⟩, hcount⟩

/-- A document gathers the blocks of a body: the declarations of each type are those of the blocks
of the type, one for one and in their order, and there are locals if there is a block of them. -/
structure Gathers (body : List Item) (d : Document) : Prop where
  vars : DecodedBy Variable.ofBlock (blocksOf "variable" body) d.vars
  locals : DecodedBy localsOfBlock (blocksOf "locals" body) d.locals.toList
  networks : DecodedBy Network.ofBlock (blocksOf "network" body) d.networks
  stores : DecodedBy Store.ofBlock (blocksOf "store" body) d.stores
  vms : DecodedBy Vm.ofBlock (blocksOf "vm" body) d.vms
  clusters : DecodedBy Cluster.ofBlock (blocksOf "cluster" body) d.clusters
  data : DecodedBy DataBlock.ofBlock (blocksOf "data" body) d.data
  sourcePath : d.sourcePath = none

/-- **A document that is decoded gathers the blocks of its body.** -/
theorem gathers_of_ofBody {d : Document} (h : ofBody body = .ok d) : Gathers body d := by
  obtain ⟨⟨decls, hbody, rfl⟩, hcount⟩ := ofBody_eq_ok_iff.mp h
  have hlocals := declares_locals.decodedBy hbody
  rw [hlocals.length_eq] at hcount
  have hone : (decls.filterMap Declaration.locals?).getLast?.toList =
      decls.filterMap Declaration.locals? := by
    match decls.filterMap Declaration.locals?, hcount with
    | [], _ | [_], _ => rfl
    | _ :: _ :: _, hcount => simp at hcount
  rw [addAll_eq]
  exact {
    vars := declares_var.decodedBy hbody
    locals := by rwa [Option.or_none, hone]
    networks := declares_network.decodedBy hbody
    stores := declares_store.decodedBy hbody
    vms := declares_vm.decodedBy hbody
    clusters := declares_cluster.decodedBy hbody
    data := declares_data.decodedBy hbody
    sourcePath := rfl }

theorem DecodedBy.unique {α : Type} {decode : Block → Decoded α} {blocks : List Block}
    {as as' : List α} (h : DecodedBy decode blocks as) (h' : DecodedBy decode blocks as') :
    as = as' := by
  induction h generalizing as' with
  | nil => cases h'; rfl
  | cons ha _ ih =>
      cases h' with
      | cons ha' h' => rw [Except.ok.inj (ha.symm.trans ha'), ih h']

/-- Bodies of the same blocks of each type are gathered by one document only. -/
theorem Gathers.unique {body' : List Item} {d d' : Document} (h : Gathers body d)
    (h' : Gathers body' d') (htypes : ∀ type, blocksOf type body' = blocksOf type body) :
    d' = d := by
  have hlocals : d'.locals = d.locals := by
    have hlist := congrArg List.head? (DecodedBy.unique h'.locals (htypes _ ▸ h.locals))
    rwa [Option.head?_toList, Option.head?_toList] at hlist
  obtain ⟨vars, locals, networks, stores, vms, clusters, data, sourcePath⟩ := d
  obtain ⟨vars', locals', networks', stores', vms', clusters', data', sourcePath'⟩ := d'
  simp only [mk.injEq]
  exact ⟨DecodedBy.unique h'.vars (htypes _ ▸ h.vars), hlocals,
    DecodedBy.unique h'.networks (htypes _ ▸ h.networks),
    DecodedBy.unique h'.stores (htypes _ ▸ h.stores),
    DecodedBy.unique h'.vms (htypes _ ▸ h.vms),
    DecodedBy.unique h'.clusters (htypes _ ▸ h.clusters),
    DecodedBy.unique h'.data (htypes _ ▸ h.data), h'.sourcePath.trans h.sourcePath.symm⟩

/-! ### The first fault -/

/-- The fault of an item after those `before` it: a second block of locals is one too many,
whatever it contains, and any other item has the fault that it has alone. -/
def faultAfter (before : List Item) (x : Item) : Option DecodeFailure :=
  if (x.ofType? "locals").isSome ∧ blocksOf "locals" before ≠ [] then
    some (.fault .duplicateLocals)
  else
    match ofBody [x] with
    | .ok _ => none
    | .error f => some f

theorem addItem_eq_error_iff {before : List Item} {d : Document} {x : Item} {f : DecodeFailure}
    (h : ofBody before = .ok d) : d.addItem x = .error f ↔ faultAfter before x = some f := by
  have hlocals : d.locals.isSome ↔ blocksOf "locals" before ≠ [] := by
    have hlen := (gathers_of_ofBody h).locals.length_eq
    rw [← List.length_pos_iff, hlen]
    cases d.locals <;> simp
  have halone : ofBody [x] = (Declaration.ofItem x).map (add {}) := by
    show addItem {} x >>= _ = _
    rw [addItem_eq, if_neg (by simp)]
    cases Declaration.ofItem x <;> rfl
  simp only [addItem_eq, faultAfter, hlocals, halone]
  split
  · simp [Decoded.refuse]
  · cases Declaration.ofItem x <;> simp [Except.map]

/-- **The fault of a body** is that of the first item that has one. -/
theorem ofBody_eq_error_iff {f : DecodeFailure} :
    ofBody body = .error f ↔
      ∃ before x after, body = before ++ x :: after ∧ (∃ d, ofBody before = .ok d) ∧
        faultAfter before x = some f := by
  rw [ofBody, foldlM_eq_error_iff]
  constructor
  · rintro ⟨before, x, after, d, hbody, hbefore, hx⟩
    exact ⟨before, x, after, hbody, ⟨d, hbefore⟩, (addItem_eq_error_iff hbefore).mp hx⟩
  · rintro ⟨before, x, after, hbody, ⟨d, hbefore⟩, hx⟩
    exact ⟨before, x, after, d, hbody, hbefore, (addItem_eq_error_iff hbefore).mpr hx⟩

/-! ### Block by block -/

/-- A body is decoded block by block. -/
structure Blockwise (body : List Item) : Prop where
  /-- It decodes exactly when it has no attribute, each of its blocks decodes alone, and one block
  of locals is there at most. -/
  accepted : (∃ d, ofBody body = .ok d) ↔
    (∀ key e, Item.attribute key e ∉ body) ∧
      (∀ b, Item.block b ∈ body → ∃ d, ofBody [.block b] = .ok d) ∧
      (blocksOf "locals" body).length ≤ 1
  /-- The document then gathers its blocks, type by type. -/
  gathered : ∀ d, ofBody body = .ok d → Gathers body d
  /-- So the order of blocks of different types does not matter. -/
  reordered : ∀ d body', ofBody body = .ok d → body'.Perm body →
    (∀ type, blocksOf type body' = blocksOf type body) → ofBody body' = .ok d
  /-- Otherwise its fault is that of the first item that has one. -/
  refused : ∀ f, ofBody body = .error f ↔
    ∃ before x after, body = before ++ x :: after ∧ (∃ d, ofBody before = .ok d) ∧
      faultAfter before x = some f

theorem ofBody_of_perm {body' : List Item} {d : Document} (h : ofBody body = .ok d)
    (hperm : body'.Perm body) (htypes : ∀ type, blocksOf type body' = blocksOf type body) :
    ofBody body' = .ok d := by
  obtain ⟨hattributes, hblocks, hcount⟩ := exists_ofBody_iff.mp ⟨d, h⟩
  obtain ⟨d', hd'⟩ : ∃ d', ofBody body' = .ok d' :=
    exists_ofBody_iff.mpr ⟨fun key e hmem => hattributes key e (hperm.mem_iff.mp hmem),
      fun b hb => hblocks b (hperm.mem_iff.mp hb), htypes _ ▸ hcount⟩
  rw [hd', (gathers_of_ofBody h).unique (gathers_of_ofBody hd') htypes]

/-- **A document is decoded block by block**, and nothing of its body is lost. -/
theorem ofBody_blockwise (body : List Item) : Blockwise body where
  accepted := exists_ofBody_iff
  gathered _ := gathers_of_ofBody
  reordered _ _ := ofBody_of_perm
  refused _ := ofBody_eq_error_iff

end Document

end VirtEnv
