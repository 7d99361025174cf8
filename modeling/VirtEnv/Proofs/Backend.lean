import VirtEnv.Proofs.Integrity
import VirtEnv.Proofs.Location

/-!
# Backend attributes — carried through whole, and never looked at

What a network, a store or a VM says to its backend is kept as it is written: the attributes in
their order, none of them evaluated, and the nested blocks.  Of the attributes of a VM two are not
for the backend, its references `network` and `store`.

Nothing that a load does depends on the rest.  The bare form of a body, a document or a resolved
document is what is left when everything for the backend is taken away.  Each stage of a load takes
bare forms to bare forms: what it makes of the bare form is the bare form of what it makes.

* `Attributes.ofBody_eq`: the attributes of a body without repeated keys are its own.
* `Document.ofBody_bare`, `Document.resolve_bare`: decoding and resolving commute with the bare
  form.
* `backend_untouched`: what is for the backend is carried through whole, and two documents that
  differ in nothing else load alike.
-/

namespace VirtEnv

open Hcl (Block Expr Item Label)

/-! ### What a body carries -/

/-- The key and the expression of an attribute. -/
def Hcl.Item.entry? : Item → Option (String × Expr)
  | .attribute key e => some (key, e)
  | .block _ => none

/-- The block that an item is. -/
def Hcl.Item.block? : Item → Option Block
  | .attribute _ _ => none
  | .block b => some b

/-- An attribute `network` or `store`, which in a VM is a reference. -/
def Hcl.Item.isReference : Item → Bool
  | .attribute key _ => key == "network" || key == "store"
  | .block _ => false

/-- The attributes of a body, in their order. -/
def entriesOf (body : List Item) : List (String × Expr) := body.filterMap Item.entry?

/-- The blocks in a body, in their order. -/
def nestedIn (body : List Item) : List Block := body.filterMap Item.block?

/-- No key is there twice. -/
def DistinctKeys (body : List Item) : Prop := ((entriesOf body).map (·.1)).Nodup

instance (body : List Item) : Decidable (DistinctKeys body) :=
  inferInstanceAs (Decidable (List.Nodup _))

/-- The items of a VM that are for its backend. -/
def backendOf (body : List Item) : List Item := body.filter (!·.isReference)

section Keys

variable {α : Type}

theorem Hcl.setKey_of_not_mem {fields : List (String × α)} {key : String} {a : α}
    (h : key ∉ fields.map (·.1)) : setKey fields key a = fields ++ [(key, a)] := by
  induction fields with
  | nil => rfl
  | cons p fields ih =>
      obtain ⟨hp, hfields⟩ := not_or.mp (mt List.mem_cons.mpr h)
      have hne : (p.1 == key) = false := beq_eq_false_iff_ne.mpr (Ne.symm hp)
      rw [setKey, hne, ih hfields]
      rfl

/-- Keys that are new and distinct are added at the end, one after the other. -/
theorem Hcl.setKeys_of_nodup {fields pairs : List (String × α)}
    (h : ((fields ++ pairs).map (·.1)).Nodup) : setKeys fields pairs = fields ++ pairs := by
  induction pairs generalizing fields with
  | nil => exact (List.append_nil _).symm
  | cons p pairs ih =>
      have hnew : p.1 ∉ fields.map (·.1) := by
        intro hmem
        rw [List.map_append, List.map_cons] at h
        exact (List.nodup_append.mp h).2.2 p.1 hmem p.1 List.mem_cons_self rfl
      have hrest : ((fields ++ [p] ++ pairs).map (·.1)).Nodup := by
        rwa [List.append_assoc, List.singleton_append]
      rw [setKeys, List.foldl_cons, ← setKeys, setKey_of_not_mem hnew, ih hrest,
        List.append_assoc, List.singleton_append]

end Keys

/-- Takes up an item for the backend. -/
def Attributes.add (a : Attributes) : Item → Attributes
  | .attribute key e => { a with values := Hcl.setKey a.values key e }
  | .block b => { a with blocks := a.blocks ++ [b] }

namespace Attributes

theorem foldl_add (body : List Item) (a : Attributes) :
    body.foldl add a =
      { values := Hcl.setKeys a.values (entriesOf body), blocks := a.blocks ++ nestedIn body } := by
  induction body generalizing a with
  | nil => simp [entriesOf, nestedIn, Hcl.setKeys]
  | cons x body ih =>
      rw [List.foldl_cons, ih]
      cases x with
      | «attribute» key e => rfl
      | block b =>
          have hblocks : (a.blocks ++ [b]) ++ nestedIn body = a.blocks ++ b :: nestedIn body := by
            rw [List.append_assoc, List.singleton_append]
          exact congrArg (mk _) hblocks

theorem ofBody_eq_foldl (body : List Item) : ofBody body = body.foldl add {} := rfl

/-- **The attributes of a body without repeated keys are its own**, and so are its blocks. -/
theorem ofBody_eq {body : List Item} (h : DistinctKeys body) :
    ofBody body = { values := entriesOf body, blocks := nestedIn body } := by
  have hkeys : Hcl.setKeys [] (entriesOf body) = entriesOf body := Hcl.setKeys_of_nodup h
  rw [ofBody_eq_foldl, foldl_add, hkeys]
  rfl

end Attributes

namespace Vm

/-- An item for the backend is taken up with the attributes, and with nothing else. -/
theorem add_of_backend {x : Item} (h : x.isReference = false) (v : Vm) :
    v.add x = { v with attributes := v.attributes.add x } := by
  unfold add
  split
  case h_1 | h_2 => cases h
  case h_3 | h_4 => rfl

/-- A reference leaves name and attributes as they are. -/
theorem add_of_reference {x : Item} (h : x.isReference = true) (v : Vm) :
    (v.add x).name = v.name ∧ (v.add x).attributes = v.attributes := by
  unfold add
  split
  case h_1 | h_2 => exact ⟨rfl, rfl⟩
  case h_3 key _ hnetwork hstore => simp_all [Item.isReference]
  case h_4 => cases h

theorem foldl_add (body : List Item) (v : Vm) :
    (body.foldl add v).name = v.name ∧
      (body.foldl add v).attributes = (backendOf body).foldl Attributes.add v.attributes := by
  induction body generalizing v with
  | nil => exact ⟨rfl, rfl⟩
  | cons x body ih =>
      obtain ⟨hname, hattributes⟩ := ih (v.add x)
      rw [List.foldl_cons, hname, hattributes]
      cases hx : x.isReference with
      | true =>
          have hbackend : backendOf (x :: body) = backendOf body :=
            List.filter_cons_of_neg (by simp [hx])
          rw [hbackend, (add_of_reference hx v).1, (add_of_reference hx v).2]
          exact ⟨rfl, rfl⟩
      | false =>
          have hbackend : backendOf (x :: body) = x :: backendOf body :=
            List.filter_cons_of_pos (by simp [hx])
          rw [hbackend, add_of_backend hx]
          exact ⟨rfl, rfl⟩

end Vm

/-- A block has one label, and carries items for the backend. -/
structure Carries (b : Block) (items : List Item) (name : String) (a : Attributes) : Prop where
  label : b.labels.map Label.value = [name]
  values : a.values = entriesOf items
  blocks : a.blocks = nestedIn items

/-- What the blocks of a body carry for the backend is in a resolved document, whole and in its
order. -/
structure CarriesWhole (body : List Item) (r : Resolved) : Prop where
  networks : List.Forall₂ (fun b n => Carries b b.body n.name n.attributes)
    (blocksOf "network" body) r.networks
  stores : List.Forall₂ (fun b s => Carries b b.body s.name s.attributes)
    (blocksOf "store" body) r.stores
  vms : List.Forall₂ (fun b v => Carries b (backendOf b.body) v.name v.attributes)
    (blocksOf "vm" body) r.vms
  /-- The references of a VM are not among its attributes. -/
  apart : ∀ v ∈ r.vms, ∀ p ∈ v.attributes.values, p.1 ≠ "network" ∧ p.1 ≠ "store"

namespace Vm

theorem keys_backendOf {body : List Item} {p : String × Expr} (h : p ∈ entriesOf (backendOf body)) :
    p.1 ≠ "network" ∧ p.1 ≠ "store" := by
  obtain ⟨x, hx, hp⟩ := List.mem_filterMap.mp h
  have hbackend : x.isReference = false := by simpa using (List.mem_filter.mp hx).2
  cases x with
  | «attribute» key e =>
      cases hp
      simpa [Item.isReference] using hbackend
  | block b => cases hp

end Vm

theorem DistinctKeys.backendOf {body : List Item} (h : DistinctKeys body) :
    DistinctKeys (backendOf body) := by
  have hsub : (entriesOf (VirtEnv.backendOf body)).Sublist (entriesOf body) :=
    List.filter_sublist.filterMap _
  exact h.sublist (hsub.map _)

theorem oneLabel_eq_ok {b : Block} {name : String} (h : oneLabel b = .ok name) :
    b.labels.map Label.value = [name] := by
  unfold oneLabel at h
  split at h
  case h_1 hlabels => cases h; rw [hlabels]; rfl
  case h_2 => cases h

theorem Network.carries_of_ofBlock {b : Block} {n : Network} (hkeys : DistinctKeys b.body)
    (h : Network.ofBlock b = .ok n) : Carries b b.body n.name n.attributes := by
  obtain ⟨name, hname, h⟩ := bind_eq_ok.mp h
  cases h
  rw [Attributes.ofBody_eq hkeys]
  exact ⟨oneLabel_eq_ok hname, rfl, rfl⟩

theorem Store.carries_of_ofBlock {b : Block} {s : Store} (hkeys : DistinctKeys b.body)
    (h : Store.ofBlock b = .ok s) : Carries b b.body s.name s.attributes := by
  obtain ⟨name, hname, h⟩ := bind_eq_ok.mp h
  cases h
  rw [Attributes.ofBody_eq hkeys]
  exact ⟨oneLabel_eq_ok hname, rfl, rfl⟩

theorem Vm.carries_of_ofBlock {b : Block} {v : Vm} (hkeys : DistinctKeys b.body)
    (h : Vm.ofBlock b = .ok v) : Carries b (backendOf b.body) v.name v.attributes := by
  obtain ⟨name, hname, h⟩ := bind_eq_ok.mp h
  cases h
  obtain ⟨hv, hattributes⟩ := Vm.foldl_add b.body { name }
  rw [hv, hattributes, ← Attributes.ofBody_eq_foldl, Attributes.ofBody_eq hkeys.backendOf]
  exact ⟨oneLabel_eq_ok hname, rfl, rfl⟩

theorem Hcl.Item.block_mem_of_mem_blocksOf {type : String} {body : List Item} {b : Block}
    (h : b ∈ blocksOf type body) : Item.block b ∈ body := by
  obtain ⟨x, hx, hb⟩ := List.mem_filterMap.mp h
  cases x with
  | «attribute» key e => cases hb
  | block b' =>
      obtain ⟨-, rfl⟩ : b'.type = type ∧ b' = b := by simpa [Item.ofType?] using hb
      exact hx

/-- What one block carries, every block of its type carries. -/
theorem carries_of_decodedBy {α : Type} {type : String} {decode : Block → Decoded α}
    {R : Block → α → Prop} {body : List Item} {as : List α}
    (hkeys : ∀ b, Item.block b ∈ body → DistinctKeys b.body)
    (hR : ∀ {b a}, DistinctKeys b.body → decode b = .ok a → R b a)
    (h : DecodedBy decode (blocksOf type body) as) : List.Forall₂ R (blocksOf type body) as := by
  have hdistinct : ∀ b ∈ blocksOf type body, DistinctKeys b.body :=
    fun b hb => hkeys b (Item.block_mem_of_mem_blocksOf hb)
  exact ((List.forall₂_and_left _ _).mpr ⟨hdistinct, h⟩).imp fun _ _ ⟨hb, ha⟩ => hR hb ha

/-- **What is for the backend is carried through whole** by a load that succeeds. -/
theorem carriesWhole_of_loadBody {path? : Option String} {body : List Item} {C : Catalog}
    {k : Cancellation} {r : Resolved}
    (hkeys : ∀ b, Item.block b ∈ body → DistinctKeys b.body)
    (h : (loadBody path? body C k).result = .ok r) : CarriesWhole body r := by
  cases hd : Document.ofBody body with
  | error f => simp only [loadBody, Document.ofItems, hd] at h; cases h
  | ok d =>
      simp only [loadBody, Document.ofItems, hd] at h
      obtain ⟨-, rfl, -⟩ := Document.resolve_eq_ok h
      have hgathers := Document.gathers_of_ofBody hd
      have hvms := carries_of_decodedBy hkeys Vm.carries_of_ofBlock hgathers.vms
      -- resolving a VM binds its references, and leaves its name and its attributes
      have hbound : List.Forall₂ (fun b (v : ResolvedVm) => Carries b (backendOf b.body) v.name
          v.attributes) (blocksOf "vm" body)
          (d.vms.map (Document.resolvedVm { d with sourcePath := path? })) :=
        List.forall₂_map_right_iff.mpr hvms
      exact {
        networks := carries_of_decodedBy hkeys Network.carries_of_ofBlock hgathers.networks
        stores := carries_of_decodedBy hkeys Store.carries_of_ofBlock hgathers.stores
        vms := hbound
        apart := forall_of_forall₂ (fun h p hp => Vm.keys_backendOf (h.values ▸ hp)) hbound }

/-! ### The bare form -/

/-- A block without what is for the backend. -/
def Hcl.Block.bare (b : Block) : Block :=
  if b.type = "network" ∨ b.type = "store" then ⟨b.type, b.labels, []⟩
  else if b.type = "vm" then ⟨b.type, b.labels, b.body.filter Item.isReference⟩
  else b

theorem Hcl.Block.type_bare (b : Block) : b.bare.type = b.type := by
  unfold bare
  split
  case isTrue => rfl
  case isFalse => split <;> rfl

/-- An item without what is for the backend. -/
def Hcl.Item.bare : Item → Item
  | .attribute key e => .attribute key e
  | .block b => .block b.bare

/-- A network without its attributes. -/
def Network.bare (n : Network) : Network := { n with attributes := {} }

/-- A store without its attributes. -/
def Store.bare (s : Store) : Store := { s with attributes := {} }

/-- A VM without its attributes. -/
def Vm.bare (v : Vm) : Vm := { v with attributes := {} }

/-- A declaration without attributes for the backend. -/
def Declaration.bare : Declaration → Declaration
  | .network n => .network n.bare
  | .store s => .store s.bare
  | .vm v => .vm v.bare
  | decl => decl

/-- A document without attributes for the backend. -/
def Document.bare (d : Document) : Document :=
  { d with
    networks := d.networks.map Network.bare
    stores := d.stores.map Store.bare
    vms := d.vms.map Vm.bare }

/-- A resolved VM without its attributes. -/
def ResolvedVm.bare (v : ResolvedVm) : ResolvedVm := { v with attributes := {} }

/-- A resolved document without attributes for the backend. -/
def Resolved.bare (r : Resolved) : Resolved :=
  { r with
    networks := r.networks.map Network.bare
    stores := r.stores.map Store.bare
    vms := r.vms.map ResolvedVm.bare }

/-- A load without the attributes for the backend in what it gives. -/
def Run.bare (run : Run Resolved) : Run Resolved := ⟨run.result.map Resolved.bare, run.lookups⟩

/-! ### Decoding -/

theorem Vm.bare_add_of_reference {x : Item} (h : x.isReference = true) (v : Vm) :
    v.bare.add x = (v.add x).bare := by
  unfold add
  split
  case h_1 | h_2 => rfl
  case h_3 key _ hnetwork hstore => simp_all [Item.isReference]
  case h_4 => cases h

/-- A VM has the references of its body, whatever else is there. -/
theorem Vm.bare_foldl_add (body : List Item) (v : Vm) :
    (body.filter Item.isReference).foldl add v.bare = (body.foldl add v).bare := by
  induction body generalizing v with
  | nil => rfl
  | cons x body ih =>
      rw [List.foldl_cons, ← ih]
      cases hx : x.isReference with
      | true => rw [List.filter_cons_of_pos hx, List.foldl_cons, bare_add_of_reference hx]
      | false =>
          rw [List.filter_cons_of_neg (by simp [hx]), add_of_backend hx]
          rfl

theorem Vm.ofBlock_bare (type : String) (labels : List Label) (body : List Item) :
    Vm.ofBlock ⟨type, labels, body.filter Item.isReference⟩ =
      (Vm.ofBlock ⟨type, labels, body⟩).map Vm.bare := by
  have hlabel : oneLabel ⟨type, labels, body.filter Item.isReference⟩ =
      oneLabel ⟨type, labels, body⟩ := rfl
  rw [ofBlock, ofBlock, hlabel]
  cases oneLabel ⟨type, labels, body⟩ with
  | error f => rfl
  | ok name => exact congrArg Except.ok (bare_foldl_add body { name })

namespace Declaration

theorem bare_of_of {b : Block} {decl : Declaration} (h : Of b decl)
    (hresource : ¬(b.type = "network" ∨ b.type = "store")) (hvm : b.type ≠ "vm") :
    decl.bare = decl := by
  cases h with
  | network htype _ => exact absurd (.inl htype) hresource
  | store htype _ => exact absurd (.inr htype) hresource
  | vm htype _ => exact absurd htype hvm
  | «variable» | locals | cluster | data => rfl

/-- Of a network or store only the label is decoded, and it does not depend on the body. -/
theorem ofLabel_bare {type : String} {labels : List Label} {body : List Item}
    (make : String → Attributes → Declaration)
    (hmake : ∀ name a, (make name a).bare = make name {}) :
    (do .ok (make (← oneLabel ⟨type, labels, []⟩) {}) : Decoded Declaration) =
      (do .ok (make (← oneLabel ⟨type, labels, body⟩) (.ofBody body)) : Decoded Declaration).map
        bare := by
  have hlabel : oneLabel ⟨type, labels, []⟩ = oneLabel ⟨type, labels, body⟩ := rfl
  rw [hlabel]
  cases oneLabel ⟨type, labels, body⟩ with
  | error f => rfl
  | ok name => exact congrArg Except.ok (hmake name _).symm

/-- The bare form of a block declares the bare form of what the block declares. -/
theorem ofBlock_bare (b : Block) : ofBlock b.bare = (ofBlock b).map bare := by
  unfold Hcl.Block.bare
  split
  case isTrue hresource =>
    obtain ⟨type, labels, body⟩ := b
    obtain rfl | rfl : type = "network" ∨ type = "store" := hresource
    · exact ofLabel_bare (fun name a => .network ⟨name, a⟩) fun _ _ => rfl
    · exact ofLabel_bare (fun name a => .store ⟨name, a⟩) fun _ _ => rfl
  case isFalse hresource =>
    split
    case isTrue htype =>
      obtain ⟨type, labels, body⟩ := b
      obtain rfl : type = "vm" := htype
      show (Vm.ofBlock _ >>= _) = (Vm.ofBlock _ >>= _).map _
      rw [Hcl.Block.type, Hcl.Block.labels, Hcl.Block.body, Vm.ofBlock_bare]
      cases Vm.ofBlock ⟨"vm", labels, body⟩ <;> rfl
    case isFalse hvm =>
      cases hb : ofBlock b with
      | error f => rfl
      | ok decl => exact congrArg Except.ok (bare_of_of (of_ofBlock hb) hresource hvm).symm

theorem ofItem_bare (x : Item) : ofItem x.bare = (ofItem x).map bare := by
  cases x with
  | «attribute» key e => rfl
  | block b => exact ofBlock_bare b

end Declaration

namespace Document

theorem bare_add (d : Document) (decl : Declaration) :
    d.bare.add decl.bare = (d.add decl).bare := by
  cases decl <;> simp [add, bare, Declaration.bare]

theorem bare_addItem (d : Document) (x : Item) :
    d.bare.addItem x.bare = (d.addItem x).map bare := by
  have htype : (x.bare.ofType? "locals").isSome = (x.ofType? "locals").isSome := by
    cases x with
    | «attribute» key e => rfl
    | block b => simp only [Item.bare, Item.ofType?, Hcl.Block.type_bare]; split <;> rfl
  have hlocals : d.bare.locals = d.locals := rfl
  rw [addItem_eq, addItem_eq, htype, hlocals]
  split
  · rfl
  · rw [Declaration.ofItem_bare]
    cases Declaration.ofItem x with
    | error f => rfl
    | ok decl => exact congrArg Except.ok (bare_add d decl)

/-- **The bare form of a body is decoded to the bare form of its document.** -/
theorem ofBody_bare (body : List Item) : ofBody (body.map Item.bare) = (ofBody body).map bare :=
  foldlM_image bare_addItem body {}

theorem ofItems_bare (path? : Option String) (body : List Item) :
    ofItems path? (body.map Item.bare) = (ofItems path? body).map bare := by
  rw [ofItems, ofItems, ofBody_bare]
  cases ofBody body <;> rfl

end Document

/-! ### Resolution -/

theorem Resolve.vm_bare (i : Index) (n : Namespace) (v : Vm) :
    vm i n v.bare = (vm i n v).map ResolvedVm.bare := by
  have hnetwork : reference i n .network (.vm v.bare.name) .network v.bare.network =
      reference i n .network (.vm v.name) .network v.network := rfl
  have hstore : reference i n .store (.vm v.bare.name) .store v.bare.store =
      reference i n .store (.vm v.name) .store v.store := rfl
  rw [vm, vm, hnetwork, hstore]
  cases reference i n .network (.vm v.name) .network v.network with
  | error e => rfl
  | ok network => cases reference i n .store (.vm v.name) .store v.store <;> rfl

theorem Resolve.document_bare (d : Document) (i : Index) (n : Namespace) :
    document d.bare i n = (document d i n).map Resolved.bare := by
  have hvms : d.bare.vms.mapM (vm i n) = (d.vms.mapM (vm i n)).map (List.map ResolvedVm.bare) :=
    mapM_image (vm_bare i n) d.vms
  rw [document, document, hvms]
  cases d.vms.mapM (vm i n) with
  | error e => rfl
  | ok vms =>
      show d.clusters.mapM (cluster i n) >>= _ = (d.clusters.mapM (cluster i n) >>= _).map _
      cases d.clusters.mapM (cluster i n) <;> rfl

namespace Document

theorem index_bare (d : Document) : Index.build d.bare = Index.build d := by
  have hnetworks : d.bare.networks.map (·.name) = d.networks.map (·.name) := List.map_map
  have hstores : d.bare.stores.map (·.name) = d.stores.map (·.name) := List.map_map
  have hvms : d.bare.vms.map (·.name) = d.vms.map (·.name) := List.map_map
  rw [Index.build, Index.build, hnetworks, hstores, hvms]
  rfl

/-- **The bare form of a document is resolved to the bare form of what the document is resolved
to**, with the same lookups. -/
theorem resolve_bare (d : Document) (C : Catalog) (k : Cancellation) :
    d.bare.resolve C k = (d.resolve C k).bare :=
  resolve_image (index_bare d) (fun _ => rfl) (Resolve.document_bare d)

end Document

/-- The bare form of a body is loaded to the bare form of what the body is loaded to. -/
theorem loadBody_bare (path? : Option String) (body : List Item) (C : Catalog) (k : Cancellation) :
    loadBody path? (body.map Item.bare) C k = (loadBody path? body C k).bare := by
  rw [loadBody, loadBody, Document.ofItems_bare]
  cases Document.ofItems path? body with
  | error e => rfl
  | ok d => exact Document.resolve_bare d C k

/-! ### Noninterference -/

/-- A load leaves what is for the backend untouched: it neither changes nor reads it. -/
structure Untouched (C : Catalog) (k : Cancellation) : Prop where
  /-- A load that succeeds carries it through whole. -/
  carried : ∀ path? body r, (∀ b, Item.block b ∈ body → DistinctKeys b.body) →
    (loadBody path? body C k).result = .ok r → CarriesWhole body r
  /-- Documents that differ in nothing else make the same lookups, and fail with the same error or
  succeed with resolved documents that differ in nothing else. -/
  documents : ∀ d d' : Document, d'.bare = d.bare → (d'.resolve C k).bare = (d.resolve C k).bare
  /-- So do bodies, in a file or not, and with them texts. -/
  bodies : ∀ path? body body', body'.map Item.bare = body.map Item.bare →
    (loadBody path? body' C k).bare = (loadBody path? body C k).bare
  texts : ∀ source source' body body', Item.parse? source = some body →
    Item.parse? source' = some body' → body'.map Item.bare = body.map Item.bare →
    (loadSource source' C k).bare = (loadSource source C k).bare

/-- **What is for the backend is carried through whole, and nothing depends on it.** -/
theorem backend_untouched (C : Catalog) (k : Cancellation) : Untouched C k where
  carried _ _ _ := carriesWhole_of_loadBody
  documents d d' h := by rw [← Document.resolve_bare, ← Document.resolve_bare, h]
  bodies path? body body' h := by rw [← loadBody_bare, ← loadBody_bare, h]
  texts source source' body body' hread hread' h := by
    rw [loadSource_of_parse hread, loadSource_of_parse hread', ← loadBody_bare, ← loadBody_bare, h]

/-- The body of a document whose attributes for the backend refer to nothing that is there. -/
def diskBody : List Item :=
  [.block ⟨"network", [.text "lan"], [.attribute "bridge" (.variable "nowhere")]⟩,
    .block ⟨"data", [.text "store", .text "images"], []⟩,
    .block ⟨"vm", [.text "web1"],
      [.attribute "disk" (.traversal (.variable "store") [.member "none"]),
        .attribute "network" (.string "lan"), .block ⟨"tap", [], []⟩,
        .attribute "store" (.traversal (.variable "data") [.member "store", .member "images"]),
        .attribute "cpu" (.variable "nowhere")]⟩]

/-- The body without these attributes. -/
def disklessBody : List Item :=
  [.block ⟨"network", [.text "lan"], []⟩, .block ⟨"data", [.text "store", .text "images"], []⟩,
    .block ⟨"vm", [.text "web1"],
      [.attribute "network" (.string "lan"),
        .attribute "store" (.traversal (.variable "data") [.member "store", .member "images"])]⟩]

/-- What the body is resolved to. -/
def diskResolved : Resolved where
  sourcePath := none
  networks := [⟨"lan", { values := [("bridge", .variable "nowhere")] }⟩]
  stores := []
  vms := [{ name := "web1"
            network := "lan"
            store := "images"
            attributes := { values := [("disk", .traversal (.variable "store") [.member "none"]),
                              ("cpu", .variable "nowhere")]
                            blocks := [⟨"tap", [], []⟩] } }]
  clusters := []

/-- The body loads with what is for the backend, and without it makes the same lookup. -/
theorem backend_untouched_disk :
    (loadBody none diskBody (.steady fun _ _ => .ok (some 7)) .never).result = .ok diskResolved ∧
      CarriesWhole diskBody diskResolved ∧
      (loadBody none disklessBody (.steady fun _ _ => .ok (some 7)) .never).bare =
        ⟨.ok diskResolved.bare, [⟨.store, "images"⟩]⟩ := by
  have hload : (loadBody none diskBody (.steady fun _ _ => .ok (some 7)) .never).result =
      .ok diskResolved := rfl
  have hkeys : ∀ b, Item.block b ∈ diskBody → DistinctKeys b.body := by
    intro b hb
    simp only [diskBody, List.mem_cons, Item.block.injEq, List.not_mem_nil, or_false] at hb
    rcases hb with rfl | rfl | rfl <;> decide
  obtain ⟨hcarried, -, hbodies, -⟩ :=
    backend_untouched (.steady fun _ _ => .ok (some 7)) .never
  exact ⟨hload, hcarried _ _ _ hkeys hload, hbodies none diskBody disklessBody rfl⟩

end VirtEnv
