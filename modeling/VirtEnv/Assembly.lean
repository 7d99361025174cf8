import VirtEnv.Load

/-!
# Assembly

Builds the resources of a resolved document with a factory: networks, then stores, then VMs, each
in document order.  The first refusal ends the assembly, and nothing is built after it.  A factory
is asked only for the resources of a document that has been loaded (`Run.create`).
-/

namespace VirtEnv

/-- A resource to be built. -/
inductive ResourceDecl where
  | network (n : Network)
  | store (s : Store)
  | vm (v : ResolvedVm)

namespace ResourceDecl

/-- The kind of a resource. -/
def kind : ResourceDecl → ResourceKind
  | network _ => .network
  | store _ => .store
  | vm _ => .vm

/-- The name of a resource. -/
def name : ResourceDecl → String
  | network n => n.name
  | store s => s.name
  | vm v => v.name

end ResourceDecl

/-- The resources of a document, in the order in which they are built. -/
def Resolved.resources (r : Resolved) : List ResourceDecl :=
  r.networks.map .network ++ r.stores.map .store ++ r.vms.map .vm

/-- Builds resources of each kind, or refuses. -/
structure Factory (ε ρ : Type) where
  network : Network → Except ε ρ
  store : Store → Except ε ρ
  vm : ResolvedVm → Except ε ρ

/-- Builds one resource. -/
def Factory.make {ε ρ : Type} (f : Factory ε ρ) : ResourceDecl → Except ε ρ
  | .network n => f.network n
  | .store s => f.store s
  | .vm v => f.vm v

/-- What an assembly built, or why it ended, with the resources that were asked for. -/
structure Assembled (ε ρ : Type) where
  result : Except ε (List ρ)
  calls : List ResourceDecl

/-- Asks a factory for resources, in order, up to the first refusal. -/
def Factory.assemble {ε ρ : Type} (f : Factory ε ρ) : List ResourceDecl → Assembled ε ρ
  | [] => ⟨.ok [], []⟩
  | d :: ds =>
      match f.make d with
      | .error e => ⟨.error e, [d]⟩
      | .ok a =>
          let rest := f.assemble ds
          ⟨rest.result.map (a :: ·), d :: rest.calls⟩

/-- Builds the resources of a document. -/
def Resolved.build {ε ρ : Type} (r : Resolved) (f : Factory ε ρ) : Assembled ε ρ :=
  f.assemble r.resources

/-- What came of loading a document and building its resources, with the lookups in the catalog and
the resources that were asked for. -/
structure Creation (ρ : Type) where
  result : Except Error (List ρ)
  lookups : List Lookup
  calls : List ResourceDecl

/-- Builds the resources of a document, once it is loaded.  The factory's refusals are texts. -/
def Run.create {ρ : Type} (load : Run Resolved) (f : Factory String ρ) : Creation ρ :=
  match load.result with
  | .error e => ⟨.error e, load.lookups, []⟩
  | .ok r =>
      let made := r.build f
      ⟨made.result.mapError .assembly, load.lookups, made.calls⟩

/-- Loads the document in a file and builds its resources. -/
def createFile {ρ : Type} (fs : Files) (path : String) (catalog : Catalog)
    (cancellation : Cancellation) (f : Factory String ρ) : Creation ρ :=
  (loadFile fs path catalog cancellation).create f

end VirtEnv
