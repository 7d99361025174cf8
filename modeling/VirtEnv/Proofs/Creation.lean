import VirtEnv.Assembly
import VirtEnv.Proofs.Integrity

/-!
# Creation — all or nothing

Resources are built for a document that loads, and for no other.  A factory is then asked for the
networks, the stores and the VMs of the resolved document, one after the other, and the first that
it refuses ends the creation: no resource is given, and none is asked for after it.

* `Assembles`: what a factory that is asked for resources comes to, said by the one that it refuses.
* `Factory.assemble_eq_iff`: assembling resources comes to this and to nothing else.
* `Document.resources_once`: no resource of a document that loads is asked for twice.
* `createFile_eq_iff`: what comes of loading a document and building its resources.
-/

namespace VirtEnv

variable {ε ρ : Type}

/-! ### Asking a factory -/

/-- What a factory that is asked for resources comes to. -/
inductive Assembles (f : Factory ε ρ) (xs : List ResourceDecl) : Assembled ε ρ → Prop where
  /-- It builds them all, one for each call. -/
  | whole {as : List ρ} : List.Forall₂ (fun x a => f.make x = .ok a) xs as →
      Assembles f xs ⟨.ok as, xs⟩
  /-- It refuses one, and is asked for none after it. -/
  | refused {done rest : List ResourceDecl} {x : ResourceDecl} {e : ε} : xs = done ++ x :: rest →
      (∀ y ∈ done, ∃ a, f.make y = .ok a) → f.make x = .error e →
      Assembles f xs ⟨.error e, done ++ [x]⟩

namespace Factory

variable {f : Factory ε ρ} {x : ResourceDecl} {xs : List ResourceDecl} {m : Assembled ε ρ}

theorem assemble_cons_of_error {e : ε} (h : f.make x = .error e) :
    f.assemble (x :: xs) = ⟨.error e, [x]⟩ := by
  rw [assemble, h]

theorem assemble_cons_of_ok {a : ρ} (h : f.make x = .ok a) :
    f.assemble (x :: xs) =
      ⟨(f.assemble xs).result.map (a :: ·), x :: (f.assemble xs).calls⟩ := by
  rw [assemble, h]

theorem assembles_assemble : ∀ xs : List ResourceDecl, Assembles f xs (f.assemble xs)
  | [] => .whole .nil
  | x :: xs => by
      cases hx : f.make x with
      | error e =>
          rw [assemble_cons_of_error hx]
          have hxs : x :: xs = [] ++ x :: xs := rfl
          exact .refused hxs (fun _ h => nomatch h) hx
      | ok a =>
          rw [assemble_cons_of_ok hx]
          cases hm : f.assemble xs with
          | mk result calls =>
              cases hm ▸ assembles_assemble xs with
              | whole has => exact .whole (.cons hx has)
              | @refused done rest y e hxs hdone hy =>
                  have hcons : x :: xs = (x :: done) ++ y :: rest := by rw [hxs, List.cons_append]
                  exact .refused hcons (List.forall_mem_cons.mpr ⟨⟨a, hx⟩, hdone⟩) hy

/-- What resources come to is said by what the factory answers. -/
theorem assemble_of_assembles (h : Assembles f xs m) : f.assemble xs = m := by
  cases h with
  | whole h =>
      induction h with
      | nil => rfl
      | cons hx _ ih => rw [assemble_cons_of_ok hx, ih]; rfl
  | @refused done rest x e hxs hdone hx =>
      subst hxs
      induction done with
      | nil => exact assemble_cons_of_error hx
      | cons y done ih =>
          obtain ⟨⟨a, ha⟩, hdone⟩ := List.forall_mem_cons.mp hdone
          rw [List.cons_append, assemble_cons_of_ok ha, ih hdone]
          rfl

/-- **Assembling resources** builds them all, or ends with the first that the factory refuses. -/
theorem assemble_eq_iff : f.assemble xs = m ↔ Assembles f xs m :=
  ⟨fun h => h ▸ assembles_assemble xs, assemble_of_assembles⟩

end Factory

/-! ### The resources of a document -/

/-- Names of one kind, each once, are resources of that kind, each once. -/
theorem nodup_map_kind {kind : ResourceKind} {names : List String} (h : names.Nodup) :
    (names.map (kind, ·)).Nodup :=
  h.map fun _ _ => And.right ∘ Prod.mk.inj

theorem disjoint_of_kind_ne {kind kind' : ResourceKind} {names names' : List String}
    (h : kind ≠ kind') : (names.map (kind, ·)).Disjoint (names'.map (kind', ·)) := by
  intro p hp hp'
  obtain ⟨_, -, rfl⟩ := List.mem_map.mp hp
  obtain ⟨_, -, heq⟩ := List.mem_map.mp hp'
  exact h (Prod.mk.inj heq).1.symm

/-- The kinds and names of the resources of a document. -/
theorem Resolved.resources_names (r : Resolved) :
    (r.resources.map fun x => (x.kind, x.name)) =
      (r.networks.map (·.name)).map (ResourceKind.network, ·) ++
        (r.stores.map (·.name)).map (ResourceKind.store, ·) ++
        (r.vms.map (·.name)).map (ResourceKind.vm, ·) := by
  simp only [resources, List.map_append, List.map_map]
  rfl

/-- **No resource of a document that loads is there twice.** -/
theorem Document.resources_once {d : Document} {C : Catalog} {k : Cancellation} {r : Resolved}
    (h : (d.resolve C k).result = .ok r) :
    (r.resources.map fun x => (x.kind, x.name)).Nodup := by
  obtain ⟨hearly, -, -, rfl, -⟩ := passed_of_eq_ok h
  have hnamed := allPass_nameChecks_iff.mp (allPass_append.mp hearly).1
  have hvms : d.resolved.vms.map (·.name) = d.declared .vm := List.map_map
  rw [Resolved.resources_names, hvms]
  have hnetworks : ((d.declared .network).map (ResourceKind.network, ·)).Nodup :=
    nodup_map_kind (hnamed .network).2
  have hstores : ((d.declared .store).map (ResourceKind.store, ·)).Nodup :=
    nodup_map_kind (hnamed .store).2
  refine (hnetworks.append hstores ?_).append (nodup_map_kind (hnamed .vm).2) ?_
  · exact disjoint_of_kind_ne (by decide)
  · exact List.disjoint_append_left.mpr
      ⟨disjoint_of_kind_ne (by decide), disjoint_of_kind_ne (by decide)⟩

/-! ### Loading and building -/

/-- What comes of loading a document and building its resources. -/
inductive Creates (load : Run Resolved) (f : Factory String ρ) : Creation ρ → Prop where
  /-- The document does not load, and the factory is not asked. -/
  | unloaded {e : Error} : load.result = .error e → Creates load f ⟨.error e, load.lookups, []⟩
  /-- The factory builds every resource: the networks, the stores, then the VMs. -/
  | whole {r : Resolved} {as : List ρ} : load.result = .ok r →
      List.Forall₂ (fun x a => f.make x = .ok a)
        (r.networks.map .network ++ r.stores.map .store ++ r.vms.map .vm) as →
      Creates load f ⟨.ok as, load.lookups,
        r.networks.map .network ++ r.stores.map .store ++ r.vms.map .vm⟩
  /-- It refuses one of them, is asked for none after it, and its refusal is reported. -/
  | refused {r : Resolved} {done rest : List ResourceDecl} {x : ResourceDecl} {cause : String} :
      load.result = .ok r →
      r.networks.map .network ++ r.stores.map .store ++ r.vms.map .vm = done ++ x :: rest →
      (∀ y ∈ done, ∃ a, f.make y = .ok a) → f.make x = .error cause →
      Creates load f ⟨.error (.assembly cause), load.lookups, done ++ [x]⟩

namespace Run

variable {load : Run Resolved} {f : Factory String ρ} {m : Creation ρ}

theorem create_of_error {e : Error} (h : load.result = .error e) :
    load.create f = ⟨.error e, load.lookups, []⟩ := by
  rw [create, h]

theorem create_of_ok {r : Resolved} (h : load.result = .ok r) :
    load.create f =
      ⟨(f.assemble r.resources).result.mapError .assembly, load.lookups,
        (f.assemble r.resources).calls⟩ := by
  rw [create, h]
  rfl

/-- **Creation is all or nothing**: it comes to what its load and the factory come to. -/
theorem create_eq_iff : load.create f = m ↔ Creates load f m := by
  constructor
  · rintro rfl
    cases hload : load.result with
    | error e =>
        rw [create_of_error hload]
        exact .unloaded hload
    | ok r =>
        rw [create_of_ok hload]
        cases hm : f.assemble r.resources with
        | mk result calls =>
            cases Factory.assemble_eq_iff.mp hm with
            | whole has => exact .whole hload has
            | refused hxs hdone hx => exact .refused hload hxs hdone hx
  · intro h
    cases h with
    | unloaded hload => exact create_of_error hload
    | @whole r as hload has =>
        have hm : f.assemble r.resources = ⟨.ok as, r.resources⟩ :=
          Factory.assemble_of_assembles (.whole has)
        rw [create_of_ok hload, hm]
        rfl
    | @refused r done rest x cause hload hxs hdone hx =>
        have hm : f.assemble r.resources = ⟨.error cause, done ++ [x]⟩ :=
          Factory.assemble_of_assembles (.refused hxs hdone hx)
        rw [create_of_ok hload, hm]
        rfl

/-- No resource is asked for that is not among those of the loaded document, in their order. -/
theorem prefix_calls {r : Resolved} (h : load.result = .ok r) :
    (load.create f).calls <+: r.resources := by
  rw [create_of_ok h]
  cases hm : f.assemble r.resources with
  | mk result calls =>
      cases Factory.assemble_eq_iff.mp hm with
      | whole _ => exact List.prefix_rfl
      | @refused done rest x e hxs _ _ =>
          exact ⟨rest, by rw [hxs, List.append_assoc, List.singleton_append]⟩

end Run

/-- **The resources of a document are created all or not at all.**  Whatever the file, the catalog,
the cancellation and the factory, the creation is one of `Creates`, and asks for no resource
twice. -/
theorem createFile_eq_iff (fs : Files) (path : String) (C : Catalog) (k : Cancellation)
    (f : Factory String ρ) :
    (∀ m, createFile fs path C k f = m ↔ Creates (loadFile fs path C k) f m) ∧
      ((createFile fs path C k f).calls.map fun x => (x.kind, x.name)).Nodup := by
  refine ⟨fun _ => Run.create_eq_iff, ?_⟩
  rw [createFile]
  cases hload : (loadFile fs path C k).result with
  | error e =>
      rw [Run.create_of_error hload]
      exact List.nodup_nil
  | ok r =>
      obtain ⟨d, -, hd⟩ := exists_documentAt hload
      exact (Document.resources_once hd).sublist ((Run.prefix_calls hload).sublist.map _)

end VirtEnv
