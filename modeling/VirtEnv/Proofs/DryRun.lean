import VirtEnv.Proofs.Creation
import VirtEnv.Proofs.Fallback

/-!
# Dry runs — a plan is what would be built

A plan is written out kind by kind, and an assembly asks a factory for one resource after the other.
Both are one traversal of the resources of a document: the networks, the stores, then the VMs.

* `Factory.assemble_result_eq`: what an assembly comes to is what its factory makes of each
  resource, up to the first that it refuses.
* `Resolved.plan_eq`: so is a plan, with what the plan factory makes.
* `Planned.exists_make_iff`: the plan factory refuses nothing, but rendering an attribute may end
  the program.
* `Resolved.dryRun`: a plan and an assembly with the plan factory agree, position by position.
-/

namespace VirtEnv

open Hcl (Abort)

variable {ε ρ : Type}

/-! ### One traversal -/

namespace Factory

variable {f : Factory ε ρ} {xs : List ResourceDecl}

/-- **What an assembly comes to** is what the factory makes of each resource. -/
theorem assemble_result_eq (f : Factory ε ρ) (xs : List ResourceDecl) :
    (f.assemble xs).result = xs.mapM f.make := by
  induction xs with
  | nil => rfl
  | cons x xs ih =>
      rw [List.mapM_cons, ← ih]
      cases hx : f.make x with
      | error e => rw [assemble_cons_of_error hx]; rfl
      | ok a =>
          rw [assemble_cons_of_ok hx]
          cases (f.assemble xs).result <;> rfl

/-- A factory that has built everything was asked for everything. -/
theorem calls_of_result_eq_ok {as : List ρ} (h : (f.assemble xs).result = .ok as) :
    (f.assemble xs).calls = xs ∧ List.Forall₂ (fun x a => f.make x = .ok a) xs as := by
  cases hm : f.assemble xs with
  | mk result calls =>
      rw [hm] at h
      cases assemble_eq_iff.mp hm with
      | whole has => cases h; exact ⟨rfl, has⟩
      | refused => cases h

/-- Everything is built exactly when the factory makes each resource. -/
theorem exists_result_iff :
    (∃ as, (f.assemble xs).result = .ok as) ↔ ∀ x ∈ xs, ∃ a, f.make x = .ok a := by
  constructor
  · rintro ⟨as, has⟩ x hx
    rw [assemble_result_eq] at has
    exact exists_of_mapM has hx
  · intro h
    cases hm : f.assemble xs with
    | mk result calls =>
        cases assemble_eq_iff.mp hm with
        | whole => exact ⟨_, rfl⟩
        | refused hxs _ hx =>
            obtain ⟨a, ha⟩ := h _ (hxs ▸ List.mem_append_right _ List.mem_cons_self)
            cases hx.symm.trans ha

end Factory

/-! ### What the plan factory makes -/

namespace ResourceDecl

/-- What a resource says to its backend. -/
def attributes : ResourceDecl → Attributes
  | network n => n.attributes
  | store s => s.attributes
  | vm v => v.attributes

/-- Evaluating an attribute of the resource without the document ends the program. -/
def Aborts (x : ResourceDecl) : Prop :=
  ∃ q ∈ x.attributes.values, ∃ a, q.2.evaluate [] = .error (.abort a)

end ResourceDecl

namespace Planned

/-- Whatever the kind of a resource is, its attributes are rendered first, and nothing can go wrong
after that. -/
theorem make_eq (settings : Settings) (x : ResourceDecl) :
    ∃ finish : Planned → Planned, (planFactory settings).make x =
      (describe x.kind x.name x.attributes).map finish := by
  cases x with
  | network n => exact ⟨id, (congrFun Except.map_id _).symm⟩
  | store s => exact ⟨id, (congrFun Except.map_id _).symm⟩
  | vm v => exact ⟨fill settings v, describeVm_eq settings v⟩

/-- **The plan factory refuses nothing**, but rendering an attribute may end the program. -/
theorem exists_make_iff (settings : Settings) (x : ResourceDecl) :
    (∃ p, (planFactory settings).make x = .ok p) ↔ ¬ x.Aborts := by
  obtain ⟨finish, hmake⟩ := make_eq settings x
  rw [hmake, describe]
  cases ht : ofValues [] x.attributes.values with
  | ok t =>
      refine iff_of_true ⟨_, rfl⟩ ?_
      rintro ⟨q, hq, a, ha⟩
      exact not_aborts_of_ofValues ht q hq a ha
  | error a =>
      obtain ⟨q, hq, ha⟩ := aborts_of_ofValues ht
      refine iff_of_false ?_ fun h => h ⟨q, hq, a, ha⟩
      rintro ⟨p, hp⟩
      cases hp

end Planned

/-! ### Documents -/

/-- **A plan** is what the plan factory makes of each resource. -/
theorem Resolved.plan_eq (r : Resolved) (settings : Settings) :
    r.plan settings = r.resources.mapM (planFactory settings).make := by
  have hnetworks : (r.networks.map ResourceDecl.network).mapM (planFactory settings).make =
      r.networks.mapM fun n => Planned.describe .network n.name n.attributes := List.mapM_map
  have hstores : (r.stores.map ResourceDecl.store).mapM (planFactory settings).make =
      r.stores.mapM fun s => Planned.describe .store s.name s.attributes := List.mapM_map
  have hvms : (r.vms.map ResourceDecl.vm).mapM (planFactory settings).make =
      r.vms.mapM fun v => Planned.describeVm settings v := List.mapM_map
  rw [resources, List.mapM_append, List.mapM_append, hnetworks, hstores, hvms]
  simp only [bind_assoc, pure_bind]
  rfl

/-- There is a plan unless evaluating an attribute without the document ends the program. -/
theorem Resolved.exists_plan_iff (r : Resolved) (settings : Settings) :
    (∃ ps, r.plan settings = .ok ps) ↔ ∀ x ∈ r.resources, ¬ x.Aborts := by
  rw [plan_eq, ← Factory.assemble_result_eq, Factory.exists_result_iff]
  exact forall₂_congr fun x _ => Planned.exists_make_iff settings x

theorem Resolved.build_eq_plan (r : Resolved) (settings : Settings) :
    (r.build (planFactory settings)).result = r.plan settings := by
  rw [build, Factory.assemble_result_eq, plan_eq]

/-- A dry run of a document agrees with its assembly. -/
structure DryRun (settings : Settings) (r : Resolved) : Prop where
  /-- Assembling with the plan factory comes to the plan. -/
  same : (r.build (planFactory settings)).result = r.plan settings
  /-- There is one unless evaluating an attribute without the document ends the program. -/
  succeeds : (∃ ps, (r.build (planFactory settings)).result = .ok ps) ↔
    ∀ x ∈ r.resources, ¬ x.Aborts
  /-- Every resource is asked for, and planned in its place. -/
  planned : ∀ ps, (r.build (planFactory settings)).result = .ok ps →
    (r.build (planFactory settings)).calls = r.resources ∧
      List.Forall₂ (fun x p => (planFactory settings).make x = .ok p ∧
        p.kind = x.kind ∧ p.name = x.name) r.resources ps

/-- **A dry run agrees with the assembly**, whatever the document and the settings are. -/
theorem Resolved.dryRun (r : Resolved) (settings : Settings) : DryRun settings r where
  same := r.build_eq_plan settings
  succeeds := by rw [r.build_eq_plan, r.exists_plan_iff]
  planned := by
    intro ps hps
    obtain ⟨hcalls, hmade⟩ := Factory.calls_of_result_eq_ok hps
    refine ⟨hcalls, hmade.imp fun x p hp => ?_⟩
    have hshows : Planned.Shows settings [] x p := Planned.shows_of_make hp
    exact ⟨hp, hshows.kind, hshows.name⟩

/-- The document with a VM that has this for an attribute. -/
def brokenResolved (e : Hcl.Expr) : Resolved where
  sourcePath := none
  networks := [⟨"lan", {}⟩]
  stores := [⟨"pool", {}⟩]
  vms := [Document.brokenVm e]
  clusters := []

/-- An assembly with the plan factory need not succeed: neither it nor the plan gets past a division
without remainder. -/
theorem not_built_of_remainder :
    (∀ e ∈ Hcl.remainderless,
      ¬∃ ps, ((brokenResolved e).build (planFactory (Settings.default "/root"))).result = .ok ps) ∧
      ∀ e ∈ Hcl.remainderless,
        ¬∃ ps, (brokenResolved e).plan (Settings.default "/root") = .ok ps := by
  have hplan : ∀ e ∈ Hcl.remainderless,
      ¬∃ ps, (brokenResolved e).plan (Settings.default "/root") = .ok ps := by
    intro e he hps
    obtain ⟨why, hwhy⟩ := Hcl.evaluate_of_remainderless he
    refine (Resolved.exists_plan_iff _ _).mp hps (.vm (Document.brokenVm e)) ?_ ?_
    · exact List.mem_append_right _ List.mem_cons_self
    · exact ⟨("cpu", e), List.mem_cons_self, _, hwhy []⟩
  refine ⟨fun e he => ?_, hplan⟩
  rw [Resolved.build_eq_plan]
  exact hplan e he

end VirtEnv
