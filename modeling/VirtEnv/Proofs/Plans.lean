import VirtEnv.Plan
import VirtEnv.Proofs.Reading

/-!
# Plans — what a plan shows

A plan shows the attributes of a resource, each by its value in the empty scope, or by a mark that
it has none there.  Of a VM it also shows the references, and the settings' defaults for what the
VM leaves out.

* `Planned.Shows`: a planned resource shows each attribute under its key, and nothing else but what
  is given for the resource.
* `Planned.shows_of_make`: what the plan factory makes of a resource shows it.
* `Resolved.forall₂_of_plan`: a plan is what the plan factory makes of each resource.
-/

namespace VirtEnv

open Hcl (Expr Scope Value)

/-! ### What a resource has under a key -/

/-- The attribute of a key: the last one, if there are several. -/
def Attributes.value? (a : Attributes) (key : String) : Option Expr := a.values.reverse.lookup key

namespace ResourceDecl

/-- The attribute that is shown under a key.  The references of a VM stand before its attributes. -/
def attribute? : ResourceDecl → String → Option Expr
  | .network n, key => n.attributes.value? key
  | .store s, key => s.attributes.value? key
  | .vm v, key => if key = "network" ∨ key = "store" then none else v.attributes.value? key

/-- What is shown under a key without an attribute: the references of a VM, and the defaults for
what it leaves out. -/
def given? (settings : Settings) : ResourceDecl → String → Option String
  | .network _, _ | .store _, _ => none
  | .vm v, key => [("network", v.network), ("store", v.store),
      ("cpu", Numeric.digitText settings.vm.cpu), ("memory", settings.vm.memory),
      ("disk", settings.vm.disk), ("namespace", settings.vm.space),
      ("machine", settings.machineType settings.domain.machine)].lookup key

/-- The text of an attribute as it is shown: in full, if it is the machine type of a VM. -/
def expand (settings : Settings) : ResourceDecl → String → String → String
  | .network _, _, text | .store _, _, text => text
  | .vm _, key, text => if key = "machine" then settings.machineType text else text

end ResourceDecl

namespace Planned

/-- The text of a value in a plan. -/
def shown : Value → String
  | .string s => s
  | .number n => n.text
  | .bool b => if b then "true" else "false"
  | _ => "(complex)"

/-- The text of an attribute in a plan.  It shows the value that the attribute has in the empty
scope and in the document's, or says that there is none without the document. -/
inductive Rendered (scope : Scope) (e : Expr) : String → Prop where
  | value {v : Value} : e.evaluate [] = .ok v → e.evaluate scope = .ok v →
      Rendered scope e (shown v)
  | computed {f : Hcl.Fault} : e.evaluate [] = .error (.fault f) → Rendered scope e "(computed)"

/-- A planned resource shows a resource: every attribute, and besides only what is given. -/
structure Shows (settings : Settings) (scope : Scope) (x : ResourceDecl) (p : Planned) : Prop where
  kind : p.kind = x.kind
  name : p.name = x.name
  attributes : ∀ key e, x.attribute? key = some e →
    ∃ text, Rendered scope e text ∧ p.properties.lookup key = some (x.expand settings key text)
  others : ∀ key, x.attribute? key = none → p.properties.lookup key = x.given? settings key

theorem rendered_of_renderExpr {scope : Scope} {e : Expr} {text : String}
    (h : renderExpr e = .ok text) : Rendered scope e text := by
  unfold renderExpr at h
  cases he : e.evaluate [] with
  | ok v =>
      have htext : shown v = text := by
        rw [he] at h
        cases v <;> exact Except.ok.inj h
      exact htext ▸ .value he (Expr.evaluate_of_nil he)
  | error f =>
      rw [he] at h
      cases f with
      | fault f => cases h; exact .computed he
      | abort a => cases h

/-! ### Tables of properties -/

/-- What is found under a key in a table of properties: the text of the last attribute of the key,
or what was there before. -/
theorem lookup_ofValues {done t : Table String} {values : List (String × Expr)}
    (h : ofValues done values = .ok t) (key : String) :
    (values.reverse.lookup key = none ∧ t.lookup key = done.lookup key) ∨
      ∃ e text, values.reverse.lookup key = some e ∧ renderExpr e = .ok text ∧
        t.lookup key = some text := by
  induction values generalizing done with
  | nil => cases h; exact .inl ⟨rfl, rfl⟩
  | cons p values ih =>
      obtain ⟨k, e⟩ := p
      obtain ⟨text, htext, h⟩ := bind_eq_ok.mp h
      rw [List.reverse_cons, List.lookup_append]
      -- an attribute of the same key among those that follow is the one that counts
      rcases ih h with ⟨hnone, ht⟩ | ⟨e', text', he', htext', ht⟩
      · rw [hnone, Option.none_or, Table.lookup_cons, ht, Table.lookup_insert]
        by_cases hk : key = k
        · simp [hk, htext]
        · simp [hk]
      · exact .inr ⟨e', text', by rw [he', Option.some_or], htext', ht⟩

theorem lookup_withDefault {t : Table String} {key value m : String} :
    (withDefault t key value).lookup m =
      (t.lookup m).or (if m = key then some value else none) := by
  rw [withDefault, Table.has]
  cases hkey : t.lookup key with
  | some old =>
      rw [Option.isSome_some, if_pos rfl]
      by_cases hm : m = key
      · rw [hm, hkey, Option.some_or]
      · rw [if_neg hm, Option.or_none]
  | none =>
      rw [Option.isSome_none, if_neg Bool.false_ne_true, Table.lookup_insert]
      by_cases hm : m = key
      · rw [if_pos hm, if_pos hm, hm, hkey, Option.none_or]
      · rw [if_neg hm, if_neg hm, Option.or_none]

/-! ### Planned resources -/

/-- The properties of a resource with attributes are the texts of these. -/
theorem lookup_describe {kind : ResourceKind} {name : String} {a : Attributes} {p : Planned}
    (h : describe kind name a = .ok p) :
    (p.kind = kind ∧ p.name = name) ∧ ∀ key,
      (a.value? key = none ∧ p.properties.lookup key = none) ∨
        ∃ e text, a.value? key = some e ∧ renderExpr e = .ok text ∧
          p.properties.lookup key = some text := by
  obtain ⟨t, ht, h⟩ := bind_eq_ok.mp h
  cases h
  exact ⟨⟨rfl, rfl⟩, lookup_ofValues ht⟩

/-- The properties of a VM are its references, the texts of its attributes, and defaults. -/
theorem lookup_describeVm {settings : Settings} {v : ResolvedVm} {p : Planned}
    (h : describeVm settings v = .ok p) :
    ∃ base, describe .vm v.name v.attributes = .ok base ∧ p.kind = base.kind ∧
      p.name = base.name ∧ ∀ key, p.properties.lookup key =
        if key = "network" then some v.network
        else if key = "store" then some v.store
        else ((base.properties.lookup key).map fun text =>
            (ResourceDecl.vm v).expand settings key text).or
          ((ResourceDecl.vm v).given? settings key) := by
  obtain ⟨base, hbase, h⟩ := bind_eq_ok.mp h
  cases h
  refine ⟨base, hbase, rfl, rfl, fun key => ?_⟩
  simp only [Table.lookup_insert, lookup_withDefault, ResourceDecl.given?, ResourceDecl.expand,
    Table.lookup_cons, List.lookup_nil]
  -- the machine type is found among the properties set before, so it is the one key apart
  by_cases hmachine : key = "machine"
  · subst hmachine
    cases base.properties.lookup "machine" <;> simp
  · by_cases hnetwork : key = "network"
    · subst hnetwork
      simp
    · by_cases hstore : key = "store"
      · subst hstore
        simp
      · cases base.properties.lookup key <;> grind

/-- Resources that show nothing but their attributes. -/
theorem shows_of_describe {settings : Settings} {scope : Scope} {x : ResourceDecl}
    {a : Attributes} {p : Planned} (h : describe x.kind x.name a = .ok p)
    (hattribute : ∀ key, x.attribute? key = a.value? key)
    (hexpand : ∀ key text, x.expand settings key text = text)
    (hgiven : ∀ key, x.given? settings key = none) : Shows settings scope x p := by
  obtain ⟨⟨hkind, hname⟩, hlookup⟩ := lookup_describe h
  refine ⟨hkind, hname, fun key e he => ?_, fun key hnone => ?_⟩
  · rcases hlookup key with ⟨hnone, -⟩ | ⟨e', text, he', htext, hp⟩
    · rw [hattribute, hnone] at he
      cases he
    · rw [hattribute, he'] at he
      cases he
      exact ⟨text, rendered_of_renderExpr htext, by rw [hp, hexpand]⟩
  · rcases hlookup key with ⟨-, hp⟩ | ⟨e', text, he', -, -⟩
    · rw [hp, hgiven]
    · rw [hattribute, he'] at hnone
      cases hnone

theorem shows_of_describeVm {settings : Settings} {scope : Scope} {v : ResolvedVm} {p : Planned}
    (h : describeVm settings v = .ok p) : Shows settings scope (.vm v) p := by
  obtain ⟨base, hbase, hkind, hname, hproperties⟩ := lookup_describeVm h
  obtain ⟨⟨hbaseKind, hbaseName⟩, hlookup⟩ := lookup_describe hbase
  refine ⟨hkind.trans hbaseKind, hname.trans hbaseName, fun key e he => ?_, fun key hnone => ?_⟩
  · have href : ¬(key = "network" ∨ key = "store") := fun href => by
      rw [ResourceDecl.attribute?, if_pos href] at he
      cases he
    obtain ⟨hnetwork, hstore⟩ := not_or.mp href
    rw [ResourceDecl.attribute?, if_neg href] at he
    rcases hlookup key with ⟨hnone, -⟩ | ⟨e', text, he', htext, hp⟩
    · rw [hnone] at he
      cases he
    · rw [he'] at he
      cases he
      refine ⟨text, rendered_of_renderExpr htext, ?_⟩
      rw [hproperties, if_neg hnetwork, if_neg hstore, hp, Option.map_some, Option.some_or]
  · rw [hproperties]
    by_cases hnetwork : key = "network"
    · subst hnetwork
      rfl
    · by_cases hstore : key = "store"
      · subst hstore
        rfl
      · rw [ResourceDecl.attribute?, if_neg (not_or.mpr ⟨hnetwork, hstore⟩)] at hnone
        rcases hlookup key with ⟨-, hp⟩ | ⟨e', text, he', -, -⟩
        · rw [if_neg hnetwork, if_neg hstore, hp, Option.map_none, Option.none_or]
        · rw [he'] at hnone
          cases hnone

/-- **What the plan factory makes of a resource** shows it. -/
theorem shows_of_make {settings : Settings} {scope : Scope} {x : ResourceDecl} {p : Planned}
    (h : (planFactory settings).make x = .ok p) : Shows settings scope x p := by
  cases x with
  | network n => exact shows_of_describe h (fun _ => rfl) (fun _ _ => rfl) fun _ => rfl
  | store s => exact shows_of_describe h (fun _ => rfl) (fun _ _ => rfl) fun _ => rfl
  | vm v => exact shows_of_describeVm h

end Planned

/-- A plan is what the plan factory makes of each resource. -/
theorem Resolved.forall₂_of_plan {r : Resolved} {settings : Settings} {ps : List Planned}
    (h : r.plan settings = .ok ps) :
    List.Forall₂ (fun x p => (planFactory settings).make x = .ok p) r.resources ps := by
  obtain ⟨networks, hnetworks, h⟩ := bind_eq_ok.mp h
  obtain ⟨stores, hstores, h⟩ := bind_eq_ok.mp h
  obtain ⟨vms, hvms, h⟩ := bind_eq_ok.mp h
  cases h
  refine List.rel_append (List.rel_append ?_ ?_) ?_
  · exact List.forall₂_map_left_iff.mpr (forall₂_of_mapM hnetworks)
  · exact List.forall₂_map_left_iff.mpr (forall₂_of_mapM hstores)
  · exact List.forall₂_map_left_iff.mpr (forall₂_of_mapM hvms)

end VirtEnv
