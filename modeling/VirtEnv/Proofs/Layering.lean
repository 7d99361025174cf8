import VirtEnv.Proofs.Mentions
import VirtEnv.Proofs.Tables

/-!
# Layering — what variables and locals may refer to

Variables are evaluated in the empty scope and locals in a scope that holds `var` alone, so a
variable that refers to a table has no value, and neither has a local that refers to a table other
than `var` or to a variable without a default.  Nobody looks at what a definition mentions: the
evaluation fails where it comes to the mention, and passes over a mention in a branch that is not
chosen.

* `layered`: a document in which evaluation comes to such a mention gets no namespace, and the
  catalog is not asked.
* `mentions_of_passedOver`, `not_layered_as_written`: a definition may have a value though it
  mentions a table.
-/

namespace VirtEnv

open Hcl (Expr Scope Value)

/-- The names of the tables of a namespace. -/
def Namespace.tableNames : List String := ["var", "local", "network", "store", "data"]

/-- A run is refused for the sake of definitions, before any lookup: one of them has a fault, which
is reported with its name, or ends the program by a division of integers without remainder. -/
def Run.Refused {α : Type} (r : Run α) (scope : Scope) (fault : String → Hcl.Fault → Error)
    (definitions : List (String × Expr)) : Prop :=
  r.lookups = [] ∧ ∃ p ∈ definitions,
    (∃ f, p.2.evaluate scope = .error (.fault f) ∧ r.result = .error (fault p.1 f)) ∨
      ∃ a, p.2.evaluate scope = .error (.abort a) ∧ r.result = .error (.aborted a)

/-- A document is layered: it gets no namespace if the default of a variable mentions a table
freely; nor, if the defaults have values, if a local mentions a table other than `var`, or a
variable without a default.  If `evaluated`, this is said of the mentions that evaluation comes
to. -/
structure Layered (evaluated : Prop) (d : Document) (i : Index) (C : Catalog) (k : Cancellation) :
    Prop where
  vars : ∀ p ∈ defaults d.vars,
    (∃ table ∈ Namespace.tableNames, p.2.Mentions evaluated [] table) →
      (Namespace.build d i C k).Refused [] .variableEval (defaults d.vars)
  locals : (∀ p ∈ defaults d.vars, ∃ v, p.2.evaluate [] = .ok v) → ∀ p ∈ d.definitions,
    ((∃ table ∈ Namespace.tableNames, table ≠ "var" ∧
        p.2.Mentions evaluated (Namespace.varScope d.varTable) table) ∨
      ∃ x, x ∉ (defaults d.vars).map (·.1) ∧
        p.2.MentionsKey evaluated (Namespace.varScope d.varTable) "var" x) →
      (Namespace.build d i C k).Refused (Namespace.varScope d.varTable) .localEval d.definitions

/-! ### The refusal -/

section

variable {scope : Scope} {fault : String → Hcl.Fault → Error} {definitions : List (String × Expr)}
  {d : Document} {e : Error}

/-- Definitions of which one has no value have a first fault. -/
theorem exists_firstFault (fault : String → Hcl.Fault → Error) {p : String × Expr}
    (hp : p ∈ definitions) (h : ∀ v, p.2.eval scope ≠ .ok v) :
    ∃ e, FirstFault (definitionChecks scope fault definitions) e := by
  refine (allPass_or_firstFault _).resolve_left fun hpass => ?_
  have hvalue := evaluates_eq_none.mp (allPass_map.mp hpass p hp)
  exact h _ (Hcl.Outcome.within_eq_ok.mp hvalue)

/-- The first fault of definitions is the failure of one of them. -/
theorem exists_failure (h : FirstFault (definitionChecks scope fault definitions) e) :
    ∃ p ∈ definitions, ∃ f, p.2.evaluate scope = .error f ∧ e = .ofFailure (fault p.1) f := by
  obtain ⟨passed, rest, hchecks, -⟩ := h
  have hmem : some e ∈ definitionChecks scope fault definitions := by
    rw [hchecks]
    exact List.mem_append_right _ List.mem_cons_self
  obtain ⟨p, hp, hcheck⟩ := List.mem_map.mp hmem
  refine ⟨p, hp, ?_⟩
  cases hf : p.2.evaluate scope with
  | ok v => simp [evaluates, hf] at hcheck
  | error f => simpa [evaluates, hf, eq_comm] using hcheck

/-- A document whose first fault is that of definitions is refused for their sake. -/
theorem refused_of_firstFault {i : Index} {C : Catalog} {k : Cancellation}
    (h : FirstFault (definitionChecks scope fault definitions) e)
    (hvalues : FirstFault d.valueChecks e) :
    (Namespace.build d i C k).Refused scope fault definitions := by
  have hbuild : Namespace.build d i C k = .pure (.error e) := by
    rw [Namespace.build, Namespace.evalDocument_eq, outcome_of_firstFault hvalues]
  obtain ⟨p, hp, f, hf, rfl⟩ := exists_failure h
  rw [hbuild]
  refine ⟨rfl, p, hp, ?_⟩
  cases f with
  | fault f => exact .inl ⟨f, hf, rfl⟩
  | abort a => exact .inr ⟨a, hf, rfl⟩

/-- A variable without a default is not in the table. -/
theorem Document.varTable_lookup_eq_none {x : String} (h : x ∉ (defaults d.vars).map (·.1)) :
    d.varTable.lookup x = none := by
  rw [varTable, Hcl.lookup_setKeys, List.lookup_nil, Option.or_none, List.lookup_eq_none_iff]
  intro p hp
  obtain ⟨q, hq, rfl⟩ := List.mem_map.mp (List.mem_reverse.mp hp)
  exact bne_iff_ne.mpr fun heq => h (heq ▸ List.mem_map_of_mem hq)

end

/-- **Every document is layered**, as far as evaluation comes. -/
theorem layered (d : Document) (i : Index) (C : Catalog) (k : Cancellation) :
    Layered True d i C k where
  vars := by
    rintro p hp ⟨table, -, hmention⟩
    obtain ⟨e, he⟩ := exists_firstFault .variableEval hp (hmention.eval_ne_ok rfl)
    exact refused_of_firstFault he (firstFault_append.mpr (.inl he))
  locals := by
    intro hvars p hp hmention
    have hpass : AllPass (definitionChecks [] .variableEval (defaults d.vars)) := by
      rw [definitionChecks, allPass_map]
      intro q hq
      obtain ⟨v, hv⟩ := hvars q hq
      simp only [evaluates, hv]
    have hvalue : ∀ v, p.2.eval (Namespace.varScope d.varTable) ≠ .ok v := by
      rcases hmention with ⟨table, -, hvar, hmention⟩ | ⟨x, hx, hmention⟩
      · refine hmention.eval_ne_ok ?_
        rw [Namespace.varScope, Table.lookup_cons, if_neg hvar, List.lookup_nil]
      · have hvar : (Namespace.varScope d.varTable).lookup "var" = some (.object d.varTable) := rfl
        exact hmention.eval_ne_ok hvar (Document.varTable_lookup_eq_none hx)
    obtain ⟨e, he⟩ := exists_firstFault .localEval hp hvalue
    exact refused_of_firstFault he (firstFault_append.mpr (.inr ⟨hpass, he⟩))

/-- A document whose local mentions a declared network in a template in the body of a `for`. -/
def hiddenMention : Document where
  locals := some [("hosts", .forList ⟨none, "h"⟩ (.array [.string "web"])
    (.template "$\x7bh\x7d.$\x7bnetwork.lan\x7d"
      [.interpolation ⟨false, false, false⟩ (.variable "h"), .literal ".",
        .interpolation ⟨false, false, false⟩ (.traversal (.variable "network") [.member "lan"])])
    none)]
  networks := [{ name := "lan", attributes := {} }]
  data := [⟨"network", "uplink"⟩]

/-- The network is declared, but locals do not see it: the local is refused, and the catalog is not
asked for the `data` block. -/
theorem layered_hiddenMention :
    Index.build hiddenMention = .ok hiddenMention.index ∧
      (Namespace.build hiddenMention hiddenMention.index (.steady fun _ _ => .ok (some 1))
        .never).Refused (Namespace.varScope hiddenMention.varTable) .localEval
          hiddenMention.definitions := by
  let entry : Value × Value := (.number (.ofNat 0), .string "web")
  let marker : Hcl.Marker := ⟨false, false, false⟩
  let mention : Expr := .traversal (.variable "network") [.member "lan"]
  refine ⟨rfl, (layered hiddenMention _ _ _).locals (fun _ h => nomatch h) _ List.mem_cons_self
    (.inl ⟨"network", by decide, by decide, [("h", .string "web")], by decide, ?_⟩)⟩
  -- into the body of the `for` for its one entry, into the template, and to the table
  refine .head (@Hcl.Focus.Part.listValue _ _ _ _ _ _ entry fun _ => ⟨?_, ?_⟩)
    (.head .template
      (.head (@Hcl.Focus.Part.interpolation _ _ _ marker mention ?_) (.single .base)))
  · rintro _ ⟨⟩
    exact List.mem_cons_self
  · rintro ⟨⟩
  · exact List.mem_cons_of_mem _ (List.mem_cons_of_mem _ List.mem_cons_self)

/-! ### Mentions that are passed over -/

/-- `var.b`. -/
def mentionOfVar : Expr := .traversal (.variable "var") [.member "b"]

/-- Expressions in which evaluation passes over `var.b`: in a branch that is not chosen, in a `for`
without entries, for an entry that is left out, behind a splat through nothing, and in a branch of a
template. -/
def passedOver : List Expr :=
  [.conditional (.bool true) (.number (.ofNat 1)) mentionOfVar,
    .forList ⟨none, "x"⟩ (.array []) mentionOfVar none,
    .forList ⟨none, "x"⟩ (.array [.number (.ofNat 1)]) mentionOfVar (some (.bool false)),
    .traversal (.array []) [.fullSplat, .index mentionOfVar],
    .template "%\x7b if false \x7d$\x7bvar.b\x7d%\x7b endif \x7d"
      [.branch ⟨false, false, true⟩ (.bool false)
        [.interpolation ⟨false, false, false⟩ mentionOfVar] none [] ⟨false, false, true⟩]]

/-- They mention `var`, and have values. -/
theorem mentions_of_passedOver {e : Expr} (he : e ∈ passedOver) :
    e.Mentions False [] "var" ∧ ∃ v, e.evaluate [] = .ok v := by
  have hreach : ∀ {focus s}, Hcl.Focus.Part False focus (.expr s mentionOfVar) →
      Relation.ReflTransGen (Hcl.Focus.Part False) focus (.expr s (.variable "var")) :=
    fun hpart => .head hpart (.single .base)
  simp only [passedOver, List.mem_cons, List.not_mem_nil, or_false] at he
  rcases he with rfl | rfl | rfl | rfl | rfl
  · exact ⟨⟨[], List.not_mem_nil, hreach (.no False.elim)⟩, _, rfl⟩
  -- nothing is asked of the entry to which a `for` binds its name where the mention is only written
  · have hpart := @Hcl.Focus.Part.listValue False [] ⟨none, "x"⟩ (.array []) mentionOfVar none
      (.null, .null) False.elim
    exact ⟨⟨[("x", .null)], by decide, hreach hpart⟩, _, rfl⟩
  · have hpart := @Hcl.Focus.Part.listValue False [] ⟨none, "x"⟩ (.array [.number (.ofNat 1)])
      mentionOfVar (some (.bool false)) (.null, .null) False.elim
    exact ⟨⟨[("x", .null)], by decide, hreach hpart⟩, _, rfl⟩
  · have hpart := @Hcl.Focus.Part.index False [] (.array []) mentionOfVar [.fullSplat] []
      False.elim
    exact ⟨⟨[], List.not_mem_nil, hreach hpart⟩, _, rfl⟩
  · have hpart := @Hcl.Focus.Part.interpolation False [] _ ⟨false, false, false⟩ mentionOfVar
      (List.mem_singleton_self _)
    exact ⟨⟨[], List.not_mem_nil,
      .head .template (.head (.branchYes List.mem_cons_self False.elim) (hreach hpart))⟩, _, rfl⟩

/-- A document with one variable. -/
def variableAlone (e : Expr) : Document := { vars := [{ name := "a", default := some e }] }

/-- A document with a variable that mentions `var`, and another one before it. -/
def mentionAfter (e : Expr) : Document where
  vars := [{ name := "a", default := some e }, { name := "c", default := some mentionOfVar }]

/-- **A mention that is merely written is no fault** where evaluation passes over it.  And where it
comes to one, a division without remainder before it ends the program instead. -/
theorem not_layered_as_written :
    (∀ e ∈ passedOver, ∃ i, Index.build (variableAlone e) = .ok i ∧
      ∀ C k, ¬ Layered False (variableAlone e) i C k) ∧
      ∀ e ∈ Hcl.remainderless, ∃ i, Index.build (mentionAfter e) = .ok i ∧
        (∃ p ∈ defaults (mentionAfter e).vars, p.2.Mentions True [] "var") ∧
        ∃ a, ∀ C k, (Namespace.build (mentionAfter e) i C k).result = .error (.aborted a) := by
  constructor
  · intro e he
    obtain ⟨hmention, v, hv⟩ := mentions_of_passedOver he
    refine ⟨(variableAlone e).index, rfl, fun C k h => ?_⟩
    obtain ⟨-, p, hp, hfail⟩ :=
      h.vars ("a", e) List.mem_cons_self ⟨"var", List.mem_cons_self, hmention⟩
    cases List.mem_singleton.mp hp
    rcases hfail with ⟨f, hf, -⟩ | ⟨a, ha, -⟩
    · cases hv.symm.trans hf
    · cases hv.symm.trans ha
  · intro e he
    have hmention : mentionOfVar.Mentions True [] "var" := ⟨[], List.not_mem_nil, .single .base⟩
    have hmem : ("c", mentionOfVar) ∈ defaults (mentionAfter e).vars :=
      List.mem_cons_of_mem _ List.mem_cons_self
    refine ⟨(mentionAfter e).index, rfl, ⟨_, hmem, hmention⟩, ?_⟩
    simp only [Hcl.remainderless, List.mem_cons, List.not_mem_nil, or_false] at he
    rcases he with rfl | rfl
    · exact ⟨.remainder .byZero, fun _ _ => rfl⟩
    · exact ⟨.remainder .overflow, fun _ _ => rfl⟩

end VirtEnv
