import Mathlib.Logic.Relation
import VirtEnv.Proofs.Reading

/-!
# Mentions — where an expression names a variable

An expression mentions a variable wherever the name stands in it and no `for` around it binds the
name.  A mention is found by going into the expression part by part (`Focus.Part`), and each part
has its scope: into its body, a `for` binds its names to an entry of the collection.

Evaluation does not come to every part.  It passes over the branch that a conditional does not
choose, the body of a `for` of which no entry counts, and an index after a splat that goes through
nothing.  `Part evaluated` goes into any part if `evaluated` is false; if it is true, only into
those that evaluation comes to, unless it fails before.

* `Focus.Part.succeeds`: where evaluation succeeds, it succeeds in every part that it comes to.
* `Expr.Mentions.eval_ne_ok`, `Expr.MentionsKey.eval_ne_ok`: an expression has no value if
  evaluation comes to a variable that is not in scope, or to a key that is not in a table.
-/

namespace VirtEnv.Hcl

open Outcome (raise within)

/-! ### Accesses -/

namespace Access

/-- Something is still asked after these accesses of a value.  A splat goes on with each item, and
so with none if there are none; the other accesses go on with what they select. -/
def Enters : List Access → Value → Prop
  | [], _ => True
  | .fullSplat :: rest, v => ∃ item ∈ v.splatItems, Enters rest item
  | access :: rest, v => ∀ w, apply [access] v = .ok w → Enters rest w

/-- An access other than a splat goes on with what it selects. -/
theorem apply_cons {access : Access} {rest : List Access} {v : Value} (h : access ≠ .fullSplat) :
    apply (access :: rest) v = apply [access] v >>= apply rest := by
  cases access with
  | fullSplat => exact absurd rfl h
  | _ => simp only [apply, bind_assoc]; rfl

/-- An index that is asked for has a value, where the accesses select something. -/
theorem exists_index {as rest : List Access} {i : Outcome Value} {v w : Value}
    (h : apply (as ++ .index i :: rest) v = .ok w) (henters : Enters as v) : ∃ u, i = .ok u := by
  induction as generalizing v w with
  | nil =>
      obtain ⟨u, hu, -⟩ := bind_eq_ok.mp h
      exact ⟨u, hu⟩
  | cons access as ih =>
      by_cases hsplat : access = .fullSplat
      · subst hsplat
        obtain ⟨item, hitem, henters⟩ := henters
        obtain ⟨items, hitems, -⟩ := bind_eq_ok.mp h
        obtain ⟨u, hu⟩ := exists_of_mapM hitems hitem
        exact ih hu henters
      · rw [List.cons_append, apply_cons hsplat] at h
        obtain ⟨u, hu, h⟩ := bind_eq_ok.mp h
        refine ih h ?_
        cases access with
        | fullSplat => exact absurd rfl hsplat
        | _ => exact henters u hu

/-- An attribute splat takes over nothing from an index on. -/
theorem splatMembers_append {as rest : List Access} {i : Outcome Value} :
    splatMembers (as ++ .index i :: rest) = splatMembers as ++ .index i :: rest := by
  have hsplit : (as ++ .index i :: rest).takeWhile (·.name?.isSome) =
        as.takeWhile (·.name?.isSome) ∧
      (as ++ .index i :: rest).dropWhile (·.name?.isSome) =
        as.dropWhile (·.name?.isSome) ++ .index i :: rest := by
    induction as with
    | nil => exact ⟨rfl, rfl⟩
    | cons access as ih =>
        cases hname : access.name? with
        | none => simp [hname]
        | some name => simpa [hname] using ih
  rw [splatMembers, splatMembers, hsplit.1, hsplit.2, List.cons_append]

end Access

/-- The accesses up to an index do not depend on those from it on. -/
theorem Step.evalAll_append {s : Scope} {p e : Expr} {before after : List Step} :
    Step.evalAll s p (before ++ .index e :: after) =
      Step.evalAll s p before ++ .index (within p (e.eval s)) :: Step.evalAll s p after := by
  induction before with
  | nil => rfl
  | cons step before ih =>
      cases step with
      | memberSplat =>
          rw [List.cons_append]
          show Access.splatMembers _ = Access.splatMembers _ ++ _
          rw [ih, Access.splatMembers_append]
      | member _ | position _ | index _ | fullSplat => exact congrArg (_ :: ·) ih

/-! ### Going into an expression -/

/-- Where one is in an expression: at an expression in it, or at parts of a template, with the scope
there. -/
inductive Focus where
  | expr (s : Scope) (e : Expr)
  | parts (s : Scope) (parts : List Segment)

/-- The entry is one of the collection, if that has a value. -/
def Expr.Yields (s : Scope) (collection : Expr) (entry : Value × Value) : Prop :=
  ∀ entries, (collection.eval s >>= Value.entries) = .ok entries → entry ∈ entries

/-- The condition does not choose the other branch. -/
def Expr.Chooses (s : Scope) (condition : Expr) (branch : Bool) : Prop :=
  condition.eval s ≠ .ok (.bool !branch)

/-- The condition of a `for` does not leave the entry of its scope out. -/
def Expr.Admits (s : Scope) (condition : Option Expr) : Prop :=
  Expr.evalCondition s condition ≠ .ok false

/-- One part into an expression: into any part, or into one that evaluation comes to, unless it
fails before. -/
inductive Focus.Part (evaluated : Prop) : Focus → Focus → Prop where
  | item {s : Scope} {items : List Expr} {e : Expr} : e ∈ items →
      Part evaluated (.expr s (.array items)) (.expr s e)
  | key {s : Scope} {fields : List (ObjectKey × Expr)} {k e : Expr} : (.computed k, e) ∈ fields →
      Part evaluated (.expr s (.object fields)) (.expr s k)
  | field {s : Scope} {fields : List (ObjectKey × Expr)} {key : ObjectKey} {e : Expr} :
      (key, e) ∈ fields → Part evaluated (.expr s (.object fields)) (.expr s e)
  | template {s : Scope} {text : String} {parts : List Segment} :
      Part evaluated (.expr s (.template text parts)) (.parts s parts)
  | heredoc {s : Scope} {delimiter : Delimiter} {text : String} {parts : List Segment} :
      Part evaluated (.expr s (.heredoc delimiter text parts)) (.parts s parts)
  | base {s : Scope} {base : Expr} {steps : List Step} :
      Part evaluated (.expr s (.traversal base steps)) (.expr s base)
  | index {s : Scope} {base e : Expr} {before after : List Step} :
      (evaluated → ∀ v, base.eval s = .ok v → Access.Enters
        (Step.evalAll s (.traversal base (before ++ .index e :: after)) before) v) →
      Part evaluated (.expr s (.traversal base (before ++ .index e :: after))) (.expr s e)
  | argument {s : Scope} {function : String} {args : List Expr} {expandFinal : Bool} {e : Expr} :
      e ∈ args → Part evaluated (.expr s (.call function args expandFinal)) (.expr s e)
  | paren {s : Scope} {e : Expr} : Part evaluated (.expr s (.paren e)) (.expr s e)
  | condition {s : Scope} {condition yes no : Expr} :
      Part evaluated (.expr s (.conditional condition yes no)) (.expr s condition)
  | yes {s : Scope} {condition yes no : Expr} : (evaluated → condition.Chooses s true) →
      Part evaluated (.expr s (.conditional condition yes no)) (.expr s yes)
  | no {s : Scope} {condition yes no : Expr} : (evaluated → condition.Chooses s false) →
      Part evaluated (.expr s (.conditional condition yes no)) (.expr s no)
  | unary {s : Scope} {op : UnaryOp} {e : Expr} :
      Part evaluated (.expr s (.unary op e)) (.expr s e)
  | first {s : Scope} {first : Expr} {rest : List (BinaryOp × Expr)} :
      Part evaluated (.expr s (.chain first rest)) (.expr s first)
  | operand {s : Scope} {first : Expr} {rest : List (BinaryOp × Expr)} {op : BinaryOp} {e : Expr} :
      (op, e) ∈ rest → Part evaluated (.expr s (.chain first rest)) (.expr s e)
  | listCollection {s : Scope} {b : Binder} {collection value : Expr} {condition : Option Expr} :
      Part evaluated (.expr s (.forList b collection value condition)) (.expr s collection)
  | listCondition {s : Scope} {b : Binder} {collection value e : Expr} {entry : Value × Value} :
      (evaluated → collection.Yields s entry) →
      Part evaluated (.expr s (.forList b collection value (some e))) (.expr (b.bind entry s) e)
  | listValue {s : Scope} {b : Binder} {collection value : Expr} {condition : Option Expr}
      {entry : Value × Value} :
      (evaluated → collection.Yields s entry ∧ Expr.Admits (b.bind entry s) condition) →
      Part evaluated (.expr s (.forList b collection value condition))
        (.expr (b.bind entry s) value)
  | objectCollection {s : Scope} {b : Binder} {collection key value : Expr} {grouped : Bool}
      {condition : Option Expr} :
      Part evaluated (.expr s (.forObject b collection key value grouped condition))
        (.expr s collection)
  | objectCondition {s : Scope} {b : Binder} {collection key value e : Expr} {grouped : Bool}
      {entry : Value × Value} : (evaluated → collection.Yields s entry) →
      Part evaluated (.expr s (.forObject b collection key value grouped (some e)))
        (.expr (b.bind entry s) e)
  | objectKey {s : Scope} {b : Binder} {collection key value : Expr} {grouped : Bool}
      {condition : Option Expr} {entry : Value × Value} :
      (evaluated → collection.Yields s entry ∧ Expr.Admits (b.bind entry s) condition) →
      Part evaluated (.expr s (.forObject b collection key value grouped condition))
        (.expr (b.bind entry s) key)
  | objectValue {s : Scope} {b : Binder} {collection key value : Expr} {grouped : Bool}
      {condition : Option Expr} {entry : Value × Value} :
      (evaluated → collection.Yields s entry ∧ Expr.Admits (b.bind entry s) condition) →
      Part evaluated (.expr s (.forObject b collection key value grouped condition))
        (.expr (b.bind entry s) value)
  | interpolation {s : Scope} {parts : List Segment} {m : Marker} {e : Expr} :
      .interpolation m e ∈ parts → Part evaluated (.parts s parts) (.expr s e)
  | branchCondition {s : Scope} {parts yes no : List Segment} {opening closing : Marker}
      {middle : Option Marker} {condition : Expr} :
      .branch opening condition yes middle no closing ∈ parts →
      Part evaluated (.parts s parts) (.expr s condition)
  | branchYes {s : Scope} {parts yes no : List Segment} {opening closing : Marker}
      {middle : Option Marker} {condition : Expr} :
      .branch opening condition yes middle no closing ∈ parts →
      (evaluated → condition.Chooses s true) → Part evaluated (.parts s parts) (.parts s yes)
  | branchNo {s : Scope} {parts yes no : List Segment} {opening closing : Marker}
      {middle : Option Marker} {condition : Expr} :
      .branch opening condition yes middle no closing ∈ parts →
      (evaluated → condition.Chooses s false) → Part evaluated (.parts s parts) (.parts s no)
  | repetitionCollection {s : Scope} {parts body : List Segment} {opening closing : Marker}
      {b : Binder} {collection : Expr} : .repetition opening b collection body closing ∈ parts →
      Part evaluated (.parts s parts) (.expr s collection)
  | repetitionBody {s : Scope} {parts body : List Segment} {opening closing : Marker} {b : Binder}
      {collection : Expr} {entry : Value × Value} :
      .repetition opening b collection body closing ∈ parts →
      (evaluated → collection.Yields s entry) →
      Part evaluated (.parts s parts) (.parts (b.bind entry s) body)

/-! ### Success in the parts -/

/-- Evaluation succeeds there. -/
def Focus.Succeeds : Focus → Prop
  | .expr s e => ∃ v, e.eval s = .ok v
  | .parts s segments => ∃ p t, Segment.evalAll s p segments = .ok t

variable {s : Scope} {p : Expr}

theorem Value.asBool_eq_ok {v : Value} {b : Bool} : v.asBool = .ok b ↔ v = .bool b := by
  cases v <;> simp [asBool, raise]

/-- The operands of a chain that has a value have values. -/
theorem Grouped.exists_operands {t : Grouped (Expr × Outcome Value)} {v : Value}
    (h : t.eval = .ok v) :
    (∃ w, t.first.2 = .ok w) ∧ ∀ o ∈ t.rest, ∃ w, o.2.2 = .ok w := by
  induction t generalizing v with
  | operand a => exact ⟨⟨v, h⟩, fun _ ho => nomatch ho⟩
  | node l op r ihl ihr =>
      obtain ⟨a, hl, h⟩ := bind_eq_ok.mp h
      obtain ⟨b, hr, -⟩ := bind_eq_ok.mp h
      obtain ⟨hfirst, hrestl⟩ := ihl (Outcome.within_eq_ok.mp hl)
      obtain ⟨hfirstr, hrestr⟩ := ihr (Outcome.within_eq_ok.mp hr)
      refine ⟨hfirst, fun o ho => ?_⟩
      rcases List.mem_append.mp ho with ho | ho
      · exact hrestl o ho
      · rcases List.mem_cons.mp ho with rfl | ho
        · exact hfirstr
        · exact hrestr o ho

theorem Expr.exists_of_evalAll {items : List Expr} {vs : List Value}
    (h : Expr.evalAll s items = .ok vs) : ∀ e ∈ items, ∃ v, e.eval s = .ok v := by
  induction items generalizing vs with
  | nil => exact fun _ he => nomatch he
  | cons e items ih =>
      obtain ⟨v, hv, h⟩ := bind_eq_ok.mp h
      obtain ⟨vs, hvs, -⟩ := bind_eq_ok.mp h
      exact List.forall_mem_cons.mpr ⟨⟨v, hv⟩, ih hvs⟩

theorem ObjectKey.exists_of_evalFields {fields : List (ObjectKey × Expr)}
    {done vs : List (String × Value)} (h : ObjectKey.evalFields s p fields done = .ok vs) :
    ∀ f ∈ fields, (∃ k, f.1.eval s p = .ok k) ∧ ∃ v, f.2.eval s = .ok v := by
  induction fields generalizing done with
  | nil => exact fun _ hf => nomatch hf
  | cons f fields ih =>
      obtain ⟨k, hk, h⟩ := bind_eq_ok.mp h
      obtain ⟨v, hv, h⟩ := bind_eq_ok.mp h
      exact List.forall_mem_cons.mpr ⟨⟨⟨k, hk⟩, v, Outcome.within_eq_ok.mp hv⟩, ih h⟩

theorem Expr.mem_evalOperands {rest : List (BinaryOp × Expr)} {op : BinaryOp} {e : Expr}
    (h : (op, e) ∈ rest) : (op, e, e.eval s) ∈ Expr.evalOperands s rest := by
  induction rest with
  | nil => cases h
  | cons o rest ih =>
      rcases List.mem_cons.mp h with rfl | h
      · exact List.mem_cons_self
      · exact List.mem_cons_of_mem _ (ih h)

/-- The operands of a chain that has a value have values. -/
theorem Expr.exists_of_chain {first : Expr} {rest : List (BinaryOp × Expr)} {v : Value}
    (h : (Expr.chain first rest).eval s = .ok v) :
    (∃ w, first.eval s = .ok w) ∧ ∀ o ∈ rest, ∃ w, o.2.eval s = .ok w := by
  obtain ⟨hfirst, hrest⟩ := Grouped.exists_operands h
  obtain ⟨hgroup, hgroups⟩ := Grouped.rest_ofChain (first, first.eval s) (Expr.evalOperands s rest)
  rw [hgroup] at hfirst
  rw [hgroups] at hrest
  exact ⟨hfirst, fun o ho => hrest _ (Expr.mem_evalOperands ho)⟩

/-- What goes on from a condition goes on with a truth value. -/
theorem Expr.exists_choice {α : Type} {condition : Expr} {k : Bool → Outcome α} {a : α}
    (h : (within p (condition.eval s) >>= fun c => c.asBool >>= k) = .ok a) :
    ∃ b, condition.eval s = .ok (.bool b) ∧ k b = .ok a := by
  obtain ⟨c, hc, h⟩ := bind_eq_ok.mp h
  obtain ⟨b, hb, h⟩ := bind_eq_ok.mp h
  rw [Outcome.within_eq_ok] at hc
  rw [Value.asBool_eq_ok] at hb
  exact ⟨b, hb ▸ hc, h⟩

/-- What goes on from a condition goes on with the branch that is not ruled out. -/
theorem Expr.of_chosen {α : Type} {condition : Expr} {k : Bool → Outcome α} {a : α} {b : Bool}
    (h : (within p (condition.eval s) >>= fun c => c.asBool >>= k) = .ok a)
    (hchosen : condition.Chooses s b) : k b = .ok a := by
  obtain ⟨c, hc, h⟩ := Expr.exists_choice h
  have hcb : c = b := Decidable.byContradiction fun hne =>
    hchosen (Bool.eq_not_of_ne hne ▸ hc)
  exact hcb ▸ h

/-- What goes on from a collection goes on with its entries. -/
theorem Expr.exists_entries {α : Type} {collection : Expr}
    {k : List (Value × Value) → Outcome α} {a : α}
    (h : (within p (collection.eval s) >>= fun w => w.entries >>= k) = .ok a) :
    (∃ w, collection.eval s = .ok w) ∧
      ∃ entries, (∀ entry, collection.Yields s entry → entry ∈ entries) ∧ k entries = .ok a := by
  obtain ⟨w, hw, h⟩ := bind_eq_ok.mp h
  obtain ⟨entries, hentries, h⟩ := bind_eq_ok.mp h
  rw [Outcome.within_eq_ok] at hw
  exact ⟨⟨w, hw⟩, entries, fun _ hyields => hyields _ (bind_eq_ok.mpr ⟨w, hw, hentries⟩), h⟩

/-- A `for` that succeeds has asked its condition for each entry, and has gone through the entries
that it admits. -/
theorem Expr.exists_step {α β : Type} {b : Binder} {collection : Expr} {condition : Option Expr}
    {step : α → Value × Value → Outcome α} {start : α} {k : α → Outcome β} {r : β}
    (h : (within p (collection.eval s) >>= fun w => w.entries >>= fun entries =>
      foldEntries (fun entry => within p (Expr.evalCondition (b.bind entry s) condition)) step
        entries start >>= k) = .ok r)
    {entry : Value × Value} (hyields : collection.Yields s entry) :
    (∃ c, Expr.evalCondition (b.bind entry s) condition = .ok c) ∧
      (Expr.Admits (b.bind entry s) condition → ∃ a a', step a entry = .ok a') := by
  obtain ⟨-, entries, hentries, h⟩ := Expr.exists_entries h
  obtain ⟨_, hfold, -⟩ := bind_eq_ok.mp h
  obtain ⟨a, a', hentry⟩ := exists_of_foldlM hfold (hentries entry hyields)
  obtain ⟨c, hc, hstep⟩ := bind_eq_ok.mp hentry
  rw [Outcome.within_eq_ok] at hc
  refine ⟨⟨c, hc⟩, fun hadmits => ?_⟩
  cases c with
  | false => exact absurd hc hadmits
  | true => exact ⟨a, a', hstep⟩

theorem Expr.exists_of_evalCondition {e : Expr} {b : Bool}
    (h : Expr.evalCondition s (some e) = .ok b) : ∃ v, e.eval s = .ok v := by
  obtain ⟨v, hv, -⟩ := bind_eq_ok.mp h
  exact ⟨v, hv⟩

theorem Segment.exists_of_evalAll {parts : List Segment} {t : String}
    (h : Segment.evalAll s p parts = .ok t) : ∀ part ∈ parts, ∃ u, part.evalOne s p = .ok u := by
  induction parts generalizing t with
  | nil => exact fun _ hpart => nomatch hpart
  | cons part parts ih =>
      obtain ⟨u, hu, h⟩ := bind_eq_ok.mp h
      obtain ⟨t, ht, -⟩ := bind_eq_ok.mp h
      exact List.forall_mem_cons.mpr ⟨⟨u, hu⟩, ih ht⟩

/-- A template that has a value has a text. -/
theorem Segment.exists_evalAll {parts : List Segment} {v : Value}
    (h : Segment.eval s p parts = .ok v) : ∃ t, Segment.evalAll s p parts = .ok t := by
  have hconcat : ∀ {part : Segment} {parts : List Segment},
      (part.evalOne s p >>= fun t => Segment.evalAll s p parts >>= fun u =>
        .ok (.string (t ++ u))) = .ok v → ∃ t, Segment.evalAll s p (part :: parts) = .ok t := by
    intro part parts h
    obtain ⟨t, ht, h⟩ := bind_eq_ok.mp h
    obtain ⟨u, hu, -⟩ := bind_eq_ok.mp h
    exact ⟨t ++ u, bind_eq_ok.mpr ⟨t, ht, bind_eq_ok.mpr ⟨u, hu, rfl⟩⟩⟩
  match parts, h with
  | [], _ => exact ⟨"", rfl⟩
  -- the value of a single interpolation need not be a text, but it has one
  | [.interpolation _ _], h =>
      rw [Segment.eval] at h
      exact ⟨v.templateText ++ "", by simp only [evalAll, evalOne, h]; rfl⟩
  | [.literal _], h | [.branch ..], h | [.repetition ..], h | [.malformed], h => exact hconcat h
  | _ :: _ :: _, h => exact hconcat (Segment.eval_cons_cons ▸ h)

/-- **Where evaluation succeeds**, it succeeds in every part that it comes to. -/
theorem Focus.Part.succeeds {focus part : Focus} (h : Part True focus part)
    (hfocus : focus.Succeeds) : part.Succeeds := by
  cases h with
  | item he =>
      obtain ⟨_, h⟩ := hfocus
      obtain ⟨_, hitems, -⟩ := bind_eq_ok.mp h
      exact Expr.exists_of_evalAll (Outcome.within_eq_ok.mp hitems) _ he
  | key hf =>
      obtain ⟨_, h⟩ := hfocus
      obtain ⟨_, hfields, -⟩ := bind_eq_ok.mp h
      obtain ⟨_, hkey⟩ := (ObjectKey.exists_of_evalFields hfields _ hf).1
      obtain ⟨v, hv, -⟩ := bind_eq_ok.mp hkey
      exact ⟨v, Outcome.within_eq_ok.mp hv⟩
  | field hf =>
      obtain ⟨_, h⟩ := hfocus
      obtain ⟨_, hfields, -⟩ := bind_eq_ok.mp h
      exact (ObjectKey.exists_of_evalFields hfields _ hf).2
  | template | heredoc =>
      obtain ⟨_, h⟩ := hfocus
      exact ⟨_, Segment.exists_evalAll h⟩
  -- whatever is done with the value of an operand, the operand has one
  | base | unary =>
      obtain ⟨_, h⟩ := hfocus
      obtain ⟨v, hv, -⟩ := bind_eq_ok.mp h
      exact ⟨v, Outcome.within_eq_ok.mp hv⟩
  | index henters =>
      obtain ⟨_, h⟩ := hfocus
      obtain ⟨v, hv, h⟩ := bind_eq_ok.mp h
      rw [Step.evalAll_append] at h
      obtain ⟨u, hu⟩ :=
        Access.exists_index h (henters trivial v (Outcome.within_eq_ok.mp hv))
      exact ⟨u, Outcome.within_eq_ok.mp hu⟩
  -- there are no functions, so a call does not succeed, whatever its arguments mention
  | argument _ =>
      obtain ⟨_, h⟩ := hfocus
      cases h
  | paren =>
      obtain ⟨v, hv⟩ := hfocus
      exact ⟨v, Outcome.within_eq_ok.mp hv⟩
  | condition =>
      obtain ⟨_, h⟩ := hfocus
      obtain ⟨b, hb, -⟩ := Expr.exists_choice h
      exact ⟨_, hb⟩
  | yes hchosen | no hchosen =>
      obtain ⟨v, h⟩ := hfocus
      exact ⟨v, Outcome.within_eq_ok.mp (Expr.of_chosen h (hchosen trivial))⟩
  | first =>
      obtain ⟨_, h⟩ := hfocus
      exact (Expr.exists_of_chain h).1
  | operand ho =>
      obtain ⟨_, h⟩ := hfocus
      exact (Expr.exists_of_chain h).2 _ ho
  | listCollection | objectCollection =>
      obtain ⟨_, h⟩ := hfocus
      exact (Expr.exists_entries h).1
  | listCondition hyields | objectCondition hyields =>
      obtain ⟨_, h⟩ := hfocus
      obtain ⟨_, hc⟩ := (Expr.exists_step h (hyields trivial)).1
      exact Expr.exists_of_evalCondition hc
  | listValue hentry =>
      obtain ⟨_, h⟩ := hfocus
      obtain ⟨hyields, hadmits⟩ := hentry trivial
      obtain ⟨_, _, hstep⟩ := (Expr.exists_step h hyields).2 hadmits
      obtain ⟨v, hv, -⟩ := bind_eq_ok.mp hstep
      exact ⟨v, Outcome.within_eq_ok.mp hv⟩
  | objectKey hentry =>
      obtain ⟨_, h⟩ := hfocus
      obtain ⟨hyields, hadmits⟩ := hentry trivial
      obtain ⟨_, _, hstep⟩ := (Expr.exists_step h hyields).2 hadmits
      obtain ⟨v, hv, -⟩ := bind_eq_ok.mp (Outcome.within_eq_ok.mp hstep)
      exact ⟨v, hv⟩
  | objectValue hentry =>
      obtain ⟨_, h⟩ := hfocus
      obtain ⟨hyields, hadmits⟩ := hentry trivial
      obtain ⟨_, _, hstep⟩ := (Expr.exists_step h hyields).2 hadmits
      obtain ⟨_, -, hstep⟩ := bind_eq_ok.mp (Outcome.within_eq_ok.mp hstep)
      obtain ⟨_, -, hstep⟩ := bind_eq_ok.mp hstep
      obtain ⟨v, hv, -⟩ := bind_eq_ok.mp hstep
      exact ⟨v, hv⟩
  | interpolation hpart =>
      obtain ⟨_, _, h⟩ := hfocus
      obtain ⟨_, h⟩ := Segment.exists_of_evalAll h _ hpart
      obtain ⟨v, hv, -⟩ := bind_eq_ok.mp h
      exact ⟨v, Outcome.within_eq_ok.mp hv⟩
  | branchCondition hpart =>
      obtain ⟨_, _, h⟩ := hfocus
      obtain ⟨_, h⟩ := Segment.exists_of_evalAll h _ hpart
      obtain ⟨b, hb, -⟩ := Expr.exists_choice h
      exact ⟨_, hb⟩
  | branchYes hpart hchosen | branchNo hpart hchosen =>
      obtain ⟨p, _, h⟩ := hfocus
      obtain ⟨t, h⟩ := Segment.exists_of_evalAll h _ hpart
      exact ⟨p, t, Expr.of_chosen h (hchosen trivial)⟩
  | repetitionCollection hpart =>
      obtain ⟨_, _, h⟩ := hfocus
      obtain ⟨_, h⟩ := Segment.exists_of_evalAll h _ hpart
      exact (Expr.exists_entries h).1
  | repetitionBody hpart hyields =>
      obtain ⟨p, _, h⟩ := hfocus
      obtain ⟨_, h⟩ := Segment.exists_of_evalAll h _ hpart
      obtain ⟨-, entries, hentries, h⟩ := Expr.exists_entries h
      obtain ⟨_, _, hstep⟩ := exists_of_foldlM h (hentries _ (hyields trivial))
      obtain ⟨t, ht, -⟩ := bind_eq_ok.mp hstep
      exact ⟨p, t, Outcome.within_eq_ok.mp ht⟩

/-- Where evaluation succeeds, it succeeds however far in it comes. -/
theorem Focus.succeeds_of_reach {focus inner : Focus}
    (h : Relation.ReflTransGen (Part True) focus inner) (hfocus : focus.Succeeds) :
    inner.Succeeds := by
  induction h with
  | refl => exact hfocus
  | tail _ hpart ih => exact hpart.succeeds ih

/-! ### Mentions -/

/-- An expression mentions a variable freely: the name stands in it and none of the names that are
bound around it is the same.  If `evaluated`, evaluation comes to the mention. -/
def Expr.Mentions (evaluated : Prop) (s : Scope) (e : Expr) (name : String) : Prop :=
  ∃ bound : Scope, name ∉ bound.map (·.1) ∧
    Relation.ReflTransGen (Focus.Part evaluated) (.expr s e) (.expr (bound ++ s) (.variable name))

/-- An expression without the parentheses around it. -/
def Expr.bare : Expr → Expr
  | .paren e => e.bare
  | e => e

/-- An expression mentions a constant key of a variable freely: `name.key`, or `name["key"]`, where
the name may stand in parentheses. -/
def Expr.MentionsKey (evaluated : Prop) (s : Scope) (e : Expr) (name key : String) : Prop :=
  ∃ (bound : Scope) (base : Expr) (step : Step) (steps : List Step), name ∉ bound.map (·.1) ∧
    base.bare = .variable name ∧ step.key? = some key ∧
    Relation.ReflTransGen (Focus.Part evaluated) (.expr s e)
      (.expr (bound ++ s) (.traversal base (step :: steps)))

theorem Expr.eval_bare {v : Value} : ∀ {e : Expr}, e.eval s = .ok v → e.bare.eval s = .ok v
  | .paren e, h => by
      rw [Expr.eval, Outcome.within_eq_ok] at h
      exact Expr.eval_bare (e := e) h
  | .null, h | .bool _, h | .number _, h | .string _, h | .array _, h | .object _, h
  | .template .., h | .heredoc .., h | .variable _, h | .traversal .., h | .call .., h
  | .conditional .., h | .unary .., h | .chain .., h | .forList .., h | .forObject .., h => h

/-- Names that are bound do not hide another name. -/
theorem Scope.lookup_append {bound : Scope} {name : String} (h : name ∉ bound.map (·.1)) :
    (bound ++ s).lookup name = s.lookup name := by
  have hbound : bound.lookup name = none := by
    rw [List.lookup_eq_none_iff]
    intro entry hentry
    exact bne_iff_ne.mpr fun heq => h (heq ▸ List.mem_map_of_mem hentry)
  rw [List.lookup_append, hbound, Option.none_or]

/-- **An expression has no value** if evaluation comes to a variable that is not in scope. -/
theorem Expr.Mentions.eval_ne_ok {e : Expr} {name : String} (h : e.Mentions True s name)
    (hname : s.lookup name = none) (v : Value) : e.eval s ≠ .ok v := by
  intro hv
  obtain ⟨bound, hfree, hreach⟩ := h
  obtain ⟨w, hw⟩ := Focus.succeeds_of_reach hreach ⟨v, hv⟩
  rw [Expr.eval_variable_eq_ok, Scope.lookup_append hfree, hname] at hw
  cases hw

/-- An expression has no value if evaluation comes to a key that is not in its table. -/
theorem Expr.MentionsKey.eval_ne_ok {e : Expr} {name key : String}
    {table : List (String × Value)} (h : e.MentionsKey True s name key)
    (hname : s.lookup name = some (.object table)) (hkey : table.lookup key = none) (v : Value) :
    e.eval s ≠ .ok v := by
  intro hv
  obtain ⟨bound, base, step, steps, hfree, hbase, hstep, hreach⟩ := h
  obtain ⟨w, hw⟩ := Focus.succeeds_of_reach hreach ⟨v, hv⟩
  obtain ⟨u, hu, hw⟩ := bind_eq_ok.mp hw
  replace hu := Expr.eval_bare (Outcome.within_eq_ok.mp hu)
  rw [hbase, Expr.eval_variable_eq_ok, Scope.lookup_append hfree, hname] at hu
  cases hu
  obtain ⟨access, haccess, happly⟩ := Step.evalAll_of_key hstep steps (bound ++ s)
    (.traversal base (step :: steps))
  rw [haccess, happly, Value.atKey] at hw
  obtain ⟨_, hfield, -⟩ := bind_eq_ok.mp hw
  simp only [hkey] at hfield
  cases hfield

end VirtEnv.Hcl
