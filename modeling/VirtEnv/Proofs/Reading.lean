import VirtEnv.Hcl.Eval
import VirtEnv.Proofs.Results
import VirtEnv.Table

/-!
# Reading — what an expression reads of its scope

A depth says of each variable how many constant keys follow its name wherever an expression reads
it: `network.x` reads `network` one key deep, `data.network.x` reads `data` two keys deep, and
`[for n in network : n]` reads the whole of `network`.  The names that a `for` binds are variables
of their own, and are read as they please.

* `Expr.readsBelow`: an expression reads every variable at least as deep as a depth says.
* `Scope.Keeps`: a scope keeps what lies in another at a depth.  What lies less deep may change, as
  the table of networks does when it gets another entry.
* `Expr.evaluate_of_keeps`: an expression that reads below a depth, and has a value in a scope, has
  this value in every scope that keeps what lies there.
* `Expr.evaluate_of_nil`: the value that an expression has in the empty scope, it has in every
  scope.

Evaluation goes on with values alone, so it is enough to compare outcomes where they are values
(`Outcome.Le`); of two faults it does not matter which.
-/

namespace VirtEnv.Hcl

open Outcome (raise within)

/-! ### Outcomes -/

/-- Naming the place of a fault makes no value of it. -/
theorem Outcome.within_eq_ok {α : Type} {p : Expr} {o : Outcome α} {a : α} :
    within p o = .ok a ↔ o = .ok a := by
  unfold within
  split <;> simp

/-- The second outcome is the first, where that is a value. -/
def Outcome.Le {α : Type} (o o' : Outcome α) : Prop := ∀ a, o = .ok a → o' = .ok a

namespace Outcome.Le

variable {α β : Type}

theorem refl {o : Outcome α} : o.Le o := fun _ h => h

theorem of_raise {cause : Cause} {o : Outcome α} : (raise cause).Le o := fun _ h => by cases h

theorem bind {o o' : Outcome α} {f f' : α → Outcome β} (h : o.Le o')
    (hf : ∀ a, (f a).Le (f' a)) : (o >>= f).Le (o' >>= f') := by
  intro b hb
  cases ho : o with
  | error e => rw [ho] at hb; cases hb
  | ok a =>
      rw [ho] at hb
      rw [h a ho]
      exact hf a b hb

/-- A fault may be reported with another expression. -/
theorem within {p p' : Expr} {o o' : Outcome α} (h : o.Le o') :
    (Outcome.within p o).Le (Outcome.within p' o') := by
  intro a ha
  rw [within_eq_ok] at ha ⊢
  exact h a ha

theorem foldlM {f f' : β → α → Outcome β} (hf : ∀ b a, (f b a).Le (f' b a)) {xs : List α} {b : β} :
    (xs.foldlM f b).Le (xs.foldlM f' b) := by
  induction xs generalizing b with
  | nil => exact refl
  | cons x xs ih =>
      rw [List.foldlM_cons, List.foldlM_cons]
      exact (hf b x).bind fun _ => ih

theorem mapM {f f' : α → Outcome β} (hf : ∀ a, (f a).Le (f' a)) {xs : List α} :
    (xs.mapM f).Le (xs.mapM f') := by
  induction xs with
  | nil => exact refl
  | cons x xs ih =>
      rw [List.mapM_cons, List.mapM_cons]
      exact (hf x).bind fun _ => ih.bind fun _ => refl

theorem foldEntries {select select' : Value × Value → Outcome Bool}
    {step step' : α → Value × Value → Outcome α} {entries : List (Value × Value)} {start : α}
    (hselect : ∀ entry, (select entry).Le (select' entry))
    (hstep : ∀ a entry, (step a entry).Le (step' a entry)) :
    (Hcl.foldEntries select step entries start).Le
      (Hcl.foldEntries select' step' entries start) := by
  refine foldlM fun a entry => (hselect entry).bind fun b => ?_
  cases b with
  | true => exact hstep a entry
  | false => exact refl

end Outcome.Le

/-! ### Chains -/

/-- Two trees have one shape, and their operands are related. -/
inductive Grouped.Rel {α β : Type} (R : α → β → Prop) : Grouped α → Grouped β → Prop where
  | operand {a : α} {b : β} : R a b → Rel R (.operand a) (.operand b)
  | node {l r : Grouped α} {l' r' : Grouped β} {op : BinaryOp} : Rel R l l' → Rel R r r' →
      Rel R (.node l op r) (.node l' op r')

namespace Grouped

variable {α β : Type} {R : α → β → Prop}

theorem Rel.push {a : α} {b : β} {op : BinaryOp} {t : Grouped α} {t' : Grouped β} (hab : R a b)
    (h : Rel R t t') : Rel R (Grouped.push a op t) (Grouped.push b op t') := by
  induction h with
  | operand hcd => exact .node (.operand hab) (.operand hcd)
  | @node l r l' r' o hl hr ih _ =>
      by_cases hweaker : o.precedence < op.precedence
      · simpa [Grouped.push, hweaker] using Rel.node ih hr
      · simpa [Grouped.push, hweaker] using Rel.node (.operand hab) (.node hl hr)

/-- Grouping does not look at the operands. -/
theorem rel_ofChain {a : α} {b : β} {rest : List (BinaryOp × α)} {rest' : List (BinaryOp × β)}
    (hab : R a b) (h : List.Forall₂ (fun p q => p.1 = q.1 ∧ R p.2 q.2) rest rest') :
    Rel R (ofChain a rest) (ofChain b rest') := by
  induction h generalizing a b with
  | nil => exact .operand hab
  | @cons p q _ _ hpq _ ih =>
      obtain ⟨op, a'⟩ := p
      obtain ⟨op', b'⟩ := q
      obtain ⟨rfl, hab'⟩ := hpq
      exact (ih hab').push hab

/-- The operands of a chain have outcomes that are as good. -/
theorem Rel.eval_le {t t' : Grouped (Expr × Outcome Value)}
    (h : Rel (fun p q => p.2.Le q.2) t t') : t.eval.Le t'.eval := by
  induction h with
  | operand hab => exact hab
  | node _ _ ihl ihr => exact ihl.within.bind fun _ => ihr.within.bind fun _ => .refl

end Grouped

/-! ### Accesses -/

/-- The second access is the first, up to the outcome of its index. -/
inductive Access.Le : Access → Access → Prop where
  | member (name : String) : Le (.member name) (.member name)
  | position (n : Nat) : Le (.position n) (.position n)
  | index {i i' : Outcome Value} : i.Le i' → Le (.index i) (.index i')
  | memberSplat (names : List String) : Le (.memberSplat names) (.memberSplat names)
  | fullSplat : Le .fullSplat .fullSplat

namespace Access

theorem Le.name?_eq {a a' : Access} (h : a.Le a') : a'.name? = a.name? := by
  cases h <;> rfl

/-- An attribute splat takes over the same attributes of both. -/
theorem le_splatMembers {as as' : List Access} (h : List.Forall₂ Le as as') :
    List.Forall₂ Le (splatMembers as) (splatMembers as') := by
  have hsplit : (as'.takeWhile (·.name?.isSome)).filterMap name? =
        (as.takeWhile (·.name?.isSome)).filterMap name? ∧
      List.Forall₂ Le (as.dropWhile (·.name?.isSome)) (as'.dropWhile (·.name?.isSome)) := by
    induction h with
    | nil => exact ⟨rfl, .nil⟩
    | @cons a a' as as' ha has ih =>
        have hname : a'.name? = a.name? := ha.name?_eq
        cases hn : a.name? with
        | none => simp [hname, hn, ha, has]
        | some name => simpa [List.takeWhile_cons, List.dropWhile_cons, hname, hn] using ih
  rw [splatMembers, splatMembers, hsplit.1]
  exact .cons (.memberSplat _) hsplit.2

/-- Accesses that are as good select as much. -/
theorem apply_le {as as' : List Access} (h : List.Forall₂ Le as as') (v : Value) :
    (apply as v).Le (apply as' v) := by
  induction h generalizing v with
  | nil => exact .refl
  | cons ha _ ih =>
      cases ha with
      | member name => exact Outcome.Le.refl.bind ih
      | position n => exact Outcome.Le.refl.bind ih
      | index hi => exact hi.bind fun _ => Outcome.Le.refl.bind ih
      | memberSplat names => exact Outcome.Le.refl.bind fun _ => ih _
      | fullSplat => exact (Outcome.Le.mapM ih).bind fun _ => .refl

end Access

/-! ### Depth -/

/-- How many constant keys follow a variable at least, wherever it is read. -/
abbrev Depth := String → Nat

/-- The depth in the body of a `for`: the names that it binds are read as they please. -/
def Depth.under (depth : Depth) (b : Binder) : Depth := fun name =>
  if name = b.value ∨ b.key = some name then 0 else depth name

/-- The key that an access reads, if it is a constant: `.x`, or `["x"]`. -/
def Step.key? : Step → Option String
  | .member name => some name
  | .index (.string key) => some key
  | _ => none

/-- The number of constant keys with which accesses begin. -/
def Step.keyCount (steps : List Step) : Nat := (steps.takeWhile (·.key?.isSome)).length

/-- The expression is a variable, perhaps in parentheses, and the accesses read it deep enough. -/
def Expr.readBy (depth : Depth) (steps : List Step) : Expr → Bool
  | .variable name => depth name ≤ Step.keyCount steps
  | .paren e => e.readBy depth steps
  | _ => false

mutual

/-- An expression reads every variable that it does not bind at least as deep as `depth` says. -/
def Expr.readsBelow (depth : Depth) : Expr → Bool
  | .null | .bool _ | .number _ | .string _ => true
  | .array items => Expr.allReadBelow depth items
  | .object fields => ObjectKey.fieldsReadBelow depth fields
  | .template _ parts => Segment.allReadBelow depth parts
  | .heredoc _ _ parts => Segment.allReadBelow depth parts
  | .variable name => depth name == 0
  | .traversal base steps =>
      (base.readBy depth steps || base.readsBelow depth) && Step.allReadBelow depth steps
  | .call _ args _ => Expr.allReadBelow depth args
  | .paren e => e.readsBelow depth
  | .conditional condition yes no =>
      condition.readsBelow depth && yes.readsBelow depth && no.readsBelow depth
  | .unary _ e => e.readsBelow depth
  | .chain first rest => first.readsBelow depth && Expr.operandsReadBelow depth rest
  | .forList binder collection value condition =>
      collection.readsBelow depth && value.readsBelow (depth.under binder)
        && Expr.conditionReadsBelow (depth.under binder) condition
  | .forObject binder collection key value _ condition =>
      collection.readsBelow depth && key.readsBelow (depth.under binder)
        && value.readsBelow (depth.under binder)
        && Expr.conditionReadsBelow (depth.under binder) condition
termination_by structural e => e

/-- The same for a condition, which may be missing. -/
def Expr.conditionReadsBelow (depth : Depth) : Option Expr → Bool
  | none => true
  | some e => e.readsBelow depth
termination_by structural e => e

/-- The same for several expressions. -/
def Expr.allReadBelow (depth : Depth) : List Expr → Bool
  | [] => true
  | e :: es => e.readsBelow depth && Expr.allReadBelow depth es
termination_by structural es => es

/-- The same for the operands of a chain. -/
def Expr.operandsReadBelow (depth : Depth) : List (BinaryOp × Expr) → Bool
  | [] => true
  | (_, e) :: rest => e.readsBelow depth && Expr.operandsReadBelow depth rest
termination_by structural rest => rest

/-- The same for an object key.  A bare name is no variable. -/
def ObjectKey.readsBelow (depth : Depth) : ObjectKey → Bool
  | .name _ => true
  | .computed e => e.readsBelow depth
termination_by structural key => key

/-- The same for the fields of an object. -/
def ObjectKey.fieldsReadBelow (depth : Depth) : List (ObjectKey × Expr) → Bool
  | [] => true
  | (key, e) :: fields =>
      key.readsBelow depth && e.readsBelow depth && ObjectKey.fieldsReadBelow depth fields
termination_by structural fields => fields

/-- The same for an access. -/
def Step.readsBelow (depth : Depth) : Step → Bool
  | .index e => e.readsBelow depth
  | .member _ | .position _ | .memberSplat | .fullSplat => true
termination_by structural s => s

/-- The same for several accesses. -/
def Step.allReadBelow (depth : Depth) : List Step → Bool
  | [] => true
  | s :: ss => s.readsBelow depth && Step.allReadBelow depth ss
termination_by structural ss => ss

/-- The same for the expressions in a part of a template. -/
def Segment.readsBelow (depth : Depth) : Segment → Bool
  | .literal _ | .malformed => true
  | .interpolation _ e => e.readsBelow depth
  | .branch _ condition yes _ no _ =>
      condition.readsBelow depth && Segment.allReadBelow depth yes
        && Segment.allReadBelow depth no
  | .repetition _ binder collection body _ =>
      collection.readsBelow depth && Segment.allReadBelow (depth.under binder) body
termination_by structural s => s

/-- The same for the expressions in several parts. -/
def Segment.allReadBelow (depth : Depth) : List Segment → Bool
  | [] => true
  | s :: ss => s.readsBelow depth && Segment.allReadBelow depth ss
termination_by structural ss => ss

end

/-! ### Scopes -/

/-- The part of a value at the end of a path of keys. -/
def Value.atPath (path : List String) (v : Value) : Outcome Value := path.foldlM Value.atKey v

theorem Step.evalAll_path (scope : Scope) (p : Expr) (path : List String) (steps : List Step) :
    Step.evalAll scope p (path.map .member ++ steps) =
      path.map .member ++ Step.evalAll scope p steps := by
  induction path with
  | nil => rfl
  | cons key path ih =>
      rw [List.map_cons, List.cons_append, Step.evalAll, ih]
      rfl

theorem Access.apply_path (path : List String) (accesses : List Access) (v : Value) :
    Access.apply (path.map .member ++ accesses) v = v.atPath path >>= Access.apply accesses := by
  induction path generalizing v with
  | nil => rfl
  | cons key path ih =>
      rw [List.map_cons, List.cons_append, Access.apply, Value.atPath, List.foldlM_cons, bind_assoc]
      exact congrArg _ (funext ih)

/-- A path into a table leads to a part of it, from which further steps go on. -/
theorem Expr.eval_path {scope : Scope} {table : String} (path : List String) (steps : List Step)
    {v : Value} (htable : scope.lookup table = some v) :
    let p := Expr.traversal (.variable table) (path.map .member ++ steps)
    p.eval scope = v.atPath path >>= Access.apply (Step.evalAll scope p steps) := by
  intro p
  rw [Expr.eval, Expr.eval, htable]
  show Access.apply (Step.evalAll scope p (path.map .member ++ steps)) v = _
  rw [Step.evalAll_path, Access.apply_path]

/-- A path stands for the part of its table that it leads to. -/
theorem Expr.evaluate_path {scope : Scope} {table : String} (path : List String) {v w : Value}
    (htable : scope.lookup table = some v) (hpath : v.atPath path = .ok w) :
    (Expr.traversal (.variable table) (path.map .member)).evaluate scope = .ok w := by
  have heval := eval_path path [] htable
  rw [List.append_nil] at heval
  rw [Expr.evaluate, Outcome.within_eq_ok, heval, hpath]
  rfl

/-- The second value keeps what lies at a depth in the first: whatever is found there by a path of
keys. -/
def Value.Keeps (n : Nat) (v v' : Value) : Prop :=
  ∀ path w, path.length = n → v.atPath path = .ok w → v'.atPath path = .ok w

/-- The second scope has the variables of the first, and each keeps what lies at its depth. -/
def Scope.Keeps (depth : Depth) (s s' : Scope) : Prop :=
  ∀ name v, s.lookup name = some v →
    ∃ v', s'.lookup name = some v' ∧ Value.Keeps (depth name) v v'

theorem Value.Keeps.refl {n : Nat} {v : Value} : Value.Keeps n v v := fun _ _ _ h => h

theorem Scope.Keeps.nil {depth : Depth} {s : Scope} : Scope.Keeps depth [] s := fun _ _ h => by
  cases h

theorem Scope.Keeps.cons {depth : Depth} {s s' : Scope} {name : String} {v v' : Value}
    (hv : Value.Keeps (depth name) v v') (hs : Scope.Keeps depth s s') :
    Scope.Keeps depth ((name, v) :: s) ((name, v') :: s') := by
  intro m w hw
  rw [Table.lookup_cons] at hw ⊢
  by_cases hm : m = name
  · subst hm
    rw [if_pos rfl] at hw ⊢
    cases hw
    exact ⟨v', rfl, hv⟩
  · rw [if_neg hm] at hw ⊢
    exact hs m w hw

/-- An object keeps what lies one deeper than what its fields keep. -/
theorem Value.Keeps.object {n : Nat} {fields fields' : List (String × Value)}
    (h : Scope.Keeps (fun _ => n) fields fields') :
    Value.Keeps (n + 1) (.object fields) (.object fields') := by
  intro path w hlen hw
  cases path with
  | nil => cases hlen
  | cons key path =>
      rw [atPath, List.foldlM_cons] at hw ⊢
      cases hv : fields.lookup key with
      | none => simp only [atKey, hv] at hw; cases hw
      | some v =>
          obtain ⟨v', hv', hkeeps⟩ := h key v hv
          simp only [atKey, hv] at hw
          simp only [atKey, hv']
          exact hkeeps path w (Nat.succ.inj hlen) hw

/-- A table of names that gets more names keeps its entries. -/
theorem Value.Keeps.ofNames {names names' : List String} (h : names ⊆ names') :
    Value.Keeps 1 (.ofNames names) (.ofNames names') := by
  have hlookup : ∀ (names : List String) key v,
      (names.map fun n => (n, Value.string n)).lookup key = some v ↔
        key ∈ names ∧ .string key = v := by
    intro names key v
    induction names with
    | nil => simp
    | cons name names ih =>
        rw [List.map_cons, Table.lookup_cons, List.mem_cons]
        by_cases hname : key = name <;> simp [hname, ih]
  -- an entry is its own name, so it is the same in both tables
  refine .object fun key v hv => ?_
  obtain ⟨hkey, hv⟩ := (hlookup names key v).mp hv
  exact ⟨v, (hlookup names' key v).mpr ⟨h hkey, hv⟩, .refl⟩

theorem Binder.lookup_bind {b : Binder} {entry : Value × Value} {s : Scope} {name : String} :
    (b.bind entry s).lookup name =
      if name = b.value then some entry.2
      else if b.key = some name then some entry.1 else s.lookup name := by
  rw [bind, Table.lookup_cons]
  cases hkey : b.key with
  | none => simp
  | some key => simp only [Table.lookup_cons, Option.some.injEq, eq_comm]

/-- A `for` binds the same in both scopes, and what it does not bind is kept. -/
theorem Scope.Keeps.bind {depth : Depth} {s s' : Scope} (h : Scope.Keeps depth s s') (b : Binder)
    (entry : Value × Value) : Scope.Keeps (depth.under b) (b.bind entry s) (b.bind entry s') := by
  intro name v hv
  rw [Binder.lookup_bind] at hv ⊢
  by_cases hvalue : name = b.value
  · rw [if_pos hvalue] at hv ⊢
    exact ⟨v, hv, .refl⟩
  · by_cases hkey : b.key = some name
    · rw [if_neg hvalue, if_pos hkey] at hv ⊢
      exact ⟨v, hv, .refl⟩
    · rw [if_neg hvalue, if_neg hkey] at hv ⊢
      rw [Depth.under, if_neg (not_or.mpr ⟨hvalue, hkey⟩)]
      exact h name v hv

/-- An access by a constant key reads the part at that key, in any scope. -/
theorem Step.evalAll_of_key {step : Step} {key : String} (h : step.key? = some key)
    (steps : List Step) (s : Scope) (p : Expr) :
    ∃ access : Access, Step.evalAll s p (step :: steps) = access :: Step.evalAll s p steps ∧
      ∀ rest v, Access.apply (access :: rest) v = v.atKey key >>= Access.apply rest := by
  cases step with
  | member _ => cases h; exact ⟨_, rfl, fun _ _ => rfl⟩
  | index e =>
      cases e with
      | string key => cases h; exact ⟨.index (.ok (.string key)), rfl, fun _ _ => rfl⟩
      | _ => cases h
  | position _ | memberSplat | fullSplat => cases h

/-- Accesses that begin with constant keys read the part at the end of a path, in any scope. -/
theorem Step.exists_path {n : Nat} {steps : List Step} (h : n ≤ Step.keyCount steps) :
    ∃ path : List String, path.length = n ∧ ∀ s p v,
      Access.apply (Step.evalAll s p steps) v =
        v.atPath path >>= Access.apply ((Step.evalAll s p steps).drop n) := by
  induction n generalizing steps with
  | zero => exact ⟨[], rfl, fun _ _ _ => rfl⟩
  | succ n ih =>
      cases steps with
      | nil => cases h
      | cons step steps =>
          cases hkey : step.key? with
          | none => simp [keyCount, hkey] at h
          | some key =>
              have hn : n ≤ keyCount steps := by simpa [keyCount, hkey] using h
              obtain ⟨path, hlen, hpath⟩ := ih hn
              refine ⟨key :: path, congrArg (· + 1) hlen, fun s p v => ?_⟩
              obtain ⟨access, haccess, happly⟩ := evalAll_of_key hkey steps s p
              rw [haccess, happly, List.drop_succ_cons, Value.atPath, List.foldlM_cons, bind_assoc]
              exact congrArg _ (funext fun w => hpath s p w)

/-! ### Evaluation -/

/-- A template of several parts is the text of them all. -/
theorem Segment.eval_cons_cons {s : Scope} {p : Expr} {part part' : Segment}
    {parts : List Segment} :
    Segment.eval s p (part :: part' :: parts) = (part.evalOne s p >>= fun t =>
      Segment.evalAll s p (part' :: parts) >>= fun u => .ok (.string (t ++ u))) := by
  cases part <;> rfl

theorem Expr.eval_variable_eq_ok {s : Scope} {name : String} {v : Value} :
    (Expr.variable name).eval s = .ok v ↔ s.lookup name = some v := by
  rw [Expr.eval]
  cases s.lookup name <;> simp [raise]

/-- An expression that is read by accesses is a variable that they read deep enough. -/
theorem Expr.exists_variable {depth : Depth} {steps : List Step} :
    ∀ base : Expr, base.readBy depth steps = true → ∃ name, depth name ≤ Step.keyCount steps ∧
      ∀ (s : Scope) v, base.eval s = .ok v ↔ s.lookup name = some v
  | .variable name, h => ⟨name, of_decide_eq_true h, fun _ _ => Expr.eval_variable_eq_ok⟩
  | .paren e, h => by
      obtain ⟨name, hdepth, heval⟩ := Expr.exists_variable e h
      exact ⟨name, hdepth, fun s v => Outcome.within_eq_ok.trans (heval s v)⟩

/-- A variable that is read deep enough gives the same in both scopes. -/
theorem Expr.traverse_le {depth : Depth} {s s' : Scope} {base p : Expr} {steps : List Step}
    (hs : Scope.Keeps depth s s') (hbase : base.readBy depth steps = true)
    (hsteps : List.Forall₂ Access.Le (Step.evalAll s p steps) (Step.evalAll s' p steps)) :
    (within p (base.eval s) >>= Access.apply (Step.evalAll s p steps)).Le
      (within p (base.eval s') >>= Access.apply (Step.evalAll s' p steps)) := by
  obtain ⟨name, hdepth, heval⟩ := Expr.exists_variable base hbase
  -- the keys that the depth asks for are read first; the rest goes on from one value in both scopes
  obtain ⟨path, hlen, hpath⟩ := Step.exists_path hdepth
  intro w hw
  cases hv : within p (base.eval s) with
  | error e => rw [hv] at hw; cases hw
  | ok v =>
      replace hw : v.atPath path >>=
          Access.apply ((Step.evalAll s p steps).drop (depth name)) = .ok w := by
        rw [← hpath, ← hw, hv]
        rfl
      rw [Outcome.within_eq_ok, heval] at hv
      cases hu : v.atPath path with
      | error e => rw [hu] at hw; cases hw
      | ok u =>
          obtain ⟨v', hv', hkeeps⟩ := hs name v hv
          have hu' : v'.atPath path = .ok u := hkeeps path u hlen hu
          have hbase' : within p (base.eval s') = .ok v' :=
            Outcome.within_eq_ok.mpr ((heval s' v').mpr hv')
          rw [hu] at hw
          rw [hbase']
          show Access.apply (Step.evalAll s' p steps) v' = .ok w
          rw [hpath, hu']
          exact Access.apply_le (List.forall₂_drop _ hsteps) u w hw

mutual

/-- **An expression that reads below a depth** has its value in every scope that keeps what lies
there. -/
theorem Expr.eval_le {depth : Depth} {s s' : Scope} (hs : Scope.Keeps depth s s') :
    ∀ e : Expr, e.readsBelow depth = true → (e.eval s).Le (e.eval s')
  | .null, _ | .bool _, _ | .number _, _ | .string _, _ => .refl
  | .array items, h => by
      simp only [Expr.eval]
      exact (Expr.evalAll_le hs items h).within.bind fun _ => .refl
  | .object fields, h => by
      simp only [Expr.eval]
      exact (ObjectKey.evalFields_le hs fields h _).bind fun _ => .refl
  | .template text parts, h => by
      simp only [Expr.eval]
      exact Segment.eval_le hs parts h
  | .heredoc delimiter text parts, h => by
      simp only [Expr.eval]
      exact Segment.eval_le hs parts h
  | .variable name, h => by
      intro v hv
      rw [Expr.eval_variable_eq_ok] at hv ⊢
      obtain ⟨v', hv', hkeeps⟩ := hs name v hv
      rwa [Except.ok.inj (hkeeps [] v (beq_iff_eq.mp h).symm rfl)] at hv'
  | .traversal base steps, h => by
      simp only [Expr.readsBelow, Bool.and_eq_true, Bool.or_eq_true] at h
      simp only [Expr.eval]
      have hsteps := Step.evalAll_le (p := .traversal base steps) hs steps h.2
      rcases h.1 with hbase | hbase
      -- the value of the variable itself may differ, so it is not compared before its keys are read
      · exact Expr.traverse_le hs hbase hsteps
      · exact (Expr.eval_le hs base hbase).within.bind fun v => Access.apply_le hsteps v
  -- there are no functions, so whatever the arguments read, the call has no value
  | .call function _ _, _ => by
      simp only [Expr.eval]
      exact .of_raise
  | .paren e, h => by
      simp only [Expr.eval]
      exact (Expr.eval_le hs e h).within
  | .conditional condition yes no, h => by
      simp only [Expr.readsBelow, Bool.and_eq_true] at h
      simp only [Expr.eval]
      refine (Expr.eval_le hs condition h.1.1).within.bind fun _ => Outcome.Le.refl.bind fun c => ?_
      cases c with
      | true => exact (Expr.eval_le hs yes h.1.2).within
      | false => exact (Expr.eval_le hs no h.2).within
  | .unary op e, h => by
      simp only [Expr.eval]
      exact (Expr.eval_le hs e h).within.bind fun _ => .refl
  | .chain first rest, h => by
      simp only [Expr.readsBelow, Bool.and_eq_true] at h
      simp only [Expr.eval]
      exact Grouped.Rel.eval_le
        (Grouped.rel_ofChain (Expr.eval_le hs first h.1) (Expr.evalOperands_le hs rest h.2))
  | .forList binder collection value condition, h => by
      simp only [Expr.readsBelow, Bool.and_eq_true] at h
      simp only [Expr.eval]
      refine (Expr.eval_le hs collection h.1.1).within.bind fun _ => Outcome.Le.refl.bind fun _ => ?_
      refine (Outcome.Le.foldEntries (fun entry => ?_) fun items entry => ?_).bind fun _ => .refl
      · exact (Expr.evalCondition_le (hs.bind binder entry) condition h.2).within
      · exact (Expr.eval_le (hs.bind binder entry) value h.1.2).within.bind fun _ => .refl
  | .forObject binder collection key value grouped condition, h => by
      simp only [Expr.readsBelow, Bool.and_eq_true] at h
      simp only [Expr.eval]
      refine (Expr.eval_le hs collection h.1.1.1).within.bind fun _ =>
        Outcome.Le.refl.bind fun _ => ?_
      refine (Outcome.Le.foldEntries (fun entry => ?_) fun fields entry => ?_).bind fun _ => .refl
      · exact (Expr.evalCondition_le (hs.bind binder entry) condition h.2).within
      · refine ((Expr.eval_le (hs.bind binder entry) key h.1.1.2).bind fun _ =>
          Outcome.Le.refl.bind fun _ => ?_).within
        exact (Expr.eval_le (hs.bind binder entry) value h.1.2).bind fun _ => .refl
termination_by structural e => e

theorem Expr.evalCondition_le {depth : Depth} {s s' : Scope} (hs : Scope.Keeps depth s s') :
    ∀ condition : Option Expr, Expr.conditionReadsBelow depth condition = true →
      (Expr.evalCondition s condition).Le (Expr.evalCondition s' condition)
  | none, _ => .refl
  | some e, h => by
      simp only [Expr.evalCondition]
      exact (Expr.eval_le hs e h).bind fun _ => .refl
termination_by structural condition => condition

theorem Expr.evalAll_le {depth : Depth} {s s' : Scope} (hs : Scope.Keeps depth s s') :
    ∀ es : List Expr, Expr.allReadBelow depth es = true →
      (Expr.evalAll s es).Le (Expr.evalAll s' es)
  | [], _ => .refl
  | e :: es, h => by
      simp only [Expr.allReadBelow, Bool.and_eq_true] at h
      simp only [Expr.evalAll]
      exact (Expr.eval_le hs e h.1).bind fun _ => (Expr.evalAll_le hs es h.2).bind fun _ => .refl
termination_by structural es => es

theorem Expr.evalOperands_le {depth : Depth} {s s' : Scope} (hs : Scope.Keeps depth s s') :
    ∀ rest : List (BinaryOp × Expr), Expr.operandsReadBelow depth rest = true →
      List.Forall₂ (fun p q => p.1 = q.1 ∧ p.2.2.Le q.2.2) (Expr.evalOperands s rest)
        (Expr.evalOperands s' rest)
  | [], _ => .nil
  | (op, e) :: rest, h => by
      simp only [Expr.operandsReadBelow, Bool.and_eq_true] at h
      exact .cons ⟨rfl, Expr.eval_le hs e h.1⟩ (Expr.evalOperands_le hs rest h.2)
termination_by structural rest => rest

theorem ObjectKey.eval_le {depth : Depth} {s s' : Scope} {p : Expr} (hs : Scope.Keeps depth s s') :
    ∀ key : ObjectKey, key.readsBelow depth = true → (key.eval s p).Le (key.eval s' p)
  | .name _, _ => .refl
  | .computed e, h => by
      simp only [ObjectKey.eval]
      exact (Expr.eval_le hs e h).within.bind fun _ => .refl
termination_by structural key => key

theorem ObjectKey.evalFields_le {depth : Depth} {s s' : Scope} {p : Expr}
    (hs : Scope.Keeps depth s s') :
    ∀ fields : List (ObjectKey × Expr), ObjectKey.fieldsReadBelow depth fields = true →
      ∀ done, (ObjectKey.evalFields s p fields done).Le (ObjectKey.evalFields s' p fields done)
  | [], _, _ => .refl
  | (key, e) :: fields, h, done => by
      simp only [ObjectKey.fieldsReadBelow, Bool.and_eq_true] at h
      simp only [ObjectKey.evalFields]
      refine (ObjectKey.eval_le hs key h.1.1).bind fun _ => ?_
      refine (Expr.eval_le hs e h.1.2).within.bind fun _ => ?_
      exact ObjectKey.evalFields_le hs fields h.2 _
termination_by structural fields => fields

theorem Step.eval_le {depth : Depth} {s s' : Scope} {p : Expr} (hs : Scope.Keeps depth s s') :
    ∀ step : Step, step.readsBelow depth = true → (step.eval s p).Le (step.eval s' p)
  | .member name, _ => .member name
  | .position n, _ => .position n
  | .index e, h => .index (Expr.eval_le hs e h).within
  | .memberSplat, _ => .memberSplat []
  | .fullSplat, _ => .fullSplat
termination_by structural step => step

theorem Step.evalAll_le {depth : Depth} {s s' : Scope} {p : Expr} (hs : Scope.Keeps depth s s') :
    ∀ steps : List Step, Step.allReadBelow depth steps = true →
      List.Forall₂ Access.Le (Step.evalAll s p steps) (Step.evalAll s' p steps)
  | [], _ => .nil
  | step :: steps, h => by
      simp only [Step.allReadBelow, Bool.and_eq_true] at h
      have hstep := Step.eval_le (p := p) hs step h.1
      have hsteps := Step.evalAll_le (p := p) hs steps h.2
      -- a splat takes over the attributes after it, which are the same in both scopes
      cases step with
      | memberSplat => exact Access.le_splatMembers hsteps
      | member _ | position _ | index _ | fullSplat => exact .cons hstep hsteps
termination_by structural steps => steps

theorem Segment.eval_le {depth : Depth} {s s' : Scope} {p : Expr} (hs : Scope.Keeps depth s s') :
    ∀ parts : List Segment, Segment.allReadBelow depth parts = true →
      (Segment.eval s p parts).Le (Segment.eval s' p parts)
  | [], _ => .refl
  | part :: parts, h => by
      simp only [Segment.allReadBelow, Bool.and_eq_true] at h
      have hpart := Segment.evalOne_le (p := p) hs part h.1
      have hparts := Segment.evalAll_le (p := p) hs parts h.2
      have hall : (part.evalOne s p >>= fun t => Segment.evalAll s p parts >>= fun u =>
            (.ok (.string (t ++ u)) : Outcome Value)).Le (part.evalOne s' p >>= fun t =>
            Segment.evalAll s' p parts >>= fun u => .ok (.string (t ++ u))) :=
        hpart.bind fun _ => hparts.bind fun _ => .refl
      -- a single interpolation is its value and not a text, so it is the one case apart
      match parts, part, h, hall with
      | [], .interpolation _ e, h, _ => exact (Expr.eval_le hs e h.1).within
      | [], .literal _, _, hall | [], .branch .., _, hall | [], .repetition .., _, hall
      | [], .malformed, _, hall => exact hall
      | _ :: _, _, _, hall => rwa [Segment.eval_cons_cons, Segment.eval_cons_cons]
termination_by structural parts => parts

theorem Segment.evalOne_le {depth : Depth} {s s' : Scope} {p : Expr} (hs : Scope.Keeps depth s s') :
    ∀ part : Segment, part.readsBelow depth = true → (part.evalOne s p).Le (part.evalOne s' p)
  | .literal _, _ => .refl
  | .interpolation _ e, h => by
      simp only [Segment.evalOne]
      exact (Expr.eval_le hs e h).within.bind fun _ => .refl
  | .branch _ condition yes _ no _, h => by
      simp only [Segment.readsBelow, Bool.and_eq_true] at h
      simp only [Segment.evalOne]
      refine (Expr.eval_le hs condition h.1.1).within.bind fun _ => Outcome.Le.refl.bind fun c => ?_
      cases c with
      | true => exact Segment.evalAll_le hs yes h.1.2
      | false => exact Segment.evalAll_le hs no h.2
  | .repetition _ binder collection body _, h => by
      simp only [Segment.readsBelow, Bool.and_eq_true] at h
      simp only [Segment.evalOne]
      refine (Expr.eval_le hs collection h.1).within.bind fun _ => Outcome.Le.refl.bind fun _ => ?_
      refine Outcome.Le.foldlM fun text entry => ?_
      exact (Segment.evalAll_le (hs.bind binder entry) body h.2).within.bind fun _ => .refl
  | .malformed, _ => .refl
termination_by structural part => part

theorem Segment.evalAll_le {depth : Depth} {s s' : Scope} {p : Expr} (hs : Scope.Keeps depth s s') :
    ∀ parts : List Segment, Segment.allReadBelow depth parts = true →
      (Segment.evalAll s p parts).Le (Segment.evalAll s' p parts)
  | [], _ => .refl
  | part :: parts, h => by
      simp only [Segment.allReadBelow, Bool.and_eq_true] at h
      simp only [Segment.evalAll]
      refine (Segment.evalOne_le hs part h.1).bind fun _ => ?_
      exact (Segment.evalAll_le hs parts h.2).bind fun _ => .refl
termination_by structural parts => parts

end

/-- An expression that nothing encloses, and that reads below a depth, has its value in every scope
that keeps what lies there. -/
theorem Expr.evaluate_of_keeps {depth : Depth} {s s' : Scope} {e : Expr} {v : Value}
    (hs : Scope.Keeps depth s s') (he : e.readsBelow depth = true) (hv : e.evaluate s = .ok v) :
    e.evaluate s' = .ok v :=
  (Expr.eval_le hs e he).within v hv

/-! ### The empty scope -/

theorem Depth.under_zero (b : Binder) : Depth.under (fun _ => 0) b = fun _ => 0 := by
  funext name
  exact ite_self 0

mutual

/-- Nothing lies less deep than a variable itself, so any expression reads below depth zero. -/
theorem Expr.readsBelow_zero : ∀ e : Expr, e.readsBelow (fun _ => 0) = true
  | .null | .bool _ | .number _ | .string _ | .variable _ => rfl
  | .array items => Expr.allReadBelow_zero items
  | .object fields => ObjectKey.fieldsReadBelow_zero fields
  | .template _ parts => Segment.allReadBelow_zero parts
  | .heredoc _ _ parts => Segment.allReadBelow_zero parts
  | .traversal base steps => by
      rw [Expr.readsBelow, base.readsBelow_zero, Step.allReadBelow_zero steps, Bool.or_true]
      rfl
  | .call _ args _ => Expr.allReadBelow_zero args
  | .paren e => e.readsBelow_zero
  | .conditional condition yes no => by
      rw [Expr.readsBelow, condition.readsBelow_zero, yes.readsBelow_zero, no.readsBelow_zero]
      rfl
  | .unary _ e => e.readsBelow_zero
  | .chain first rest => by
      rw [Expr.readsBelow, first.readsBelow_zero, Expr.operandsReadBelow_zero rest]
      rfl
  | .forList binder collection value condition => by
      rw [Expr.readsBelow, Depth.under_zero, collection.readsBelow_zero, value.readsBelow_zero,
        Expr.conditionReadsBelow_zero condition]
      rfl
  | .forObject binder collection key value _ condition => by
      rw [Expr.readsBelow, Depth.under_zero, collection.readsBelow_zero, key.readsBelow_zero,
        value.readsBelow_zero, Expr.conditionReadsBelow_zero condition]
      rfl
termination_by structural e => e

theorem Expr.conditionReadsBelow_zero :
    ∀ condition : Option Expr, Expr.conditionReadsBelow (fun _ => 0) condition = true
  | none => rfl
  | some e => e.readsBelow_zero
termination_by structural condition => condition

theorem Expr.allReadBelow_zero : ∀ es : List Expr, Expr.allReadBelow (fun _ => 0) es = true
  | [] => rfl
  | e :: es => by
      rw [Expr.allReadBelow, e.readsBelow_zero, Expr.allReadBelow_zero es]
      rfl
termination_by structural es => es

theorem Expr.operandsReadBelow_zero :
    ∀ rest : List (BinaryOp × Expr), Expr.operandsReadBelow (fun _ => 0) rest = true
  | [] => rfl
  | (_, e) :: rest => by
      rw [Expr.operandsReadBelow, e.readsBelow_zero, Expr.operandsReadBelow_zero rest]
      rfl
termination_by structural rest => rest

theorem ObjectKey.readsBelow_zero : ∀ key : ObjectKey, key.readsBelow (fun _ => 0) = true
  | .name _ => rfl
  | .computed e => e.readsBelow_zero
termination_by structural key => key

theorem ObjectKey.fieldsReadBelow_zero :
    ∀ fields : List (ObjectKey × Expr), ObjectKey.fieldsReadBelow (fun _ => 0) fields = true
  | [] => rfl
  | (key, e) :: fields => by
      rw [ObjectKey.fieldsReadBelow, key.readsBelow_zero, e.readsBelow_zero,
        ObjectKey.fieldsReadBelow_zero fields]
      rfl
termination_by structural fields => fields

theorem Step.readsBelow_zero : ∀ step : Step, step.readsBelow (fun _ => 0) = true
  | .index e => e.readsBelow_zero
  | .member _ | .position _ | .memberSplat | .fullSplat => rfl
termination_by structural step => step

theorem Step.allReadBelow_zero :
    ∀ steps : List Step, Step.allReadBelow (fun _ => 0) steps = true
  | [] => rfl
  | step :: steps => by
      rw [Step.allReadBelow, step.readsBelow_zero, Step.allReadBelow_zero steps]
      rfl
termination_by structural steps => steps

theorem Segment.readsBelow_zero : ∀ part : Segment, part.readsBelow (fun _ => 0) = true
  | .literal _ | .malformed => rfl
  | .interpolation _ e => e.readsBelow_zero
  | .branch _ condition yes _ no _ => by
      rw [Segment.readsBelow, condition.readsBelow_zero, Segment.allReadBelow_zero yes,
        Segment.allReadBelow_zero no]
      rfl
  | .repetition _ binder collection body _ => by
      rw [Segment.readsBelow, Depth.under_zero, collection.readsBelow_zero,
        Segment.allReadBelow_zero body]
      rfl
termination_by structural part => part

theorem Segment.allReadBelow_zero :
    ∀ parts : List Segment, Segment.allReadBelow (fun _ => 0) parts = true
  | [] => rfl
  | part :: parts => by
      rw [Segment.allReadBelow, part.readsBelow_zero, Segment.allReadBelow_zero parts]
      rfl
termination_by structural parts => parts

end

/-- **An expression that has a value in the empty scope** has it in every scope. -/
theorem Expr.evaluate_of_nil {s : Scope} {e : Expr} {v : Value} (h : e.evaluate [] = .ok v) :
    e.evaluate s = .ok v :=
  Expr.evaluate_of_keeps .nil e.readsBelow_zero h

/-! ### Divisions without remainder -/

/-- Divisions of integers without remainder: `1 % 0`, and the least 64-bit integer by minus one. -/
def remainderless : List Expr :=
  [.chain (.number (.ofNat 1)) [(.rem, .number (.ofNat 0))],
    .chain (.paren (.chain (.number (.signed (-9223372036854775807)))
      [(.add, .number (.signed (-1)))])) [(.rem, .number (.signed (-1)))]]

/-- They end the program, whatever the scope is. -/
theorem evaluate_of_remainderless {e : Expr} (he : e ∈ remainderless) :
    ∃ why, ∀ s, e.evaluate s = .error (.abort (.remainder why)) := by
  simp only [remainderless, List.mem_cons, List.not_mem_nil, or_false] at he
  rcases he with rfl | rfl
  · exact ⟨.byZero, fun _ => rfl⟩
  · exact ⟨.overflow, fun _ => rfl⟩

end VirtEnv.Hcl
