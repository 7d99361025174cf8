import VirtEnv.Proofs.Reading
import VirtEnv.Proofs.Tables

/-!
# Keys — an object has each of its keys once

Objects are lists of fields, and what evaluation adds to an object goes in the place of a field with
the same key.  So an expression whose variables have values in which every object has each key once
has such a value itself.

* `nodup_keys_setKeys`: setting keys leaves each key there once.
* `Expr.keyed_eval`: every object in the value of an expression has each key once, if this holds in
  its scope.
-/

namespace VirtEnv.Hcl

open Outcome (raise within)

variable {α β : Type}

/-! ### Setting keys -/

/-- The keys after one is set are this one and those before. -/
theorem mem_keys_setKeys {fields pairs : List (String × α)} {key : String} :
    key ∈ (setKeys fields pairs).map (·.1) ↔
      key ∈ pairs.map (·.1) ∨ key ∈ fields.map (·.1) := by
  have hreverse : key ∈ pairs.reverse.map (·.1) ↔ key ∈ pairs.map (·.1) := by
    rw [List.map_reverse, List.mem_reverse]
  rw [← Table.has_iff, Table.has, lookup_setKeys, Option.isSome_or, Bool.or_eq_true]
  exact or_congr (Table.has_iff.trans hreverse) Table.has_iff

/-- Setting one key leaves each key there once. -/
theorem nodup_keys_setKey {fields : List (String × α)} {key : String} {a : α}
    (h : (fields.map (·.1)).Nodup) : ((setKey fields key a).map (·.1)).Nodup := by
  induction fields with
  | nil => exact List.nodup_singleton key
  | cons p rest ih =>
      obtain ⟨hp, hrest⟩ := List.nodup_cons.mp h
      by_cases hkey : p.1 = key
      · have hset : setKey (p :: rest) key a = (p.1, a) :: rest := by simp [setKey, hkey]
        rw [hset]
        exact h
      · have hset : setKey (p :: rest) key a = p :: setKey rest key a := by simp [setKey, hkey]
        rw [hset, List.map_cons]
        refine List.nodup_cons.mpr ⟨fun hmem => ?_, ih hrest⟩
        have hsetKeys : p.1 ∈ (setKeys rest [(key, a)]).map (·.1) := hmem
        rcases mem_keys_setKeys.mp hsetKeys with hkey' | hmem
        · exact hkey (List.mem_singleton.mp hkey')
        · exact hp hmem

/-- Setting keys leaves each key there once. -/
theorem nodup_keys_setKeys {fields pairs : List (String × α)} (h : (fields.map (·.1)).Nodup) :
    ((setKeys fields pairs).map (·.1)).Nodup := by
  induction pairs generalizing fields with
  | nil => exact h
  | cons p pairs ih => exact ih (nodup_keys_setKey h)

/-- What is in an object after a key is set was there before, or was set. -/
theorem mem_setKey {fields : List (String × α)} {key : String} {a : α} {p : String × α}
    (h : p ∈ setKey fields key a) : p.2 = a ∨ p ∈ fields := by
  induction fields with
  | nil => exact .inl (congrArg Prod.snd (List.mem_singleton.mp h))
  | cons q rest ih =>
      rw [setKey] at h
      split at h
      · rcases List.mem_cons.mp h with rfl | hrest
        · exact .inl rfl
        · exact .inr (List.mem_cons_of_mem q hrest)
      · rcases List.mem_cons.mp h with rfl | hrest
        · exact .inr List.mem_cons_self
        · exact (ih hrest).imp id (List.mem_cons_of_mem q)

/-! ### Values -/

/-- Every object in a value has each of its keys once. -/
inductive Value.Keyed : Value → Prop where
  | null : Keyed .null
  | bool (b : Bool) : Keyed (.bool b)
  | number (n : Number) : Keyed (.number n)
  | string (s : String) : Keyed (.string s)
  | array {items : List Value} : (∀ v ∈ items, v.Keyed) → Keyed (.array items)
  | object {fields : List (String × Value)} : (fields.map (·.1)).Nodup →
      (∀ f ∈ fields, f.2.Keyed) → Keyed (.object fields)

/-- Every object in the values of a scope has each of its keys once. -/
def Scope.Keyed (scope : Scope) : Prop := ∀ p ∈ scope, p.2.Keyed

/-- The fields of an object in which every object has each key once. -/
structure KeyedFields (fields : List (String × Value)) : Prop where
  nodup : (fields.map (·.1)).Nodup
  keyed : ∀ f ∈ fields, f.2.Keyed

theorem KeyedFields.nil : KeyedFields [] := ⟨List.nodup_nil, fun _ h => nomatch h⟩

/-- A value in which every object has each key once may be set. -/
theorem KeyedFields.setKey {fields : List (String × Value)} {key : String} {v : Value}
    (h : KeyedFields fields) (hv : v.Keyed) : KeyedFields (setKey fields key v) := by
  refine ⟨nodup_keys_setKey h.nodup, fun f hf => ?_⟩
  rcases mem_setKey hf with heq | hmem
  · exact heq ▸ hv
  · exact h.keyed f hmem

/-! ### Outcomes -/

/-- A value, if an outcome is one, has a property. -/
def Outcome.Ensures (o : Outcome α) (P : α → Prop) : Prop := ∀ a, o = .ok a → P a

namespace Outcome.Ensures

variable {P : α → Prop} {Q : β → Prop}

theorem ok {a : α} (h : P a) : Ensures (.ok a) P := fun _ ha => by cases ha; exact h

theorem of_raise {cause : Cause} : (raise cause).Ensures P := fun _ h => by cases h

/-- One outcome after another, with what the first one ensures. -/
theorem bind {o : Outcome α} {f : α → Outcome β} (h : o.Ensures P)
    (hf : ∀ a, P a → (f a).Ensures Q) : (o >>= f).Ensures Q := by
  intro b hb
  obtain ⟨a, ha, hb⟩ := bind_eq_ok.mp hb
  exact hf a (h a ha) b hb

/-- Whatever the first outcome is, only the last counts. -/
theorem of_bind {o : Outcome α} {f : α → Outcome β} (hf : ∀ a, (f a).Ensures Q) :
    (o >>= f).Ensures Q :=
  bind (P := fun _ => True) (fun _ _ => trivial) fun a _ => hf a

/-- The place of a fault changes nothing about a value. -/
theorem within {p : Expr} {o : Outcome α} (h : o.Ensures P) :
    (Outcome.within p o).Ensures P := fun a ha => h a (within_eq_ok.mp ha)

/-- What every step keeps is ensured in the end. -/
theorem foldlM {f : β → α → Outcome β} {xs : List α} {b : β}
    (hf : ∀ b, ∀ x ∈ xs, Q b → (f b x).Ensures Q) (hb : Q b) : (xs.foldlM f b).Ensures Q := by
  induction xs generalizing b with
  | nil => exact ok hb
  | cons x xs ih =>
      rw [List.foldlM_cons]
      exact (hf b x List.mem_cons_self hb).bind fun _ =>
        ih fun b y hy => hf b y (List.mem_cons_of_mem x hy)

/-- What holds of the value of each element holds of all of them. -/
theorem mapM {f : α → Outcome β} {xs : List α} (hf : ∀ x ∈ xs, (f x).Ensures Q) :
    (xs.mapM f).Ensures fun bs => ∀ b ∈ bs, Q b := by
  induction xs with
  | nil => exact ok fun _ h => nomatch h
  | cons x xs ih =>
      obtain ⟨hx, hxs⟩ := List.forall_mem_cons.mp hf
      rw [List.mapM_cons]
      exact hx.bind fun _ hb => (ih hxs).bind fun _ hbs => ok (List.forall_mem_cons.mpr ⟨hb, hbs⟩)

/-- What every entry keeps is ensured, whichever entries are selected. -/
theorem foldEntries {select : Value × Value → Outcome Bool}
    {step : β → Value × Value → Outcome β} {entries : List (Value × Value)} {b : β}
    (hstep : ∀ b, ∀ entry ∈ entries, Q b → (step b entry).Ensures Q) (hb : Q b) :
    (Hcl.foldEntries select step entries b).Ensures Q := by
  refine foldlM (fun b entry hentry hb => of_bind fun selected => ?_) hb
  cases selected with
  | true => exact hstep b entry hentry hb
  | false => exact ok hb

end Outcome.Ensures

open Outcome (Ensures)

/-! ### Parts of a value -/

/-- The field of an object is one of its parts. -/
theorem Value.Keyed.atKey {v : Value} (h : v.Keyed) (key : String) :
    (v.atKey key).Ensures Keyed := by
  cases h with
  | @object fields _ hfields =>
      rw [Value.atKey]
      cases hlookup : fields.lookup key with
      | none => exact .of_raise
      | some w => exact .ok (hfields _ (mem_of_lookup hlookup))
  | _ => exact .of_raise

/-- So is the element of an array. -/
theorem Value.Keyed.atPosition {v : Value} (h : v.Keyed) (n : Nat) :
    (v.atPosition n).Ensures Keyed := by
  cases h with
  | @array items hitems =>
      rw [Value.atPosition]
      cases hitem : items[n]? with
      | none => exact .of_raise
      | some w => exact .ok (hitems w (List.mem_of_getElem? hitem))
  | _ => exact .of_raise

theorem Value.Keyed.atIndex {v : Value} (h : v.Keyed) (i : Value) :
    (v.atIndex i).Ensures Keyed := by
  unfold Value.atIndex
  split
  · exact h.atKey _
  · split
    · exact h.atPosition _
    · exact .of_raise
  · exact .of_raise

theorem Value.Keyed.splatItems {v : Value} (h : v.Keyed) : ∀ w ∈ v.splatItems, w.Keyed := by
  cases h with
  | null => exact fun _ hw => nomatch hw
  | array hitems => exact hitems
  | bool b => exact List.forall_mem_singleton.mpr (.bool b)
  | number n => exact List.forall_mem_singleton.mpr (.number n)
  | string s => exact List.forall_mem_singleton.mpr (.string s)
  | object hnodup hfields => exact List.forall_mem_singleton.mpr (.object hnodup hfields)

/-- The parts that accesses select are parts of the value, or arrays of such. -/
theorem Value.Keyed.apply {as : List Access} {v : Value} (h : v.Keyed) :
    (Access.apply as v).Ensures Keyed := by
  induction as generalizing v with
  | nil => exact .ok h
  | cons a as ih =>
      cases a with
      | member name => exact (h.atKey name).bind fun _ => ih
      | position n => exact (h.atPosition n).bind fun _ => ih
      | index i => exact .of_bind fun i => (h.atIndex i).bind fun _ => ih
      | memberSplat names =>
          refine (Ensures.mapM fun item hitem => ?_).bind fun _ hitems => ih (.array hitems)
          exact .foldlM (fun _ name _ hw => hw.atKey name) (h.splatItems item hitem)
      | fullSplat =>
          exact (Ensures.mapM fun item hitem => ih (h.splatItems item hitem)).bind
            fun _ hitems => .ok (.array hitems)

/-- The entries of an array are its positions with its elements. -/
theorem keyed_enumerate {items : List Value} (h : ∀ v ∈ items, v.Keyed) (n : Nat) :
    ∀ entry ∈ Value.enumerate n items, entry.1.Keyed ∧ entry.2.Keyed := by
  induction items generalizing n with
  | nil => exact fun _ hentry => nomatch hentry
  | cons v items ih =>
      obtain ⟨hv, hitems⟩ := List.forall_mem_cons.mp h
      exact List.forall_mem_cons.mpr ⟨⟨.number _, hv⟩, ih hitems (n + 1)⟩

/-- The entries of a collection are keys and positions with parts of it. -/
theorem Value.Keyed.entries {v : Value} (h : v.Keyed) :
    v.entries.Ensures fun entries => ∀ entry ∈ entries, entry.1.Keyed ∧ entry.2.Keyed := by
  cases h with
  | array hitems => exact .ok (keyed_enumerate hitems 0)
  | object _ hfields =>
      exact .ok (List.forall_mem_map.mpr fun f hf => ⟨.string _, hfields f hf⟩)
  | _ => exact .of_raise

/-- A binder binds parts of the collection that its entries are from. -/
theorem Scope.Keyed.bind {scope : Scope} (hs : scope.Keyed) (b : Binder) {entry : Value × Value}
    (hentry : entry.1.Keyed ∧ entry.2.Keyed) : (b.bind entry scope).Keyed := by
  refine List.forall_mem_cons.mpr ⟨hentry.2, ?_⟩
  cases b.key with
  | none => exact hs
  | some key => exact List.forall_mem_cons.mpr ⟨hentry.1, hs⟩

/-! ### What evaluation builds -/

theorem UnaryOp.keyed_apply (op : UnaryOp) (v : Value) : (op.apply v).Ensures Value.Keyed := by
  unfold UnaryOp.apply
  split
  · exact .ok (.bool _)
  · exact .ok (.number _)
  · exact .of_raise

theorem BinaryOp.keyed_applyNumbers {op : BinaryOp} {m n : Number} {o : Outcome Value}
    (h : op.applyNumbers? m n = some o) : o.Ensures Value.Keyed := by
  cases op with
  | le | ge | lt | gt => cases h; exact .ok (.bool _)
  | add | sub | mul | div => cases h; exact .ok (.number _)
  | rem =>
      cases h
      split
      · exact .ok (.number _)
      · exact fun _ hv => nomatch hv
  | eq | ne | and | or => cases h

/-- Operators give numbers and truth values only. -/
theorem BinaryOp.keyed_apply (op : BinaryOp) (a b : Value) : (op.apply a b).Ensures Value.Keyed := by
  unfold BinaryOp.apply
  split
  case h_1 | h_2 | h_3 | h_4 => exact .ok (.bool _)
  case h_5 m n _ _ =>
      cases h : op.applyNumbers? m n with
      | none => exact .of_raise
      | some o => exact keyed_applyNumbers h
  case h_6 => exact .of_raise

/-- A chain has the value of an operator, or of its only operand. -/
theorem Grouped.keyed_eval {first : Expr × Outcome Value}
    {rest : List (BinaryOp × Expr × Outcome Value)} (h : first.2.Ensures Value.Keyed) :
    (Grouped.ofChain first rest).eval.Ensures Value.Keyed := by
  have hnode : ∀ (l : Grouped (Expr × Outcome Value)) op r,
      (Grouped.node l op r).eval.Ensures Value.Keyed := fun l op r => by
    simp only [Grouped.eval]
    exact .of_bind fun a => .of_bind fun b => op.keyed_apply a b
  cases rest with
  | nil => exact h
  | cons head rest =>
      obtain ⟨op, b⟩ := head
      rw [ofChain]
      cases ofChain b rest with
      | operand c => exact hnode _ _ _
      | node l o r =>
          rw [push]
          split <;> exact hnode _ _ _

/-- An entry that is added to an object goes in a place of its own, or in the group of its key. -/
theorem KeyedFields.addEntry {grouped : Bool} {fields : List (String × Value)} {key : String}
    {v : Value} (h : KeyedFields fields) (hv : v.Keyed) :
    (addEntry grouped fields key v).Ensures KeyedFields := by
  unfold Hcl.addEntry
  split
  case h_1 items hlookup =>
      have hitems : ∀ w ∈ items, w.Keyed := by
        cases h.keyed _ (mem_of_lookup hlookup) with
        | array hitems => exact hitems
      refine .ok (h.setKey (.array ?_))
      exact List.forall_mem_append.mpr ⟨hitems, List.forall_mem_singleton.mpr hv⟩
  case h_2 => exact .ok (h.setKey (.array (List.forall_mem_singleton.mpr hv)))
  case h_3 => exact .of_raise
  case h_4 => exact .ok (h.setKey hv)

mutual

/-- **Every object in the value of an expression has each key once**, if this holds in its scope. -/
theorem Expr.keyed_eval {scope : Scope} (hs : scope.Keyed) :
    ∀ e : Expr, (e.eval scope).Ensures Value.Keyed
  | .null => .ok .null
  | .bool b => .ok (.bool b)
  | .number n => .ok (.number n)
  | .string s => .ok (.string s)
  | .array items => by
      simp only [Expr.eval]
      exact (Expr.keyed_evalAll hs items).within.bind fun _ hitems => .ok (.array hitems)
  | .object fields => by
      simp only [Expr.eval]
      exact (ObjectKey.keyed_evalFields hs fields [] .nil).bind
        fun _ hfields => .ok (.object hfields.nodup hfields.keyed)
  | .template text parts => by
      simp only [Expr.eval]
      exact Segment.keyed_eval hs parts
  | .heredoc delimiter text parts => by
      simp only [Expr.eval]
      exact Segment.keyed_eval hs parts
  | .variable name => by
      intro v hv
      exact hs _ (mem_of_lookup (Expr.eval_variable_eq_ok.mp hv))
  | .traversal base steps => by
      simp only [Expr.eval]
      exact (Expr.keyed_eval hs base).within.bind fun _ hv => hv.apply
  | .call function _ _ => by
      simp only [Expr.eval]
      exact .of_raise
  | .paren e => by
      simp only [Expr.eval]
      exact (Expr.keyed_eval hs e).within
  | .conditional condition yes no => by
      simp only [Expr.eval]
      refine .of_bind fun _ => .of_bind fun c => ?_
      cases c with
      | true => exact (Expr.keyed_eval hs yes).within
      | false => exact (Expr.keyed_eval hs no).within
  | .unary op e => by
      simp only [Expr.eval]
      exact .of_bind op.keyed_apply
  | .chain first rest => by
      simp only [Expr.eval]
      exact Grouped.keyed_eval (Expr.keyed_eval hs first)
  | .forList binder collection value condition => by
      simp only [Expr.eval]
      refine (Expr.keyed_eval hs collection).within.bind fun v hv => hv.entries.bind
        fun entries hentries => ?_
      refine (Ensures.foldEntries (Q := fun items => ∀ w ∈ items, w.Keyed)
        (fun items entry hentry hitems => ?_) fun _ h => nomatch h).bind fun items hitems => ?_
      · exact (Expr.keyed_eval (hs.bind binder (hentries entry hentry)) value).within.bind
          fun w hw => .ok (List.forall_mem_cons.mpr ⟨hw, hitems⟩)
      · exact .ok (.array fun w hw => hitems w (List.mem_reverse.mp hw))
  | .forObject binder collection key value grouped condition => by
      simp only [Expr.eval]
      refine (Expr.keyed_eval hs collection).within.bind fun v hv => hv.entries.bind
        fun entries hentries => ?_
      refine (Ensures.foldEntries (Q := KeyedFields) (fun fields entry hentry hfields => ?_)
        .nil).bind fun fields hfields => ?_
      · refine (Ensures.of_bind fun k => .of_bind fun _ => ?_).within
        exact (Expr.keyed_eval (hs.bind binder (hentries entry hentry)) value).bind
          fun w hw => hfields.addEntry hw
      · exact .ok (.object hfields.nodup hfields.keyed)
termination_by structural e => e

theorem Expr.keyed_evalAll {scope : Scope} (hs : scope.Keyed) :
    ∀ es : List Expr, (Expr.evalAll scope es).Ensures fun vs => ∀ v ∈ vs, v.Keyed
  | [] => .ok fun _ h => nomatch h
  | e :: es => by
      simp only [Expr.evalAll]
      exact (Expr.keyed_eval hs e).bind fun _ hv => (Expr.keyed_evalAll hs es).bind
        fun _ hvs => .ok (List.forall_mem_cons.mpr ⟨hv, hvs⟩)
termination_by structural es => es

theorem ObjectKey.keyed_evalFields {scope : Scope} {p : Expr} (hs : scope.Keyed) :
    ∀ (fields : List (ObjectKey × Expr)) done, KeyedFields done →
      (ObjectKey.evalFields scope p fields done).Ensures KeyedFields
  | [], _, h => .ok h
  | (key, e) :: fields, done, h => by
      simp only [ObjectKey.evalFields]
      exact .of_bind fun k => (Expr.keyed_eval hs e).within.bind
        fun v hv => ObjectKey.keyed_evalFields hs fields _ (h.setKey hv)
termination_by structural fields => fields

theorem Segment.keyed_eval {scope : Scope} {p : Expr} (hs : scope.Keyed) :
    ∀ parts : List Segment, (Segment.eval scope p parts).Ensures Value.Keyed
  | [] => .ok (.string "")
  | [.interpolation _ e] => by
      simp only [Segment.eval]
      exact (Expr.keyed_eval hs e).within
  | [.literal _] | [.branch ..] | [.repetition ..] | [.malformed] => by
      simp only [Segment.eval]
      exact .of_bind fun t => .of_bind fun u => .ok (.string _)
  | s :: s' :: ss => by
      rw [Segment.eval_cons_cons]
      exact .of_bind fun t => .of_bind fun u => .ok (.string _)
termination_by structural parts => parts

end

/-- Every object in the value of an expression that may not refer to anything has each key once. -/
theorem Expr.keyed_of_evaluate {e : Expr} {v : Value} (h : e.evaluate [] = .ok v) : v.Keyed := by
  have hempty : Scope.Keyed [] := fun _ hp => nomatch hp
  exact (Expr.keyed_eval hempty e).within v h

end VirtEnv.Hcl
