import VirtEnv.Proofs.Decoding
import VirtEnv.Proofs.Reading

/-!
# Literals — what decoding evaluates

The description of a variable, and the labels and orders of a cluster, may not refer to anything.
They are evaluated in the empty scope, while the body is decoded and before there is a namespace.

* `Variable.reads_of_ofBlock`, `Cluster.reads_of_ofBlock`: what is kept of such an attribute is its
  value in the empty scope.
* `Variable.Reads.mono`, `Cluster.Reads.mono`: so it is the value of the attribute in every scope.
-/

namespace VirtEnv

open Hcl (Block Expr Item Scope Value)

/-- A table with several names set, one after the other. -/
def Table.insertAll {α : Type} (t : Table α) (pairs : List (String × α)) : Table α :=
  pairs.foldl (fun t p => Table.insert t p.1 p.2) t

/-! ### The last item of a sort -/

/-- The last of what is picked from the items of a body. -/
def lastOf {α : Type} (pick : Item → Option α) (body : List Item) : Option α :=
  (body.filterMap pick).getLast?

/-- One more item is the last one, if it is picked at all. -/
theorem lastOf_concat {α : Type} {pick : Item → Option α} {before : List Item} {x : Item} :
    lastOf pick (before ++ [x]) = (pick x).or (lastOf pick before) := by
  rw [lastOf, lastOf, List.filterMap_append, List.getLast?_append]
  cases h : pick x <;> simp [h]

/-- The expression that an item is, if it is an attribute of the key. -/
def Hcl.Item.attribute? (key : String) : Item → Option Expr
  | .attribute k e => if k = key then some e else none
  | .block _ => none

/-- The expression of a key: the last one, if there are several. -/
def lastAttribute? (key : String) (body : List Item) : Option Expr :=
  lastOf (Item.attribute? key) body

@[simp] theorem lastAttribute?_concat {key k : String} {e : Expr} {before : List Item} :
    lastAttribute? key (before ++ [.attribute k e]) =
      if k = key then some e else lastAttribute? key before := by
  rw [lastAttribute?, lastOf_concat, Item.attribute?, ← lastAttribute?]
  split <;> rfl

@[simp] theorem lastAttribute?_concat_block {key : String} {b : Block} {before : List Item} :
    lastAttribute? key (before ++ [.block b]) = lastAttribute? key before := by
  rw [lastAttribute?, lastOf_concat, Item.attribute?, Option.none_or, ← lastAttribute?]

/-- The last block of the type. -/
def lastBlock? (type : String) (body : List Item) : Option Block := lastOf (Item.ofType? type) body

@[simp] theorem lastBlock?_concat_attribute {type k : String} {e : Expr} {before : List Item} :
    lastBlock? type (before ++ [.attribute k e]) = lastBlock? type before := by
  rw [lastBlock?, lastOf_concat, Item.ofType?, Option.none_or, ← lastBlock?]

@[simp] theorem lastBlock?_concat {type : String} {b : Block} {before : List Item} :
    lastBlock? type (before ++ [.block b]) =
      if b.type = type then some b else lastBlock? type before := by
  rw [lastBlock?, lastOf_concat, Item.ofType?, ← lastBlock?]
  split <;> rfl

/-! ### Values of a shape -/

/-- What a value is kept as: one text. -/
def IsText (v : Value) (kept : Option String) : Prop := ∃ s, v = .string s ∧ kept = some s

/-- What a value is kept as: a list of texts. -/
def IsTexts (v : Value) (kept : List String) : Prop := v = .array (kept.map .string)

/-- What a value is kept as: the sorted table of an object of texts. -/
def IsTextTable (v : Value) (kept : Table String) : Prop :=
  ∃ entries : List (String × String), v = .object (entries.map fun p => (p.1, .string p.2)) ∧
    kept = Table.insertAll [] entries

/-- What is kept of an attribute: a default if it is absent, otherwise its value in a scope. -/
inductive Kept {α : Type} (scope : Scope) (shape : Value → α → Prop) (default : α) :
    Option Expr → α → Prop where
  | absent : Kept scope shape default none default
  | value {e : Expr} {v : Value} {a : α} : e.evaluate scope = .ok v → shape v a →
      Kept scope shape default (some e) a

/-- A value that needs no scope is kept in every scope. -/
theorem Kept.mono {α : Type} {shape : Value → α → Prop} {default a : α} {e : Option Expr}
    (h : Kept [] shape default e a) (scope : Scope) : Kept scope shape default e a := by
  cases h with
  | absent => exact .absent
  | value hv hshape => exact .value (Expr.evaluate_of_nil hv) hshape

section

variable {place : Place} {key : String} {e : Expr}

theorem literalValue_eq_ok {v : Value} :
    literalValue place key e = .ok v ↔ e.evaluate [] = .ok v := by
  unfold literalValue
  split <;> simp_all [Decoded.refuse]

/-- A literal text comes to that text without a scope. -/
theorem literalString_eq_ok {s : String} (h : literalString place key e = .ok s) :
    e.evaluate [] = .ok (.string s) := by
  obtain ⟨v, hv, h⟩ := bind_eq_ok.mp h
  rw [literalValue_eq_ok] at hv
  cases v with
  | string _ => cases h; exact hv
  | _ => cases h

/-- Only texts are taken for items that are texts. -/
theorem stringItems?_eq_some {vs : List Value} {ss : List String} (h : stringItems? vs = some ss) :
    vs = ss.map .string := by
  induction vs generalizing ss with
  | nil => cases h; rfl
  | cons v vs ih =>
      cases v with
      | string s =>
          obtain ⟨ss, hss, rfl⟩ := Option.map_eq_some_iff.mp h
          rw [List.map_cons, ← ih hss]
      | _ => cases h

/-- A literal list of texts comes to these texts. -/
theorem literalStrings_eq_ok {ss : List String} (h : literalStrings place key e = .ok ss) :
    e.evaluate [] = .ok (.array (ss.map .string)) := by
  obtain ⟨v, hv, h⟩ := bind_eq_ok.mp h
  rw [literalValue_eq_ok] at hv
  cases v with
  | array vs =>
      cases hss : stringItems? vs with
      | none => simp [hss, Decoded.refuse] at h
      | some ss =>
          simp only [hss] at h
          cases h
          rwa [← stringItems?_eq_some hss]
  | _ => cases h

/-- What was read of an object is what its fields say, over what was read before. -/
theorem stringEntries_eq_ok {entries : List (String × Value)} {done t : Table String}
    (h : stringEntries place key done entries = .ok t) :
    ∃ texts : List (String × String), entries = texts.map (fun p => (p.1, .string p.2)) ∧
      t = Table.insertAll done texts := by
  induction entries generalizing done with
  | nil => cases h; exact ⟨[], rfl, rfl⟩
  | cons entry entries ih =>
      obtain ⟨k, v⟩ := entry
      cases v with
      | string s =>
          obtain ⟨texts, rfl, rfl⟩ := ih h
          exact ⟨(k, s) :: texts, rfl, rfl⟩
      | _ => cases h

/-- A literal table of texts comes to an object of texts. -/
theorem literalTable_eq_ok {t : Table String} (h : literalTable place key e = .ok t) :
    ∃ v, e.evaluate [] = .ok v ∧ IsTextTable v t := by
  obtain ⟨v, hv, h⟩ := bind_eq_ok.mp h
  rw [literalValue_eq_ok] at hv
  cases v with
  | object entries =>
      obtain ⟨texts, rfl, rfl⟩ := stringEntries_eq_ok h
      exact ⟨_, hv, texts, rfl, rfl⟩
  | _ => cases h

end

/-! ### Variables -/

/-- A variable has been read from the body of its block: its default as it is written, and the value
of its description. -/
structure Variable.Reads (scope : Scope) (body : List Item) (v : Variable) : Prop where
  default : v.default = lastAttribute? "default" body
  description : Kept scope IsText none (lastAttribute? "description" body) v.description

theorem Variable.Reads.mono {body : List Item} {v : Variable} (h : v.Reads [] body)
    (scope : Scope) : v.Reads scope body :=
  ⟨h.default, h.description.mono scope⟩

/-- What a variable is read to goes on with one more item. -/
theorem Variable.reads_add {before : List Item} {x : Item} {v v' : Variable}
    (h : v.Reads [] before) (hx : v.add x = .ok v') : v'.Reads [] (before ++ [x]) := by
  unfold Variable.add at hx
  split at hx
  case h_1 e =>
    cases hx
    exact ⟨by simp, by simpa using h.description⟩
  case h_2 e =>
    obtain ⟨s, hs, hx⟩ := bind_eq_ok.mp hx
    cases hx
    exact ⟨by simpa using h.default, by simpa using .value (literalString_eq_ok hs) ⟨s, rfl, rfl⟩⟩
  case h_3 | h_4 => cases hx

/-- **What a variable keeps of its block.** -/
theorem Variable.reads_of_ofBlock {b : Block} {v : Variable} (h : Variable.ofBlock b = .ok v) :
    v.Reads [] b.body := by
  obtain ⟨name, -, h⟩ := bind_eq_ok.mp h
  exact foldlM_invariant (R := fun body v => Variable.Reads [] body v) reads_add ⟨rfl, .absent⟩ h

/-! ### Clusters -/

/-- A lifecycle has been read from a body: the values of its orders. -/
structure Lifecycle.Reads (scope : Scope) (body : List Item) (l : Lifecycle) : Prop where
  startOrder : Kept scope IsTexts [] (lastAttribute? "start_order" body) l.startOrder
  stopOrder : Kept scope IsTexts [] (lastAttribute? "stop_order" body) l.stopOrder

/-- A cluster has been read from the body of its block: the value of its labels, and its
lifecycle. -/
structure Cluster.Reads (scope : Scope) (body : List Item) (c : Cluster) : Prop where
  members : c.members = lastAttribute? "vms" body
  labels : Kept scope IsTextTable [] (lastAttribute? "labels" body) c.labels
  lifecycle : Option.Rel (fun b l => l.Reads scope b.body)
    (lastBlock? "lifecycle" body) c.lifecycle

theorem Lifecycle.Reads.mono {body : List Item} {l : Lifecycle} (h : l.Reads [] body)
    (scope : Scope) : l.Reads scope body :=
  ⟨h.startOrder.mono scope, h.stopOrder.mono scope⟩

/-- Optional values that are related in one way are related in another that follows from it. -/
theorem rel_of_rel {α β : Type} {R S : α → β → Prop} {a? : Option α} {b? : Option β}
    (h : Option.Rel R a? b?) (hS : ∀ a, a? = some a → ∀ b, R a b → S a b) : Option.Rel S a? b? := by
  cases h with
  | some hab => exact .some (hS _ rfl _ hab)
  | none => exact .none

theorem Cluster.Reads.mono {body : List Item} {c : Cluster} (h : c.Reads [] body)
    (scope : Scope) : c.Reads scope body :=
  ⟨h.members, h.labels.mono scope, rel_of_rel h.lifecycle fun _ _ _ hl => hl.mono scope⟩

/-- What a lifecycle is read to goes on with one more item. -/
theorem Lifecycle.reads_add {cluster : String} {before : List Item} {x : Item} {l l' : Lifecycle}
    (h : l.Reads [] before) (hx : l.add cluster x = .ok l') : l'.Reads [] (before ++ [x]) := by
  unfold Lifecycle.add at hx
  split at hx
  case h_1 e =>
    obtain ⟨ss, hss, hx⟩ := bind_eq_ok.mp hx
    cases hx
    exact ⟨by simpa using .value (literalStrings_eq_ok hss) rfl, by simpa using h.stopOrder⟩
  case h_2 e =>
    obtain ⟨ss, hss, hx⟩ := bind_eq_ok.mp hx
    cases hx
    exact ⟨by simpa using h.startOrder, by simpa using .value (literalStrings_eq_ok hss) rfl⟩
  case h_3 | h_4 => cases hx

theorem Lifecycle.reads_of_ofBlock {cluster : String} {b : Block} {l : Lifecycle}
    (h : Lifecycle.ofBlock cluster b = .ok l) : l.Reads [] b.body := by
  unfold Lifecycle.ofBlock at h
  split at h
  · exact foldlM_invariant (R := fun body l => Lifecycle.Reads [] body l) reads_add
      ⟨.absent, .absent⟩ h
  · cases h

/-- So does what a cluster is read to. -/
theorem Cluster.reads_add {before : List Item} {x : Item} {c c' : Cluster}
    (h : c.Reads [] before) (hx : c.add x = .ok c') : c'.Reads [] (before ++ [x]) := by
  unfold Cluster.add at hx
  split at hx
  case h_1 e =>
    cases hx
    exact ⟨by simp, by simpa using h.labels, by simpa using h.lifecycle⟩
  case h_2 e =>
    obtain ⟨t, ht, hx⟩ := bind_eq_ok.mp hx
    obtain ⟨v, hv, htable⟩ := literalTable_eq_ok ht
    cases hx
    exact ⟨by simpa using h.members, by simpa using .value hv htable, by simpa using h.lifecycle⟩
  case h_3 => cases hx
  case h_4 b =>
    by_cases htype : b.type = "lifecycle"
    · simp only [htype, beq_self_eq_true, if_true] at hx
      -- a second lifecycle is refused, so the one that is read is the last
      split at hx
      · cases hx
      · obtain ⟨l, hl, hx⟩ := bind_eq_ok.mp hx
        cases hx
        refine ⟨by simpa using h.members, by simpa using h.labels, ?_⟩
        rw [lastBlock?_concat, if_pos htype]
        exact .some (Lifecycle.reads_of_ofBlock hl)
    · simp only [beq_eq_false_iff_ne.mpr htype, Bool.false_eq_true, if_false] at hx
      cases hx

/-- **What a cluster keeps of its block.** -/
theorem Cluster.reads_of_ofBlock {b : Block} {c : Cluster} (h : Cluster.ofBlock b = .ok c) :
    c.Reads [] b.body := by
  obtain ⟨name, -, h⟩ := bind_eq_ok.mp h
  exact foldlM_invariant (R := fun body c => Cluster.Reads [] body c) reads_add
    ⟨rfl, .absent, .none⟩ h

end VirtEnv
