import VirtEnv.Proofs.Backend
import VirtEnv.Proofs.Literals

/-!
# Refusals — what decoding refuses in a variable and in a cluster

What is refused is said of an item and of what stands before it.  The attributes that a block may
have are its rules: those that are kept as they are written, and those that are evaluated and must
have a value of some shape.  Nested blocks are refused, but for the lifecycle of a cluster.

* `Shape.accepts_iff`, `Rules.accepts_iff`: an attribute is refused for one reason or another
  exactly if it is not as it must be.
* `Variable.ofBlock_eq_error_iff`, `Cluster.ofBlock_eq_error_iff`: a block is refused for its
  labels, or else for the first item that is refused.
* `Variable.exists_ofBlock_iff`, `Cluster.exists_ofBlock_iff`: a block is decoded exactly if it is
  of the shape of a variable, or of a cluster.
-/

namespace VirtEnv

open Decoded (refuse)
open Hcl (Block Expr Item Value)

/-! ### Values of a shape -/

/-- Texts as the fields of an object. -/
def textFields (texts : List (String × String)) : List (String × Value) :=
  texts.map fun p => (p.1, .string p.2)

/-- A value has a shape. -/
def Shape.Fits : Shape → Value → Prop
  | .text, v => ∃ s, v = .string s
  | .textList, v => ∃ ss : List String, v = .array (ss.map .string)
  | .textMap, v => ∃ texts, v = .object (textFields texts)

/-- What is reported of a value that does not have a shape.  Of an object it is the first field that
is no text. -/
inductive Shape.RefusesValue (place : Place) (key : String) : Shape → Value → ShapeFault → Prop where
  | shape {shape : Shape} {v : Value} : ¬ shape.Fits v →
      (shape = .textMap → ∀ fields, v ≠ .object fields) →
      RefusesValue place key shape v (.wrongShape place key shape)
  | entry {texts : List (String × String)} {name : String} {v : Value}
      {rest : List (String × Value)} : (∀ s, v ≠ .string s) →
      RefusesValue place key .textMap (.object (textFields texts ++ (name, v) :: rest))
        (.wrongEntry place key name)

/-- An expression that refers to nothing has a value of a shape. -/
def Shape.Accepts (shape : Shape) (e : Expr) : Prop := ∃ v, e.evaluate [] = .ok v ∧ shape.Fits v

/-- How an attribute fails that must have a value of a shape. -/
inductive Shape.Refuses (place : Place) (key : String) (e : Expr) (shape : Shape) :
    DecodeFailure → Prop where
  | evaluation {fault : Hcl.Fault} : e.evaluate [] = .error (.fault fault) →
      Refuses place key e shape (.fault (.badValue place key fault))
  | abort {a : Hcl.Abort} : e.evaluate [] = .error (.abort a) →
      Refuses place key e shape (.abort a)
  | value {v : Value} {fault : ShapeFault} : e.evaluate [] = .ok v →
      shape.RefusesValue place key v fault → Refuses place key e shape (.fault fault)

section

variable {place : Place} {key : String} {e : Expr} {shape : Shape} {v : Value} {f : DecodeFailure}

theorem exists_texts_or (fields : List (String × Value)) :
    (∃ texts, fields = textFields texts) ∨
      ∃ texts name v rest, fields = textFields texts ++ (name, v) :: rest ∧ ∀ s, v ≠ .string s := by
  induction fields with
  | nil => exact .inl ⟨[], rfl⟩
  | cons field fields ih =>
      obtain ⟨name, v⟩ := field
      cases v with
      | string s =>
          rcases ih with ⟨texts, rfl⟩ | ⟨texts, name', v, rest, rfl, hv⟩
          · exact .inl ⟨(name, s) :: texts, rfl⟩
          · exact .inr ⟨(name, s) :: texts, name', v, rest, rfl, hv⟩
      | _ => exact .inr ⟨[], name, _, fields, rfl, fun _ h => nomatch h⟩

theorem not_textFields {texts texts' : List (String × String)} {name : String}
    {rest : List (String × Value)} (hv : ∀ s, v ≠ .string s) :
    textFields texts' ≠ textFields texts ++ (name, v) :: rest := by
  intro h
  have hmem : (name, v) ∈ textFields texts' := h ▸ List.mem_append_right _ List.mem_cons_self
  obtain ⟨p, -, hp⟩ := List.mem_map.mp hmem
  exact hv p.2 (congrArg Prod.snd hp).symm

/-- A value has a shape, or something is reported of it. -/
theorem Shape.fits_iff : shape.Fits v ↔ ∀ fault, ¬ shape.RefusesValue place key v fault := by
  constructor
  · intro hfits fault hrefused
    cases hrefused with
    | shape hnot => exact hnot hfits
    | entry hv =>
        obtain ⟨texts, htexts⟩ := hfits
        exact not_textFields hv (Value.object.inj htexts).symm
  · intro h
    refine Classical.byContradiction fun hnot => ?_
    by_cases hobject : shape = .textMap ∧ ∃ fields, v = .object fields
    · obtain ⟨rfl, fields, rfl⟩ := hobject
      rcases exists_texts_or fields with ⟨texts, rfl⟩ | ⟨texts, name, w, rest, rfl, hw⟩
      · exact hnot ⟨texts, rfl⟩
      · exact h _ (.entry hw)
    · exact h _ (.shape hnot fun hshape fields hv => hobject ⟨hshape, fields, hv⟩)

/-- An attribute has a value of a shape, or fails. -/
theorem Shape.accepts_iff (place : Place) (key : String) :
    shape.Accepts e ↔ ∀ f, ¬ shape.Refuses place key e f := by
  constructor
  · rintro ⟨v, hv, hfits⟩ f hrefused
    cases hrefused with
    | evaluation h | abort h => cases hv.symm.trans h
    | value h hfault =>
        cases hv.symm.trans h
        exact fits_iff.mp hfits _ hfault
  · intro h
    cases hv : e.evaluate [] with
    | ok v => exact ⟨v, hv, fits_iff.mpr fun fault hfault => h _ (.value hv hfault)⟩
    | error failure =>
        cases failure with
        | fault fault => exact absurd (.evaluation hv) (h _)
        | abort a => exact absurd (.abort hv) (h _)

/-- A literal fails where its value cannot be found, or does not pass a check; a check that passes
what has the shape and reports of anything else what is reported of it. -/
theorem literal_eq_error_iff {α : Type} {check : Value → Decoded α}
    (hfits : ∀ v, shape.Fits v → ∃ a, check v = .ok a)
    (hfault : ∀ v fault, shape.RefusesValue place key v fault → check v = .error (.fault fault)) :
    (literalValue place key e >>= check) = .error f ↔ shape.Refuses place key e f := by
  constructor
  · intro h
    unfold literalValue at h
    cases hv : e.evaluate [] with
    | error failure =>
        rw [hv] at h
        cases failure with
        | fault fault => cases h; exact .evaluation hv
        | abort a => cases h; exact .abort hv
    | ok v =>
        rw [hv] at h
        replace h : check v = .error f := h
        have hnot : ¬ shape.Fits v := fun hv => by
          obtain ⟨a, ha⟩ := hfits v hv
          cases ha.symm.trans h
        obtain ⟨fault, hrefused⟩ : ∃ fault, shape.RefusesValue place key v fault := by
          simpa only [not_forall, not_not] using mt Shape.fits_iff.mpr hnot
        cases h.symm.trans (hfault v fault hrefused)
        exact .value hv hrefused
  · intro h
    unfold literalValue
    cases h with
    | evaluation hv | abort hv => rw [hv]; rfl
    | value hv hrefused => rw [hv]; exact hfault _ _ hrefused

theorem literalString_eq_error_iff :
    literalString place key e = .error f ↔ Shape.text.Refuses place key e f := by
  refine literal_eq_error_iff (fun v hv => ?_) fun v fault h => ?_
  · obtain ⟨s, rfl⟩ := hv
    exact ⟨s, rfl⟩
  · cases h with
    | shape hnot =>
        cases v with
        | string s => exact absurd ⟨s, rfl⟩ hnot
        | _ => rfl

theorem stringItems?_map {ss : List String} : stringItems? (ss.map .string) = some ss := by
  induction ss with
  | nil => rfl
  | cons s ss ih => rw [List.map_cons, stringItems?, ih, Option.map_some]

theorem literalStrings_eq_error_iff :
    literalStrings place key e = .error f ↔ Shape.textList.Refuses place key e f := by
  refine literal_eq_error_iff (fun v hv => ?_) fun v fault h => ?_
  · obtain ⟨ss, rfl⟩ := hv
    exact ⟨ss, by simp only [stringItems?_map]⟩
  · cases h with
    | shape hnot =>
        cases v with
        | array vs =>
            cases hitems : stringItems? vs with
            | none => simp only [hitems]; rfl
            | some ss => exact absurd ⟨ss, congrArg Value.array (stringItems?_eq_some hitems)⟩ hnot
        | _ => rfl

theorem stringEntries_append {t : Table String} {texts : List (String × String)}
    {rest : List (String × Value)} :
    stringEntries place key t (textFields texts ++ rest) =
      stringEntries place key (t.insertAll texts) rest := by
  induction texts generalizing t with
  | nil => rfl
  | cons p texts ih => exact ih

theorem literalTable_eq_error_iff :
    literalTable place key e = .error f ↔ Shape.textMap.Refuses place key e f := by
  refine literal_eq_error_iff (fun v hv => ?_) fun v fault h => ?_
  · obtain ⟨texts, rfl⟩ := hv
    have hentries : stringEntries place key [] (textFields texts ++ []) =
        .ok (Table.insertAll [] texts) := stringEntries_append
    rw [List.append_nil] at hentries
    exact ⟨_, hentries⟩
  · cases h with
    | shape _ hobject =>
        cases v with
        | object fields => exact absurd rfl (hobject rfl fields)
        | _ => rfl
    | @entry texts name w rest hw =>
        refine stringEntries_append.trans ?_
        cases w with
        | string s => exact absurd rfl (hw s)
        | _ => rfl

end

/-! ### Attributes -/

/-- The attributes that a block may have.  One that is evaluated is there with the shape that its
value must have. -/
abbrev Rules := List (String × Option Shape)

/-- The attributes of a variable. -/
def variableRules : Rules := [("default", none), ("description", some .text)]

/-- The attributes of a cluster. -/
def clusterRules : Rules := [("vms", none), ("labels", some .textMap)]

/-- The attributes of the lifecycle of a cluster. -/
def lifecycleRules : Rules := [("start_order", some .textList), ("stop_order", some .textList)]

namespace Rules

/-- An attribute is one that a block may have, and has a value of its shape if it is evaluated. -/
def Accepts (rules : Rules) (key : String) (e : Expr) : Prop :=
  ∃ shape?, rules.lookup key = some shape? ∧ ∀ shape, shape? = some shape → shape.Accepts e

/-- How an attribute fails. -/
inductive Refuses (rules : Rules) (place : Place) (key : String) (e : Expr) :
    DecodeFailure → Prop where
  | unsupported : rules.lookup key = none →
      Refuses rules place key e (.fault (.unsupportedArgument place key))
  | value {shape : Shape} {f : DecodeFailure} : rules.lookup key = some (some shape) →
      shape.Refuses place key e f → Refuses rules place key e f

variable {rules : Rules} {place : Place} {key : String} {e : Expr} {f : DecodeFailure}

theorem refuses_of_none (h : rules.lookup key = none) :
    rules.Refuses place key e f ↔ f = .fault (.unsupportedArgument place key) := by
  constructor
  · intro hrefused
    cases hrefused with
    | unsupported => rfl
    | value hshape => cases h.symm.trans hshape
  · rintro rfl
    exact .unsupported h

theorem not_refuses_of_kept (h : rules.lookup key = some none) :
    ¬ rules.Refuses place key e f := by
  intro hrefused
  cases hrefused with
  | unsupported hnone => cases h.symm.trans hnone
  | value hshape => cases h.symm.trans hshape

theorem refuses_of_shape {shape : Shape} (h : rules.lookup key = some (some shape)) :
    rules.Refuses place key e f ↔ shape.Refuses place key e f := by
  constructor
  · intro hrefused
    cases hrefused with
    | unsupported hnone => cases h.symm.trans hnone
    | value hshape hvalue => cases h.symm.trans hshape; exact hvalue
  · exact .value h

/-- An attribute that is none of the two that a block may have is refused as it must be. -/
theorem refuse_eq_error_iff {α : Type} {first second : String} {shape? shape?' : Option Shape}
    (hfirst : key ≠ first) (hsecond : key ≠ second) :
    (refuse (.unsupportedArgument place key) : Decoded α) = .error f ↔
      Refuses [(first, shape?), (second, shape?')] place key e f := by
  have hnone : List.lookup key [(first, shape?), (second, shape?')] = none := by
    rw [Table.lookup_cons, if_neg hfirst, Table.lookup_cons, if_neg hsecond]
    rfl
  rw [refuses_of_none hnone]
  simp [refuse, eq_comm]

/-- An attribute is as it must be, or fails. -/
theorem accepts_iff (place : Place) : rules.Accepts key e ↔ ∀ f, ¬ rules.Refuses place key e f := by
  rw [Accepts]
  cases h : rules.lookup key with
  | none => simp [refuses_of_none h]
  | some shape? =>
      cases shape? with
      | none => simp [not_refuses_of_kept h]
      | some shape => simp [refuses_of_shape h, Shape.accepts_iff place key]

end Rules

/-! ### Items -/

section

variable {body : List Item}

theorem mem_entriesOf {p : String × Expr} : p ∈ entriesOf body ↔ .attribute p.1 p.2 ∈ body := by
  rw [entriesOf, List.mem_filterMap]
  constructor
  · rintro ⟨x, hx, hp⟩
    cases x with
    | «attribute» key e => cases hp; exact hx
    | block b => cases hp
  · exact fun h => ⟨_, h, rfl⟩

theorem mem_nestedIn {b : Block} : b ∈ nestedIn body ↔ .block b ∈ body := by
  rw [nestedIn, List.mem_filterMap]
  constructor
  · rintro ⟨x, hx, hb⟩
    cases x with
    | «attribute» key e => cases hb
    | block b => cases hb; exact hx
  · exact fun h => ⟨_, h, rfl⟩

theorem forall_items_iff {P : Item → Prop} :
    (∀ x ∈ body, P x) ↔
      (∀ p ∈ entriesOf body, P (.attribute p.1 p.2)) ∧ ∀ b ∈ nestedIn body, P (.block b) := by
  constructor
  · exact fun h => ⟨fun p hp => h _ (mem_entriesOf.mp hp), fun b hb => h _ (mem_nestedIn.mp hb)⟩
  · rintro ⟨hentries, hnested⟩ x hx
    cases x with
    | «attribute» key e => exact hentries (key, e) (mem_entriesOf.mpr hx)
    | block b => exact hnested b (mem_nestedIn.mpr hx)

theorem nestedIn_append {before after : List Item} :
    nestedIn (before ++ after) = nestedIn before ++ nestedIn after := List.filterMap_append

/-- There is at most one block in a body when no block stands after another. -/
theorem nestedIn_length_le_one_iff :
    (nestedIn body).length ≤ 1 ↔
      ∀ before b after, body = before ++ .block b :: after → nestedIn before = [] := by
  constructor
  · rintro h before b after rfl
    rw [nestedIn_append, List.length_append] at h
    have hb : (nestedIn (.block b :: after)).length = (nestedIn after).length + 1 := rfl
    exact List.eq_nil_of_length_eq_zero (by omega)
  · intro h
    match hnested : nestedIn body with
    | [] => exact Nat.zero_le 1
    | [_] => exact Nat.le_refl 1
    | b :: b' :: rest =>
        obtain ⟨before, after, rfl, hbefore, hafter⟩ :=
          List.filterMap_eq_append_iff.mp (show nestedIn body = [b] ++ b' :: rest from hnested)
        obtain ⟨middle, x, after, rfl, -, hx, -⟩ := List.filterMap_eq_cons_iff.mp hafter
        cases x with
        | «attribute» => cases hx
        | block _ =>
            have hfirst := h (before ++ middle) _ after (List.append_assoc ..).symm
            rw [nestedIn_append] at hfirst
            cases hbefore.symm.trans (List.append_eq_nil_iff.mp hfirst).1

end

/-- The first label of a block. -/
def Hcl.Block.label (b : Block) : String := (b.labels.head?.map Hcl.Label.value).getD ""

/-- A block that must have a number of labels fails: for their number, or at the first item that is
refused. -/
inductive FirstRefused {α : Type} (labels : Nat) (decode : Block → Decoded α)
    (refuses : List Item → Item → DecodeFailure → Prop) (b : Block) : DecodeFailure → Prop where
  | labels : b.labels.length ≠ labels →
      FirstRefused labels decode refuses b (.fault (.labelCount b.type labels b.labels.length))
  | item {before after : List Item} {x : Item} {f : DecodeFailure} : b.labels.length = labels →
      b.body = before ++ x :: after → (∃ a, decode ⟨b.type, b.labels, before⟩ = .ok a) →
      refuses before x f → FirstRefused labels decode refuses b f

/-- A block has a number of labels, no block in it, and no attributes but those that it may have. -/
structure OnlyAttributes (labels : Nat) (rules : Rules) (b : Block) : Prop where
  labels : b.labels.length = labels
  noBlock : nestedIn b.body = []
  attributes : ∀ p ∈ entriesOf b.body, rules.Accepts p.1 p.2

/-- The items of a block that has its labels are taken up one after the other.  `R` says what has
come of those before, as far as it decides what is refused. -/
structure ItemByItem {α : Type} (count : Nat) (decode : Block → Decoded α)
    (add : α → Item → Decoded α) (start : α) (R : List Item → α → Prop)
    (refuses : List Item → Item → DecodeFailure → Prop) (b : Block) : Prop where
  wrong : b.labels.length ≠ count →
    decode b = refuse (.labelCount b.type count b.labels.length)
  right : b.labels.length = count →
    ∀ body, decode ⟨b.type, b.labels, body⟩ = body.foldlM add start
  keeps : ∀ {before x a c}, R before a → add a x = .ok c → R (before ++ [x]) c
  error_iff : ∀ {before x a f}, R before a → (add a x = .error f ↔ refuses before x f)
  initial : R [] start

namespace ItemByItem

variable {α : Type} {count : Nat} {decode : Block → Decoded α} {add : α → Item → Decoded α}
  {start : α} {b : Block} {R : List Item → α → Prop}
  {refuses : List Item → Item → DecodeFailure → Prop}

theorem decode_eq (h : ItemByItem count decode add start R refuses b)
    (hcount : b.labels.length = count) : decode b = b.body.foldlM add start := by
  have hb : b = ⟨b.type, b.labels, b.body⟩ := by cases b; rfl
  exact (congrArg decode hb).trans (h.right hcount b.body)

/-- What comes of the block is as its items say. -/
theorem of_eq_ok (h : ItemByItem count decode add start R refuses b) {a : α}
    (ha : decode b = .ok a) : R b.body a := by
  by_cases hcount : b.labels.length = count
  · rw [h.decode_eq hcount] at ha
    exact foldlM_invariant (R := R) h.keeps h.initial ha
  · rw [h.wrong hcount] at ha
    cases ha

/-- Such a block fails at the first item that is refused. -/
theorem eq_error_iff (h : ItemByItem count decode add start R refuses b) {f : DecodeFailure} :
    decode b = .error f ↔ FirstRefused count decode refuses b f := by
  by_cases hcount : b.labels.length = count
  · rw [h.decode_eq hcount, foldlM_refuses_iff (g := add) (R := R) h.keeps h.error_iff h.initial]
    simp only [← h.right hcount]
    constructor
    · rintro ⟨before, x, after, hitems, hbefore, hx⟩
      exact .item hcount hitems hbefore hx
    · intro hfirst
      cases hfirst with
      | labels hne => exact absurd hcount hne
      | item _ hitems hbefore hx => exact ⟨_, _, _, hitems, hbefore, hx⟩
  · rw [h.wrong hcount]
    constructor
    · rintro ⟨⟩
      exact .labels hcount
    · intro hfirst
      cases hfirst with
      | labels => rfl
      | item heq => exact absurd heq hcount

/-- It is decoded if nothing is refused. -/
theorem exists_eq_ok_iff (h : ItemByItem count decode add start R refuses b) :
    (∃ a, decode b = .ok a) ↔ b.labels.length = count ∧
      ∀ before x after, b.body = before ++ x :: after → ∀ f, ¬ refuses before x f := by
  by_cases hcount : b.labels.length = count
  · rw [h.decode_eq hcount, exists_foldlM_iff (g := add) (R := R) h.keeps h.error_iff h.initial,
      and_iff_right hcount]
  · rw [h.wrong hcount]
    exact iff_of_false (fun ⟨_, h⟩ => nomatch h) fun h => hcount h.1

/-- The same, if the items may only be attributes, and each is refused or not whatever stands before
it. -/
theorem exists_eq_ok_iff_onlyAttributes {refused : Item → DecodeFailure → Prop} {rules : Rules}
    {place : Place} (h : ItemByItem count decode add start R (fun _ => refused) b)
    (hattribute : ∀ key e f, refused (.attribute key e) f ↔ rules.Refuses place key e f)
    (hblock : ∀ inner, ∃ f, refused (.block inner) f) :
    (∃ a, decode b = .ok a) ↔ OnlyAttributes count rules b := by
  rw [h.exists_eq_ok_iff]
  constructor
  · rintro ⟨hcount, hall⟩
    have hitems : ∀ x ∈ b.body, ∀ f, ¬ refused x f := fun x hx => by
      obtain ⟨before, after, hbody⟩ := List.append_of_mem hx
      exact hall before x after hbody
    obtain ⟨hattributes, hblocks⟩ := forall_items_iff.mp hitems
    refine ⟨hcount, List.eq_nil_iff_forall_not_mem.mpr fun inner hinner => ?_, fun p hp => ?_⟩
    · obtain ⟨f, hf⟩ := hblock inner
      exact hblocks inner hinner f hf
    · exact (Rules.accepts_iff _).mpr fun f hf => hattributes p hp f ((hattribute _ _ _).mpr hf)
  · intro hshape
    refine ⟨hshape.labels, fun before x after hbody => ?_⟩
    have hitems : ∀ x ∈ b.body, ∀ f, ¬ refused x f := by
      refine forall_items_iff.mpr ⟨fun p hp f hf => ?_, fun inner hinner => ?_⟩
      · exact (Rules.accepts_iff _).mp (hshape.attributes p hp) f ((hattribute _ _ _).mp hf)
      · exact absurd hinner (hshape.noBlock ▸ List.not_mem_nil)
    exact hitems x (hbody ▸ List.mem_append_right before List.mem_cons_self)

end ItemByItem

theorem oneLabel_of_length {b : Block} (h : b.labels.length = 1) : oneLabel b = .ok b.label := by
  obtain ⟨l, hl⟩ := List.length_eq_one_iff.mp h
  rw [oneLabel, hl, Hcl.Block.label, hl]
  rfl

theorem oneLabel_of_ne {b : Block} (h : b.labels.length ≠ 1) :
    oneLabel b = refuse (.labelCount b.type 1 b.labels.length) := by
  unfold oneLabel
  split
  · rename_i hl
    rw [hl] at h
    exact absurd rfl h
  · rfl

theorem bind_ok_eq_error {ε α β : Type} {o : Except ε α} {g : α → β} {e : ε} :
    (o >>= fun a => .ok (g a)) = .error e ↔ o = .error e := by
  cases o with
  | error _ => exact ⟨fun h => by cases h; rfl, fun h => by cases h; rfl⟩
  | ok _ => exact iff_of_false (fun h => nomatch h) fun h => nomatch h

/-! ### Variables -/

/-- What is refused in a variable. -/
inductive Variable.Refuses (name : String) : Item → DecodeFailure → Prop where
  | «attribute» {key : String} {e : Expr} {f : DecodeFailure} :
      variableRules.Refuses (.variable name) key e f → Refuses name (.attribute key e) f
  | block {b : Block} : Refuses name (.block b) (.fault (.unexpectedBlock (.variable name) b.type))

theorem Variable.refuses_attribute_iff {name key : String} {e : Expr} {f : DecodeFailure} :
    Variable.Refuses name (.attribute key e) f ↔
      variableRules.Refuses (.variable name) key e f := by
  constructor
  · rintro ⟨h⟩
    exact h
  · exact .attribute

theorem Variable.add_eq_error_iff {v : Variable} {x : Item} {f : DecodeFailure} :
    v.add x = .error f ↔ Variable.Refuses v.name x f := by
  cases x with
  | block b =>
      constructor
      · rintro ⟨⟩
        exact .block
      · rintro ⟨⟩
        rfl
  | «attribute» key e =>
      rw [Variable.refuses_attribute_iff]
      unfold Variable.add
      split
      case h_1 heq =>
        cases heq
        exact iff_of_false (fun h => nomatch h) (Rules.not_refuses_of_kept rfl)
      case h_2 heq =>
        cases heq
        rw [bind_ok_eq_error, literalString_eq_error_iff, Rules.refuses_of_shape rfl]
      case h_3 hdefault hdescription heq =>
        cases heq
        exact Rules.refuse_eq_error_iff hdefault hdescription
      case h_4 heq => cases heq

theorem Variable.name_add {v v' : Variable} {x : Item} (h : v.add x = .ok v') :
    v'.name = v.name := by
  unfold Variable.add at h
  split at h
  case h_1 => cases h; rfl
  case h_2 => obtain ⟨s, -, h⟩ := bind_eq_ok.mp h; cases h; rfl
  case h_3 | h_4 => cases h

theorem Variable.itemByItem (b : Block) :
    ItemByItem 1 Variable.ofBlock Variable.add { name := b.label } (fun _ v => v.name = b.label)
      (fun _ => Variable.Refuses b.label) b where
  wrong hne := by rw [Variable.ofBlock, oneLabel_of_ne hne]; rfl
  right hcount body := by
    have hlabel : oneLabel ⟨b.type, b.labels, body⟩ = .ok b.label :=
      oneLabel_of_length (b := ⟨b.type, b.labels, body⟩) hcount
    rw [Variable.ofBlock, hlabel]
    rfl
  keeps hname hx := (Variable.name_add hx).trans hname
  error_iff hname := by rw [Variable.add_eq_error_iff, hname]
  initial := rfl

/-- **A block that declares a variable fails** for its labels, or at the first item that is
refused. -/
theorem Variable.ofBlock_eq_error_iff {b : Block} {f : DecodeFailure} :
    Variable.ofBlock b = .error f ↔
      FirstRefused 1 Variable.ofBlock (fun _ => Variable.Refuses b.label) b f :=
  (Variable.itemByItem b).eq_error_iff

/-- **A block declares a variable** exactly if it has one label, and no items but the attributes of
a variable. -/
theorem Variable.exists_ofBlock_iff {b : Block} :
    (∃ v, Variable.ofBlock b = .ok v) ↔ OnlyAttributes 1 variableRules b :=
  (Variable.itemByItem b).exists_eq_ok_iff_onlyAttributes
    (fun _ _ _ => Variable.refuses_attribute_iff) fun _ => ⟨_, .block⟩

/-! ### Lifecycles -/

/-- What is refused in the lifecycle of a cluster. -/
inductive Lifecycle.Refuses (cluster : String) : Item → DecodeFailure → Prop where
  | «attribute» {key : String} {e : Expr} {f : DecodeFailure} :
      lifecycleRules.Refuses (.lifecycle cluster) key e f → Refuses cluster (.attribute key e) f
  | block {b : Block} : Refuses cluster (.block b) (.fault (.nestedBlock (.lifecycle cluster)))

theorem Lifecycle.refuses_attribute_iff {cluster key : String} {e : Expr} {f : DecodeFailure} :
    Lifecycle.Refuses cluster (.attribute key e) f ↔
      lifecycleRules.Refuses (.lifecycle cluster) key e f := by
  constructor
  · rintro ⟨h⟩
    exact h
  · exact .attribute

theorem Lifecycle.add_eq_error_iff {cluster : String} {l : Lifecycle} {x : Item}
    {f : DecodeFailure} : l.add cluster x = .error f ↔ Lifecycle.Refuses cluster x f := by
  cases x with
  | block b =>
      constructor
      · rintro ⟨⟩
        exact .block
      · rintro ⟨⟩
        rfl
  | «attribute» key e =>
      rw [Lifecycle.refuses_attribute_iff]
      unfold Lifecycle.add
      split
      case h_1 heq | h_2 heq =>
        cases heq
        rw [bind_ok_eq_error, literalStrings_eq_error_iff, Rules.refuses_of_shape rfl]
      case h_3 hstart hstop heq =>
        cases heq
        exact Rules.refuse_eq_error_iff hstart hstop
      case h_4 heq => cases heq

theorem Lifecycle.itemByItem (cluster : String) (b : Block) :
    ItemByItem 0 (Lifecycle.ofBlock cluster) (Lifecycle.add cluster) {} (fun _ _ => True)
      (fun _ => Lifecycle.Refuses cluster) b where
  wrong hne := by
    unfold Lifecycle.ofBlock
    split
    · rename_i hl
      rw [hl] at hne
      exact absurd rfl hne
    · rfl
  right hcount body := by
    rw [List.eq_nil_of_length_eq_zero hcount]
    rfl
  keeps _ _ := trivial
  error_iff _ := Lifecycle.add_eq_error_iff
  initial := trivial

/-- A lifecycle fails for its labels, or at the first item that is refused. -/
theorem Lifecycle.ofBlock_eq_error_iff {cluster : String} {b : Block} {f : DecodeFailure} :
    Lifecycle.ofBlock cluster b = .error f ↔
      FirstRefused 0 (Lifecycle.ofBlock cluster) (fun _ => Lifecycle.Refuses cluster) b f :=
  (Lifecycle.itemByItem cluster b).eq_error_iff

/-- A lifecycle has no label, and no items but its attributes. -/
theorem Lifecycle.exists_ofBlock_iff (cluster : String) {b : Block} :
    (∃ l, Lifecycle.ofBlock cluster b = .ok l) ↔ OnlyAttributes 0 lifecycleRules b :=
  (Lifecycle.itemByItem cluster b).exists_eq_ok_iff_onlyAttributes
    (fun _ _ _ => Lifecycle.refuses_attribute_iff) fun _ => ⟨_, .block⟩

/-! ### Clusters -/

/-- What is refused in a cluster, after the items before. -/
inductive Cluster.Refuses (name : String) (before : List Item) : Item → DecodeFailure → Prop where
  | «attribute» {key : String} {e : Expr} {f : DecodeFailure} :
      clusterRules.Refuses (.cluster name) key e f → Refuses name before (.attribute key e) f
  | block {b : Block} : b.type ≠ "lifecycle" →
      Refuses name before (.block b) (.fault (.unexpectedBlock (.cluster name) b.type))
  | second {b : Block} : b.type = "lifecycle" → nestedIn before ≠ [] →
      Refuses name before (.block b) (.fault (.duplicateLifecycle name))
  | lifecycle {b : Block} {f : DecodeFailure} : b.type = "lifecycle" → nestedIn before = [] →
      FirstRefused 0 (Lifecycle.ofBlock name) (fun _ => Lifecycle.Refuses name) b f →
      Refuses name before (.block b) f

theorem Cluster.refuses_attribute_iff {name key : String} {before : List Item} {e : Expr}
    {f : DecodeFailure} : Cluster.Refuses name before (.attribute key e) f ↔
      clusterRules.Refuses (.cluster name) key e f := by
  constructor
  · rintro ⟨h⟩
    exact h
  · exact .attribute

/-- What has come of the items before, as far as it decides what is refused. -/
structure Cluster.After (name : String) (before : List Item) (c : Cluster) : Prop where
  name : c.name = name
  lifecycle : c.lifecycle = none ↔ nestedIn before = []

theorem Cluster.add_eq_error_iff {name : String} {before : List Item} {c : Cluster} {x : Item}
    {f : DecodeFailure} (h : c.After name before) :
    c.add x = .error f ↔ Cluster.Refuses name before x f := by
  obtain ⟨rfl, hlifecycle⟩ := h
  cases x with
  | block b =>
      by_cases htype : b.type = "lifecycle"
      · cases hl : c.lifecycle with
        | none =>
            have hadd : c.add (.block b) = (do
                .ok { c with lifecycle := some (← Lifecycle.ofBlock c.name b) }) := by
              simp [Cluster.add, htype, hl]
            rw [hadd, bind_ok_eq_error, Lifecycle.ofBlock_eq_error_iff]
            constructor
            · exact .lifecycle htype (hlifecycle.mp hl)
            · intro hrefused
              cases hrefused with
              | block hne => exact absurd htype hne
              | second _ hne => exact absurd (hlifecycle.mp hl) hne
              | lifecycle _ _ hf => exact hf
        | some l =>
            have hne : nestedIn before ≠ [] := fun hnil => by
              cases hl.symm.trans (hlifecycle.mpr hnil)
            have hadd : c.add (.block b) = refuse (.duplicateLifecycle c.name) := by
              simp [Cluster.add, htype, hl]
            rw [hadd]
            constructor
            · rintro ⟨⟩
              exact .second htype hne
            · intro hrefused
              cases hrefused with
              | block hother => exact absurd htype hother
              | second => rfl
              | lifecycle _ hnil => exact absurd hnil hne
      · have hadd : c.add (.block b) = refuse (.unexpectedBlock (.cluster c.name) b.type) := by
          simp [Cluster.add, htype]
        rw [hadd]
        constructor
        · rintro ⟨⟩
          exact .block htype
        · intro hrefused
          cases hrefused with
          | block => rfl
          | second heq | lifecycle heq => exact absurd heq htype
  | «attribute» key e =>
      rw [Cluster.refuses_attribute_iff]
      unfold Cluster.add
      split
      case h_1 heq =>
        cases heq
        exact iff_of_false (fun h => nomatch h) (Rules.not_refuses_of_kept rfl)
      case h_2 heq =>
        cases heq
        rw [bind_ok_eq_error, literalTable_eq_error_iff, Rules.refuses_of_shape rfl]
      case h_3 hvms hlabels heq =>
        cases heq
        exact Rules.refuse_eq_error_iff hvms hlabels
      case h_4 heq => cases heq

theorem Cluster.After.add {name : String} {before : List Item} {c c' : Cluster} {x : Item}
    (h : c.After name before) (hx : c.add x = .ok c') : c'.After name (before ++ [x]) := by
  have hnested : ∀ key e, nestedIn (before ++ [.attribute key e]) = nestedIn before :=
    fun _ _ => by rw [nestedIn_append]; exact List.append_nil _
  unfold Cluster.add at hx
  split at hx
  case h_1 => cases hx; exact ⟨h.name, by rw [hnested]; exact h.lifecycle⟩
  case h_2 =>
    obtain ⟨t, -, hx⟩ := bind_eq_ok.mp hx
    cases hx
    exact ⟨h.name, by rw [hnested]; exact h.lifecycle⟩
  case h_3 => cases hx
  case h_4 b =>
    split at hx
    · split at hx
      · cases hx
      · obtain ⟨l, -, hx⟩ := bind_eq_ok.mp hx
        cases hx
        refine ⟨h.name, iff_of_false (fun h => nomatch h) ?_⟩
        rw [nestedIn_append]
        exact List.append_ne_nil_of_right_ne_nil _ (List.cons_ne_nil b [])
    · cases hx

theorem Cluster.itemByItem (b : Block) :
    ItemByItem 1 Cluster.ofBlock Cluster.add { name := b.label }
      (fun before c => c.After b.label before) (Cluster.Refuses b.label) b where
  wrong hne := by rw [Cluster.ofBlock, oneLabel_of_ne hne]; rfl
  right hcount body := by
    have hlabel : oneLabel ⟨b.type, b.labels, body⟩ = .ok b.label :=
      oneLabel_of_length (b := ⟨b.type, b.labels, body⟩) hcount
    rw [Cluster.ofBlock, hlabel]
    rfl
  keeps := Cluster.After.add
  error_iff := Cluster.add_eq_error_iff
  initial := ⟨rfl, iff_of_true rfl rfl⟩

/-- A block is of the shape of a cluster. -/
structure Cluster.Shaped (b : Block) : Prop where
  label : b.labels.length = 1
  attributes : ∀ p ∈ entriesOf b.body, clusterRules.Accepts p.1 p.2
  /-- The blocks in it are lifecycles. -/
  lifecycles : ∀ inner ∈ nestedIn b.body,
    inner.type = "lifecycle" ∧ OnlyAttributes 0 lifecycleRules inner
  /-- There is at most one. -/
  atMostOne : (nestedIn b.body).length ≤ 1

/-- **A block that declares a cluster fails** for its labels, or at the first item that is
refused. -/
theorem Cluster.ofBlock_eq_error_iff {b : Block} {f : DecodeFailure} :
    Cluster.ofBlock b = .error f ↔
      FirstRefused 1 Cluster.ofBlock (Cluster.Refuses b.label) b f :=
  (Cluster.itemByItem b).eq_error_iff

theorem Cluster.not_refuses_block_iff {name : String} {before : List Item} {b : Block} :
    (∀ f, ¬ Cluster.Refuses name before (.block b) f) ↔
      b.type = "lifecycle" ∧ nestedIn before = [] ∧ OnlyAttributes 0 lifecycleRules b := by
  rw [← Lifecycle.exists_ofBlock_iff name]
  constructor
  · intro h
    have htype : b.type = "lifecycle" := Classical.byContradiction fun hne => h _ (.block hne)
    have hfirst : nestedIn before = [] := Classical.byContradiction fun hne => h _ (.second htype hne)
    refine ⟨htype, hfirst, ?_⟩
    cases hl : Lifecycle.ofBlock name b with
    | ok l => exact ⟨l, rfl⟩
    | error f =>
        exact absurd (.lifecycle htype hfirst (Lifecycle.ofBlock_eq_error_iff.mp hl)) (h f)
  · rintro ⟨htype, hfirst, l, hl⟩ f hrefused
    cases hrefused with
    | block hne => exact hne htype
    | second _ hne => exact hne hfirst
    | lifecycle _ _ hf => cases hl.symm.trans (Lifecycle.ofBlock_eq_error_iff.mpr hf)

/-- **A block declares a cluster** exactly if it is of the shape of one. -/
theorem Cluster.exists_ofBlock_iff {b : Block} :
    (∃ c, Cluster.ofBlock b = .ok c) ↔ Cluster.Shaped b := by
  have hattribute : ∀ before key e, (∀ f, ¬ Cluster.Refuses b.label before (.attribute key e) f) ↔
      clusterRules.Accepts key e := fun before key e => by
    rw [Rules.accepts_iff (.cluster b.label)]
    exact forall_congr' fun f => not_congr Cluster.refuses_attribute_iff
  rw [(Cluster.itemByItem b).exists_eq_ok_iff]
  constructor
  · rintro ⟨hlabel, hall⟩
    have hblock : ∀ before inner after, b.body = before ++ .block inner :: after →
        inner.type = "lifecycle" ∧ nestedIn before = [] ∧
          OnlyAttributes 0 lifecycleRules inner := fun before inner after hbody =>
      Cluster.not_refuses_block_iff.mp (hall before _ after hbody)
    refine ⟨hlabel, fun p hp => ?_, fun inner hinner => ?_, nestedIn_length_le_one_iff.mpr
      fun before inner after hbody => (hblock before inner after hbody).2.1⟩
    · obtain ⟨before, after, hbody⟩ := List.append_of_mem (mem_entriesOf.mp hp)
      exact (hattribute _ _ _).mp (hall before _ after hbody)
    · obtain ⟨before, after, hbody⟩ := List.append_of_mem (mem_nestedIn.mp hinner)
      obtain ⟨htype, -, hshape⟩ := hblock before inner after hbody
      exact ⟨htype, hshape⟩
  · intro h
    refine ⟨h.label, fun before x after hbody => ?_⟩
    have hx : x ∈ b.body := hbody ▸ List.mem_append_right before List.mem_cons_self
    cases x with
    | «attribute» key e =>
        exact (hattribute _ _ _).mpr (h.attributes (key, e) (mem_entriesOf.mpr hx))
    | block inner =>
        obtain ⟨htype, hshape⟩ := h.lifecycles inner (mem_nestedIn.mpr hx)
        exact Cluster.not_refuses_block_iff.mpr
          ⟨htype, nestedIn_length_le_one_iff.mp h.atMostOne before inner after hbody, hshape⟩

end VirtEnv
