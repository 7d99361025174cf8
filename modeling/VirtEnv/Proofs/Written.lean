import VirtEnv.Proofs.Readers

/-!
# Written — how the plain forms of a document are read back

Some forms of a document are read as they are written, whatever stands around them: a name as an
identifier, a path of names, digits, a quoted text that holds nothing special; a line that gives
such a value to a key; a block with such labels.  Each has one lemma, which says how much fuel its
reader needs and that the text is read up to its end.

* `Spells`: a text, up to the end of its line, is how a value is written.
* `body_assigned`, `body_block`: an attribute and a block that end with their line, with the items
  after them.
-/

namespace VirtEnv.Hcl

open Read
open VirtEnv.Text (isDigit isIdentifierRest isIdentifierStart readUnits startsWith)

variable {c : Context} {cs rest tail : List Char} {fuel : Nat}

/-! ### Quoted texts -/

namespace Verbatim

variable {text : List Char}

/-- The literal text of such a text is the text itself. -/
theorem literalText (h : Verbatim text) :
    Reads (Read.literalText .quoted) c (text ++ '"' :: cs) (· = String.ofList text)
      ('"' :: cs) := by
  refine Reads.rest_eq.bind_eq ?_
  have hunits : readUnits TemplateForm.quoted.unit 0 (text ++ '"' :: cs) =
    (text.map ([·]), text.length) := h.readUnits_eq
  have hflat : (text.map ([·])).flatten = text := List.flatMap_singleton' text
  rw [hunits]
  dsimp only
  rw [hflat]
  have hskip : Reads (Reader.skip text.length) c (text ++ '"' :: cs) _ _ := Reads.skip text.length
  rw [List.drop_left] at hskip
  exact hskip.bind_eq ((Reads.keepLiteral _).bind_eq (Reads.pure rfl))

theorem plainString (h : Verbatim text) :
    Reads Read.plainString c ('"' :: (text ++ '"' :: cs)) (· = String.ofList text) cs :=
  (Reads.exactly "\"").bind_eq
    (h.literalText.bind_eq ((Reads.exactly "\"").bind_eq (Reads.pure rfl)))

/-- Text that is written as it stands opens no interpolation. -/
theorem not_startsWith (h : Verbatim text) :
    startsWith "$\x7b" (text ++ '"' :: cs) = false ∧
      startsWith "%\x7b" (text ++ '"' :: cs) = false := by
  refine ⟨?_, ?_⟩ <;> refine Bool.eq_false_iff.mpr fun hstart => ?_
  · exact h.not_sequence (m := '$') (by decide) (List.isPrefixOf_iff_prefix.mp hstart)
  · exact h.not_sequence (m := '%') (by decide) (List.isPrefixOf_iff_prefix.mp hstart)

theorem atPartEnd : Reads Read.atPartEnd c cs (fun _ => True) cs :=
  Reads.bind (P := fun _ => True) (Reads.rest_eq.bind_eq (Reads.pure trivial)) fun _ _ =>
    Reads.pure trivial

/-- Such a text is read as one literal. -/
theorem segment (h : Verbatim text) (hne : text ≠ []) :
    Reads (Read.segment (fuel + 1) .quoted) c (text ++ '"' :: cs)
      (· = .literal (String.ofList text)) ('"' :: cs) := by
  rw [Read.segment]
  refine Reads.rest_eq.bind_eq ?_
  rw [h.not_startsWith.1, h.not_startsWith.2]
  refine h.literalText.bind_eq ?_
  have hnonempty : (String.ofList text).isEmpty = false := by simpa using hne
  rw [hnonempty]
  exact Reads.pure rfl

/-- Between quotes, such a text is one part, or none if it is empty. -/
theorem pieces (h : Verbatim text) :
    Reads (Read.pieces (fuel + 2) .quoted) c (text ++ '"' :: cs)
      (fun parts => parts.map Prod.fst =
        if text = [] then [] else [.literal (String.ofList text)]) ('"' :: cs) := by
  have hend : Reads (Read.pieces (fuel + 1) .quoted) c ('"' :: cs) (· = []) ('"' :: cs) := by
    rw [Read.pieces]
    exact Reads.rest_eq.bind_eq (atPartEnd.bind fun _ _ => Reads.pure rfl)
  rw [Read.pieces]
  refine Reads.rest_eq.bind_eq (atPartEnd.bind fun _ _ => ?_)
  rw [h.not_startsWith.2, Bool.false_and, Bool.or_false]
  cases text with
  | nil => exact Reads.pure rfl
  | cons x text =>
      have hopen : TemplateForm.quoted.ends (x :: text ++ '"' :: cs) = false := by
        have hquote : x ≠ '"' := fun hx => h.quote (hx ▸ List.mem_cons_self)
        exact Reads.startsWith_ne rfl hquote
      rw [hopen]
      refine (h.segment (List.cons_ne_nil _ _)).written.bind fun s hs => ?_
      refine hend.bind fun parts hparts => Reads.pure ?_
      rw [hparts, List.map_cons, hs, if_neg (List.cons_ne_nil _ _)]
      rfl

/-- Between quotes it is read as a string. -/
theorem quoted (h : Verbatim text) :
    Reads (Read.quoted (fuel + 3)) c ('"' :: (text ++ '"' :: cs))
      (· = .string (String.ofList text)) cs := by
  rw [Read.quoted]
  refine (Reads.exactly "\"").silently.bind fun _ _ => ?_
  refine (h.pieces.apartFrom true).bind fun p hp => ?_
  refine (Reads.exactly "\"").silently.bind fun _ _ => ?_
  rw [hp]
  by_cases hnil : text = []
  · subst hnil
    exact (Reads.keep _).bind_eq (Reads.pure rfl)
  · rw [if_neg hnil]
    exact (Reads.keep _).bind_eq (Reads.pure rfl)

end Verbatim

/-! ### Expressions that end with their line -/

theorem pastGap_lineFeed {conditional : Bool} :
    Reads Reader.pastGap ⟨.one, conditional⟩ ('\n' :: tail) (· = '\n' :: tail) ('\n' :: tail) :=
  Solid.pastGap Solid.lineFeed

/-- An operand at the end of a line is the whole expression. -/
theorem expr_of_operand {e : Expr}
    (h : Reads (operand fuel) ⟨.one, true⟩ cs (· = e) ('\n' :: tail)) :
    Reads (expr (fuel + 2)) ⟨.one, true⟩ cs (· = e) ('\n' :: tail) := by
  have hchain : Reads (chain (fuel + 1)) ⟨.one, true⟩ cs (· = e) ('\n' :: tail) := by
    rw [chain]
    exact h.bind_eq (pastGap_lineFeed.bind_eq (Reads.pure rfl))
  rw [expr]
  exact Reads.context_eq.bind_eq (hchain.bind_eq (pastGap_lineFeed.bind_eq (Reads.pure rfl)))

/-- No operator stands before another character. -/
theorem unaryOps_none {x : Char} (hneg : x ≠ '-') (hnot : x ≠ '!') :
    Reads unaryOps c (x :: cs) (· = none) (x :: cs) := by
  have hunit : unaryUnit (x :: cs) = none := by
    have hnumber : isNegativeNumber (x :: cs) = false := by
      unfold isNegativeNumber
      split <;> simp_all
    have hop : unaryOp? (x :: cs) = none := by
      unfold unaryOp?
      split <;> simp_all
    simp [unaryUnit, hnumber, hop]
  have hunits : readUnits unaryUnit 0 (x :: cs) = ([], 0) := by rw [readUnits, hunit]
  refine Reads.rest_eq.bind_eq ?_
  rw [hunits]
  exact (Reads.skip 0).bind_eq (Reads.pure rfl)

/-- A term with the accesses after it, if no unary operator stands before it. -/
theorem operand_of_term {e : Expr} {ss : List Step} {x : Char} (hneg : x ≠ '-') (hnot : x ≠ '!')
    (hterm : Reads (term fuel) c (x :: cs) (· = e) tail)
    (hsteps : Reads (steps fuel true) c tail (· = ss) rest) :
    Reads (operand (fuel + 1)) c (x :: cs) (· = if ss = [] then e else .traversal e ss) rest := by
  rw [operand]
  refine (unaryOps_none hneg hnot).bind_eq (hterm.bind_eq (hsteps.bind_eq ?_))
  cases ss with
  | nil => exact Reads.pure rfl
  | cons s ss => exact Reads.pure rfl

/-! ### Accesses by name -/

/-- The names of parts, each with the point before it. -/
def dotted (names : List (List Char)) : List Char := names.flatMap ('.' :: ·)

/-- No identifier goes on past the parts or the end of the line. -/
theorem dotted_stops (names : List (List Char)) :
    (dotted names ++ '\n' :: tail).takeWhile isIdentifierRest = [] := by
  cases names <;> rfl

theorem dotStep_member {word : List Char} (h : IsIdentifier word)
    (hcs : cs.takeWhile isIdentifierRest = []) :
    Reads dotStep c (word ++ cs) (· = .member (String.ofList word)) cs := by
  obtain ⟨x, w, rfl⟩ := List.exists_cons_of_ne_nil h.ne_nil
  have hstar : startsWith "*" (x :: w ++ cs) = false :=
    Reads.startsWith_ne rfl (h.head_ne (by decide))
  refine (Reads.optional_missing hstar).bind_eq (Reads.rest_eq.bind_eq ?_)
  have hdigit : (x :: w ++ cs).head?.any isDigit = false := h.head_not_digit
  rw [hdigit]
  exact (h.reads hcs).map

/-- There are no steps at the end of a line. -/
theorem steps_end (first : Bool) :
    Reads (steps (fuel + 1) first) ⟨.one, true⟩ ('\n' :: tail) (· = []) ('\n' :: tail) := by
  rw [steps]
  exact pastGap_lineFeed.bind_eq (Reads.pure rfl)

/-- Names behind dots are read as members. -/
theorem steps_dotted {names : List (List Char)} {first : Bool} (h : ∀ w ∈ names, IsIdentifier w)
    (hfuel : names.length < fuel) :
    Reads (steps fuel first) ⟨.one, true⟩ (dotted names ++ '\n' :: tail)
      (· = names.map fun w => .member (String.ofList w)) ('\n' :: tail) := by
  induction names generalizing fuel first with
  | nil =>
      obtain ⟨fuel, rfl⟩ := Nat.exists_eq_add_one.mpr hfuel
      exact steps_end first
  | cons w names ih =>
      obtain ⟨fuel, rfl⟩ := Nat.exists_eq_add_one.mpr (Nat.zero_lt_of_lt hfuel)
      obtain ⟨hw, hnames⟩ := List.forall_mem_cons.mp h
      have htext : dotted (w :: names) ++ '\n' :: tail =
          '.' :: (w ++ (dotted names ++ '\n' :: tail)) := by simp [dotted]
      have hsolid : Solid .one ('.' :: (w ++ (dotted names ++ '\n' :: tail))) :=
        Solid.of_head (by decide)
      have haccess : atAccess ('.' :: (w ++ (dotted names ++ '\n' :: tail))) = true := by
        obtain ⟨x, w, rfl⟩ := List.exists_cons_of_ne_nil hw.ne_nil
        have hx : x ≠ '.' := hw.head_ne (by decide)
        unfold atAccess
        split <;> simp_all
      rw [htext, steps]
      refine (Solid.pastGap hsolid).bind_eq ?_
      rw [haccess]
      have hgap := Solid.gap (c := ⟨.one, true⟩) hsolid
      -- blanks are kept before the first access only, but there are none before any
      cases first
      on_goal 1 => refine hgap.silently.bind_eq ?_
      on_goal 2 => refine hgap.bind_eq ?_
      all_goals
        refine (Reads.optional_found ".").bind_eq (hw.solid.blanks.bind_eq ?_)
        refine (dotStep_member hw (dotted_stops names)).bind_eq ?_
        exact (ih hnames (Nat.lt_of_succ_lt_succ hfuel)).bind_eq (Reads.pure rfl)

/-! ### The values of a plain document -/

/-- A word is no literal, so it is the name of a variable. -/
def IsVariable (word : List Char) : Prop :=
  nameExpr (String.ofList word) = .variable (String.ofList word)

/-- A name is read as a variable, up to the first dot. -/
theorem term_variable {word : List Char} {names : List (List Char)} (h : IsIdentifier word)
    (hname : IsVariable word) :
    Reads (term (fuel + 1)) ⟨.one, true⟩ (word ++ (dotted names ++ '\n' :: tail))
      (· = .variable (String.ofList word)) (dotted names ++ '\n' :: tail) := by
  have hsolid : Solid .one (dotted names ++ '\n' :: tail) := by
    cases names with
    | nil => exact Solid.lineFeed
    | cons w names => exact Solid.of_head (by decide)
  have hcall : (startsWith "(" (dotted names ++ '\n' :: tail) ||
      startsWith "::" (dotted names ++ '\n' :: tail)) = false := by
    cases names <;> rfl
  obtain ⟨x, w, rfl⟩ := List.exists_cons_of_ne_nil h.ne_nil
  rw [term]
  refine Reads.rest_eq.bind_eq ?_
  -- every other kind of term begins with a character that begins no identifier
  split
  case h_7 y _ _ _ _ _ _ _ htext =>
    obtain ⟨rfl, -⟩ := List.cons.inj htext
    rw [h.head_not_digit]
    refine (h.reads (dotted_stops names)).bind_eq ((Solid.pastGap hsolid).bind_eq ?_)
    rw [hcall]
    exact Reads.pure hname
  case h_8 htext => exact absurd htext (List.cons_ne_nil _ _)
  all_goals
    rename_i htext
    exact absurd (List.cons.inj htext).1 (h.head_ne (by decide))

/-- A name with the names of parts after it is a path to the part. -/
theorem expr_path {word name : List Char} {names : List (List Char)} (h : IsIdentifier word)
    (hvariable : IsVariable word) (hnames : ∀ w ∈ name :: names, IsIdentifier w)
    (hfuel : names.length + 1 < fuel) :
    Reads (expr (fuel + 3)) ⟨.one, true⟩ (word ++ (dotted (name :: names) ++ '\n' :: tail))
      (· = .traversal (.variable (String.ofList word))
        ((name :: names).map fun w => .member (String.ofList w))) ('\n' :: tail) := by
  obtain ⟨fuel, rfl⟩ := Nat.exists_eq_add_one.mpr (Nat.zero_lt_of_lt hfuel)
  have hterm : Reads (term (fuel + 1)) ⟨.one, true⟩
      (word ++ (dotted (name :: names) ++ '\n' :: tail)) _ _ := term_variable h hvariable
  obtain ⟨x, w, rfl⟩ := List.exists_cons_of_ne_nil h.ne_nil
  exact expr_of_operand
    (operand_of_term (h.head_ne (by decide)) (h.head_ne (by decide)) hterm
      (steps_dotted hnames hfuel))

/-- A quoted text at the end of a line is a string. -/
theorem expr_quoted {text : List Char} (h : Verbatim text) :
    Reads (expr (fuel + 7)) ⟨.one, true⟩ ('"' :: (text ++ '"' :: '\n' :: tail))
      (· = .string (String.ofList text)) ('\n' :: tail) := by
  have hterm : Reads (term (fuel + 4)) ⟨.one, true⟩ ('"' :: (text ++ '"' :: '\n' :: tail))
      (· = .string (String.ofList text)) ('\n' :: tail) := by
    rw [term]
    exact Reads.rest_eq.bind_eq h.quoted
  exact expr_of_operand (operand_of_term (by decide) (by decide) hterm (steps_end true))

/-- Digits at the end of a line are an unsigned integer, if 64 bits can hold it. -/
theorem number?_digits {ds : List Char} (hds : ∀ d ∈ ds, isDigit d = true)
    (hsmall : decimalValue ds < Nat.pow 2 64) :
    number? (ds ++ '\n' :: tail) = some (.ofNat (decimalValue ds), ds.length) := by
  have hdigits : digits (ds ++ '\n' :: tail) = ds := by
    rw [digits, List.takeWhile_append_of_pos hds]
    exact List.append_nil ds
  have hfraction : fractionLength ('\n' :: tail) = 0 := rfl
  have hexponent : exponentLength ('\n' :: tail) = 0 := rfl
  simp [number?, hdigits, hfraction, hexponent, hsmall]

/-- Digits are read as a number, if it is less than two to the power of 64. -/
theorem expr_digits {d : Char} {ds : List Char} (hds : ∀ x ∈ d :: ds, isDigit x = true)
    (hsmall : decimalValue (d :: ds) < Nat.pow 2 64) :
    Reads (expr (fuel + 4)) ⟨.one, true⟩ (d :: ds ++ '\n' :: tail)
      (· = .number (.ofNat (decimalValue (d :: ds)))) ('\n' :: tail) := by
  have hdigit : isDigit d = true := hds d List.mem_cons_self
  have hne : ∀ y, isDigit y = false → d ≠ y := fun y hy h =>
    Bool.false_ne_true (hy.symm.trans (h ▸ hdigit))
  have hnumber : Reads number ⟨.one, true⟩ (d :: ds ++ '\n' :: tail)
      (· = .ofNat (decimalValue (d :: ds))) ('\n' :: tail) := by
    refine Reads.rest_eq.bind_eq ?_
    rw [number?_digits hds hsmall]
    have htake : Reads (Reader.take (d :: ds).length) ⟨.one, true⟩ (d :: ds ++ '\n' :: tail) _ _ :=
      Reads.take (d :: ds).length
    rw [List.drop_left] at htake
    exact htake.bind fun _ _ => Reads.pure rfl
  have hterm : Reads (term (fuel + 1)) ⟨.one, true⟩ (d :: ds ++ '\n' :: tail)
      (· = .number (.ofNat (decimalValue (d :: ds)))) ('\n' :: tail) := by
    rw [term]
    refine Reads.rest_eq.bind_eq ?_
    -- a digit begins numbers only
    split
    case h_7 y _ _ _ _ _ _ _ htext =>
      obtain ⟨rfl, -⟩ := List.cons.inj htext
      rw [hdigit]
      exact hnumber.map
    case h_8 htext => exact absurd htext (List.cons_ne_nil _ _)
    all_goals
      rename_i htext
      exact absurd (List.cons.inj htext).1 (hne _ (by decide))
  exact expr_of_operand
    (operand_of_term (hne _ (by decide)) (hne _ (by decide)) hterm (steps_end true))

/-! ### Values -/

/-- `v`, up to the end of its line, is how the value `e` of an attribute is written. -/
structure Spells (v : List Char) (e : Expr) : Prop where
  reads : ∀ {fuel tail}, 8 ≤ fuel →
    Reads (expr fuel) ⟨.one, true⟩ (v ++ '\n' :: tail) (· = e) ('\n' :: tail)
  solid : ∀ {cs}, Solid .one (v ++ '\n' :: cs)
  reread : e.reread = e

namespace Spells

theorem quoted {text : List Char} (h : Verbatim text) :
    Spells ('"' :: text ++ ['"']) (.string (String.ofList text)) where
  reads := by
    intro fuel tail hfuel
    obtain ⟨fuel, rfl⟩ := Nat.exists_eq_add_of_le' (Nat.le_trans (by decide : 7 ≤ 8) hfuel)
    rw [List.append_assoc]
    exact expr_quoted h
  solid := Solid.of_head (by decide)
  reread := rfl

theorem digits {d : Char} {ds : List Char} (hds : ∀ x ∈ d :: ds, isDigit x = true)
    (hsmall : decimalValue (d :: ds) < Nat.pow 2 64) :
    Spells (d :: ds) (.number (.ofNat (decimalValue (d :: ds)))) where
  reads := by
    intro fuel tail hfuel
    obtain ⟨fuel, rfl⟩ := Nat.exists_eq_add_of_le' (Nat.le_trans (by decide : 4 ≤ 8) hfuel)
    exact expr_digits hds hsmall
  solid := by
    refine Solid.of_head fun hd => ?_
    have hblank : ∀ x ∈ [' ', '\t', '\n', '\r', '#', '/'], isDigit x = false := by decide
    exact Bool.false_ne_true ((hblank d hd).symm.trans (hds d List.mem_cons_self))
  reread := rfl

/-- Members hold no templates. -/
theorem withParts_members (partsOf : String → List Segment) (names : List (List Char)) :
    Step.withPartsAll partsOf (names.map fun w => .member (String.ofList w)) =
      names.map fun w => .member (String.ofList w) := by
  induction names with
  | nil => rfl
  | cons w names ih => rw [List.map_cons, Step.withPartsAll, Step.withParts, ih]

theorem path {word name : List Char} {names : List (List Char)} (h : IsIdentifier word)
    (hvariable : IsVariable word) (hnames : ∀ w ∈ name :: names, IsIdentifier w)
    (hlength : names.length ≤ 3) :
    Spells (word ++ dotted (name :: names)) (.traversal (.variable (String.ofList word))
      ((name :: names).map fun w => .member (String.ofList w))) where
  reads := by
    intro fuel tail hfuel
    obtain ⟨fuel, rfl⟩ := Nat.exists_eq_add_of_le' (Nat.le_trans (by decide : 3 ≤ 8) hfuel)
    rw [List.append_assoc]
    exact expr_path h hvariable hnames (by omega)
  solid := by
    intro cs
    rw [List.append_assoc]
    exact h.solid
  reread := by
    rw [Expr.reread, Expr.withParts, Expr.withParts, withParts_members]

end Spells

/-! ### Items of a body -/

theorem itemEnd : Reads Read.itemEnd c ('\n' :: tail) (· = ()) tail :=
  Solid.lineFeed.blanks.bind_eq
    ((Reads.lineComment_missing rfl).bind_eq (Reads.rest_eq.bind_eq Reads.lineBreak))

/-- The value of an attribute is read up to the end of its line. -/
theorem attributeValue {v : List Char} {e : Expr} (h : Spells v e) (hfuel : 8 ≤ fuel) :
    Reads (Read.attributeValue fuel) c ('=' :: ' ' :: (v ++ '\n' :: tail)) (· = e)
      ('\n' :: tail) := by
  refine (Reads.exactly "=").bind_eq ?_
  have hspace : Blanks .one [' '] := Blanks.spaces (by decide)
  refine hspace.before (h.solid.blanks.bind_eq ?_)
  exact (h.reads hfuel).afresh.bind_eq (Reads.pure h.reread)

/-- Blanks before the items of a body. -/
theorem body_blanks {bs : List Char} {seen : List String} {P : List Item → Prop}
    (hbs : Blanks .many bs) (h : Reads (body fuel seen) c cs P rest) :
    Reads (body fuel seen) c (bs ++ cs) P rest := by
  cases fuel with
  | zero => exact absurd h Reads.not_fail
  | succ fuel =>
      rw [body] at h ⊢
      exact hbs.before h

/-- A body ends before a closing brace. -/
theorem body_close {seen : List String} :
    Reads (body (fuel + 1) seen) c ('\x7d' :: tail) (· = []) ('\x7d' :: tail) := by
  rw [body]
  exact (Solid.of_head (by decide)).blanks.bind_eq
    (Reads.rest_eq.bind_eq ((Reads.at? _).bind_eq (Reads.pure rfl)))

/-- A body ends with the text. -/
theorem body_end {seen : List String} : Reads (body (fuel + 1) seen) c [] (· = []) [] := by
  rw [body]
  exact (Reads.blanks _).bind_eq (Reads.rest_eq.bind_eq ((Reads.at? _).bind_eq (Reads.pure rfl)))

/-- A word that begins an item ends no body. -/
theorem word_opens {word : List Char} (h : IsIdentifier word) :
    ((word ++ cs).isEmpty || startsWith "\x7d" (word ++ cs)) = false := by
  obtain ⟨x, w, rfl⟩ := List.exists_cons_of_ne_nil h.ne_nil
  exact Reads.startsWith_ne rfl (h.head_ne (by decide))

/-- A line that gives a value to a key. -/
def assigned (indent word pad v : List Char) : List Char :=
  indent ++ (word ++ (' ' :: pad ++ '=' :: ' ' :: (v ++ ['\n'])))

/-- An attribute on a line of its own. -/
theorem body_assigned {indent word pad v : List Char} {e : Expr} {seen : List String}
    {items : List Item} (hindent : Blanks .many indent) (hword : IsIdentifier word)
    (hpad : Blanks .one (' ' :: pad)) (hnew : String.ofList word ∉ seen) (he : Spells v e)
    (hfuel : 8 ≤ fuel)
    (htail : Reads (body fuel (String.ofList word :: seen)) c tail (· = items) rest) :
    Reads (body (fuel + 1) seen) c (assigned indent word pad v ++ tail)
      (· = .attribute (String.ofList word) e :: items) rest := by
  have hequals : Solid .one ('=' :: ' ' :: (v ++ '\n' :: tail)) := Solid.of_head (by decide)
  have hfresh : seen.contains (String.ofList word) = false := by simpa using hnew
  have htext : assigned indent word pad v ++ tail =
      indent ++ (word ++ (' ' :: pad ++ '=' :: ' ' :: (v ++ '\n' :: tail))) := by
    simp [assigned]
  rw [htext]
  refine body_blanks hindent ?_
  rw [body]
  refine hword.solid.blanks.bind_eq (Reads.rest_eq.bind_eq ((Reads.at? _).bind_eq ?_))
  rw [word_opens hword]
  refine (hword.reads rfl).bind_eq (hpad.before (hequals.blanks.bind_eq ?_))
  refine (Reads.at? _).bind_eq ?_
  rw [show startsWith "=" ('=' :: ' ' :: (v ++ '\n' :: tail)) = true from rfl, if_pos rfl, hfresh]
  exact (attributeValue he hfuel).bind_eq (itemEnd.bind_eq (htail.bind_eq (Reads.pure rfl)))

/-! ### Blocks -/

/-- The labels of a block, each a quoted text with a blank after it. -/
def labelled (texts : List (List Char)) : List Char :=
  texts.flatMap fun t => '"' :: t ++ ['"', ' ']

/-- Blanks before labels are passed over. -/
theorem labels_blanks {bs : List Char} {P : List Label → Prop} (hbs : Blanks .one bs)
    (h : Reads (labels fuel) c cs P rest) : Reads (labels fuel) c (bs ++ cs) P rest := by
  cases fuel with
  | zero => exact absurd h Reads.not_fail
  | succ fuel =>
      rw [labels] at h ⊢
      exact hbs.before h

/-- Quoted texts before a brace are read as labels. -/
theorem labels_quoted {texts : List (List Char)} (h : ∀ t ∈ texts, Verbatim t)
    (hfuel : texts.length < fuel) :
    Reads (labels fuel) c (labelled texts ++ '\x7b' :: tail)
      (· = texts.map fun t => .text (String.ofList t)) ('\x7b' :: tail) := by
  induction texts generalizing fuel with
  | nil =>
      obtain ⟨fuel, rfl⟩ := Nat.exists_eq_add_one.mpr hfuel
      rw [labels]
      refine Solid.blanks (Solid.of_head (by decide)) |>.bind_eq ?_
      exact (Reads.at? _).bind_eq (Reads.pure rfl)
  | cons t texts ih =>
      obtain ⟨fuel, rfl⟩ := Nat.exists_eq_add_one.mpr (Nat.zero_lt_of_lt hfuel)
      obtain ⟨ht, htexts⟩ := List.forall_mem_cons.mp h
      have hspace : Blanks .one [' '] := Blanks.spaces (by decide)
      have hlabels := labels_blanks hspace (ih htexts (Nat.lt_of_succ_lt_succ hfuel))
      have htext : labelled (t :: texts) ++ '\x7b' :: tail =
          '"' :: (t ++ '"' :: ([' '] ++ (labelled texts ++ '\x7b' :: tail))) := by
        simp [labelled]
      rw [htext, labels]
      refine Solid.blanks (Solid.of_head (by decide)) |>.bind_eq ?_
      refine (Reads.at? _).bind_eq ((Reads.at? _).bind_eq ?_)
      exact ht.plainString.bind_eq (hlabels.bind_eq (Reads.pure rfl))

/-- Braces without anything between them are an empty body. -/
theorem blockBody_empty :
    Reads (blockBody (fuel + 1)) c ('\x7b' :: '\x7d' :: tail) (· = []) tail := by
  rw [blockBody]
  refine (Reads.exactly "\x7b").bind_eq ((Solid.of_head (by decide)).blanks.bind_eq ?_)
  exact Reads.rest_eq.bind_eq ((Reads.optional_found "\x7d").bind_eq (Reads.pure rfl))

/-- Lines between braces are a body. -/
theorem blockBody_lines {items : List Item}
    (h : Reads (body fuel []) c cs (· = items) ('\x7d' :: tail)) :
    Reads (blockBody (fuel + 1)) c ('\x7b' :: '\n' :: cs) (· = items) tail := by
  rw [blockBody]
  refine (Reads.exactly "\x7b").bind_eq (Solid.lineFeed.blanks.bind_eq ?_)
  refine Reads.rest_eq.bind_eq ((Reads.lineComment_missing rfl).bind_eq ?_)
  refine Reads.lineBreak.bind_eq ?_
  exact h.bind_eq ((Reads.exactly "\x7d").bind_eq (Reads.pure rfl))

/-- A block that ends with its line. -/
theorem body_block {word : List Char} {texts : List (List Char)} {seen : List String}
    {inner items : List Item} (hword : IsIdentifier word)
    (htexts : ∀ t ∈ texts, Verbatim t) (hfuel : texts.length < fuel)
    (hbody : Reads (blockBody fuel) c ('\x7b' :: cs) (· = inner) ('\n' :: tail))
    (htail : Reads (body fuel seen) c tail (· = items) rest) :
    Reads (body (fuel + 1) seen) c (word ++ ([' '] ++ (labelled texts ++ '\x7b' :: cs)))
      (· = .block (.mk (String.ofList word) (texts.map fun t => .text (String.ofList t)) inner)
        :: items) rest := by
  have hspace : Blanks .one [' '] := Blanks.spaces (by decide)
  have hsolid : Solid .one (labelled texts ++ '\x7b' :: cs) := by
    cases texts <;> exact Solid.of_head (by decide)
  have hequals : startsWith "=" (labelled texts ++ '\x7b' :: cs) = false := by
    cases texts <;> rfl
  rw [body]
  refine hword.solid.blanks.bind_eq (Reads.rest_eq.bind_eq ((Reads.at? _).bind_eq ?_))
  rw [word_opens hword]
  refine (hword.reads rfl).bind_eq (hspace.before (hsolid.blanks.bind_eq ?_))
  refine (Reads.at? _).bind_eq ?_
  rw [hequals]
  refine (labels_quoted htexts hfuel).bind_eq (hbody.bind_eq (itemEnd.bind_eq ?_))
  exact htail.bind_eq (Reads.pure rfl)

end VirtEnv.Hcl
