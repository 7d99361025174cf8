import Mathlib.Data.List.Infix
import Mathlib.Data.List.TakeDrop
import VirtEnv.Hcl.Body

/-!
# Readers — what a reader takes off the head of a text

`Reads r c cs P rest`: at the head of the text `cs`, in the context `c`, the reader `r` reads up to
`rest` and answers something of which `P` holds.  Nothing is said about what it keeps for a template
around it, which is why an answer that holds some of that is described and not given.

* `Reads.bind`: one reader after another.  Everything else is a rule for a single reader.
* `Blanks.before`, `Solid.blanks`: blanks are passed over together, up to where none stands.
* `IsIdentifier.reads`, `Verbatim.readUnits_eq`: the words and the texts between quotes that are
  read as they stand.
-/

namespace VirtEnv.Hcl

open VirtEnv.Text (CharSet UnitReader isDigit isIdentifierRest isIdentifierStart readUnits
  startsWith takeIdentifier? xidStart)

/-- Whether all characters of a text have a property is decided by going through the text, and not
through all characters that there are. -/
instance decidableForallMem {p : Char → Prop} [DecidablePred p] (cs : List Char) :
    Decidable (∀ x ∈ cs, p x) :=
  List.decidableBAll p cs

/-- A reader reads a text up to `rest`, and answers something of which `P` holds. -/
def Reads {α : Type} (r : Reader α) (c : Context) (cs : List Char) (P : α → Prop)
    (rest : List Char) : Prop :=
  ∀ kept, ∃ a kept', r ⟨cs, kept, c⟩ = some (a, ⟨rest, kept', c⟩) ∧ P a

namespace Reads

variable {α β : Type} {r : Reader α} {f : α → Reader β} {c : Context} {cs cs' rest : List Char}
  {P : α → Prop} {Q : β → Prop}

/-- One reader after another. -/
theorem bind (hr : Reads r c cs P cs') (hf : ∀ a, P a → Reads (f a) c cs' Q rest) :
    Reads (r >>= f) c cs Q rest := by
  intro kept
  obtain ⟨a, kept', h, ha⟩ := hr kept
  obtain ⟨b, kept'', h', hb⟩ := hf a ha kept'
  refine ⟨b, kept'', ?_, hb⟩
  show (r ⟨cs, kept, c⟩ >>= fun p => f p.1 p.2) = _
  rw [h]
  exact h'

/-- One reader after another, where the answer of the first is known. -/
theorem bind_eq {a : α} (hr : Reads r c cs (· = a) cs') (hf : Reads (f a) c cs' Q rest) :
    Reads (r >>= f) c cs Q rest :=
  hr.bind fun _ h => h ▸ hf

/-- An answer that takes nothing off the text. -/
theorem pure {a : α} (h : P a) : Reads (Pure.pure a) c cs P cs := fun kept => ⟨a, kept, rfl, h⟩

/-- A reader that fails reads nothing. -/
theorem not_fail : ¬ Reads Reader.fail c cs P rest := by
  intro h
  obtain ⟨_, _, hfail, _⟩ := h (.empty false)
  exact nomatch hfail

/-- A known answer, and what is made of it. -/
theorem map {g : α → β} {a : α} (hr : Reads r c cs (· = a) rest) :
    Reads (g <$> r) c cs (· = g a) rest := by
  intro kept
  obtain ⟨_, kept', h, rfl⟩ := hr kept
  refine ⟨g _, kept', ?_, rfl⟩
  show (r ⟨cs, kept, c⟩ >>= fun p => some (g p.1, p.2)) = _
  rw [h]
  rfl

/-! ### The cursor -/

theorem rest_eq : Reads Reader.rest c cs (· = cs) cs := fun kept => ⟨cs, kept, rfl, rfl⟩

theorem context_eq : Reads Reader.context c cs (· = c) cs := fun kept => ⟨c, kept, rfl, rfl⟩

theorem take (n : Nat) : Reads (Reader.take n) c cs (· = cs.take n) (cs.drop n) :=
  fun _ => ⟨_, _, rfl, rfl⟩

theorem skip (n : Nat) : Reads (Reader.skip n) c cs (· = ()) (cs.drop n) :=
  fun _ => ⟨_, _, rfl, rfl⟩

theorem keep (t : String) : Reads (Reader.keep t) c cs (· = ()) cs := fun _ => ⟨_, _, rfl, rfl⟩

theorem keepLiteral (t : String) : Reads (Reader.keepLiteral t) c cs (· = ()) cs :=
  fun _ => ⟨_, _, rfl, rfl⟩

theorem keepAll (k : Kept) : Reads (Reader.keepAll k) c cs (· = ()) cs :=
  fun _ => ⟨_, _, rfl, rfl⟩

/-- What would be kept on the way is answered instead. -/
theorem apartFrom (escaping : Bool) (hr : Reads r c cs P rest) :
    Reads (Reader.apartFrom escaping r) c cs (fun p => P p.1) rest := by
  intro kept
  obtain ⟨a, kept', h, ha⟩ := hr (.empty escaping)
  exact ⟨(a, kept'), kept, by rw [Reader.apartFrom, h]; rfl, ha⟩

theorem apart (hr : Reads r c cs P rest) : Reads (Reader.apart r) c cs (fun p => P p.1) rest :=
  fun kept => apartFrom kept.escaping hr kept

/-- What is kept on the way is answered as well. -/
theorem written (hr : Reads r c cs P rest) :
    Reads (Reader.written r) c cs (fun p => P p.1) rest :=
  hr.apart.bind fun p hp => (keepAll p.2).bind_eq (pure hp)

/-- Nothing is kept on the way, and the same is read. -/
theorem silently (hr : Reads r c cs P rest) : Reads (Reader.silently r) c cs P rest :=
  hr.apart.bind fun _ hp => pure hp

/-- What stands in a context of its own is read in that context. -/
theorem afresh {lines : Lines} (hr : Reads r ⟨lines, true⟩ cs P rest) :
    Reads (Reader.afresh lines r) c cs P rest := by
  intro kept
  obtain ⟨a, kept', h, ha⟩ := hr kept
  exact ⟨a, kept', by rw [Reader.afresh, h]; rfl, ha⟩

/-- A whole text is what a reader answers when it reads up to its end. -/
theorem readAll? {a : α} (hr : Reads r ⟨.one, true⟩ cs (· = a) []) :
    Reader.readAll? r cs = some a := by
  obtain ⟨_, kept', h, rfl⟩ := hr (.empty false)
  rw [Reader.readAll?, h]

/-! ### Words -/

/-- A text starts with the word that it is put together from. -/
theorem startsWith_append (t : String) (rest : List Char) :
    startsWith t (t.toList ++ rest) = true :=
  List.isPrefixOf_iff_prefix.mpr (List.prefix_append _ _)

theorem startsWith_ne {t : String} {x y : Char} {w : List Char} (ht : t.toList = y :: w)
    (h : x ≠ y) : startsWith t (x :: cs) = false := by
  simp [startsWith, ht, List.isPrefixOf, h.symm]

theorem take_word (t : String) :
    Reads (Reader.take t.length) c (t.toList ++ rest) (· = t.toList) rest := by
  have h : Reads (Reader.take t.length) c (t.toList ++ rest) _ _ := take t.length
  rwa [← String.length_toList, List.take_left', List.drop_left' rfl] at h
  rfl

/-- A word that must stand there is read where it does. -/
theorem exactly (t : String) : Reads (Reader.exactly t) c (t.toList ++ rest) (· = ()) rest := by
  refine rest_eq.bind_eq ?_
  rw [startsWith_append, if_pos rfl]
  exact (take_word t).bind fun _ _ => pure rfl

/-- A word that may stand there is read where it does. -/
theorem optional_found (t : String) :
    Reads (Reader.optional t) c (t.toList ++ rest) (· = true) rest := by
  refine rest_eq.bind_eq ?_
  rw [startsWith_append, if_pos rfl]
  exact (take_word t).bind fun _ _ => pure rfl

/-- Where it does not, nothing is read. -/
theorem optional_missing {t : String} (h : startsWith t cs = false) :
    Reads (Reader.optional t) c cs (· = false) cs := by
  refine rest_eq.bind_eq ?_
  rw [h, if_neg Bool.false_ne_true]
  exact pure rfl

theorem at? (t : String) : Reads (Reader.at? t) c cs (· = startsWith t cs) cs :=
  rest_eq.bind_eq (pure rfl)

theorem lineBreak : Reads Reader.lineBreak c ('\n' :: rest) (· = ()) rest :=
  rest_eq.bind_eq ((skip 1).bind_eq (keep "\n"))

theorem lineComment_missing (h : lineComment? cs = none) :
    Reads Reader.lineComment c cs (· = ()) cs := by
  refine rest_eq.bind_eq ?_
  rw [h]
  exact (take 0).bind fun _ _ => pure rfl

/-- Blanks are read to their end. -/
theorem blanks (lines : Lines) :
    Reads (Reader.blanks lines) c cs (· = ()) (cs.drop (blankLength lines cs)) :=
  rest_eq.bind_eq ((take _).bind fun _ _ => pure rfl)

/-- A gap is read up to where no blank stands in the context. -/
theorem gap : Reads Reader.gap c cs (· = ()) (cs.drop (blankLength c.lines cs)) :=
  context_eq.bind_eq (blanks c.lines)

/-- What stands behind a gap is looked at, and the gap is left unread. -/
theorem pastGap : Reads Reader.pastGap c cs (· = cs.drop (blankLength c.lines cs)) cs :=
  rest_eq.bind_eq (context_eq.bind_eq (rest_eq.bind_eq (pure rfl)))

end Reads

/-! ### Blanks -/

/-- A text of blanks, which are passed over whatever comes after them. -/
def Blanks (lines : Lines) (bs : List Char) : Prop :=
  ∀ cs, blankLength lines (bs ++ cs) = bs.length + blankLength lines cs

namespace Blanks

variable {lines : Lines} {bs bs' cs : List Char}

theorem nil : Blanks lines [] := fun _ => (Nat.zero_add _).symm

/-- Blanks with blanks after them. -/
theorem append (h : Blanks lines bs) (h' : Blanks lines bs') : Blanks lines (bs ++ bs') := by
  intro cs
  rw [List.append_assoc, h, h', List.length_append, Nat.add_assoc]

/-- A character that is a blank whatever comes after it. -/
theorem of_unit {x : Char} (h : ∀ cs, blank lines (x :: cs) = some ((), 0)) :
    Blanks lines [x] := by
  intro cs
  have hread : readUnits (blank lines) 0 (x :: cs) =
      (() :: (readUnits (blank lines) 0 cs).1, (readUnits (blank lines) 0 cs).2 + 1) := by
    rw [readUnits, h]
  show (readUnits (blank lines) 0 (x :: cs)).2 = 1 + _
  rw [hread, Nat.add_comm]
  rfl

/-- Spaces are blanks, however many there are. -/
theorem spaces (h : ∀ x ∈ bs, x = ' ') : Blanks lines bs := by
  induction bs with
  | nil => exact nil
  | cons x bs ih =>
      obtain ⟨rfl, hbs⟩ := List.forall_mem_cons.mp h
      exact (of_unit fun _ => rfl).append (ih hbs)

theorem lineFeed : Blanks .many ['\n'] := of_unit fun _ => rfl

/-- The characters that a unit still takes are passed over. -/
theorem readUnits_owed {α : Type} (unit : UnitReader α) (bs cs : List Char) :
    (readUnits unit bs.length (bs ++ cs)).2 = bs.length + (readUnits unit 0 cs).2 := by
  induction bs with
  | nil => exact (Nat.zero_add _).symm
  | cons b bs ih =>
      rw [List.length_cons, List.cons_append, readUnits, ih]
      exact Nat.add_right_comm _ _ _

/-- What is left of a line goes up to its line feed. -/
theorem lineRest?_append {line : List Char} (h : ∀ x ∈ line, x ≠ '\n' ∧ x ≠ '\r') (cs : List Char) :
    lineRest? (line ++ '\n' :: cs) = some line.length := by
  induction line with
  | nil => rfl
  | cons x line ih =>
      obtain ⟨⟨hfeed, hreturn⟩, hline⟩ := List.forall_mem_cons.mp h
      rw [List.cons_append, lineRest?, ih hline]
      · rfl
      · exact hfeed
      · exact fun _ hx _ => hreturn hx
      · exact hreturn

/-- A comment to the end of its line. -/
theorem comment {line : List Char} (h : ∀ x ∈ line, x ≠ '\n' ∧ x ≠ '\r') :
    Blanks .many ('#' :: line ++ ['\n']) := by
  intro cs
  have hcomment : blank .many ('#' :: (line ++ '\n' :: cs)) = some ((), line.length) := by
    show ((lineRest? (line ++ '\n' :: cs)).map (· + 1)).map _ = _
    rw [lineRest?_append h]
    rfl
  have hrest := lineFeed cs
  -- the mark and its line are one unit, which owes as many characters as the line has
  have hread : readUnits (blank .many) 0 ('#' :: (line ++ '\n' :: cs)) =
      (() :: (readUnits (blank .many) line.length (line ++ '\n' :: cs)).1,
        (readUnits (blank .many) line.length (line ++ '\n' :: cs)).2 + 1) := by
    rw [readUnits, hcomment]
  rw [List.append_assoc, List.cons_append]
  show (readUnits (blank .many) 0 ('#' :: (line ++ '\n' :: cs))).2 = _
  rw [hread, readUnits_owed]
  simp only [blankLength, List.singleton_append] at hrest ⊢
  rw [hrest]
  simp
  omega

theorem add_append (k : Kept) (cs cs' : List Char) : (k.add cs).add cs' = k.add (cs ++ cs') := by
  simp [Kept.add]

/-- Blanks before what a reader of blanks begins with are read with them. -/
theorem before {β : Type} {f : Unit → Reader β} {c : Context} {rest : List Char} {Q : β → Prop}
    (h : Blanks lines bs) (hr : Reads (Reader.blanks lines >>= f) c cs Q rest) :
    Reads (Reader.blanks lines >>= f) c (bs ++ cs) Q rest := by
  intro kept
  obtain ⟨b, kept', hread, hb⟩ := hr (kept.add bs)
  refine ⟨b, kept', ?_, hb⟩
  rw [← hread]
  show f () ⟨(bs ++ cs).drop (blankLength lines (bs ++ cs)),
      kept.add ((bs ++ cs).take (blankLength lines (bs ++ cs))), c⟩ =
    f () ⟨cs.drop (blankLength lines cs), (kept.add bs).add (cs.take (blankLength lines cs)), c⟩
  rw [h cs, List.drop_length_add_append, List.take_length_add_append, add_append]

end Blanks

/-! ### Where no blank stands -/

/-- No blank stands at the head of a text. -/
def Solid (lines : Lines) (cs : List Char) : Prop := blankLength lines cs = 0

namespace Solid

variable {lines : Lines} {c : Context} {cs : List Char}

/-- Every blank begins with one of these characters. -/
theorem of_head {x : Char} (h : x ∉ [' ', '\t', '\n', '\r', '#', '/']) :
    Solid lines (x :: cs) := by
  simp only [List.mem_cons, List.not_mem_nil, or_false, not_or] at h
  obtain ⟨hspace, htab, hfeed, hreturn, hhash, hslash⟩ := h
  have hcomment : lineComment? (x :: cs) = none := by
    unfold lineComment?
    split <;> simp_all
  have hbracket : bracketComment? (x :: cs) = none := by
    unfold bracketComment?
    split <;> simp_all
  have hblank : blank lines (x :: cs) = none := by
    simp [blank, hcomment, hbracket, hspace, htab, hfeed, hreturn]
    cases lines <;> rfl
  rw [Solid, blankLength, readUnits, hblank]

theorem lineFeed : Solid .one ('\n' :: cs) := rfl

/-- Where no blank stands, reading blanks reads nothing. -/
theorem blanks (h : Solid lines cs) : Reads (Reader.blanks lines) c cs (· = ()) cs := by
  have hread : Reads (Reader.blanks lines) c cs _ _ := Reads.blanks lines
  rwa [show blankLength lines cs = 0 from h] at hread

theorem gap (h : Solid c.lines cs) : Reads Reader.gap c cs (· = ()) cs :=
  Reads.context_eq.bind_eq h.blanks

theorem pastGap (h : Solid c.lines cs) : Reads Reader.pastGap c cs (· = cs) cs := by
  have hread : Reads Reader.pastGap c cs _ _ := Reads.pastGap
  rwa [show blankLength c.lines cs = 0 from h] at hread

end Solid

/-! ### Identifiers -/

/-- A word that is read as an identifier. -/
def IsIdentifier : List Char → Prop
  | [] => False
  | x :: cs => isIdentifierStart x = true ∧ ∀ y ∈ cs, isIdentifierRest y = true

instance : DecidablePred IsIdentifier
  | [] => isFalse id
  | x :: cs => inferInstanceAs (Decidable (isIdentifierStart x = true ∧ ∀ y ∈ cs, _))

namespace IsIdentifier

variable {word cs : List Char} {c : Context}

theorem ne_nil (h : IsIdentifier word) : word ≠ [] := by
  rintro rfl
  exact h

/-- A character that begins no identifier is not the first one of an identifier. -/
theorem head_ne {x y : Char} (h : IsIdentifier (x :: cs)) (hy : isIdentifierStart y = false) :
    x ≠ y := by
  rintro rfl
  exact Bool.false_ne_true (hy.symm.trans h.1)

/-- The characters that begin identifiers come after the digits. -/
theorem head_not_digit {x : Char} (h : IsIdentifier (x :: cs)) : isDigit x = false := by
  refine Bool.eq_false_iff.mpr fun hdigit => ?_
  have hcode : x.toNat ≤ 57 := by
    simp only [isDigit, Bool.and_eq_true, decide_eq_true_eq] at hdigit
    exact hdigit.2
  have hbounds : xidStart.bounds = 0x41 :: xidStart.bounds.tail := rfl
  have hletter : xidStart.contains x = false := by
    rw [CharSet.contains, hbounds, CharSet.containsCode, if_pos (by omega)]
  rcases Bool.or_eq_true _ _ ▸ h.1 with hlow | hstart
  · exact absurd hcode (by rw [beq_iff_eq.mp hlow]; decide)
  · exact Bool.false_ne_true (hletter.symm.trans hstart)

/-- A character that no identifier has is not in one. -/
theorem not_mem {y : Char} (h : IsIdentifier word) (hstart : isIdentifierStart y = false)
    (hrest : isIdentifierRest y = false) : y ∉ word := by
  cases word with
  | nil => exact List.not_mem_nil
  | cons x cs =>
      rintro (_ | ⟨_, hy⟩)
      · exact h.head_ne hstart rfl
      · exact Bool.false_ne_true (hrest.symm.trans (h.2 y hy))

/-- No blank stands at the head of an identifier. -/
theorem solid {lines : Lines} (h : IsIdentifier word) : Solid lines (word ++ cs) := by
  cases word with
  | nil => exact h.elim
  | cons x w =>
      refine Solid.of_head fun hx => ?_
      have hstart : ∀ y ∈ [' ', '\t', '\n', '\r', '#', '/'], isIdentifierStart y = false := by
        decide
      exact h.head_ne (hstart x hx) rfl

/-- An identifier is read up to where no character can go on with it. -/
theorem taken (h : IsIdentifier word) (hcs : cs.takeWhile isIdentifierRest = []) :
    takeIdentifier? (word ++ cs) = some (word, cs) := by
  cases word with
  | nil => exact h.elim
  | cons x w =>
      have hdrop : cs.dropWhile isIdentifierRest = cs := by
        have hsplit := List.takeWhile_append_dropWhile (p := isIdentifierRest) (l := cs)
        rwa [hcs, List.nil_append] at hsplit
      rw [List.cons_append, takeIdentifier?, if_pos h.1, List.takeWhile_append_of_pos h.2,
        List.dropWhile_append_of_pos h.2, hcs, hdrop, List.append_nil]

/-- **An identifier is read as it stands**, up to where no character can go on with it. -/
theorem reads (h : IsIdentifier word) (hcs : cs.takeWhile isIdentifierRest = []) :
    Reads Reader.identifier c (word ++ cs) (· = String.ofList word) cs := by
  refine Reads.rest_eq.bind_eq ?_
  rw [h.taken hcs]
  have htake : Reads (Reader.take word.length) c (word ++ cs) _ _ := Reads.take word.length
  rw [List.drop_left] at htake
  exact htake.bind fun _ _ => Reads.pure rfl

end IsIdentifier

/-! ### Texts between quotes -/

/-- A text that stands between quotes as it is: it holds no quote, no escape and no start of a
sequence. -/
structure Verbatim (cs : List Char) : Prop where
  quote : '"' ∉ cs
  escape : '\\' ∉ cs
  sequence : ∀ m ∈ ['$', '%'], ¬ [m, '\x7b'] <:+: cs

instance : DecidablePred Verbatim := fun cs =>
  decidable_of_iff ('"' ∉ cs ∧ '\\' ∉ cs ∧ ∀ m ∈ ['$', '%'], ¬ [m, '\x7b'] <:+: cs)
    ⟨fun h => ⟨h.1, h.2.1, h.2.2⟩, fun h => ⟨h.quote, h.escape, h.sequence⟩⟩

namespace Verbatim

variable {x : Char} {text cs : List Char} {c : Context}

theorem of_cons (h : Verbatim (x :: text)) : Verbatim text where
  quote := fun hx => h.quote (List.mem_cons_of_mem _ hx)
  escape := fun hx => h.escape (List.mem_cons_of_mem _ hx)
  sequence := fun m hm hx => h.sequence m hm (hx.trans (List.suffix_cons _ _).isInfix)

/-- Without braces no sequence starts. -/
theorem of_not_mem (hquote : '"' ∉ text) (hescape : '\\' ∉ text) (hbrace : '\x7b' ∉ text) :
    Verbatim text :=
  ⟨hquote, hescape, fun _ _ hinside => hbrace (hinside.subset (List.mem_of_getLast? rfl))⟩

/-- An identifier can stand between quotes as it is. -/
theorem of_identifier (h : IsIdentifier text) : Verbatim text :=
  of_not_mem (h.not_mem (by decide) (by decide)) (h.not_mem (by decide) (by decide))
    (h.not_mem (by decide) (by decide))

/-- No sequence starts in front of such a text's closing quote. -/
theorem not_sequence (h : Verbatim text) {m : Char} (hm : m ∈ ['$', '%']) :
    ¬ [m, '\x7b'] <+: text ++ '"' :: cs := by
  intro hprefix
  match text, h with
  | [], _ =>
      obtain ⟨rfl, -⟩ := List.cons_prefix_cons.mp hprefix
      exact absurd hm (by decide)
  | [_], _ =>
      obtain ⟨-, hprefix⟩ := List.cons_prefix_cons.mp hprefix
      exact absurd (List.cons_prefix_cons.mp hprefix).1 (by decide)
  | a :: b :: text, h =>
      obtain ⟨ha, hprefix⟩ := List.cons_prefix_cons.mp hprefix
      obtain ⟨hb, -⟩ := List.cons_prefix_cons.mp hprefix
      exact h.sequence m hm ⟨[], text, by rw [ha, hb]; rfl⟩

/-- A character with which no sequence starts is a unit of its own. -/
theorem plainUnit_eq (h : isMarkerStart x = true → ¬ ['\x7b'] <+: cs ∧ ¬ [x, '\x7b'] <+: cs) :
    plainUnit (x :: cs) = some ([x], 0) := by
  by_cases hx : isMarkerStart x = true
  · obtain ⟨hbrace, hdouble⟩ := h hx
    match cs, hbrace, hdouble with
    | [], _, _ => rfl
    | [d], hbrace, _ => grind [plainUnit]
    | d :: e :: cs, hbrace, hdouble => grind [plainUnit]
  · match cs with
    | [] => rfl
    | [d] => simp [plainUnit, hx]
    | d :: e :: cs => simp [plainUnit, hx]

/-- Every character of such a text is a unit of its own. -/
theorem quotedUnit_eq (h : Verbatim (x :: text)) :
    quotedUnit (x :: (text ++ '"' :: cs)) = some ([x], 0) := by
  have hquote : x ≠ '"' := fun hx => h.quote (hx ▸ List.mem_cons_self)
  have hescape : x ≠ '\\' := fun hx => h.escape (hx ▸ List.mem_cons_self)
  have hplain : plainUnit (x :: (text ++ '"' :: cs)) = some ([x], 0) := by
    refine plainUnit_eq fun hx => ?_
    have hmarker : x ∈ ['$', '%'] := by simpa [isMarkerStart] using hx
    refine ⟨fun hbrace => ?_, h.of_cons.not_sequence hmarker⟩
    have hsequence : [x, '\x7b'] <+: x :: text ++ '"' :: cs :=
      List.cons_prefix_cons.mpr ⟨rfl, hbrace⟩
    exact h.not_sequence hmarker hsequence
  unfold quotedUnit
  split <;> simp_all

/-- **A text between quotes is read as it stands**, up to the closing quote. -/
theorem readUnits_eq (h : Verbatim text) :
    readUnits quotedUnit 0 (text ++ '"' :: cs) = (text.map ([·]), text.length) := by
  induction text with
  | nil => rfl
  | cons x text ih =>
      rw [List.cons_append, readUnits, h.quotedUnit_eq]
      simp [ih h.of_cons]

end Verbatim

end VirtEnv.Hcl
