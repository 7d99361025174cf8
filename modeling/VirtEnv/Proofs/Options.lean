import Mathlib.Data.List.Find
import VirtEnv.Command
import VirtEnv.Proofs.Results

/-!
# Options — arguments that stand beside others

Some options are set apart: those that one command takes and another does not, or one that a command
may be given besides.  Other arguments are read in the same way whether or not such options were read
before, and by a command that takes them as by one that does not.

* `Alike`: what commands have in common that have the same options but for some.
* `Progress.add_extend`, `Progress.common_add`: one argument, after options that are set apart.
* `Progress.read_own`: all arguments.
-/

namespace VirtEnv.Command

/-- The argument gives one of these options. -/
def gives (names : List String) (argument : String) : Bool :=
  match argument.toList with
  | '-' :: '-' :: cs => names.contains (splitLong cs).1
  | _ => false

/-! ### Commands with the same options -/

/-- The options of a command, but for some. -/
def ArgumentRules.without (rules : ArgumentRules) (own : List String) : List OptionRule :=
  rules.options.filter (·.long ∉ own)

/-- Two commands have the same options, but for some that are given by their names only.  Neither
takes words. -/
structure Alike (own : List String) (rules rules' : ArgumentRules) : Prop where
  words : rules.maxWords = 0 ∧ rules'.maxWords = 0
  letters : ∀ r ∈ rules.options ++ rules'.options, r.long ∈ own → r.letter = none
  same : rules'.without own = rules.without own

section

variable {own : List String} {rules rules' : ArgumentRules} {r : OptionRule}
  {P : OptionRule → Bool}

/-- An option that is not set apart is found in what is left. -/
theorem find?_without (hP : ∀ r ∈ rules.options, r.long ∈ own → P r = false) :
    (rules.without own).find? P = rules.options.find? P := by
  rw [ArgumentRules.without, List.find?_filter]
  refine List.find?_congr fun r hr => ?_
  by_cases hown : r.long ∈ own
  · simp [hown, hP r hr hown]
  · simp [hown]

namespace Alike

/-- **Both commands know an option**, or neither, if it is not set apart. -/
theorem find? (h : Alike own rules rules')
    (hP : ∀ r ∈ rules.options ++ rules'.options, r.long ∈ own → P r = false) :
    rules'.options.find? P = rules.options.find? P := by
  rw [← find?_without fun r hr => hP r (List.mem_append_right _ hr), h.same,
    find?_without fun r hr => hP r (List.mem_append_left _ hr)]

theorem not_mem_of_find? (hP : ∀ r ∈ rules.options ++ rules'.options, r.long ∈ own → P r = false)
    (hfound : rules.options.find? P = some r) : r.long ∉ own := fun hown =>
  absurd (List.find?_some hfound) (Bool.eq_false_iff.mp
    (hP r (List.mem_append_left _ (List.mem_of_find?_eq_some hfound)) hown))

/-- Options that are set apart have no letter. -/
theorem letter (h : Alike own rules rules') (c : Char) :
    ∀ r ∈ rules.options ++ rules'.options, r.long ∈ own → (r.letter == some c) = false := by
  intro r hr hown
  rw [h.letters r hr hown]
  rfl

/-- An option with another name is not set apart. -/
theorem long (_ : Alike own rules rules') {name : String} (hname : name ∉ own) :
    ∀ r ∈ rules.options ++ rules'.options, r.long ∈ own → (r.long == name) = false :=
  fun _ _ hown => beq_eq_false_iff_ne.mpr fun heq => hname (heq ▸ hown)

theorem left (h : Alike own rules rules') : Alike own rules rules :=
  ⟨⟨h.words.1, h.words.1⟩, fun r hr => h.letters r (List.mem_append_left _
    ((List.mem_append.mp hr).elim id id)), rfl⟩

end Alike

end

namespace Progress

/-- What was read, after flags and values that were read before. -/
def extend (flags : List String) (values : List (String × String)) (p : Progress) : Progress :=
  { p with
    arguments :=
      { p.arguments with
        flags := p.arguments.flags ++ flags
        values := p.arguments.values ++ values } }

variable {own flags : List String} {values : List (String × String)} {p p' : Progress}
  {r : OptionRule} {argument : String} {rules rules' : ArgumentRules}

/-- A flag is given before, or now. -/
@[simp] theorem has_extend (flag : String) : (p.extend flags values).arguments.has flag =
    (p.arguments.has flag || flags.contains flag) := by
  simp [extend, Arguments.has]

/-- A value that is given now goes over those before. -/
@[simp] theorem value?_extend (name : String) : (p.extend flags values).arguments.value? name =
    (p.arguments.value? name).or (values.lookup name) :=
  List.lookup_append

@[simp] theorem closed_extend : (p.extend flags values).closed = p.closed := rfl

@[simp] theorem waiting_extend : (p.extend flags values).waiting = p.waiting := rfl

/-- What was read before has to do with options that are set apart. -/
structure Apart (own flags : List String) (values : List (String × String)) : Prop where
  flags : ∀ flag ∈ flags, flag ∈ own
  values : ∀ p ∈ values, p.1 ∈ own

theorem Apart.not_mem (h : Apart own flags values) (hr : r.long ∉ own) : r.long ∉ flags :=
  fun hmem => hr (h.flags _ hmem)

theorem Apart.lookup (h : Apart own flags values) (hr : r.long ∉ own) :
    values.lookup r.long = none :=
  List.lookup_eq_none_iff.mpr fun p hp => bne_iff_ne.mpr fun heq => hr (heq ▸ h.values p hp)

/-- A flag is taken up in the same way after what is set apart. -/
theorem addFlag_extend (h : Apart own flags values) (hr : r.long ∉ own) :
    (p.extend flags values).addFlag r = (p.addFlag r).map (extend flags values) := by
  have hhas : (p.extend flags values).arguments.has r.long = p.arguments.has r.long := by
    simp [h.not_mem hr]
  rw [addFlag, addFlag, hhas]
  split <;> rfl

/-- So is a value. -/
theorem addValue_extend (h : Apart own flags values) (hr : r.long ∉ own) (value : String) :
    (p.extend flags values).addValue r value = (p.addValue r value).map (extend flags values) := by
  have hvalue : (p.extend flags values).arguments.value? r.long = p.arguments.value? r.long := by
    simp [h.lookup hr]
  rw [addValue, addValue, hvalue]
  split <;> rfl

theorem addLetters_extend (hrules : Alike own rules rules') (h : Apart own flags values)
    (cs : List Char) :
    (p.extend flags values).addLetters rules' cs =
      (p.addLetters rules cs).map (extend flags values) := by
  induction cs generalizing p with
  | nil => rfl
  | cons c cs ih =>
      rw [addLetters, addLetters, hrules.find? (hrules.letter c)]
      cases hfind : rules.options.find? (·.letter == some c) with
      | none => rfl
      | some r =>
          have hlong := Alike.not_mem_of_find? (hrules.letter c) hfind
          cases heffect : r.effect with
          | stop s => simp only [heffect]; rfl
          | value =>
              simp only [heffect]
              split
              · rfl
              · exact addValue_extend h hlong _
              · exact addValue_extend h hlong _
          | flag | counted =>
              simp only [heffect, addFlag_extend h hlong]
              cases p.addFlag r with
              | error s => rfl
              | ok p' => exact ih

theorem addLong_extend (hrules : Alike own rules rules') (h : Apart own flags values)
    {name : String} (hname : name ∉ own) (value : Option String) :
    (p.extend flags values).addLong rules' name value =
      (p.addLong rules name value).map (extend flags values) := by
  rw [addLong, addLong, hrules.find? (hrules.long hname)]
  cases hfind : rules.options.find? (·.long == name) with
  | none => rfl
  | some r =>
      have hlong := Alike.not_mem_of_find? (hrules.long hname) hfind
      cases heffect : r.effect with
      | stop s => cases value <;> simp only [heffect] <;> rfl
      | value =>
          cases value with
          | none => simp only [heffect]; rfl
          | some v => simp only [heffect]; exact addValue_extend h hlong v
      | flag | counted =>
          cases value with
          | none => simp only [heffect]; exact addFlag_extend h hlong
          | some v => simp only [heffect]; rfl

/-- Nothing has to do with the options that are set apart. -/
structure Common (own : List String) (p : Progress) : Prop where
  waiting : ∀ r, p.waiting = some r → r.long ∉ own
  flags : ∀ flag ∈ p.arguments.flags, flag ∉ own
  values : ∀ q ∈ p.arguments.values, q.1 ∉ own

theorem common_empty : Common own {} :=
  ⟨fun _ h => (nomatch h), fun _ h => (nomatch h), fun _ h => (nomatch h)⟩

/-- No flag that is set apart is given. -/
theorem Common.has {flag : String} (h : Common own p) (hflag : flag ∈ own) :
    p.arguments.has flag = false := by
  rw [Arguments.has, ← Bool.not_eq_true, List.contains_iff_mem]
  exact fun hmem => h.flags flag hmem hflag

/-- Nor is a value. -/
theorem Common.value? {name : String} (h : Common own p) (hname : name ∈ own) :
    p.arguments.value? name = none :=
  List.lookup_eq_none_iff.mpr fun q hq => bne_iff_ne.mpr fun heq => h.values q hq (heq ▸ hname)

/-- No words are taken. -/
theorem addWord_eq (h : rules.maxWords = 0) (word : String) :
    p.addWord rules word = .error .misuse := by
  rw [addWord, h, if_neg (Nat.not_lt_zero _)]

/-- **An argument is read in the same way** after options that are set apart. -/
theorem add_extend (hrules : Alike own rules rules') (h : Apart own flags values)
    (hp : p.Common own) (hargument : gives own argument = false) :
    (p.extend flags values).add rules' argument =
      (p.add rules argument).map (extend flags values) := by
  unfold add
  rw [addWord_eq hrules.words.2, addWord_eq hrules.words.1, closed_extend, waiting_extend]
  cases hclosed : p.closed with
  | true => rfl
  | false =>
      simp only [Bool.false_eq_true, if_false]
      split
      case h_1 => rfl
      case h_2 c cs _ hcs =>
        split
        · rfl
        · by_cases hdash : c = '-'
          · subst hdash
            simp only [beq_self_eq_true, if_true]
            have hname : (splitLong cs).1 ∉ own := by
              simpa [gives, hcs] using hargument
            exact addLong_extend hrules h hname _
          · simp only [beq_eq_false_iff_ne.mpr hdash, Bool.false_eq_true, if_false]
            exact addLetters_extend hrules h _
      case h_3 =>
        cases hwaiting : p.waiting with
        | none => rfl
        | some r => exact addValue_extend h (hp.waiting r hwaiting) argument

theorem common_addFlag (hp : p.Common own) (hr : r.long ∉ own) (h : p.addFlag r = .ok p') :
    p'.Common own := by
  unfold addFlag at h
  split at h
  · cases h
  · cases h
    exact ⟨hp.waiting, List.forall_mem_cons.mpr ⟨hr, hp.flags⟩, hp.values⟩

theorem common_addValue {value : String} (hp : p.Common own) (hr : r.long ∉ own)
    (h : p.addValue r value = .ok p') : p'.Common own := by
  unfold addValue at h
  split at h
  · cases h
  · cases h
    exact ⟨fun _ h => (nomatch h), hp.flags, List.forall_mem_cons.mpr ⟨hr, hp.values⟩⟩

theorem common_waiting (hp : p.Common own) (hr : r.long ∉ own) :
    ({ p with waiting := some r } : Progress).Common own :=
  ⟨fun _ h => Option.some.inj h ▸ hr, hp.flags, hp.values⟩

theorem common_addLetters (hrules : Alike own rules rules) (cs : List Char) (hp : p.Common own)
    (h : p.addLetters rules cs = .ok p') : p'.Common own := by
  induction cs generalizing p with
  | nil =>
      cases h
      exact hp
  | cons c cs ih =>
      rw [addLetters] at h
      split at h
      · cases h
      · rename_i hfind
        have hlong := Alike.not_mem_of_find? (hrules.letter c) hfind
        split at h
        · cases h
        · split at h
          · cases h; exact common_waiting hp hlong
          · exact common_addValue hp hlong h
          · exact common_addValue hp hlong h
        · obtain ⟨q, hq, h⟩ := bind_eq_ok.mp h
          exact ih (common_addFlag hp hlong hq) h

theorem common_addLong (hrules : Alike own rules rules) {name : String} {value : Option String}
    (hname : name ∉ own) (hp : p.Common own) (h : p.addLong rules name value = .ok p') :
    p'.Common own := by
  unfold addLong at h
  split at h
  · cases h
  · rename_i hfind
    have hlong := Alike.not_mem_of_find? (hrules.long hname) hfind
    split at h
    · exact common_addValue hp hlong h
    · cases h; exact common_waiting hp hlong
    · cases h
    · cases h
    · exact common_addFlag hp hlong h

/-- **An argument gives nothing** of what is set apart, unless it names it. -/
theorem common_add (hrules : Alike own rules rules) (hargument : gives own argument = false)
    (hp : p.Common own) (h : p.add rules argument = .ok p') : p'.Common own := by
  unfold add at h
  rw [addWord_eq hrules.words.1] at h
  split at h
  · cases h
  · split at h
    · cases h
      exact ⟨hp.waiting, hp.flags, hp.values⟩
    · rename_i c cs _ hcs
      split at h
      · cases h
      · split at h
        · rename_i hdash
          cases beq_iff_eq.mp hdash
          have hname : (splitLong cs).1 ∉ own := by
            simpa [gives, hcs] using hargument
          exact common_addLong hrules hname hp h
        · exact common_addLetters hrules _ hp h
    · split at h
      · rename_i hwaiting
        exact common_addValue hp (hp.waiting _ hwaiting) h
      · cases h

/-- **Arguments are read in the same way** after options that are set apart. -/
theorem foldlM_extend (hrules : Alike own rules rules') (h : Apart own flags values)
    {options : List String} (hoptions : ∀ x ∈ options, gives own x = false) (hp : p.Common own) :
    options.foldlM (add rules') (p.extend flags values) =
      (options.foldlM (add rules) p).map (extend flags values) := by
  induction options generalizing p with
  | nil => rfl
  | cons x options ih =>
      obtain ⟨hx, hrest⟩ := List.forall_mem_cons.mp hoptions
      rw [List.foldlM_cons, List.foldlM_cons, add_extend hrules h hp hx]
      cases hadd : p.add rules x with
      | error s => rfl
      | ok p' => exact ih hrest (common_add hrules.left hx hp hadd)

/-- Arguments give nothing of what is set apart, unless they name it. -/
theorem common_read (hrules : Alike own rules rules) {options : List String}
    (hoptions : ∀ x ∈ options, gives own x = false) (h : read rules options = .ok p) :
    p.Common own := by
  obtain ⟨q, hq, h⟩ := bind_eq_ok.mp h
  split at h
  · cases h
  · cases h
    refine foldlM_invariant
      (R := fun before p => (∀ x ∈ before, gives own x = false) → p.Common own)
      (fun hbefore hadd hall => ?_) (fun _ => common_empty) hq hoptions
    obtain ⟨hbefore', hx⟩ := List.forall_mem_append.mp hall
    exact common_add hrules (hx _ List.mem_cons_self) (hbefore hbefore') hadd

/-- A name ends at the first equals sign. -/
theorem splitLong_append {name : String} (h : '=' ∉ name.toList) (value : String) :
    splitLong (name.toList ++ '=' :: value.toList) = (name, some value) := by
  have hname : (name.toList ++ '=' :: value.toList).takeWhile (· != '=') = name.toList := by
    have hall : ∀ c ∈ name.toList, (c != '=') = true := fun c hc => bne_iff_ne.mpr fun heq =>
      h (heq ▸ hc)
    rw [List.takeWhile_append_of_pos hall, List.takeWhile_cons_of_neg (by simp), List.append_nil]
  rw [splitLong, hname, String.ofList_toList, List.drop_left]
  show (name, some (String.ofList value.toList)) = _
  rw [String.ofList_toList]

/-- A value is taken up after the name of its option, whatever it is. -/
theorem add_value {mayBeEmpty : Bool} (hr : rules.options.find? (·.long == r.long) = some r)
    (heffect : r.effect = .value mayBeEmpty) (hname : '=' ∉ r.long.toList)
    (hclosed : p.closed = false) (hwaiting : p.waiting = none) (value : String) :
    p.add rules ("--" ++ r.long ++ "=" ++ value) = p.addValue r value := by
  obtain ⟨c, cs, hlist⟩ : ∃ c cs, r.long.toList ++ '=' :: value.toList = c :: cs := by
    cases r.long.toList <;> exact ⟨_, _, rfl⟩
  have hargument : ("--" ++ r.long ++ "=" ++ value).toList = '-' :: '-' :: c :: cs := by
    rw [← hlist]
    simp [String.toList_append]
  have hlong : p.addLong rules r.long (some value) = p.addValue r value := by
    rw [addLong, hr]
    simp only [heffect]
  rw [add, hclosed, hargument]
  simp only [Bool.false_eq_true, if_false, hwaiting, Option.isSome_none, beq_self_eq_true, if_true]
  rw [← hlist, splitLong_append hname, hlong]

/-- **Options that are set apart** may be given first: what is read of the other arguments is the
same. -/
theorem read_own (hrules : Alike own rules rules') (h : Apart own flags values)
    {given options : List String}
    (hgiven : given.foldlM (add rules') {} = .ok (extend flags values {}))
    (hoptions : ∀ x ∈ options, gives own x = false) :
    read rules' (given ++ options) = (read rules options).map (extend flags values) := by
  have hfold : (given ++ options).foldlM (add rules') {} =
      (options.foldlM (add rules) {}).map (extend flags values) := by
    rw [List.foldlM_append, hgiven]
    exact foldlM_extend hrules h hoptions common_empty
  rw [read, hfold, read]
  cases options.foldlM (add rules) {} with
  | error s => rfl
  | ok p =>
      show (if p.waiting.isSome then _ else _) = Except.map _ (if p.waiting.isSome then _ else _)
      split <;> rfl

end Progress

end VirtEnv.Command
