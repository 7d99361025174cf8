import VirtEnv.Command.Run
import VirtEnv.Proofs.DryRun
import VirtEnv.Proofs.Options
import VirtEnv.Proofs.Rendering
import VirtEnv.Proofs.Repeats

/-!
# Agreement — what `check` accepts can be shown

`show` takes the arguments of `check`, and two more.  It loads the same document in the same way, and
what remains after that can fail for two reasons only: an attribute ends the program when a plan
renders it, or cannot be written as JSON.

Each run goes through the tables of the settings files in an order of its own.  What the runs come to
is the same as long as the settings are.

* `Progress.read_display`: the arguments of `check` are read by `show` as well, after its own.
* `Subject.outcome_load`: whatever a command does with a document, it is the same document.
* `Subject.loaded_ranked`: no order matters but for the settings.
* `commands_agree`: the exit codes of `check` and `show`, for all files and arguments.
-/

namespace VirtEnv.Command

open Hcl (Expr)

/-! ### Arguments -/

/-- The options that only `show` takes. -/
def displayOnly : List String := ["plan", "format"]

/-- The arguments that only `show` takes, as they are given for a plan or in a format. -/
def displayArguments (plan : Bool) (format : Option String) : List String :=
  (if plan then ["--plan"] else []) ++ format.toList.map ("--format=" ++ ·)

/-- `check` and `show` have the same options, but for those that only `show` takes. -/
theorem alike_displayRules : Alike displayOnly checkRules displayRules where
  words := ⟨rfl, rfl⟩
  letters := by decide
  same := by decide

namespace Progress

variable {p : Progress}

/-- What the arguments that only `show` takes are read to. -/
def displayed (plan : Bool) (format : Option String) : Progress → Progress :=
  extend (if plan then ["plan"] else []) (format.toList.map ("format", ·))

/-- A format is taken up whatever it is called. -/
theorem add_format (f : String) (hclosed : p.closed = false) (hwaiting : p.waiting = none)
    (hvalue : p.arguments.value? "format" = none) :
    p.add displayRules ("--format=" ++ f) =
      .ok { p with
        arguments := { p.arguments with values := ("format", f) :: p.arguments.values }
        waiting := none } := by
  have hadd : p.add displayRules ("--format=" ++ f) = p.addValue (textOption "format") f :=
    add_value (r := textOption "format") rfl rfl (by decide) hclosed hwaiting f
  rw [hadd, addValue, textOption, hvalue]
  simp

theorem read_displayArguments (plan : Bool) (format : Option String) :
    (displayArguments plan format).foldlM (add displayRules) {} = .ok (displayed plan format {}) := by
  cases format with
  | none => cases plan <;> rfl
  | some f =>
      have hplan : ((if plan then ["--plan"] else []).foldlM (add displayRules) {}) =
          .ok (displayed plan none {}) := by
        cases plan <;> rfl
      rw [displayArguments, List.foldlM_append, hplan]
      show (add displayRules (displayed plan none {}) ("--format=" ++ f) >>= Except.ok) = _
      rw [add_format f rfl rfl rfl]
      rfl

/-- **`show` reads the arguments of `check`** after its own, and what it reads is the same. -/
theorem read_display (plan : Bool) (format : Option String) {options : List String}
    (hoptions : ∀ x ∈ options, gives displayOnly x = false) :
    read displayRules (displayArguments plan format ++ options) =
      (read checkRules options).map (displayed plan format) := by
  refine read_own alike_displayRules ⟨?_, ?_⟩ (read_displayArguments plan format) hoptions
  · cases plan <;> decide
  · exact List.forall_mem_map.mpr fun _ _ => List.mem_cons_of_mem _ List.mem_cons_self

end Progress

/-! ### Requests -/

/-- The arguments and the subject that a command reads. -/
def subjectOf (rules : ArgumentRules) (env : Environment) (arguments : List String) :
    Except Stop (Arguments × Subject) := do
  let p ← Progress.read rules arguments
  .ok (p.arguments, ← subject env p.arguments)

section

variable {env : Environment} {globals options : List String}

theorem requestOf_check :
    requestOf env "check" options =
      (subjectOf checkRules env options).map fun q => (q.1, .check q.2) := by
  simp only [requestOf, subjectOf]
  cases Progress.read checkRules options with
  | error s => rfl
  | ok p =>
      show (subject env p.arguments >>= fun s => .ok (p.arguments, Request.check s)) =
        Except.map _ (subject env p.arguments >>= fun s => .ok (p.arguments, s))
      cases subject env p.arguments <;> rfl

theorem requestOf_show :
    requestOf env "show" options =
      (subjectOf displayRules env options).map fun q =>
        (q.1, .display q.2 (q.1.has "plan") ((q.1.value? "format").getD "table")) := by
  simp only [requestOf, subjectOf]
  cases Progress.read displayRules options with
  | error s => rfl
  | ok p =>
      show (subject env p.arguments >>= fun s => .ok (p.arguments, Request.display s _ _)) =
        Except.map _ (subject env p.arguments >>= fun s => .ok (p.arguments, s))
      cases subject env p.arguments <;> rfl

/-- What `show` reads of its own. -/
theorem own_of_displayed {p : Progress} (hp : p.Common displayOnly) (plan : Bool)
    (format : Option String) :
    (Progress.displayed plan format p).arguments.has "plan" = plan ∧
      (Progress.displayed plan format p).arguments.value? "format" = format := by
  have hflag : p.arguments.has "plan" = false := hp.has (by decide)
  have hvalue : p.arguments.value? "format" = none := hp.value? (by decide)
  constructor
  · cases plan <;> simp [Progress.displayed, hflag]
  · cases format <;> simp [Progress.displayed, hvalue]

/-- What the two commands read alike. -/
theorem subject_displayed (p : Progress) (plan : Bool) (format : Option String) :
    subject env (Progress.displayed plan format p).arguments = subject env p.arguments := by
  have hvalue : ∀ name, name ≠ "format" →
      (Progress.displayed plan format p).arguments.value? name = p.arguments.value? name := by
    intro name hname
    cases format <;> simp [Progress.displayed, List.lookup_cons, beq_eq_false_iff_ne.mpr hname]
  have hflag : (Progress.displayed plan format p).arguments.has "offline" =
      p.arguments.has "offline" := by
    cases plan <;> simp [Progress.displayed]
  simp only [subject, settingsPath, pathFrom, hflag, hvalue "file" (by decide),
    hvalue "settings" (by decide), hvalue "db" (by decide)]

/-- **`show` is asked for what `check` is asked for**, as a plan or in a format. -/
theorem requestOf_display (plan : Bool) (format : Option String)
    (hoptions : ∀ x ∈ options, gives displayOnly x = false) :
    requestOf env "show" (displayArguments plan format ++ options) =
      (subjectOf checkRules env options).map fun q =>
        ((Progress.displayed plan format { arguments := q.1 }).arguments,
          .display q.2 plan (format.getD "table")) := by
  rw [requestOf_show, subjectOf, Progress.read_display plan format hoptions, subjectOf]
  cases hread : Progress.read checkRules options with
  | error s => rfl
  | ok p =>
      obtain ⟨hplan, hformat⟩ := own_of_displayed
        (Progress.common_read alike_displayRules.left hoptions hread) plan format
      show Except.map _ (subject env (Progress.displayed plan format p).arguments >>= _) =
        Except.map _ (subject env p.arguments >>= _)
      rw [subject_displayed]
      cases subject env p.arguments with
      | error s => rfl
      | ok s =>
          show Except.ok (_, Request.display s _ _) = _
          rw [hplan, hformat]
          rfl

theorem quiet_displayed (p : Progress) (plan : Bool) (format : Option String) :
    (Progress.displayed plan format p).arguments.has "quiet" = p.arguments.has "quiet" := by
  cases plan <;> simp [Progress.displayed]

theorem ofArguments_eq {name : String} (hglobals : ∀ x ∈ globals, isOption x = true)
    (hname : isOption name = false) :
    Invocation.ofArguments env (globals ++ name :: options) =
      (Progress.read programRules globals >>= fun p =>
        if p.closed then .error .misuse
        else requestOf env name options >>= fun q =>
          .ok ⟨q.2, p.arguments.has "quiet" || q.1.has "quiet"⟩) := by
  have hbefore : (globals ++ name :: options).takeWhile isOption = globals := by
    rw [List.takeWhile_append_of_pos hglobals, List.takeWhile_cons_of_neg (by simp [hname]),
      List.append_nil]
  rw [Invocation.ofArguments, hbefore, List.drop_left]

/-- **The two commands are invoked alike**: they stop for the same reason, or have the same
subject. -/
theorem exists_invoked (env : Environment) (hglobals : ∀ x ∈ globals, isOption x = true)
    (hoptions : ∀ x ∈ options, gives displayOnly x = false) :
    ∃ invoked : Except Stop (Subject × Bool),
      Invocation.ofArguments env (globals ++ "check" :: options) =
          invoked.map (fun q => ⟨.check q.1, q.2⟩) ∧
        ∀ plan format,
          Invocation.ofArguments env
              (globals ++ "show" :: (displayArguments plan format ++ options)) =
            invoked.map fun q => ⟨.display q.1 plan (format.getD "table"), q.2⟩ := by
  refine ⟨Progress.read programRules globals >>= fun p =>
    if p.closed then .error .misuse
    else subjectOf checkRules env options >>= fun q =>
      .ok (q.2, p.arguments.has "quiet" || q.1.has "quiet"), ?_, fun plan format => ?_⟩
  · rw [ofArguments_eq hglobals rfl, requestOf_check]
    cases Progress.read programRules globals with
    | error s => rfl
    | ok p =>
        show (if p.closed then _ else _) = Except.map _ (if p.closed then _ else _)
        cases p.closed <;> cases subjectOf checkRules env options <;> rfl
  · rw [ofArguments_eq hglobals rfl, requestOf_display plan format hoptions]
    cases Progress.read programRules globals with
    | error s => rfl
    | ok p =>
        show (if p.closed then _ else _) = Except.map _ (if p.closed then _ else _)
        cases p.closed with
        | true => rfl
        | false =>
            cases subjectOf checkRules env options with
            | error s => rfl
            | ok q =>
                have hquiet := quiet_displayed { arguments := q.1 } plan format
                show Except.ok (Invocation.mk _ (_ || _)) = Except.ok (Invocation.mk _ (_ || _))
                rw [hquiet]

end

/-! ### Loading -/

/-- What a command loads: the settings and the document. -/
def Subject.loaded (s : Subject) (fs : Files) : Except Problem (Settings × Resolved) := do
  let settings ← (Settings.load fs s.settings).mapError .error
  let catalog ← (s.catalog.open fs settings).1
  let r ← (loadFile fs s.file catalog .never).result.mapError .error
  .ok (settings, r)

/-- **Whatever a command does with a document**, it is the same document. -/
theorem Subject.outcome_load (s : Subject) (fs : Files)
    (next : Settings → Resolved → Except Problem String) :
    (s.load fs next).outcome = s.loaded fs >>= fun l => next l.1 l.2 := by
  rw [load, loaded]
  cases Settings.load fs s.settings with
  | error e => rfl
  | ok settings =>
      show ((s.catalog.open fs settings).1 >>= fun catalog =>
          (loadFile fs s.file catalog .never).result.mapError Problem.error >>= next settings) =
        ((s.catalog.open fs settings).1 >>= fun catalog =>
          (loadFile fs s.file catalog .never).result.mapError Problem.error >>= fun r =>
            .ok (settings, r)) >>= fun l => next l.1 l.2
      rw [bind_assoc]
      refine congrArg _ (funext fun catalog => ?_)
      rw [bind_assoc]
      rfl

/-- Two problems are reported alike: they are the same, or both are about the settings files, where
another fault may be met first. -/
structure Problem.Alike (p p' : Problem) : Prop where
  code : p.code? = p'.code?
  exitCode : p.exitCode = p'.exitCode
  same : p = p' ∨ (∃ m, p = .error (.settings m)) ∧ ∃ m, p' = .error (.settings m)

theorem Problem.Alike.refl (p : Problem) : p.Alike p := ⟨rfl, rfl, .inl rfl⟩

theorem Problem.Alike.settings (m m' : String) :
    (Problem.error (.settings m)).Alike (.error (.settings m')) :=
  ⟨rfl, rfl, .inr ⟨⟨m, rfl⟩, ⟨m', rfl⟩⟩⟩

theorem Subject.loaded_of_load {s : Subject} {fs : Files} {settings : Settings}
    (h : Settings.load fs s.settings = .ok settings) :
    s.loaded fs = (s.catalog.open fs settings).1 >>= fun catalog =>
      (loadFile fs s.file catalog .never).result.mapError .error >>= fun r => .ok (settings, r) := by
  rw [loaded, h]
  rfl

/-- What a command loads in another order is the same as long as the settings are. -/
theorem Subject.loaded_ranked {s : Subject} {fs : Files} {rankings : Nat → Ranking}
    (h : (Settings.load (fs.ranked rankings) s.settings).toOption =
      (Settings.load fs s.settings).toOption) :
    s.loaded (fs.ranked rankings) = s.loaded fs ∨
      ∃ p p', s.loaded (fs.ranked rankings) = .error p ∧ s.loaded fs = .error p' ∧ p.Alike p' := by
  cases hload : Settings.load fs s.settings with
  | ok settings =>
      rw [hload] at h
      left
      have hopen : s.catalog.open (fs.ranked rankings) settings = s.catalog.open fs settings := by
        simp only [CatalogChoice.open, Files.databaseFile_ranked, Files.pathExists_ranked]
      have hfile : ∀ C, loadFile (fs.ranked rankings) s.file C .never = loadFile fs s.file C .never :=
        fun C => by simp only [loadFile, Files.canonical_ranked, Files.read_ranked]
      rw [loaded_of_load (toOption_eq_some.mp h), loaded_of_load hload, hopen]
      simp only [hfile]
  | error e =>
      right
      rw [hload] at h
      cases hload' : Settings.load (fs.ranked rankings) s.settings with
      | ok settings => rw [hload'] at h; cases h
      | error e' =>
          refine ⟨.error e', .error e, by rw [loaded, hload']; rfl, by rw [loaded, hload]; rfl, ?_⟩
          rcases Settings.load_error_ranked hload' hload with rfl | ⟨⟨m, rfl⟩, ⟨m', rfl⟩⟩
          · exact .refl _
          · exact .settings m m'

theorem Problem.exitCode_ne_zero (p : Problem) : p.exitCode ≠ 0 := by
  unfold exitCode
  split <;> decide

theorem Report.code_eq_zero_iff {report : Report} :
    report.code = 0 ↔ ∃ text, report.outcome = .ok text := by
  rw [Report.code]
  cases report.outcome with
  | ok text => exact iff_of_true rfl ⟨text, rfl⟩
  | error p => exact iff_of_false p.exitCode_ne_zero fun ⟨_, h⟩ => nomatch h

theorem rendered_eq_ok_iff {format : String} {text : Option String} :
    (∃ s, rendered format text = .ok s) ↔ text.isSome = true := by
  cases text <;> simp [rendered]

variable {env : Environment} {fs : Files} {globals options : List String} {settings : Settings}
  {r : Resolved}

/-- `check` with these arguments loads a document, with these settings. -/
def Loads (env : Environment) (fs : Files) (globals options : List String) (settings : Settings)
    (r : Resolved) : Prop :=
  ∃ s quiet, Invocation.ofArguments env (globals ++ "check" :: options) = .ok ⟨.check s, quiet⟩ ∧
    s.loaded fs = .ok (settings, r)

/-- The runs of `show` come to the settings of `check`, or to none as well, each in its own order. -/
def SameSettings (env : Environment) (fs : Files) (globals options : List String)
    (rankings : Bool → Option String → Nat → Ranking) : Prop :=
  ∀ s quiet, Invocation.ofArguments env (globals ++ "check" :: options) = .ok ⟨.check s, quiet⟩ →
    ∀ plan format, (Settings.load (fs.ranked (rankings plan format)) s.settings).toOption =
      (Settings.load fs s.settings).toOption

/-- The commands agree on the documents that are valid.  `check` and `show` have the same arguments,
but for those that only `show` takes. -/
structure CommandsAgree (check : Report) (shown : Bool → Option String → Report)
    (loads : Settings → Resolved → Prop) : Prop where
  /-- Where `check` fails, `show` fails with the same diagnostic. -/
  failure : ∀ p, check.outcome = .error p →
    ∀ plan format, ∃ p', (shown plan format).outcome = .error p' ∧ p'.Alike p
  /-- A document that is loaded is valid. -/
  loaded : ∀ settings r, loads settings r → check.code = 0
  /-- A valid document is shown as a table. -/
  table : ∀ format, format.getD "table" = "table" →
    ((shown false format).code = 0 ↔ check.code = 0)
  /-- It is shown as JSON unless an object with fields is reached from an attribute. -/
  json : (shown false (some "json")).code = 0 ↔
    check.code = 0 ∧ ∀ settings r, loads settings r → ∀ e, r.Holds e → ¬ e.ReachesObject
  /-- Its plan is shown as a table and as JSON unless evaluating an attribute ends the program. -/
  plan : ∀ format, format.getD "table" = "table" ∨ format = some "json" →
    ((shown true format).code = 0 ↔
      check.code = 0 ∧ ∀ settings r, loads settings r → ∀ x ∈ r.resources, ¬ x.Aborts)
  /-- Where an attribute does so, the plan ends with it. -/
  aborted : ∀ settings r x, loads settings r → x ∈ r.resources → x.Aborts →
    ∀ format, ∃ a, (shown true format).outcome = .error (.error (.aborted a))

/-- A plan is written out in either format. -/
theorem exists_inFormat_plan {format : String} (h : format = "table" ∨ format = "json")
    (ps : List Planned) :
    ∃ text, inFormat format (Planned.planTree ps) (planTable ps) = .ok text := by
  rcases h with rfl | rfl
  · exact ⟨_, rfl⟩
  · obtain ⟨text, htext⟩ := Option.isSome_iff_exists.mp (Planned.isSome_prettyJson?_planTree ps)
    refine ⟨text ++ "\n", ?_⟩
    show rendered "json" ((Planned.planTree ps).prettyJson?.map (· ++ "\n")) = _
    rw [htext]
    rfl

section

variable {check : Report} {shown : Bool → Option String → Report}
  {loads : Settings → Resolved → Prop}

/-- Commands that end alike, and load nothing, agree. -/
theorem agree_of_alike
    (halike : ∀ plan format, (shown plan format).outcome = check.outcome ∨
      ∃ p p', (shown plan format).outcome = .error p ∧ check.outcome = .error p' ∧ p.Alike p')
    (hnone : ∀ settings r, ¬ loads settings r) : CommandsAgree check shown loads := by
  have hcode : ∀ plan format, (shown plan format).code = 0 ↔ check.code = 0 := by
    intro plan format
    rcases halike plan format with hsame | ⟨p, p', hp, hp', -⟩
    · rw [Report.code, Report.code, hsame]
    · rw [Report.code, Report.code, hp, hp']
      exact iff_of_false p.exitCode_ne_zero p'.exitCode_ne_zero
  exact {
    failure := fun p' hp' plan format => by
      rcases halike plan format with hsame | ⟨p, q, hp, hq, hpq⟩
      · exact ⟨p', hsame.trans hp', .refl p'⟩
      · obtain rfl : q = p' := Except.error.inj (hq.symm.trans hp')
        exact ⟨p, hp, hpq⟩
    loaded := fun settings r h => absurd h (hnone settings r)
    table := fun format _ => hcode false format
    json := (hcode _ _).trans (and_iff_left fun settings r h => absurd h (hnone settings r)).symm
    plan := fun format _ =>
      (hcode _ _).trans (and_iff_left fun settings r h => absurd h (hnone settings r)).symm
    aborted := fun settings r _ h => absurd h (hnone settings r) }

/-- What is shown of a document once it is loaded. -/
def shownOf (settings : Settings) (r : Resolved) (plan : Bool) (format : String) :
    Except Problem String :=
  if plan then do
    let planned ← (r.plan settings).mapError fun a => .error (.aborted a)
    inFormat format (Planned.planTree planned) (planTable planned)
  else inFormat format r.toTree (documentTable r)

/-- A plan is shown unless an attribute ends the program. -/
theorem exists_shownOf_plan {format : String} (h : format = "table" ∨ format = "json") :
    (∃ text, shownOf settings r true format = .ok text) ↔ ∀ x ∈ r.resources, ¬ x.Aborts := by
  rw [← r.exists_plan_iff settings, shownOf, if_pos rfl]
  cases r.plan settings with
  | ok ps => exact iff_of_true (exists_inFormat_plan h ps) ⟨ps, rfl⟩
  | error a => exact iff_of_false (fun ⟨_, h⟩ => nomatch h) fun ⟨_, h⟩ => nomatch h

/-- A document is shown as JSON if it can be written so. -/
theorem exists_shownOf_json :
    (∃ text, shownOf settings r false "json" = .ok text) ↔
      ∀ e, r.Holds e → ¬ e.ReachesObject := by
  rw [← r.isSome_prettyJson?_iff]
  show (∃ text, rendered "json" (r.toTree.prettyJson?.map (· ++ "\n")) = .ok text) ↔ _
  rw [rendered_eq_ok_iff, Option.isSome_map]

theorem shownOf_aborted {x : ResourceDecl} (hx : x ∈ r.resources) (haborts : x.Aborts)
    (format : String) : ∃ a, shownOf settings r true format = .error (.error (.aborted a)) := by
  rw [shownOf, if_pos rfl]
  cases hplan : r.plan settings with
  | error a => exact ⟨a, rfl⟩
  | ok ps => exact absurd haborts ((r.exists_plan_iff settings).mp ⟨ps, hplan⟩ x hx)

/-- Commands that load the same document agree. -/
theorem agree_of_loaded {text : String} (hcheck : check.outcome = .ok text)
    (hshown : ∀ plan format,
      (shown plan format).outcome = shownOf settings r plan (format.getD "table"))
    (hloads : ∀ settings' r', loads settings' r' ↔ settings' = settings ∧ r' = r) :
    CommandsAgree check shown loads := by
  have hvalid : check.code = 0 := Report.code_eq_zero_iff.mpr ⟨text, hcheck⟩
  have hall : ∀ {P : Settings → Resolved → Prop},
      (check.code = 0 ∧ ∀ settings' r', loads settings' r' → P settings' r') ↔ P settings r := by
    intro P
    rw [and_iff_right hvalid]
    refine ⟨fun h => h settings r ((hloads _ _).mpr ⟨rfl, rfl⟩), fun h settings' r' hl => ?_⟩
    obtain ⟨rfl, rfl⟩ := (hloads _ _).mp hl
    exact h
  have hcode : ∀ plan format, (shown plan format).code = 0 ↔
      ∃ text, shownOf settings r plan (format.getD "table") = .ok text := fun plan format => by
    rw [Report.code_eq_zero_iff, hshown]
  exact {
    failure := fun p hp => by cases hcheck.symm.trans hp
    loaded := fun _ _ _ => hvalid
    table := fun format hformat => by
      rw [hcode, hformat]
      exact iff_of_true ⟨_, rfl⟩ hvalid
    json := by rw [hcode, hall (P := fun _ r => ∀ e, r.Holds e → ¬ e.ReachesObject)]
               exact exists_shownOf_json
    plan := fun format hformat => by
      rw [hcode, hall (P := fun _ r => ∀ x ∈ r.resources, ¬ x.Aborts)]
      refine exists_shownOf_plan (hformat.imp id fun h => ?_)
      rw [h, Option.getD_some]
    aborted := fun settings' r' x hl hx haborts format => by
      obtain ⟨rfl, rfl⟩ := (hloads _ _).mp hl
      rw [hshown]
      exact shownOf_aborted hx haborts _ }

end

/-- Commands with one subject agree, as long as each of them loads what `check` loads, or fails
alike. -/
theorem agree_of_subject {check : Report} {shown : Bool → Option String → Report}
    {loads : Settings → Resolved → Prop} {s : Subject} {fs' : Bool → Option String → Files}
    (hcheck : check.outcome = s.loaded fs >>= fun l => .ok (summary s.file l.2))
    (hshown : ∀ plan format, (shown plan format).outcome =
      s.loaded (fs' plan format) >>= fun l => shownOf l.1 l.2 plan (format.getD "table"))
    (halike : ∀ plan format, s.loaded (fs' plan format) = s.loaded fs ∨
      ∃ p p', s.loaded (fs' plan format) = .error p ∧ s.loaded fs = .error p' ∧ p.Alike p')
    (hloads : ∀ settings r, loads settings r ↔ s.loaded fs = .ok (settings, r)) :
    CommandsAgree check shown loads := by
  cases hl : s.loaded fs with
  | error p' =>
      refine agree_of_alike (fun plan format => .inr ?_) fun settings r h => ?_
      · rw [hshown, hcheck, hl]
        rcases halike plan format with hsame | ⟨p, q, hp, hq, hpq⟩
        · exact ⟨p', p', by rw [hsame, hl]; rfl, rfl, .refl p'⟩
        · obtain rfl : q = p' := Except.error.inj (hq.symm.trans hl)
          exact ⟨p, q, by rw [hp]; rfl, rfl, hpq⟩
      · cases hl.symm.trans ((hloads settings r).mp h)
  | ok l =>
      obtain ⟨settings, r⟩ := l
      have hout : ∀ plan format,
          (shown plan format).outcome = shownOf settings r plan (format.getD "table") := by
        intro plan format
        rcases halike plan format with hsame | ⟨p, q, -, hq, -⟩
        · rw [hshown, hsame, hl]
          rfl
        · cases hq.symm.trans hl
      rw [hl] at hcheck
      refine agree_of_loaded hcheck hout fun settings' r' => ?_
      rw [hloads, hl]
      simp [eq_comm]

/-- **The commands agree on what is valid**, for all files, in every environment and with whatever
arguments: those of `check`, and those that only `show` takes before them.  No order matters as long
as the settings are the same. -/
theorem commands_agree {rankings : Bool → Option String → Nat → Ranking}
    (hglobals : ∀ x ∈ globals, isOption x = true)
    (hoptions : ∀ x ∈ options, gives displayOnly x = false)
    (hsettings : SameSettings env fs globals options rankings) :
    CommandsAgree (run (globals ++ "check" :: options) env fs)
      (fun plan format => run (globals ++ "show" :: (displayArguments plan format ++ options)) env
        (fs.ranked (rankings plan format)))
      (Loads env fs globals options) := by
  obtain ⟨invoked, hcheck, hshow⟩ := exists_invoked env hglobals hoptions
  cases invoked with
  | error stop =>
      refine agree_of_alike (fun plan format => .inl ?_) fun settings r => ?_
      · show (run _ env _).outcome = (run _ env fs).outcome
        rw [run, run, hcheck, hshow]
        cases stop <;> rfl
      · rintro ⟨s, quiet, hs, -⟩
        cases hcheck.symm.trans hs
  | ok q =>
      obtain ⟨s, quiet⟩ := q
      refine agree_of_subject (s := s) ?_ (fun plan format => ?_)
        (fun plan format => Subject.loaded_ranked (hsettings s quiet hcheck plan format))
        fun settings r => ⟨?_, fun hr => ⟨s, quiet, hcheck, hr⟩⟩
      · rw [run, hcheck]
        exact Subject.outcome_load s fs _
      · rw [run, hshow]
        exact Subject.outcome_load s _ _
      · rintro ⟨s', quiet', hs, hr⟩
        cases hcheck.symm.trans hs
        exact hr

/-- A directory with a document whose network has an object within an array, and with settings. -/
def taggedFiles : Files where
  workingDirectory := ["srv"]
  home := "/root"
  entries :=
    [(["srv", "lan.hcl"], .text "network lan \x7b\n  tags = [(\x7b a = 1 \x7d)]\n\x7d"),
      (["srv", "kvmconf.toml"], .text "[vm.defaults]\ncpu = 4\n[paths]\ndb = \"lost.db\"")]

/-- The document is valid, and is shown in every way but as JSON. -/
theorem commands_agree_tagged :
    (∀ x ∈ ["-q"], isOption x = true) ∧
      (∀ x ∈ ["-f", "lan.hcl", "--offline"], gives displayOnly x = false) ∧
      SameSettings [] taggedFiles ["-q"] ["-f", "lan.hcl", "--offline"]
        (fun _ _ _ => Settings.capitalsFirst) ∧
      (run ["-q", "check", "-f", "lan.hcl", "--offline"] [] taggedFiles).code = 0 ∧
      (run ["-q", "show", "--plan", "--format=json", "-f", "lan.hcl", "--offline"] []
        taggedFiles).code = 0 ∧
      (run ["-q", "show", "--format=json", "-f", "lan.hcl", "--offline"] [] taggedFiles).code = 1 ∧
      CommandsAgree (run (["-q"] ++ "check" :: ["-f", "lan.hcl", "--offline"]) [] taggedFiles)
        (fun plan format => run (["-q"] ++ "show" ::
          (displayArguments plan format ++ ["-f", "lan.hcl", "--offline"])) []
            (taggedFiles.ranked fun _ => Settings.capitalsFirst))
        (Loads [] taggedFiles ["-q"] ["-f", "lan.hcl", "--offline"]) := by
  have hglobals : ∀ x ∈ ["-q"], isOption x = true := by decide
  have hoptions : ∀ x ∈ ["-f", "lan.hcl", "--offline"], gives displayOnly x = false := by decide
  have hinvoked : (Invocation.ofArguments [] (["-q"] ++ "check" :: ["-f", "lan.hcl", "--offline"])
      ).toOption = some ⟨.check ⟨"lan.hcl", none, ⟨none, true⟩⟩, true⟩ := by
    decide +kernel
  have hsettings : SameSettings [] taggedFiles ["-q"] ["-f", "lan.hcl", "--offline"]
      (fun _ _ _ => Settings.capitalsFirst) := by
    intro s quiet hs plan format
    cases hs.symm.trans (toOption_eq_some.mp hinvoked)
    exact Settings.load_ranked (by decide +kernel) (by decide +kernel) _
  exact ⟨hglobals, hoptions, hsettings, by decide +kernel, by decide +kernel, by decide +kernel,
    commands_agree hglobals hoptions hsettings⟩

/-- A directory with a document whose network has this for an attribute. -/
def filesWith (expression : String) : Files where
  workingDirectory := ["srv"]
  home := "/root"
  entries :=
    [(["srv", "kvmconf.hcl"], .text ("network lan \x7b\n  mtu = " ++ expression ++ "\n\x7d"))]

/-- A directory with a document, and with settings of which two keys are the same in lower case.  One
of the values is no number. -/
def twoCounts : Files where
  workingDirectory := ["srv"]
  home := "/root"
  entries :=
    [(["srv", "kvmconf.hcl"], .text "network lan \x7b\x7d"),
      (["srv", "kvmconf.toml"], .text "[vm.defaults]\ncpu = 4\nCPU = \"many\"\n")]

/-- Documents with a remainder by zero, or with one of the least integer by minus one, are valid, and
their plans end the program.  And where two keys of the settings are the same in lower case, one run
may load settings that another one does not. -/
theorem commands_disagree :
    ((run ["check"] [] (filesWith "1 % 0")).code = 0 ∧
        (run ["show", "--plan"] [] (filesWith "1 % 0")).code = 101 ∧
        (run ["show", "--plan", "--format=json"] [] (filesWith "1 % 0")).code = 101) ∧
      ((run ["check"] [] (filesWith "(-9223372036854775807 + -1) % -1")).code = 0 ∧
        (run ["show", "--plan"] [] (filesWith "(-9223372036854775807 + -1) % -1")).code = 101) ∧
      (run ["check"] [] (twoCounts.ranked fun _ => Settings.capitalsFirst)).code = 0 ∧
      (run ["show"] [] twoCounts).code = 1 := by
  decide +kernel

end VirtEnv.Command
