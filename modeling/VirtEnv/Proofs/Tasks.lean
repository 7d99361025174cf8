import VirtEnv.Proofs.Agreement

/-!
# Tasks — commands that load a document

`check` and `show` are asked to do something with a document.  Their arguments are accepted or not,
and which database they name, and whether they are to do without one, can be changed without a change
to anything else.

* `Task.outcome_run`: what a command comes to is what its task makes of what it has loaded.
* `invokes_iff`: which arguments are accepted.
* `Invokes.named`, `Invokes.environment`: another database, by an option or by the environment.
* `Invokes.offline`: no database.
* `outcome_of_empty_option`, `outcome_of_empty_variable`: an empty path is refused.
-/

namespace VirtEnv.Command

/-- What a command is asked to do with a document. -/
inductive Task where
  | check
  | display (plan : Bool) (format : String)

namespace Task

/-- The name of the command. -/
def name : Task → String
  | check => "check"
  | display _ _ => "show"

/-- The arguments that the command takes. -/
def rules : Task → ArgumentRules
  | check => checkRules
  | display _ _ => displayRules

/-- The task that the command has with these arguments. -/
def asked (a : Arguments) : Task → Task
  | check => check
  | display _ _ => display (a.has "plan") ((a.value? "format").getD "table")

/-- The request to do so. -/
def request (s : Subject) : Task → Request
  | check => .check s
  | display plan format => .display s plan format

/-- What is written about a document that was loaded from `file`. -/
def text (file : String) (settings : Settings) (r : Resolved) : Task → Except Problem String
  | check => .ok (summary file r)
  | display plan format => shownOf settings r plan format

variable {task task' : Task} {s s' : Subject} {arguments : List String} {env : Environment}
  {fs : Files}

/-- **What a command comes to** is what its task makes of what it has loaded. -/
theorem outcome_run {quiet : Bool}
    (h : Invocation.ofArguments env arguments = .ok ⟨task.request s, quiet⟩) :
    (run arguments env fs).outcome = s.loaded fs >>= fun l => task.text s.file l.1 l.2 := by
  rw [run, h]
  cases task with
  | check => exact Subject.outcome_load s fs _
  | display plan format => exact Subject.outcome_load s fs _

/-- Nothing is written about the place of the database. -/
theorem text_db (file : String) (settings : Settings) (r : Resolved) (db : String) :
    task.text file { settings with db } r = task.text file settings r := by
  cases task <;> rfl

theorem request_inj : task.request s = task'.request s' ↔ task = task' ∧ s = s' := by
  cases task <;> cases task' <;> simp [request, and_comm, and_assoc]

theorem isOption_name (task : Task) : isOption task.name = false := by
  cases task with
  | check => decide
  | display _ _ => show isOption "show" = false; decide

theorem requestOf_name (task : Task) (env : Environment) (options : List String) :
    requestOf env task.name options =
      (subjectOf task.rules env options).map fun q => (q.1, (task.asked q.1).request q.2) := by
  cases task with
  | check => exact requestOf_check
  | display plan format => exact requestOf_show

end Task

/-! ### Accepted arguments -/

variable {task : Task} {s : Subject} {arguments globals options own : List String}
  {env env' : Environment} {fs : Files} {a a' : Arguments} {p q : Progress} {path : String}

/-- The arguments are accepted: they ask for the task, with this document. -/
def Invokes (task : Task) (s : Subject) (env : Environment) (arguments : List String) : Prop :=
  ∃ quiet, Invocation.ofArguments env arguments = .ok ⟨task.request s, quiet⟩

theorem ofArguments_name (hglobals : ∀ x ∈ globals, isOption x = true) :
    Invocation.ofArguments env (globals ++ task.name :: options) =
      (Progress.read programRules globals >>= fun p =>
        if p.closed then .error .misuse
        else Progress.read task.rules options >>= fun q =>
          subject env q.arguments >>= fun s =>
            .ok ⟨(task.asked q.arguments).request s,
              p.arguments.has "quiet" || q.arguments.has "quiet"⟩) := by
  rw [ofArguments_eq hglobals task.isOption_name, task.requestOf_name, subjectOf]
  refine congrArg _ (funext fun p => ?_)
  cases Progress.read task.rules options with
  | error stop => rfl
  | ok q =>
      show (if p.closed then _ else Except.map _ (subject env q.arguments >>= _) >>= _) =
        if p.closed then _ else subject env q.arguments >>= _
      cases subject env q.arguments <;> rfl

/-- **Arguments are accepted** if those of the program are, and those of the command, and if the
document, the settings and the database are named properly. -/
theorem invokes_iff (hglobals : ∀ x ∈ globals, isOption x = true) :
    Invokes task s env (globals ++ task.name :: options) ↔
      ∃ p q, Progress.read programRules globals = .ok p ∧ p.closed = false ∧
        Progress.read task.rules options = .ok q ∧ subject env q.arguments = .ok s ∧
          task.asked q.arguments = task := by
  rw [Invokes, ofArguments_name hglobals]
  constructor
  · rintro ⟨quiet, h⟩
    obtain ⟨p, hp, h⟩ := bind_eq_ok.mp h
    split at h
    case isTrue => cases h
    case isFalse hclosed =>
      obtain ⟨q, hq, h⟩ := bind_eq_ok.mp h
      obtain ⟨s', hs, h⟩ := bind_eq_ok.mp h
      obtain ⟨hrequest, -⟩ := Invocation.mk.inj (Except.ok.inj h)
      obtain ⟨hasked, rfl⟩ := Task.request_inj.mp hrequest
      exact ⟨p, q, hp, Bool.eq_false_iff.mpr hclosed, hq, hs, hasked⟩
  · rintro ⟨p, q, hp, hclosed, hq, hs, hasked⟩
    refine ⟨p.arguments.has "quiet" || q.arguments.has "quiet", ?_⟩
    rw [hp, hq]
    show (if p.closed then _ else subject env q.arguments >>= _) = _
    rw [hclosed, hs]
    show Except.ok (Invocation.mk ((task.asked q.arguments).request s) _) = _
    rw [hasked]

/-- The arguments are options of the program, the name of the command, and arguments of the command
that give none of these options. -/
structure Splits (task : Task) (own arguments globals options : List String) : Prop where
  eq : arguments = globals ++ task.name :: options
  globals : ∀ x ∈ globals, isOption x = true
  options : ∀ x ∈ options, gives own x = false

theorem name_of_requestOf {name : String}
    (h : requestOf env name options = .ok (a, task.request s)) : name = task.name := by
  unfold requestOf at h
  split at h
  case h_1 | h_2 | h_3 | h_4 =>
    obtain ⟨_, -, h⟩ := bind_eq_ok.mp h
    obtain ⟨_, -, h⟩ := bind_eq_ok.mp h
    cases task <;> simp [Task.request, Task.name] at h ⊢
  case h_5 =>
    split at h
    · cases h
    · split at h <;> cases h
    · cases h
  case h_6 => cases h

/-- **Arguments that are accepted** have the name of the command behind the options of the
program. -/
theorem Invokes.exists_splits (h : Invokes task s env arguments) :
    ∃ globals options, Splits task [] arguments globals options := by
  obtain ⟨quiet, h⟩ := h
  obtain ⟨p, -, h⟩ := bind_eq_ok.mp h
  split at h
  case h_1 => cases h
  case h_2 name options hdrop =>
    split at h
    case isTrue => cases h
    case isFalse =>
      obtain ⟨⟨a, request⟩, hrequest, h⟩ := bind_eq_ok.mp h
      obtain ⟨rfl, -⟩ := Invocation.mk.inj (Except.ok.inj h)
      have hname : name = task.name := name_of_requestOf hrequest
      refine ⟨arguments.takeWhile isOption, options, ?_, fun _ hx => List.mem_takeWhile_imp hx,
        fun _ _ => by unfold gives; split <;> rfl⟩
      rw [← hname, ← hdrop]
      exact (List.prefix_iff_eq_append.mp (List.takeWhile_prefix _)).symm

theorem subject_eq_ok_iff : subject env a = .ok s ↔
    settingsPath env a = .ok s.settings ∧ pathFrom env a "db" databaseVariable = .ok s.catalog.db ∧
      (a.value? "file").getD documentName = s.file ∧ a.has "offline" = s.catalog.offline := by
  rw [subject, bind_eq_ok]
  constructor
  · rintro ⟨settings, hsettings, h⟩
    obtain ⟨db, hdb, h⟩ := bind_eq_ok.mp h
    cases h
    exact ⟨hsettings, hdb, rfl, rfl⟩
  · obtain ⟨file, settings, db, offline⟩ := s
    rintro ⟨hsettings, hdb, rfl, rfl⟩
    exact ⟨settings, hsettings, bind_eq_ok.mpr ⟨db, hdb, rfl⟩⟩

/-- A path is found by what is given for it, in the arguments and in the environment. -/
theorem pathFrom_congr {option name : String} (h : a'.value? option = a.value? option)
    (henv : env'.lookup name = env.lookup name) :
    pathFrom env' a' option name = pathFrom env a option name := by
  rw [pathFrom, pathFrom, h, henv]

/-- No letter stands for a database, or for none. -/
theorem Task.alike_rules (task : Task) : ∀ name ∈ ["db", "offline"],
    Alike [name] task.rules task.rules := by
  intro name hname
  refine ⟨by cases task <;> exact ⟨rfl, rfl⟩, ?_, rfl⟩
  have hletters : ∀ rules ∈ [checkRules, displayRules], ∀ name ∈ ["db", "offline"],
      ∀ r ∈ rules.options ++ rules.options, r.long ∈ [name] → r.letter = none := by
    decide
  cases task with
  | check => exact hletters checkRules (by simp) name hname
  | display _ _ => exact hletters displayRules (by simp) name hname

/-- **A database may be named** behind the name of the command, if none is named there. -/
theorem Invokes.named (h : Invokes task s env arguments)
    (hsplit : Splits task ["db"] arguments globals options) (hpath : path ≠ "")
    (henv : env'.lookup settingsVariable = env.lookup settingsVariable) :
    Invokes task { s with catalog := { s.catalog with db := some path } } env'
      (globals ++ task.name :: ("--db=" ++ path) :: options) := by
  obtain rfl := hsplit.eq
  obtain ⟨p, q, hp, hclosed, hq, hs, hasked⟩ := (invokes_iff hsplit.globals).mp h
  have hrules := task.alike_rules "db" (by decide)
  have hgiven : ["--db=" ++ path].foldlM (Progress.add task.rules) {} =
      .ok (Progress.extend [] [("db", path)] {}) := by
    have hadd : Progress.add task.rules {} ("--db=" ++ path) =
        Progress.addValue {} (pathOption "db") path :=
      Progress.add_value (r := pathOption "db") (by cases task <;> rfl) rfl (by decide) rfl rfl path
    have hvalue : Progress.addValue {} (pathOption "db") path =
        .ok (Progress.extend [] [("db", path)] {}) :=
      if_neg (by simpa [Arguments.value?, pathOption] using hpath)
    rw [List.foldlM_cons, hadd, hvalue]
    rfl
  have hread := Progress.read_own hrules ⟨by simp, by simp⟩ hgiven hsplit.options
  rw [List.singleton_append, hq] at hread
  have hcommon := Progress.common_read hrules hsplit.options hq
  obtain ⟨hsettings, hdb, hfile, hoffline⟩ := subject_eq_ok_iff.mp hs
  refine (invokes_iff hsplit.globals).mpr ⟨p, _, hp, hclosed, hread, ?_, ?_⟩
  · refine subject_eq_ok_iff.mpr ⟨?_, ?_, ?_, ?_⟩
    · rw [← hsettings]
      exact pathFrom_congr (by simp) henv
    · simp [pathFrom, hcommon.value?]
    · simpa using hfile
    · simpa using hoffline
  · rw [← hasked]
    cases task <;> simp [Task.asked]

/-- **Another database may be named** by the environment, whether or not it counts. -/
theorem Invokes.environment (h : Invokes task s env arguments)
    (hsettings : env'.lookup settingsVariable = env.lookup settingsVariable)
    (hdb : env'.lookup databaseVariable ≠ some "") :
    ∃ db, Invokes task { s with catalog := { s.catalog with db } } env' arguments := by
  obtain ⟨globals, options, hsplit⟩ := h.exists_splits
  obtain rfl := hsplit.eq
  obtain ⟨p, q, hp, hclosed, hq, hs, hasked⟩ := (invokes_iff hsplit.globals).mp h
  obtain ⟨hpath, -, hfile, hoffline⟩ := subject_eq_ok_iff.mp hs
  obtain ⟨db, hfound⟩ : ∃ db, pathFrom env' q.arguments "db" databaseVariable = .ok db := by
    rw [pathFrom]
    split
    · exact ⟨_, rfl⟩
    · split
      · exact absurd ‹_› hdb
      · exact ⟨_, rfl⟩
  refine ⟨db, (invokes_iff hsplit.globals).mpr ⟨p, q, hp, hclosed, hq, ?_, hasked⟩⟩
  exact subject_eq_ok_iff.mpr ⟨(pathFrom_congr rfl hsettings).trans hpath, hfound, hfile, hoffline⟩

/-- **A command may be told** to do without a database, if it is not. -/
theorem Invokes.offline (h : Invokes task s env arguments)
    (hsplit : Splits task ["offline"] arguments globals options) :
    Invokes task { s with catalog := { s.catalog with offline := true } } env
      (globals ++ task.name :: "--offline" :: options) := by
  obtain rfl := hsplit.eq
  obtain ⟨p, q, hp, hclosed, hq, hs, hasked⟩ := (invokes_iff hsplit.globals).mp h
  have hgiven : ["--offline"].foldlM (Progress.add task.rules) {} =
      .ok (Progress.extend ["offline"] [] {}) := by
    cases task <;> rfl
  have hread := Progress.read_own (task.alike_rules "offline" (by decide)) ⟨by simp, by simp⟩ hgiven
    hsplit.options
  rw [List.singleton_append, hq] at hread
  obtain ⟨hpath, hdb, hfile, -⟩ := subject_eq_ok_iff.mp hs
  refine (invokes_iff hsplit.globals).mpr ⟨p, _, hp, hclosed, hread, ?_, ?_⟩
  · refine subject_eq_ok_iff.mpr ⟨?_, ?_, ?_, ?_⟩
    · rw [← hpath]
      exact pathFrom_congr (by simp) rfl
    · rw [← hdb]
      exact pathFrom_congr (by simp) rfl
    · simpa using hfile
    · simp
  · rw [← hasked]
    cases task <;> simp [Task.asked]

/-! ### Empty paths -/

theorem outcome_of_misuse (h : Invocation.ofArguments env arguments = .error .misuse) :
    (run arguments env fs).outcome = .error .usage := by
  rw [run, h]
  rfl

/-- **An empty path** to a database is refused. -/
theorem outcome_of_empty_option (h : Invokes task s env arguments)
    (hsplit : Splits task own arguments globals options) :
    (run (globals ++ task.name :: "--db=" :: options) env' fs).outcome = .error .usage := by
  obtain rfl := hsplit.eq
  obtain ⟨p, -, hp, hclosed, -⟩ := (invokes_iff hsplit.globals).mp h
  have hadd : Progress.add task.rules {} "--db=" = .error .misuse := by
    cases task <;> rfl
  have hread : Progress.read task.rules ("--db=" :: options) = .error .misuse := by
    rw [Progress.read, List.foldlM_cons, hadd]
    rfl
  refine outcome_of_misuse ?_
  rw [ofArguments_name hsplit.globals, hp, hread]
  show (if p.closed then _ else _) = _
  rw [hclosed]
  rfl

theorem pathFrom_error {option name : String} {stop : Stop}
    (h : pathFrom env a option name = .error stop) : stop = .misuse := by
  unfold pathFrom at h
  split at h
  · cases h
  · split at h <;> cases h
    rfl

/-- **An empty path** in the environment is refused, unless the arguments name a database. -/
theorem outcome_of_empty_variable (h : Invokes task s env arguments)
    (hsplit : Splits task ["db"] arguments globals options)
    (hdb : env'.lookup databaseVariable = some "") :
    (run arguments env' fs).outcome = .error .usage := by
  obtain rfl := hsplit.eq
  obtain ⟨p, q, hp, hclosed, hq, -⟩ := (invokes_iff hsplit.globals).mp h
  have hvalue : q.arguments.value? "db" = none :=
    (Progress.common_read (task.alike_rules "db" (by decide)) hsplit.options hq).value? (by decide)
  have hpath : pathFrom env' q.arguments "db" databaseVariable = .error .misuse := by
    rw [pathFrom, hvalue, hdb]
    rfl
  have hsubject : subject env' q.arguments = .error .misuse := by
    rw [subject]
    cases hsettings : settingsPath env' q.arguments with
    | error stop =>
        rw [pathFrom_error hsettings]
        rfl
    | ok settings =>
        show (pathFrom env' q.arguments "db" databaseVariable >>= _) = _
        rw [hpath]
        rfl
  refine outcome_of_misuse ?_
  rw [ofArguments_name hsplit.globals, hp, hq]
  show (if p.closed then _ else subject env' q.arguments >>= _) = _
  rw [hclosed, hsubject]
  rfl

end VirtEnv.Command
