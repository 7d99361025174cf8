import VirtEnv.Command.Arguments
import VirtEnv.Files

/-!
# Commands

What the command line asks for.  Options of the program itself may also stand after the name of
the command.  Two options can be given by the environment instead: an argument counts more than
the environment.
-/

namespace VirtEnv.Command

/-- The name of the program. -/
def programName : String := "kvmconf"

/-- The version of the program. -/
def programVersion : String := "0.3.0"

/-- The name of a document, where none is given. -/
def documentName : String := "kvmconf.hcl"

/-- Which catalog a command asks. -/
structure CatalogChoice where
  db : Option String
  offline : Bool
  deriving DecidableEq, Repr

/-- A document to be loaded, with the settings and the catalog for it. -/
structure Subject where
  file : String
  settings : Option String
  catalog : CatalogChoice
  deriving DecidableEq, Repr

/-- The paths that the loading of a document mentions. -/
def Subject.paths (s : Subject) : List String :=
  s.file :: s.settings.toList ++ s.catalog.db.toList

/-- What a new document is made of. -/
structure Draft where
  directory : String
  vm : String
  network : String
  store : String
  existing : Bool
  deriving DecidableEq, Repr

/-- The path of a new document. -/
def Draft.path (d : Draft) : String := Files.join d.directory documentName

/-- What the program is asked to do. -/
inductive Request where
  | create (d : Draft)
  | check (s : Subject)
  | display (s : Subject) (plan : Bool) (format : String)
  | listSettings (path : Option String) (files : Bool) (format : String)
  deriving DecidableEq, Repr

namespace Request

/-- The paths that a request mentions. -/
def paths : Request → List String
  | create d => [d.directory, d.path]
  | check s => s.paths
  | display s _ _ => s.paths
  | listSettings path _ _ => path.toList

/-- The settings file that a request mentions. -/
def settings? : Request → Option String
  | create _ => none
  | check s => s.settings
  | display s _ _ => s.settings
  | listSettings path _ _ => path

end Request

/-- A request, and whether warnings are wanted. -/
structure Invocation where
  request : Request
  quiet : Bool
  deriving DecidableEq, Repr

/-- The environment: variables with their values. -/
abbrev Environment := List (String × String)

/-- The variable that names a settings file. -/
def settingsVariable : String := "KVMCONF_SETTINGS"

/-- The variable that names a database. -/
def databaseVariable : String := "KVMCONF_DB"

/-- The variables that count. -/
def variableNames : List String := [settingsVariable, databaseVariable]

/-! ### Options -/

/-- The options that every command takes. -/
def commonOptions : List OptionRule :=
  [{ long := "verbose", letter := some 'v', effect := .counted },
    { long := "quiet", letter := some 'q', effect := .flag },
    { long := "help", letter := some 'h', effect := .stop .help }]

/-- The options before the name of a command. -/
def programRules : ArgumentRules :=
  { options :=
      { long := "version", letter := some 'V', effect := .stop .version } :: commonOptions }

/-- An option whose value is a path. -/
def pathOption (long : String) : OptionRule := { long, effect := .value false }

/-- An option whose value is any text. -/
def textOption (long : String) : OptionRule := { long, effect := .value true }

/-- An option without value. -/
def flagOption (long : String) : OptionRule := { long, effect := .flag }

/-- The options of a command that loads a document. -/
def subjectOptions : List OptionRule :=
  [{ long := "file", letter := some 'f', effect := .value false }, pathOption "settings",
    pathOption "db", flagOption "offline"]

/-- The arguments of `init`. -/
def createRules : ArgumentRules :=
  { options :=
      [textOption "vm", textOption "network", textOption "store", flagOption "existing"]
        ++ commonOptions
    maxWords := 1 }

/-- The arguments of `check`. -/
def checkRules : ArgumentRules := { options := subjectOptions ++ commonOptions }

/-- The arguments of `show`. -/
def displayRules : ArgumentRules :=
  { options := [flagOption "plan", textOption "format"] ++ subjectOptions ++ commonOptions }

/-- The arguments of `settings`. -/
def settingsRules : ArgumentRules :=
  { options := [flagOption "files", textOption "format", pathOption "settings"] ++ commonOptions }

/-! ### From arguments to requests -/

/-- A path from an option or the environment. -/
def pathFrom (env : Environment) (a : Arguments) (option name : String) :
    Except Stop (Option String) :=
  match a.value? option with
  | some path => .ok (some path)
  | none =>
      match env.lookup name with
      | some "" => .error .misuse
      | path => .ok path

/-- The settings file that a command asks for. -/
def settingsPath (env : Environment) (a : Arguments) : Except Stop (Option String) :=
  pathFrom env a "settings" settingsVariable

/-- The document that a command asks for. -/
def subject (env : Environment) (a : Arguments) : Except Stop Subject := do
  let settings ← settingsPath env a
  let db ← pathFrom env a "db" databaseVariable
  .ok
    { file := (a.value? "file").getD documentName
      settings
      catalog := { db, offline := a.has "offline" } }

/-- The draft that `init` asks for. -/
def draft (a : Arguments) : Except Stop Draft :=
  match a.words with
  | [""] => .error .misuse
  | words =>
      .ok
        { directory := words.headD "."
          vm := (a.value? "vm").getD "vm1"
          network := (a.value? "network").getD "default"
          store := (a.value? "store").getD "pool1"
          existing := a.has "existing" }

/-- The names of the commands. -/
def commandNames : List String := ["init", "check", "show", "settings"]

/-- The request that a command with arguments is. -/
def requestOf (env : Environment) (name : String) (arguments : List String) :
    Except Stop (Arguments × Request) := do
  let read (rules : ArgumentRules) : Except Stop Arguments := do
    .ok (← Progress.read rules arguments).arguments
  match name with
  | "init" =>
      let a ← read createRules
      .ok (a, .create (← draft a))
  | "check" =>
      let a ← read checkRules
      .ok (a, .check (← subject env a))
  | "show" =>
      let a ← read displayRules
      let s ← subject env a
      .ok (a, .display s (a.has "plan") ((a.value? "format").getD "table"))
  | "settings" =>
      let a ← read settingsRules
      let path ← settingsPath env a
      .ok (a, .listSettings path (a.has "files") ((a.value? "format").getD "yaml"))
  | "help" =>
      match arguments with
      | [] => .error .help
      | [topic] =>
          if ("help" :: commandNames).contains topic then .error .help else .error .misuse
      | _ => .error .misuse
  | _ => .error .misuse

/-- The invocation that arguments are. -/
def Invocation.ofArguments (env : Environment) (arguments : List String) :
    Except Stop Invocation := do
  let before := arguments.takeWhile isOption
  let p ← Progress.read programRules before
  match arguments.drop before.length with
  | [] => .error .misuse
  | name :: rest =>
      if p.closed then .error .misuse
      else
        let (a, request) ← requestOf env name rest
        .ok { request, quiet := p.arguments.has "quiet" || a.has "quiet" }

end VirtEnv.Command
