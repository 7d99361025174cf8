/-!
# Arguments

The arguments of a command: options by their long name after two dashes or their letter after
one, with or without a value, and plain words.  Letters may be written together, and a value
together with its option.  After a lone double dash everything is a word.

An option may be given once, unless it is counted.  The arguments are read from left to right, and
the first that does not fit decides.
-/

namespace VirtEnv.Command

/-- Why arguments do not lead to a command that runs. -/
inductive Stop where
  | misuse
  | help
  | version
  deriving DecidableEq, Repr

/-- What an option does. -/
inductive Effect where
  | flag
  | counted
  | value (mayBeEmpty : Bool)
  | stop (s : Stop)
  deriving DecidableEq, Repr

/-- An option. -/
structure OptionRule where
  long : String
  letter : Option Char := none
  effect : Effect
  deriving DecidableEq, Repr

/-- What arguments a command takes: its options, and at most so many words. -/
structure ArgumentRules where
  options : List OptionRule
  maxWords : Nat := 0

/-- Arguments that were read. -/
structure Arguments where
  flags : List String := []
  values : List (String × String) := []
  words : List String := []
  deriving DecidableEq, Repr

namespace Arguments

/-- A flag is given. -/
def has (a : Arguments) (flag : String) : Bool := a.flags.contains flag

/-- The value of an option. -/
def value? (a : Arguments) (option : String) : Option String := a.values.lookup option

end Arguments

/-- What was read so far: an option may wait for its value, and options may have ended. -/
structure Progress where
  arguments : Arguments := {}
  waiting : Option OptionRule := none
  closed : Bool := false

namespace Progress

/-- Adds a flag. -/
def addFlag (p : Progress) (r : OptionRule) : Except Stop Progress :=
  if r.effect == .flag && p.arguments.has r.long then .error .misuse
  else .ok { p with arguments := { p.arguments with flags := r.long :: p.arguments.flags } }

/-- Adds the value of an option. -/
def addValue (p : Progress) (r : OptionRule) (value : String) : Except Stop Progress :=
  if (p.arguments.value? r.long).isSome || (value.isEmpty && r.effect == .value false) then
    .error .misuse
  else
    .ok
      { p with
        arguments := { p.arguments with values := (r.long, value) :: p.arguments.values }
        waiting := none }

/-- Adds a word. -/
def addWord (p : Progress) (rules : ArgumentRules) (word : String) : Except Stop Progress :=
  if p.arguments.words.length < rules.maxWords then
    .ok { p with arguments := { p.arguments with words := p.arguments.words ++ [word] } }
  else .error .misuse

/-- Reads an option by its long name, with what follows an equals sign. -/
def addLong (p : Progress) (rules : ArgumentRules) (name : String) (value : Option String) :
    Except Stop Progress :=
  match rules.options.find? (·.long == name) with
  | none => .error .misuse
  | some r =>
      match r.effect, value with
      | .value _, some v => p.addValue r v
      | .value _, none => .ok { p with waiting := some r }
      | _, some _ => .error .misuse
      | .stop s, none => .error s
      | _, none => p.addFlag r

/-- Reads letters: flags, up to an option whose value is the rest or comes next. -/
def addLetters (p : Progress) (rules : ArgumentRules) : List Char → Except Stop Progress
  | [] => .ok p
  | c :: cs =>
      match rules.options.find? (·.letter == some c) with
      | none => .error .misuse
      | some r =>
          match r.effect with
          | .stop s => .error s
          | .value _ =>
              match cs with
              | [] => .ok { p with waiting := some r }
              | '=' :: v => p.addValue r (String.ofList v)
              | v => p.addValue r (String.ofList v)
          | _ => do addLetters (← p.addFlag r) rules cs

end Progress

/-- The name and the value of a long option, split at the first equals sign. -/
def splitLong (cs : List Char) : String × Option String :=
  let name := cs.takeWhile (· != '=')
  match cs.drop name.length with
  | [] => (String.ofList name, none)
  | _ :: v => (String.ofList name, some (String.ofList v))

/-- An argument begins like an option. -/
def isOption (argument : String) : Bool :=
  match argument.toList with
  | '-' :: _ :: _ => true
  | _ => false

/-- Reads one argument. -/
def Progress.add (rules : ArgumentRules) (p : Progress) (argument : String) :
    Except Stop Progress :=
  if p.closed then p.addWord rules argument
  else
    match argument.toList with
    | ['-', '-'] => .ok { p with closed := true }
    | '-' :: c :: cs =>
        if p.waiting.isSome then .error .misuse
        else if c == '-' then
          let (name, value) := splitLong cs
          p.addLong rules name value
        else p.addLetters rules (c :: cs)
    | _ =>
        match p.waiting with
        | some r => p.addValue r argument
        | none => p.addWord rules argument

/-- Reads arguments. -/
def Progress.read (rules : ArgumentRules) (arguments : List String) : Except Stop Progress := do
  let p ← arguments.foldlM (Progress.add rules) {}
  if p.waiting.isSome then .error .misuse else .ok p

end VirtEnv.Command
