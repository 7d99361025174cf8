import VirtEnv.Toml.Value

/-!
# From statements to tables

A TOML document is a list of statements: headers and assignments.  Each statement changes the
table read so far, or is refused because something would be defined twice.
-/

namespace VirtEnv.Toml

/-- A statement of a document. -/
inductive Statement where
  | assign (key : Key) (v : Value)
  | header (key : Key)
  | arrayHeader (key : Key)

/-- The entries of a table. -/
abbrev Entries := List (String × Entry)

namespace Entries

/-- Changes the entry of a name, given as it is; a missing one is added at the end. -/
def update? (f : Option Entry → Option Entry) (name : String) : Entries → Option Entries
  | [] => do some [(name, ← f none)]
  | (n, e) :: rest =>
      if n == name then do some ((n, ← f (some e)) :: rest)
      else do some ((n, e) :: (← update? f name rest))

/-- Changes the last table of an array. -/
def updateLast? (f : Entries → Option Entries) : List Entries → Option (List Entries)
  | [] => none
  | [entries] => do some [← f entries]
  | entries :: rest => do some (entries :: (← updateLast? f rest))

/-- Changes the table that a header leads to through `path`, making the tables on the way that
are missing.  An array stands for its last table. -/
def atHeader? (f : Entries → Option Entries) : Key → Entries → Option Entries
  | [], entries => f entries
  | name :: path, entries =>
      update? (fun e =>
        match e with
        | none => do some (.table .subheader (← atHeader? f path []))
        | some (.table origin inner) => do some (.table origin (← atHeader? f path inner))
        | some (.tables elements) => do some (.tables (← updateLast? (atHeader? f path) elements))
        | some (.value _) => none) name entries

/-- Sets a dotted key.  Tables on the way may be extended unless a header defined them, and the
last one only if a dotted key did. -/
def assign? (v : Value) : Key → Entries → Option Entries
  | [], _ => none
  | [name], entries =>
      update? (fun e => if e.isNone then some (.value v) else none) name entries
  | name :: path, entries =>
      update? (fun e =>
        match e with
        | none => do some (.table .dotted (← assign? v path []))
        | some (.table .dotted inner) => do some (.table .dotted (← assign? v path inner))
        | some (.table .subheader inner) =>
            if path.length == 1 then none
            else do some (.table .subheader (← assign? v path inner))
        | some (.tables elements) =>
            if path.length == 1 then none
            else do some (.tables (← updateLast? (assign? v path) elements))
        | some (.table .header _) => none
        | some (.value _) => none) name entries

/-- Opens the table of a header. -/
def openTable? (name : String) (entries : Entries) : Option Entries :=
  update? (fun e =>
    match e with
    | none => some (.table .header [])
    | some (.table .subheader inner) => some (.table .header inner)
    | _ => none) name entries

/-- Opens a new table at the end of an array. -/
def openElement? (name : String) (entries : Entries) : Option Entries :=
  update? (fun e =>
    match e with
    | none => some (.tables [[]])
    | some (.tables elements) => some (.tables (elements ++ [[]]))
    | _ => none) name entries

/-- Opens what the header `key` names. -/
def openAt? (f : String → Entries → Option Entries) (key : Key) (entries : Entries) :
    Option Entries :=
  match key.getLast? with
  | none => none
  | some name => atHeader? (f name) key.dropLast entries

/-- Carries out statements; assignments go to the table of the last header, `current`. -/
def run? (current : Key) (entries : Entries) : List Statement → Option Entries
  | [] => some entries
  | .assign key v :: rest => do run? current (← atHeader? (assign? v key) current entries) rest
  | .header key :: rest => do run? key (← openAt? openTable? key entries) rest
  | .arrayHeader key :: rest => do run? key (← openAt? openElement? key entries) rest

end Entries

/-- The table that assignments make on their own. -/
def tableOf? (assignments : List (Key × Value)) : Option Value := do
  let entries ← Entries.run? [] [] (assignments.map fun a => .assign a.1 a.2)
  some (.table (Entry.toFields entries))

end VirtEnv.Toml
