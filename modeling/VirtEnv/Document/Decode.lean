import VirtEnv.Document.Fault

/-!
# From a body to a document

Every top-level block becomes one declaration (`Declaration.ofBlock`), and the document collects
the declarations of each type in their order (`Document.add`).  The first item that breaks a rule
decides the fault; a second `locals` block breaks one whatever it contains.
-/

namespace VirtEnv

open Hcl (Block Expr Item Value)

/-- The result of decoding a part of a document. -/
abbrev Decoded (α : Type) := Except DecodeFailure α

namespace Decoded

/-- Fails with a broken rule. -/
def refuse {α : Type} (f : ShapeFault) : Decoded α := .error (.fault f)

end Decoded

open Decoded (refuse)

/-! ### Attributes that refer to nothing -/

/-- The value of an attribute that may not refer to anything. -/
def literalValue (place : Place) (key : String) (e : Expr) : Decoded Value :=
  match e.evaluate [] with
  | .ok v => .ok v
  | .error (.fault f) => refuse (.badValue place key f)
  | .error (.abort a) => .error (.abort a)

/-- The texts of a list of strings. -/
def stringItems? : List Value → Option (List String)
  | [] => some []
  | .string s :: vs => (stringItems? vs).map (s :: ·)
  | _ :: _ => none

/-- A text. -/
def literalString (place : Place) (key : String) (e : Expr) : Decoded String := do
  match ← literalValue place key e with
  | .string s => .ok s
  | _ => refuse (.wrongShape place key .text)

/-- A list of texts. -/
def literalStrings (place : Place) (key : String) (e : Expr) : Decoded (List String) := do
  match ← literalValue place key e with
  | .array vs =>
      match stringItems? vs with
      | some ss => .ok ss
      | none => refuse (.wrongShape place key .textList)
  | _ => refuse (.wrongShape place key .textList)

/-- The entries of an object of texts, sorted by key. -/
def stringEntries (place : Place) (key : String) :
    Table String → List (String × Value) → Decoded (Table String)
  | t, [] => .ok t
  | t, (k, .string s) :: entries => stringEntries place key (t.insert k s) entries
  | _, (k, _) :: _ => refuse (.wrongEntry place key k)

/-- A table of texts. -/
def literalTable (place : Place) (key : String) (e : Expr) : Decoded (Table String) := do
  match ← literalValue place key e with
  | .object entries => stringEntries place key [] entries
  | _ => refuse (.wrongShape place key .textMap)

/-! ### Blocks -/

/-- The attributes and blocks of a body, for the backend. -/
def Attributes.ofBody (body : List Item) : Attributes :=
  body.foldl (fun a item =>
    match item with
    | .attribute key e => { a with values := Hcl.setKey a.values key e }
    | .block b => { a with blocks := a.blocks ++ [b] }) {}

/-- The only label of a block. -/
def oneLabel (b : Block) : Decoded String :=
  match b.labels with
  | [l] => .ok l.value
  | ls => refuse (.labelCount b.type 1 ls.length)

/-- Takes up an item of a `variable` block. -/
def Variable.add (v : Variable) : Item → Decoded Variable
  | .attribute "default" e => .ok { v with default := some e }
  | .attribute "description" e => do
      .ok { v with description := some (← literalString (.variable v.name) "description" e) }
  | .attribute key _ => refuse (.unsupportedArgument (.variable v.name) key)
  | .block b => refuse (.unexpectedBlock (.variable v.name) b.type)

/-- The variable that a block declares. -/
def Variable.ofBlock (b : Block) : Decoded Variable := do
  b.body.foldlM Variable.add { name := ← oneLabel b }

/-- Takes up an item of a `locals` block. -/
def addLocal (values : List (String × Expr)) : Item → Decoded (List (String × Expr))
  | .attribute key e => .ok (Hcl.setKey values key e)
  | .block b => refuse (.unexpectedBlock .locals b.type)

/-- The locals that a block declares. -/
def localsOfBlock (b : Block) : Decoded (List (String × Expr)) :=
  match b.labels with
  | [] => b.body.foldlM addLocal []
  | ls => refuse (.labelCount b.type 0 ls.length)

/-- Takes up an item of a `vm` block. -/
def Vm.add (v : Vm) : Item → Vm
  | .attribute "network" e => { v with network := some e }
  | .attribute "store" e => { v with store := some e }
  | .attribute key e =>
      { v with attributes :=
          { v.attributes with values := Hcl.setKey v.attributes.values key e } }
  | .block b => { v with attributes := { v.attributes with blocks := v.attributes.blocks ++ [b] } }

/-- The VM that a block declares. -/
def Vm.ofBlock (b : Block) : Decoded Vm := do
  .ok (b.body.foldl Vm.add { name := ← oneLabel b })

/-- Takes up an item of the `lifecycle` block of a cluster. -/
def Lifecycle.add (cluster : String) (l : Lifecycle) : Item → Decoded Lifecycle
  | .attribute "start_order" e => do
      .ok { l with startOrder := ← literalStrings (.lifecycle cluster) "start_order" e }
  | .attribute "stop_order" e => do
      .ok { l with stopOrder := ← literalStrings (.lifecycle cluster) "stop_order" e }
  | .attribute key _ => refuse (.unsupportedArgument (.lifecycle cluster) key)
  | .block _ => refuse (.nestedBlock (.lifecycle cluster))

/-- The lifecycle that a block of a cluster declares. -/
def Lifecycle.ofBlock (cluster : String) (b : Block) : Decoded Lifecycle :=
  match b.labels with
  | [] => b.body.foldlM (Lifecycle.add cluster) {}
  | ls => refuse (.labelCount b.type 0 ls.length)

/-- Takes up an item of a `cluster` block. -/
def Cluster.add (c : Cluster) : Item → Decoded Cluster
  | .attribute "vms" e => .ok { c with members := some e }
  | .attribute "labels" e => do
      .ok { c with labels := ← literalTable (.cluster c.name) "labels" e }
  | .attribute key _ => refuse (.unsupportedArgument (.cluster c.name) key)
  | .block b =>
      if b.type == "lifecycle" then
        if c.lifecycle.isSome then refuse (.duplicateLifecycle c.name)
        else do .ok { c with lifecycle := some (← Lifecycle.ofBlock c.name b) }
      else refuse (.unexpectedBlock (.cluster c.name) b.type)

/-- The cluster that a block declares. -/
def Cluster.ofBlock (b : Block) : Decoded Cluster := do
  b.body.foldlM Cluster.add { name := ← oneLabel b }

/-- The `data` block that a block is. -/
def DataBlock.ofBlock (b : Block) : Decoded DataBlock :=
  match b.labels with
  | [label, name] =>
      if b.body.isEmpty then .ok ⟨label.value, name.value⟩
      else refuse (.dataBody label.value name.value)
  | ls => refuse (.labelCount b.type 2 ls.length)

/-! ### Documents -/

/-- What one top-level block declares. -/
inductive Declaration where
  | variable (v : Variable)
  | locals (values : List (String × Expr))
  | network (n : Network)
  | store (s : Store)
  | vm (v : Vm)
  | cluster (c : Cluster)
  | data (d : DataBlock)

/-- The declaration that a block is, by its type. -/
def Declaration.ofBlock (b : Block) : Decoded Declaration :=
  match b.type with
  | "variable" => do .ok (.variable (← Variable.ofBlock b))
  | "locals" => do .ok (.locals (← localsOfBlock b))
  | "network" => do .ok (.network ⟨← oneLabel b, .ofBody b.body⟩)
  | "store" => do .ok (.store ⟨← oneLabel b, .ofBody b.body⟩)
  | "vm" => do .ok (.vm (← Vm.ofBlock b))
  | "cluster" => do .ok (.cluster (← Cluster.ofBlock b))
  | "data" => do .ok (.data (← DataBlock.ofBlock b))
  | type => refuse (.unsupportedBlock type)

namespace Document

/-- Adds a declaration at the end. -/
def add (d : Document) : Declaration → Document
  | .variable v => { d with vars := d.vars ++ [v] }
  | .locals values => { d with locals := some values }
  | .network n => { d with networks := d.networks ++ [n] }
  | .store s => { d with stores := d.stores ++ [s] }
  | .vm v => { d with vms := d.vms ++ [v] }
  | .cluster c => { d with clusters := d.clusters ++ [c] }
  | .data b => { d with data := d.data ++ [b] }

/-- Takes up a top-level item. -/
def addItem (d : Document) : Item → Decoded Document
  | .attribute key _ => refuse (.topLevelAttribute key)
  | .block b =>
      if b.type == "locals" && d.locals.isSome then refuse .duplicateLocals
      else do .ok (d.add (← Declaration.ofBlock b))

/-- The document that a body is. -/
def ofBody (body : List Item) : Decoded Document := body.foldlM addItem {}

end Document

end VirtEnv
