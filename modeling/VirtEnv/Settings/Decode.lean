import VirtEnv.Settings
import VirtEnv.Settings.Layer
import VirtEnv.Text.Quoted

/-!
# From merged values to settings

Gives every setting its type.  Scalars are converted where that makes sense: an integer may be
written as a float, a truth value or a word, a truth value as a number or a word, and a text as
any scalar.  A group of settings is a table, or an array of the values in their order.
-/

namespace VirtEnv

namespace Settings

/-- A value found where another was expected. -/
inductive Found where
  | string (s : String)
  | integer (i : Int)
  | unsigned (n : Nat)
  | nothing
  | map
  | sequence
  deriving DecidableEq, Repr

/-- The wording of a found value. -/
def Found.text : Found → String
  | string s => "string " ++ Text.quoted s
  | integer i => "64-bit integer \x60" ++ toString i ++ "\x60"
  | unsigned n => "64-bit unsigned integer \x60" ++ Numeric.digitText n ++ "\x60"
  | nothing => "unit value"
  | map => "map"
  | sequence => "sequence"

/-- Why settings cannot be used. -/
inductive Fault where
  | malformed
  | notText
  | wrongType (found : Found) (expected : String) (key : String) (origin : Option String)
  | wrongGroup (found expected : String)
  | tooShort (length : Nat) (group : String) (expected : Nat)
  | unknownField (name : String) (expected : List String)
  | missingField (name : String)
  deriving DecidableEq, Repr

/-- A text between grave accents. -/
def inTicks (s : String) : String := "\x60" ++ s ++ "\x60"

/-- The wording of a choice of names. -/
def choiceText : List String → String
  | [a] => inTicks a
  | [a, b] => inTicks a ++ " or " ++ inTicks b
  | names => "one of " ++ String.intercalate ", " (names.map inTicks)

/-- The message of a fault. -/
def Fault.message : Fault → String
  | malformed => "FileParse"
  | notText => "stream did not contain valid UTF-8"
  | wrongType found expected key origin =>
      "invalid type: " ++ found.text ++ ", expected " ++ expected
        ++ " for key " ++ inTicks key
        ++ (match origin with
          | some file => " in " ++ file
          | none => "")
  | wrongGroup found expected => "invalid type: " ++ found ++ ", expected " ++ expected
  | tooShort length group expected =>
      "invalid length " ++ Numeric.digitText length ++ ", expected struct " ++ group ++ " with "
        ++ Numeric.digitText expected ++ (if expected == 1 then " element" else " elements")
  | unknownField name expected =>
      "unknown field " ++ inTicks name ++ ", expected " ++ choiceText expected
  | missingField name => "missing field " ++ inTicks name

/-- The result of giving a setting its type. -/
abbrev Typed (α : Type) := Except Fault α

/-- A value with the path that leads to it. -/
structure Located where
  key : String
  node : Node

namespace Located

/-- The value of an entry.  A point comes before its name, unless the name is empty or begins with
a bracket. -/
def child (l : Located) (name : String) (node : Node) : Located :=
  let joined := l.key.isEmpty || name.isEmpty || name.startsWith "["
  ⟨l.key ++ (if joined then "" else ".") ++ name, node⟩

/-- The value of an item. -/
def item (l : Located) (i : Nat) (node : Node) : Located :=
  ⟨l.key ++ "[" ++ Numeric.digitText i ++ "]", node⟩

/-- Refuses a value that is no scalar, or answers the scalar with its file. -/
def scalar (l : Located) (expected : String) : Typed (Option String × Scalar) :=
  match l.node with
  | .scalar origin v => .ok (origin, v)
  | .nothing => .error (.wrongType .nothing expected l.key none)
  | .array origin _ => .error (.wrongType .sequence expected l.key origin)
  | .table origin _ => .error (.wrongType .map expected l.key origin)

/-- The words that stand for truth. -/
def trueWords : List String := ["true", "on", "yes"]

/-- The words that stand for falsity. -/
def falseWords : List String := ["false", "off", "no"]

/-- The unsigned 64-bit integer that a text is, with or without a plus sign. -/
def unsigned? (s : String) : Option Nat :=
  let cs := s.toList
  let ds := if cs.head? == some '+' then cs.drop 1 else cs
  if ds.isEmpty then none
  else
    match Text.valueIn? 10 ds with
    | some n => if n < Nat.pow 2 64 then some n else none
    | none => none

/-- An unsigned integer. -/
def asUnsigned (l : Located) : Typed Nat := do
  let (origin, v) ← l.scalar "an integer"
  match v with
  | .integer i =>
      if 0 ≤ i then .ok i.toNat
      else .error (.wrongType (.integer i) "an unsigned 64 bit or less integer" l.key origin)
  | .bool b => .ok (if b then 1 else 0)
  | .real x =>
      match x with
      | .infinity false => .ok (Nat.pow 2 64 - 1)
      | x => .ok (min ((x.roundAway?.getD 0).toNat) (Nat.pow 2 64 - 1))
  | .string s =>
      let word := Text.lower s
      if trueWords.contains word then .ok 1
      else if falseWords.contains word then .ok 0
      else
        match unsigned? s with
        | some n => .ok n
        | none => .error (.wrongType (.string s) "an integer" l.key origin)

/-- An unsigned 32-bit integer. -/
def asCount (l : Located) : Typed Nat := do
  let n ← l.asUnsigned
  if n < Nat.pow 2 32 then .ok n
  else .error (.wrongType (.unsigned n) "an unsigned 32 bit integer" l.key none)

/-- A text. -/
def asText (l : Located) : Typed String := do
  let (_, v) ← l.scalar "a string"
  match v with
  | .string s => .ok s
  | .integer i => .ok (toString i)
  | .real x => .ok x.positionalText
  | .bool b => .ok (if b then "true" else "false")

/-- A truth value. -/
def asBool (l : Located) : Typed Bool := do
  let (origin, v) ← l.scalar "a boolean"
  match v with
  | .bool b => .ok b
  | .integer i => .ok (i != 0)
  | .real x => .ok x.isNonzero
  | .string s =>
      let word := Text.lower s
      if word == "1" || trueWords.contains word then .ok true
      else if word == "0" || falseWords.contains word then .ok false
      else .error (.wrongType (.string word) "a boolean" l.key origin)

/-- The wording of a value found in place of a group. -/
def foundText : Node → String
  | .nothing => "unit value"
  | .array _ _ => "sequence"
  | .table _ _ => "map"
  | .scalar _ (.string s) => "string " ++ Text.quoted s
  | .scalar _ (.integer i) => "integer " ++ inTicks (toString i)
  | .scalar _ (.bool b) => "boolean " ++ inTicks (if b then "true" else "false")
  | .scalar _ (.real x) => "floating point " ++ inTicks (x.format (·.positional ".0"))

end Located

/-- A group that was found: each of its settings, if it is there, with its path. -/
structure Group where
  type : String
  names : List String
  isArray : Bool
  values : List (String × Located)

namespace Located

/-- The group of settings with the given names. -/
def group (l : Located) (type : String) (names : List String) : Typed Group :=
  match l.node with
  | .table _ entries =>
      match entries.find? fun e => !names.contains e.1 with
      | some e => .error (.unknownField e.1 names)
      | none =>
          .ok ⟨type, names, false, entries.map fun e => (e.1, l.child e.1 e.2)⟩
  | .array _ items =>
      .ok ⟨type, names, true,
        (names.zip items).zipIdx.map fun p => (p.1.1, l.item p.2 p.1.2)⟩
  | node => .error (.wrongGroup (foundText node) ("struct " ++ type))

end Located

namespace Group

/-- A setting of a group, read by `read`. -/
def get {α : Type} (g : Group) (name : String) (read : Located → Typed α) : Typed α :=
  match g.values.lookup name with
  | some l => read l
  | none =>
      if g.isArray then .error (.tooShort (g.names.idxOf name) g.type g.names.length)
      else .error (.missingField name)

/-- A setting of a group that may be left out. -/
def getD {α : Type} (g : Group) (name : String) (read : Located → Typed α) (default : α) :
    Typed α :=
  match g.values.lookup name with
  | some l => read l
  | none => .ok default

end Group

/-! ### The groups -/

/-- The version of the settings. -/
def readMeta (l : Located) : Typed Nat := do
  (← l.group "MetaSettings" ["version"]).get "version" Located.asCount

/-- The database and the directory of images. -/
def readPaths (l : Located) : Typed (String × String) := do
  let g ← l.group "PathSettings" ["db", "images_dir"]
  .ok (← g.get "db" Located.asText, ← g.get "images_dir" Located.asText)

/-- A section, which holds only defaults. -/
def readSection {α : Type} (read : Located → Typed α) (l : Located) : Typed α := do
  (← l.group "Section" ["defaults"]).get "defaults" read

/-- The defaults of a VM. -/
def readVm (l : Located) : Typed VmDefaults := do
  let g ← l.group "VmDefaults" ["cpu", "memory", "disk", "name_prefix", "namespace"]
  let cpu ← g.get "cpu" Located.asCount
  let memory ← g.get "memory" Located.asText
  let disk ← g.get "disk" Located.asText
  let namePrefix ← g.getD "name_prefix" Located.asText ""
  let space ← g.get "namespace" Located.asText
  .ok { cpu, memory, disk, namePrefix, space }

/-- The defaults of a domain. -/
def readDomain (l : Located) : Typed DomainDefaults := do
  let g ← l.group "DomainDefaults" ["machine", "arch", "domain_type", "boot_device"]
  let machine ← g.get "machine" Located.asText
  let arch ← g.get "arch" Located.asText
  let domainType ← g.get "domain_type" Located.asText
  let bootDevice ← g.get "boot_device" Located.asText
  .ok { machine, arch, domainType, bootDevice }

/-- The defaults of a disk. -/
def readDisk (l : Located) : Typed DiskDefaults := do
  let g ← l.group "DiskDefaults" ["bus", "format", "target_prefix"]
  let bus ← g.get "bus" Located.asText
  let format ← g.get "format" Located.asText
  let targetPrefix ← g.get "target_prefix" Located.asText
  .ok { bus, format, targetPrefix }

/-- The defaults of a network interface. -/
def readNet (l : Located) : Typed NetDefaults := do
  let g ← l.group "NetDefaults" ["type", "model"]
  let kind ← g.get "type" Located.asText
  let model ← g.get "model" Located.asText
  .ok { kind, model }

/-- The defaults of a graphics device. -/
def readGraphics (l : Located) : Typed GraphicsDefaults := do
  let g ← l.group "GraphicsDefaults" ["type", "listen", "autoport"]
  let kind ← g.get "type" Located.asText
  let listen ← g.get "listen" Located.asText
  let autoport ← g.get "autoport" Located.asBool
  .ok { kind, listen, autoport }

/-- Entries of texts, added to those before them. -/
def readTexts (l : Located) (done : Table String) :
    List (String × Node) → Typed (Table String)
  | [] => .ok done
  | (name, node) :: entries => do
      readTexts l (done.insert name (← (l.child name node).asText)) entries

/-- A table of texts. -/
def readTable (l : Located) : Typed (Table String) :=
  match l.node with
  | .table _ entries => readTexts l [] entries
  | node => .error (.wrongGroup (Located.foundText node) "a map")

/-- The short names of machine types. -/
def readQemu (l : Located) : Typed (Table String) := do
  (← l.group "QemuSettings" ["machine_aliases"]).get "machine_aliases" readTable

/-- The names of the groups. -/
def groupNames : List String :=
  ["meta", "paths", "vm", "domain", "disk", "net", "graphics", "qemu"]

/-- The settings that merged values are. -/
def ofNode (node : Node) : Typed Settings := do
  let g ← Located.group ⟨"", node⟩ "Settings" groupNames
  let version ← g.get "meta" readMeta
  let (db, imagesDir) ← g.get "paths" readPaths
  let vm ← g.get "vm" (readSection readVm)
  let domain ← g.get "domain" (readSection readDomain)
  let disk ← g.get "disk" (readSection readDisk)
  let net ← g.get "net" (readSection readNet)
  let graphics ← g.get "graphics" (readSection readGraphics)
  let machineAliases ← g.get "qemu" readQemu
  .ok { version, db, imagesDir, vm, domain, disk, net, graphics, machineAliases }

end Settings

end VirtEnv
