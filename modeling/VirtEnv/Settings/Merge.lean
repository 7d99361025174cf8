import VirtEnv.Settings.Decode

/-!
# Settings from files

The built-in settings are the first layer, and each file is a layer over those before it.  A file
that cannot be read as text, or is malformed, makes the settings unusable.
-/

namespace VirtEnv

namespace Settings

/-- A text of the built-in settings. -/
def textNode (s : String) : Node := .scalar none (.string s)

/-- A table of the built-in settings. -/
def tableNode (entries : List (String × Node)) : Node := .table none entries

/-- A section that holds only defaults. -/
def sectionNode (entries : List (String × Node)) : Node :=
  tableNode [("defaults", tableNode entries)]

/-- Settings as a layer of their own. -/
def toNode (s : Settings) : Node :=
  tableNode
    [("meta", tableNode [("version", .scalar none (.integer s.version))]),
      ("paths", tableNode [("db", textNode s.db), ("images_dir", textNode s.imagesDir)]),
      ("vm", sectionNode
        [("cpu", .scalar none (.integer s.vm.cpu)), ("memory", textNode s.vm.memory),
          ("disk", textNode s.vm.disk), ("name_prefix", textNode s.vm.namePrefix),
          ("namespace", textNode s.vm.space)]),
      ("domain", sectionNode
        [("machine", textNode s.domain.machine), ("arch", textNode s.domain.arch),
          ("domain_type", textNode s.domain.domainType),
          ("boot_device", textNode s.domain.bootDevice)]),
      ("disk", sectionNode
        [("bus", textNode s.disk.bus), ("format", textNode s.disk.format),
          ("target_prefix", textNode s.disk.targetPrefix)]),
      ("net", sectionNode [("type", textNode s.net.kind), ("model", textNode s.net.model)]),
      ("graphics", sectionNode
        [("type", textNode s.graphics.kind), ("listen", textNode s.graphics.listen),
          ("autoport", .scalar none (.bool s.graphics.autoport))]),
      ("qemu", tableNode
        [("machine_aliases", tableNode (s.machineAliases.map fun a => (a.1, textNode a.2)))])]

/-- A settings file: the name under which faults mention it, its text, if it is text, and the order
in which its tables are gone through. -/
structure SourceFile where
  name : String
  text : Option String
  ranking : Ranking

/-- Lays a file over a node. -/
def layFile (root : Node) (file : SourceFile) : Typed Node :=
  match file.text with
  | none => .error .notText
  | some text =>
      match Toml.parse? text with
      | none => .error .malformed
      | some table => .ok (root.layFile file.ranking file.name table)

/-- The settings that files make of the given ones. -/
def ofFiles (base : Settings) (files : List SourceFile) : Typed Settings := do
  ofNode (← files.foldlM layFile base.toNode)

end Settings

end VirtEnv
