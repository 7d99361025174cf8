import VirtEnv.Files
import VirtEnv.Table

/-!
# Settings

The defaults for new resources, the places of the catalog database and the images, and the short
names of machine types.
-/

namespace VirtEnv

/-- Defaults of a VM. -/
structure VmDefaults where
  cpu : Nat
  memory : String
  disk : String
  namePrefix : String
  space : String
  deriving DecidableEq, Repr

/-- Defaults of a VM's domain. -/
structure DomainDefaults where
  machine : String
  arch : String
  domainType : String
  bootDevice : String
  deriving DecidableEq, Repr

/-- Defaults of a disk. -/
structure DiskDefaults where
  bus : String
  format : String
  targetPrefix : String
  deriving DecidableEq, Repr

/-- Defaults of a network interface. -/
structure NetDefaults where
  kind : String
  model : String
  deriving DecidableEq, Repr

/-- Defaults of a graphics device. -/
structure GraphicsDefaults where
  kind : String
  listen : String
  autoport : Bool
  deriving DecidableEq, Repr

/-- The settings. -/
structure Settings where
  version : Nat
  db : String
  imagesDir : String
  vm : VmDefaults
  domain : DomainDefaults
  disk : DiskDefaults
  net : NetDefaults
  graphics : GraphicsDefaults
  machineAliases : Table String
  deriving DecidableEq, Repr

namespace Settings

/-- The directory for the data of a user with the given home directory, if there is one. -/
def dataDirectory (home : Option String) : String :=
  Files.join (home.getD "") ".local/share/kvmconf"

/-- The settings of a user with the given home directory, if there is one, without any file. -/
def default (home : Option String) : Settings where
  version := 1
  db := Files.join (dataDirectory home) "kvmconf.db"
  imagesDir := Files.join (dataDirectory home) "images"
  vm :=
    { cpu := 2, memory := "2GiB", disk := "20GiB", namePrefix := "", space := "default" }
  domain := { machine := "q35", arch := "x86_64", domainType := "kvm", bootDevice := "hd" }
  disk := { bus := "virtio", format := "qcow2", targetPrefix := "vd" }
  net := { kind := "network", model := "virtio" }
  graphics := { kind := "vnc", listen := "0.0.0.0", autoport := true }
  machineAliases := [("pc", "pc-i440fx-9.2"), ("q35", "pc-q35-9.2")]

/-- The full machine type for a name that may be a short one. -/
def machineType (s : Settings) (machine : String) : String :=
  (s.machineAliases.lookup machine).getD machine

end Settings

end VirtEnv
