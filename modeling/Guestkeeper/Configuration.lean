import Guestkeeper.Error
import Guestkeeper.Path
import Guestkeeper.Toml

set_option autoImplicit false

/-! # Client configuration

Where the host's tools are and where state is kept. Each setting has a default and may be
given in the configuration file; all are absolute paths. -/

namespace Guestkeeper

/-- The names of the settings. -/
inductive Setting
  | hypervisor
  | control
  | loader
  | zfs
  | ifconfig
  | terminal
  | volumeRoot
  | machineDirectory
  | runtimeDirectory
  deriving DecidableEq, Repr

namespace Setting

/-- Every setting, in the order in which they are checked. -/
def all : List Setting :=
  [.hypervisor, .control, .loader, .zfs, .ifconfig, .terminal, .volumeRoot, .machineDirectory,
   .runtimeDirectory]

/-- The name in the configuration file. -/
def name : Setting → String
  | .hypervisor => "bhyve"
  | .control => "bhyvectl"
  | .loader => "grub-bhyve"
  | .zfs => "zfs"
  | .ifconfig => "ifconfig"
  | .terminal => "cu"
  | .volumeRoot => "zfs-root"
  | .machineDirectory => "machine-directory"
  | .runtimeDirectory => "runtime-directory"

def ofName? (name : String) : Option Setting := all.find? fun s => s.name = name

end Setting

structure Configuration where
  /-- Runs a guest. -/
  hypervisor : String := "/usr/sbin/bhyve"
  /-- Controls a running guest. -/
  control : String := "/usr/sbin/bhyvectl"
  /-- Loads a kernel into a guest. -/
  loader : String := "/usr/local/sbin/grub-bhyve"
  zfs : String := "/sbin/zfs"
  ifconfig : String := "/sbin/ifconfig"
  /-- Attaches a terminal to a serial line. -/
  terminal : String := "/usr/bin/cu"
  /-- Holds the volumes, in one directory for each machine. -/
  volumeRoot : String := "/storage/vm"
  /-- Holds the machine records. -/
  machineDirectory : String := "/var/db/bhyve-vm"
  /-- Holds the files written for the loader. -/
  runtimeDirectory : String := "/var/run/bhyve-vm"
  deriving DecidableEq, Repr

namespace Configuration

instance : Inhabited Configuration := ⟨{}⟩

def get (c : Configuration) : Setting → String
  | .hypervisor => c.hypervisor
  | .control => c.control
  | .loader => c.loader
  | .zfs => c.zfs
  | .ifconfig => c.ifconfig
  | .terminal => c.terminal
  | .volumeRoot => c.volumeRoot
  | .machineDirectory => c.machineDirectory
  | .runtimeDirectory => c.runtimeDirectory

def set (c : Configuration) (s : Setting) (value : String) : Configuration :=
  match s with
  | .hypervisor => { c with hypervisor := value }
  | .control => { c with control := value }
  | .loader => { c with loader := value }
  | .zfs => { c with zfs := value }
  | .ifconfig => { c with ifconfig := value }
  | .terminal => { c with terminal := value }
  | .volumeRoot => { c with volumeRoot := value }
  | .machineDirectory => { c with machineDirectory := value }
  | .runtimeDirectory => { c with runtimeDirectory := value }

/-- Every setting is an absolute path; the first that is not is reported. -/
def validate (c : Configuration) : Except Error Unit :=
  match Setting.all.find? fun s => !Path.isAbsolute (c.get s) with
  | some s => invalid (.relativeSetting s.name (c.get s))
  | none => .ok ()

/-- The defaults with the given entries in their place; unknown names are refused. -/
def ofEntries? (entries : List (String × String)) : Option Configuration :=
  entries.foldlM (fun c e => (Setting.ofName? e.1).map fun s => c.set s e.2) {}

/-- Reads the text of a configuration file. -/
def ofText (text : String) : Except Error Configuration :=
  match (Toml.entries? text).bind ofEntries? with
  | some c => c.validate.map fun _ => c
  | none => invalid .unreadableConfiguration

end Configuration

end Guestkeeper
