import Guestkeeper.Launch.Hypervisor

set_option autoImplicit false

/-! # The GRUB loader

For a kernel that GRUB loads, the loader runs before the hypervisor. It reads two files that
are written for it: a device map, which names the attached disks, and a script with the load
commands. Disks are named `hd0`, `hd1`, … and optical disks `cd0`, `cd1`, …, each in the order
of attachment. -/

namespace Guestkeeper.Launch

open Guestkeeper.Text

/-- A file that is written before the loader starts. -/
structure LoaderFile where
  path : String
  contents : String
  deriving DecidableEq, Repr

structure Loader where
  files : List LoaderFile
  command : Command
  deriving DecidableEq, Repr

/-- The directory of a machine's loader files. -/
def loaderDirectory (c : Configuration) (m : Machine) : String :=
  Path.join (Path.join c.runtimeDirectory m.id.text) "grub"

/-- An attached disk with the loader's name for it. -/
structure Drive where
  slot : Slot
  optical : Bool
  /-- The number among the drives of the same sort. -/
  index : Nat
  path : String
  deriving DecidableEq, Repr

def Drive.name (d : Drive) : String := (if d.optical then "cd" else "hd") ++ decimal d.index

/-- The drives of the attached disks, given the numbers of disks and of optical disks that come
before them. -/
def drivesFrom (c : Configuration) (m : Machine) (b : BootConfiguration) :
    Nat → Nat → List Slot → Except Error (List Drive)
  | _, _, [] => .ok []
  | disks, opticals, s :: rest =>
    match m.device? s with
    | none => .error (.nonexistent .device [s.text])
    | some device =>
      match device.kind.storage? with
      | none => invalid (.attachedNotStorage s b.name)
      | some storage => do
        let path ← storage.target c.volumeRoot m.id s.deviceId
        if device.kind.isOptical then
          let more ← drivesFrom c m b disks (opticals + 1) rest
          return ⟨s, true, opticals, path⟩ :: more
        else
          let more ← drivesFrom c m b (disks + 1) opticals rest
          return ⟨s, false, disks, path⟩ :: more

def drives (c : Configuration) (m : Machine) (b : BootConfiguration) :
    Except Error (List Drive) := drivesFrom c m b 0 0 b.disks

/-- A path on the drive in a slot, as the loader writes it. Optical disks have no
partitions. -/
def locate (drives : List Drive) (s : Slot) (partition path : String) : Except Error String :=
  match drives.find? fun d => d.slot = s with
  | none => invalid (.notAttached s)
  | some d =>
    if d.optical then .ok ("(" ++ d.name ++ ")" ++ path)
    else .ok ("(" ++ d.name ++ "," ++ partition ++ ")" ++ path)

/-- A kernel argument as a word of the script. A quoted word may not span lines. -/
def kernelArgument (argument : String) : Except Error String :=
  if hasControl argument then invalid (.controlInArgument argument) else .ok (quote argument)

/-- The lines of the script. -/
def scriptLines (drives : List Drive) : Kernel → Except Error (List String)
  | .openBsd path disk => do
    let kernel ← locate drives disk "openbsd1" path
    return ["kopenbsd -h com0 " ++ kernel, "boot"]
  | .linux path disk arguments initrd initrdDisk => do
    let kernel ← locate drives disk "msdos1" path
    let words ← arguments.mapM kernelArgument
    let ramdisk ← locate drives initrdDisk "msdos1" initrd
    return [String.intercalate " " ("linux" :: kernel :: words), "initrd " ++ ramdisk, "boot"]

/-- Lines as a text in which each ends in a newline. -/
def lineText (lines : List String) : String := String.join (lines.map (· ++ "\n"))

def deviceMap (drives : List Drive) : String :=
  lineText (drives.map fun d => "(" ++ d.name ++ ") " ++ d.path)

/-- The loader's files and command for a boot configuration that uses it. -/
def loader (c : Configuration) (m : Machine) (b : BootConfiguration) : Except Error Loader :=
  match b.method with
  | .uefi _ => invalid (.notGrub b.name)
  | .grub kernel => do
    let found ← drives c m b
    let directory := loaderDirectory c m
    let mapPath := Path.join directory "device.map"
    let script ← scriptLines found kernel
    return {
      files := [⟨mapPath, deviceMap found⟩, ⟨Path.join directory "grub.cfg", lineText script⟩]
      command := ⟨c.loader, ["-m", mapPath, "-r", "host", "-d", directory, "-M",
        memoryArgument m.memory, m.hypervisorName]⟩ }

/-- What is run to start a machine: the loader, if there is one, and then the hypervisor. -/
structure Plan where
  loader : Option Loader
  hypervisor : Command
  deriving DecidableEq, Repr

/-- The plan for starting a machine with a boot configuration. -/
def plan (c : Configuration) (m : Machine) (b : BootConfiguration) : Except Error Plan := do
  let first ← match b.method with
    | .grub _ => (loader c m b).map some
    | .uefi _ => pure none
  let arguments ← hypervisorArguments c m b
  return ⟨first, ⟨c.hypervisor, arguments⟩⟩

end Guestkeeper.Launch
