import Guestkeeper.Slot

set_option autoImplicit false

/-! # Boot configurations

A machine has named ways to boot: with UEFI firmware, or with the GRUB loader, which loads a
kernel from a disk before the hypervisor starts. Each lists the disks that the loader sees
and refers to devices by their slots. -/

namespace Guestkeeper

/-- What the loader loads, and from which disks. -/
inductive Kernel
  | openBsd (path : String) (disk : Slot)
  | linux (path : String) (disk : Slot) (arguments : List String)
      (initrd : String) (initrdDisk : Slot)
  deriving DecidableEq, Repr

def Kernel.slots : Kernel → List Slot
  | .openBsd _ disk => [disk]
  | .linux _ disk _ _ initrdDisk => [disk, initrdDisk]

/-- How a machine is started. -/
inductive BootMethod
  | grub (kernel : Kernel)
  | uefi (firmware : String)
  deriving DecidableEq, Repr

structure BootConfiguration where
  name : String
  comment : String
  method : BootMethod
  disks : List Slot
  deriving DecidableEq, Repr

namespace BootConfiguration

/-- The slots that the kernel is loaded from. -/
def kernelSlots (b : BootConfiguration) : List Slot :=
  match b.method with
  | .grub kernel => kernel.slots
  | .uefi _ => []

/-- Every slot that the configuration refers to, in slot order. -/
def slots (b : BootConfiguration) : Table (fun s : Slot => s) :=
  Table.ofList (b.disks ++ b.kernelSlots)

def refersTo (b : BootConfiguration) (s : Slot) : Bool :=
  b.disks.contains s || b.kernelSlots.contains s

/-- The word for the method in records and listings. -/
def methodName (b : BootConfiguration) : String :=
  match b.method with
  | .grub _ => "grub-bhyve"
  | .uefi _ => "uefi"

end BootConfiguration

end Guestkeeper
