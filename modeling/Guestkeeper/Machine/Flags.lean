import Guestkeeper.Error
import Guestkeeper.Text.Fields

set_option autoImplicit false

/-! # Flags

A machine has eight toggles. Each enabled one puts a switch on the hypervisor's command line,
in the order of the table `Flag.all`. Changes are written as assignments `name=true` or
`name=false`; of several assignments to one flag the last counts. -/

namespace Guestkeeper

open Guestkeeper.Text

inductive Flag
  | yieldCpuOnHlt
  | generateAcpiTables
  | wireGuestMemory
  | rtcIsUtc
  | guestApicIsX2apic
  | disableMptableGeneration
  | forceVirtioPciMsi
  | includeGuestMemoryInCoreFiles
  deriving DecidableEq, Repr

namespace Flag

/-- Every flag, in the order of the switches on the command line. -/
def all : List Flag :=
  [.yieldCpuOnHlt, .generateAcpiTables, .wireGuestMemory, .rtcIsUtc, .guestApicIsX2apic,
   .disableMptableGeneration, .forceVirtioPciMsi, .includeGuestMemoryInCoreFiles]

def name : Flag → String
  | .yieldCpuOnHlt => "yield-cpu-on-hlt"
  | .generateAcpiTables => "generate-acpi-tables"
  | .wireGuestMemory => "wire-guest-memory"
  | .rtcIsUtc => "rtc-is-utc"
  | .guestApicIsX2apic => "guest-apic-is-x2apic"
  | .disableMptableGeneration => "disable-mptable-generation"
  | .forceVirtioPciMsi => "force-virtio-pci-msi"
  | .includeGuestMemoryInCoreFiles => "include-guest-memory-in-core-files"

/-- The name under which a machine record stores the flag. -/
def recordName : Flag → String
  | .yieldCpuOnHlt => "yield_cpu_on_hlt"
  | .generateAcpiTables => "generate_acpi_tables"
  | .wireGuestMemory => "wire_guest_memory"
  | .rtcIsUtc => "rtc_is_utc"
  | .guestApicIsX2apic => "guest_apic_is_x2apic"
  | .disableMptableGeneration => "disable_mptable_generation"
  | .forceVirtioPciMsi => "force_virtio_pci_msi"
  | .includeGuestMemoryInCoreFiles => "include_guest_memory_in_core_files"

/-- The hypervisor's switch that turns the flag on. -/
def switch : Flag → String
  | .yieldCpuOnHlt => "-H"
  | .generateAcpiTables => "-A"
  | .wireGuestMemory => "-S"
  | .rtcIsUtc => "-u"
  | .guestApicIsX2apic => "-x"
  | .disableMptableGeneration => "-Y"
  | .forceVirtioPciMsi => "-W"
  | .includeGuestMemoryInCoreFiles => "-C"

def ofName (name : String) : Except Error Flag :=
  match all.find? fun f => f.name = name with
  | some f => .ok f
  | none => invalid (.unknownFlag name)

end Flag

structure Flags where
  yieldCpuOnHlt : Bool := true
  generateAcpiTables : Bool := true
  wireGuestMemory : Bool := false
  rtcIsUtc : Bool := false
  guestApicIsX2apic : Bool := false
  disableMptableGeneration : Bool := false
  forceVirtioPciMsi : Bool := false
  includeGuestMemoryInCoreFiles : Bool := false
  deriving DecidableEq, Repr

instance : Inhabited Flags := ⟨{}⟩

/-- Assignments to flags, at most one to each. -/
structure FlagChanges where
  assignments : List (Flag × Bool) := []
  deriving DecidableEq, Repr

namespace FlagChanges

/-- Assigns `value`, in place of an earlier assignment to the flag. -/
def set (c : FlagChanges) (flag : Flag) (value : Bool) : FlagChanges :=
  ⟨c.assignments.filter (fun a => a.1 ≠ flag) ++ [(flag, value)]⟩

def isEmpty (c : FlagChanges) : Bool := c.assignments.isEmpty

/-- Reads one assignment. The value is checked before the name. -/
def assignment (text : String) : Except Error (Flag × Bool) :=
  match cut '=' text with
  | none => invalid (.flagForm text)
  | some (name, value) =>
    match value with
    | "true" => (Flag.ofName name).map (·, true)
    | "false" => (Flag.ofName name).map (·, false)
    | _ => invalid (.flagValue value)

/-- The changes with the assignment that the text is. -/
def assign (c : FlagChanges) (text : String) : Except Error FlagChanges :=
  (assignment text).map fun a => c.set a.1 a.2

/-- Reads assignments in order. -/
def ofTexts (texts : List String) : Except Error FlagChanges := texts.foldlM assign {}

end FlagChanges

namespace Flags

def get (f : Flags) : Flag → Bool
  | .yieldCpuOnHlt => f.yieldCpuOnHlt
  | .generateAcpiTables => f.generateAcpiTables
  | .wireGuestMemory => f.wireGuestMemory
  | .rtcIsUtc => f.rtcIsUtc
  | .guestApicIsX2apic => f.guestApicIsX2apic
  | .disableMptableGeneration => f.disableMptableGeneration
  | .forceVirtioPciMsi => f.forceVirtioPciMsi
  | .includeGuestMemoryInCoreFiles => f.includeGuestMemoryInCoreFiles

def set (f : Flags) (flag : Flag) (value : Bool) : Flags :=
  match flag with
  | .yieldCpuOnHlt => { f with yieldCpuOnHlt := value }
  | .generateAcpiTables => { f with generateAcpiTables := value }
  | .wireGuestMemory => { f with wireGuestMemory := value }
  | .rtcIsUtc => { f with rtcIsUtc := value }
  | .guestApicIsX2apic => { f with guestApicIsX2apic := value }
  | .disableMptableGeneration => { f with disableMptableGeneration := value }
  | .forceVirtioPciMsi => { f with forceVirtioPciMsi := value }
  | .includeGuestMemoryInCoreFiles => { f with includeGuestMemoryInCoreFiles := value }

/-- The flags after the changes; flags without an assignment keep their value. -/
def apply (f : Flags) (changes : FlagChanges) : Flags :=
  changes.assignments.foldl (fun f a => f.set a.1 a.2) f

def enabled (f : Flags) : List Flag := Flag.all.filter f.get

/-- The switches of the enabled flags, in their order. -/
def switches (f : Flags) : List String := f.enabled.map Flag.switch

theorem get_set (f : Flags) (a b : Flag) (v : Bool) :
    (f.set a v).get b = if a = b then v else f.get b := by
  cases a <;> cases b <;> rfl

end Flags

end Guestkeeper
