import Guestkeeper.Machine.Flags
import Guestkeeper.Json.Basic
import Guestkeeper.Record.Reading
import Guestkeeper.Slot.Reading
import Guestkeeper.Machine.Topology

set_option autoImplicit false

/-! # Addresses, processors, memory and flags in records

Each of these has a written form in machine records. What is read passes the same checks as
what an operator gives. -/

namespace Guestkeeper

open Guestkeeper.Record

namespace Slot

def toJson (s : Slot) : Json := .text s.text

def ofJson (j : Json) : Read Slot := parsed ofText j

end Slot

namespace Uuid

def toJson (id : Uuid) : Json := .text id.text

def ofJson (j : Json) : Read Uuid := do
  match ofText? (← Record.text j) with
  | some id => return id
  | none => malformed

end Uuid

namespace CpuPin

def toJson (p : CpuPin) : Json :=
  .object [("host_cpu", .natural p.host.toNat), ("guest_cpu", .natural p.guest.toNat)]

def ofJson : Json → Read CpuPin :=
  part ["host_cpu", "guest_cpu"]
    (CpuPin.mk <$> field "host_cpu" word32 <*> field "guest_cpu" word32)

end CpuPin

namespace Topology

/-- The factors, their product and the pins, as they are written down. -/
structure Written where
  sockets : UInt32
  cores : UInt32
  threads : UInt32
  cpus : UInt32
  pins : List CpuPin

def Written.toJson (w : Written) : Json :=
  .object [("sockets", .natural w.sockets.toNat), ("cores", .natural w.cores.toNat),
    ("threads", .natural w.threads.toNat), ("cpus", .natural w.cpus.toNat),
    ("pins", .array (w.pins.map CpuPin.toJson))]

def written (t : Topology) : Written := ⟨t.sockets, t.cores, t.threads, t.count, t.pins.entries⟩

def toJson (t : Topology) : Json := t.written.toJson

def Written.ofJson : Json → Read Written :=
  part ["sockets", "cores", "threads", "cpus", "pins"]
    (Written.mk <$> field "sockets" word32 <*> field "cores" word32 <*>
      field "threads" word32 <*> field "cpus" word32 <*>
      fieldWith "pins" (list CpuPin.ofJson) [])

def Written.build (w : Written) : Except Error Topology := do
  let t ← ofFactors w.sockets w.cores w.threads (some w.cpus)
  t.withPins w.pins

def ofJson (j : Json) : Read Topology := do
  let w ← Written.ofJson j
  checked w.build

end Topology

namespace Memory

/-- The two numbers, as they are written down. -/
structure Written where
  gigabytes : UInt64
  megabytes : UInt64

def Written.toJson (w : Written) : Json :=
  .object [("gigabytes", .natural w.gigabytes.toNat), ("megabytes", .natural w.megabytes.toNat)]

def Written.ofJson : Json → Read Written :=
  part ["gigabytes", "megabytes"]
    (Written.mk <$> field "gigabytes" word64 <*> field "megabytes" word64)

def toJson (m : Memory) : Json := Written.toJson ⟨m.gigabytes, m.megabytes⟩

def ofJson (j : Json) : Read Memory := do
  let w ← Written.ofJson j
  checked (ofSizes w.gigabytes w.megabytes)

end Memory

namespace Flags

def toJson (f : Flags) : Json :=
  .object (Flag.all.map fun flag => (flag.recordName, .bool (f.get flag)))

/-- Reads one flag, which keeps its default where it is missing. -/
def flagField (flag : Flag) : FieldReader Bool :=
  fieldWith flag.recordName bool (Flags.get {} flag)

def ofJson : Json → Read Flags :=
  part (Flag.all.map Flag.recordName)
    (Flags.mk <$> flagField .yieldCpuOnHlt <*> flagField .generateAcpiTables <*>
      flagField .wireGuestMemory <*> flagField .rtcIsUtc <*>
      flagField .guestApicIsX2apic <*> flagField .disableMptableGeneration <*>
      flagField .forceVirtioPciMsi <*> flagField .includeGuestMemoryInCoreFiles)

end Flags

end Guestkeeper
