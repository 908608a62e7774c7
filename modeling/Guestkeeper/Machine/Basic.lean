import Guestkeeper.Machine.BootEntry
import Guestkeeper.Device
import Guestkeeper.Machine.Flags
import Guestkeeper.Machine.Topology
import Guestkeeper.Text.Blank

set_option autoImplicit false

/-! # Machines

A machine is a value: an identifier, a name, processors, memory, flags, the devices by slot
and the boot configurations by name. Operations give a new machine and leave the old one as it
was. A machine that was read from a record remembers the record's path. -/

namespace Guestkeeper

open Guestkeeper.Text

structure Machine where
  id : Uuid
  name : String
  comment : String
  cpu : Topology
  memory : Memory
  flags : Flags
  devices : Table Device.slot
  boots : Table BootConfiguration.name
  source : Option String
  deriving DecidableEq

/-- What a new machine is defined from. -/
structure Definition where
  id : Uuid
  name : String
  comment : String := ""
  cpu : Topology := Topology.single
  memory : Memory := Memory.none
  flags : FlagChanges := {}

/-- Changes to a machine's own properties; what is not given stays. -/
structure Changes where
  name : Option String := none
  comment : Option String := none
  cpu : Option Topology := none
  memory : Option Memory := none
  flags : FlagChanges := {}

namespace Machine

/-- A name is more than blanks and has no control characters. -/
def checkName (name : String) : Except Error Unit :=
  if isAllBlank name then invalid .emptyMachineName
  else if hasControl name then invalid (.controlInMachineName name)
  else .ok ()

/-- The host bridge that every new machine has. -/
def firstBridge : Device := ⟨.hostBridge, "", .hostBridge .default⟩

/-- A new machine, with nothing but a host bridge. -/
def define (d : Definition) : Except Error Machine := do
  checkName d.name
  return {
    id := d.id
    name := d.name
    comment := d.comment
    cpu := d.cpu
    memory := d.memory
    flags := Flags.apply {} d.flags
    devices := (∅ : Table Device.slot).insert firstBridge
    boots := ∅
    source := none }

def apply (m : Machine) (c : Changes) : Except Error Machine := do
  match c.name with
  | some name => checkName name
  | none => pure ()
  return { m with
    name := c.name.getD m.name
    comment := c.comment.getD m.comment
    cpu := c.cpu.getD m.cpu
    memory := c.memory.getD m.memory
    flags := m.flags.apply c.flags }

def withSource (m : Machine) (path : String) : Machine := { m with source := some path }

def device? (m : Machine) (s : Slot) : Option Device := m.devices.find? s

def boot? (m : Machine) (name : String) : Option BootConfiguration := m.boots.find? name

/-- The name under which the hypervisor knows the machine. -/
def hypervisorName (m : Machine) : String := m.id.text

/-- The first LPC bridge in slot order. -/
def lpc? (m : Machine) : Option Lpc := m.devices.entries.findSome? fun d => d.kind.lpc?

/-- The boot configurations that refer to a slot, in the order of their names. -/
def referencesTo (m : Machine) (s : Slot) : List SlotReference :=
  (m.boots.entries.filter fun b => b.refersTo s).map fun b => ⟨s, b.name⟩

end Machine

end Guestkeeper
