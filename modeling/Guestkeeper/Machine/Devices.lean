import Guestkeeper.Machine.Basic

set_option autoImplicit false

/-! # Adding and deleting devices

The rules for a machine's devices: slot `0:0:0` belongs to the host bridge and the host bridge
to it; there is at most one LPC bridge, and it sits on bus 0; no two volumes share a path; and
a device that a boot configuration refers to stays, unless another disk takes its place. -/

namespace Guestkeeper

/-- A device to be added. Without a slot, the first free one is taken. -/
structure Addition where
  kind : DeviceKind
  comment : String := ""
  slot : Option Slot := none
  /-- Whether a device in the given slot is replaced. -/
  replace : Bool := false

namespace Machine

/-- The first free slot among those handed out automatically. -/
def freeSlot (m : Machine) : Except Error Slot :=
  match Slot.automatic.find? fun s => (m.device? s).isNone with
  | some s => .ok s
  | none => .error .slotsExhausted

/-- The slot for an addition. -/
def place (m : Machine) (a : Addition) : Except Error Slot :=
  match a.slot with
  | none => m.freeSlot
  | some s =>
    if (m.device? s).isSome && !a.replace then .error (.duplicate .deviceSlot s.text) else .ok s

/-- The host bridge's slot holds a host bridge, and no other slot does. -/
def checkBridge (s : Slot) (kind : DeviceKind) : Except Error Unit :=
  match decide (s = .hostBridge), kind.isHostBridge with
  | true, false => invalid (.reservedForHostBridge s)
  | false, true => invalid (.hostBridgeElsewhere s)
  | _, _ => .ok ()

/-- An LPC bridge sits on bus 0, and no other device is one. -/
def checkLpc (m : Machine) (s : Slot) (kind : DeviceKind) : Except Error Unit :=
  if kind.lpc?.isNone then .ok ()
  else if s.bus.val ≠ 0 then invalid (.lpcOffBusZero s)
  else match m.devices.entries.find? fun d => d.kind.lpc?.isSome && d.slot ≠ s with
    | some other => .error (.duplicate .lpcDevice other.slot.text)
    | none => .ok ()

/-- A slot that a boot configuration refers to takes nothing but a disk. -/
def checkReferences (m : Machine) (s : Slot) (kind : DeviceKind) : Except Error Unit :=
  if kind.storage?.isSome || (m.referencesTo s).isEmpty then .ok ()
  else .error (.referencedByBoot (m.referencesTo s))

/-- The machine with a device in its slot, without any check. -/
def withDevice (m : Machine) (d : Device) : Machine := { m with devices := m.devices.insert d }

/-- Adds a device and gives the slot it landed in. -/
def addDevice (m : Machine) (a : Addition) : Except Error (Machine × Slot) := do
  a.kind.validate
  let s ← m.place a
  checkBridge s a.kind
  m.checkLpc s a.kind
  m.checkReferences s a.kind
  let added := m.withDevice ⟨s, a.comment, a.kind⟩
  checkVolumes added.devices.entries
  return (added, s)

/-- The machine without the devices in these slots, without any check. -/
def withoutDevices (m : Machine) (slots : List Slot) : Machine :=
  { m with devices := m.devices.filter fun d => !slots.contains d.slot }

/-- Deletes devices. Free slots are reported first, all of them; then the host bridge's; then
every boot configuration that refers to one of the slots. -/
def deleteDevices (m : Machine) (slots : List Slot) : Except Error Machine :=
  let missing := slots.filter fun s => (m.device? s).isNone
  let references := slots.flatMap m.referencesTo
  if !missing.isEmpty then .error (.nonexistent .device (missing.map Slot.text))
  else if slots.contains .hostBridge then invalid .hostBridgeDeletion
  else if !references.isEmpty then .error (.referencedByBoot references)
  else .ok (m.withoutDevices slots)

end Machine

end Guestkeeper
