import Guestkeeper.Machine.Basic

set_option autoImplicit false

/-! # Merging and removing boot configurations

A boot configuration belongs to a machine whose devices it fits: it refers to devices that are
there, its disks are disks, and its kernel comes from one of its disks. Merging and removing
take all the given configurations or none. -/

namespace Guestkeeper

open Guestkeeper.Text

namespace Machine

def isStorage (m : Machine) (s : Slot) : Bool :=
  (m.device? s).any fun d => d.kind.storage?.isSome

/-- Checks a configuration against the machine's devices. -/
def validateBoot (m : Machine) (b : BootConfiguration) : Except Error Unit :=
  let missing := b.slots.entries.filter fun s => (m.device? s).isNone
  if isAllBlank b.name then invalid .emptyBootName
  else if !missing.isEmpty then .error (.nonexistent .device (missing.map Slot.text))
  else match b.disks.find? fun s => !m.isStorage s with
    | some s => invalid (.attachesOther b.name s)
    | none =>
      match b.kernelSlots.find? fun s => !b.disks.contains s with
      | some s => invalid (.loadsFromOther b.name s)
      | none => .ok ()

/-- What merging has gathered: the configurations so far and the names of the batch. -/
structure Merge where
  boots : Table BootConfiguration.name
  seen : List String

/-- Takes one configuration into the merge. -/
def mergeOne (m : Machine) (update : Bool) (acc : Merge) (b : BootConfiguration) :
    Except Error Merge :=
  if acc.seen.contains b.name then .error (.duplicate .bootConfiguration b.name)
  else if acc.boots.contains b.name && !update then
    .error (.duplicate .bootConfiguration b.name)
  else (m.validateBoot b).map fun _ => ⟨acc.boots.insert b, b.name :: acc.seen⟩

/-- Adds the configurations. One whose name is taken replaces the other if `update` is set and
is refused otherwise; the batch has no name twice. -/
def mergeBoots (m : Machine) (batch : List BootConfiguration) (update : Bool) :
    Except Error Machine :=
  (batch.foldlM (m.mergeOne update) ⟨m.boots, []⟩).map fun acc => { m with boots := acc.boots }

/-- Removes the named configurations. All names that are not there are reported. -/
def removeBoots (m : Machine) (names : List String) : Except Error Machine :=
  let missing := names.filter fun name => (m.boot? name).isNone
  if !missing.isEmpty then .error (.nonexistent .bootConfiguration missing)
  else .ok { m with boots := m.boots.filter fun b => !names.contains b.name }

end Machine

end Guestkeeper
