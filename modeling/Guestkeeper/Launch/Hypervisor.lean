import Guestkeeper.Configuration
import Guestkeeper.Machine.Basic
import Guestkeeper.Host.Command

set_option autoImplicit false

/-! # The hypervisor's command line

A machine and one of its boot configurations determine the arguments that the hypervisor is
started with: processors, memory, switches, pins, one option for each device and for each
serial line, and the machine's identifier, which is also its name for the hypervisor. -/

namespace Guestkeeper.Launch

open Guestkeeper.Text

/-- The value of the option for the processors. -/
def cpuArgument (t : Topology) : String :=
  s!"cpus={t.count},sockets={t.sockets},cores={t.cores},threads={t.threads}"

def memoryArgument (m : Memory) : String := decimal m.size.toNat ++ "M"

def pinArgument (p : CpuPin) : String := decimal p.guest.toNat ++ ":" ++ decimal p.host.toNat

/-- The path and the options of a device's storage, if it has any. -/
def storageArguments (root : String) (id : Uuid) (d : Device) : Except Error (List String) :=
  match d.kind.storage? with
  | none => .ok []
  | some storage => do
    let path ← storage.target root id d.slot.deviceId
    return path :: storage.arguments

/-- The value of the option for a device: its slot, the hypervisor's name for its kind, and
its options. -/
def deviceArgument (root : String) (id : Uuid) (d : Device) : Except Error String := do
  let storage ← storageArguments root id d
  return String.intercalate "," (d.slot.text :: d.kind.emulation :: storage ++ d.kind.arguments)

/-- An option with each of its values. -/
def repeated (option : String) (values : List String) : List String :=
  values.flatMap fun v => [option, v]

/-- The firmware option of a boot configuration. Firmware needs an LPC bridge that has none of
its own. -/
def firmwareArguments (lpc? : Option Lpc) (b : BootConfiguration) :
    Except Error (List String) :=
  match b.method with
  | .grub _ => .ok []
  | .uefi firmware =>
    match lpc? with
    | none => invalid (.firmwareWithoutLpc b.name)
    | some lpc =>
      if (lpc.get? .bootrom).isSome then invalid (.secondBootrom b.name)
      else .ok ["-l", "bootrom," ++ firmware]

/-- The hypervisor's arguments for a machine that is started with a boot configuration. -/
def hypervisorArguments (c : Configuration) (m : Machine) (b : BootConfiguration) :
    Except Error (List String) := do
  let devices ← m.devices.entries.mapM (deviceArgument c.volumeRoot m.id)
  let lines := (m.lpc?.map Lpc.backends).getD []
  let firmware ← firmwareArguments m.lpc? b
  return ["-c", cpuArgument m.cpu, "-m", memoryArgument m.memory] ++ m.flags.switches ++
    repeated "-p" (m.cpu.pins.entries.map pinArgument) ++
    repeated "-s" devices ++
    repeated "-l" (lines.map (TtyBackend.argument m.id)) ++
    firmware ++ ["-U", m.id.text, m.hypervisorName]

/-- The command that destroys the running guest of a machine. -/
def killCommand (c : Configuration) (m : Machine) : Command :=
  ⟨c.control, ["--vm=" ++ m.hypervisorName, "--destroy"]⟩

end Guestkeeper.Launch
