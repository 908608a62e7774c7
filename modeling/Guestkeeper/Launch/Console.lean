import Guestkeeper.Configuration
import Guestkeeper.Machine.Basic
import Guestkeeper.Host.Command

set_option autoImplicit false

/-! # Consoles

An operator attaches to a machine's console over its null-modem pair. That needs exactly one
line that is a console; the hypervisor's own standard streams count as one and cannot be
attached to. -/

namespace Guestkeeper.Console

/-- A console line and the slot of the bridge it is on. -/
structure Candidate where
  slot : Slot
  line : TtyBackend
  deriving DecidableEq

def candidatesOf (d : Device) : List Candidate :=
  match d.kind.lpc? with
  | some lpc => (lpc.backends.filter TtyBackend.isConsole).map fun line => ⟨d.slot, line⟩
  | none => []

/-- Every console line of the machine, by slot and name. -/
def candidates (m : Machine) : List Candidate := m.devices.entries.flatMap candidatesOf

/-- The console, if there is exactly one. -/
def find? (m : Machine) : Option Candidate :=
  match candidates m with
  | [only] => some only
  | _ => none

/-- The command that attaches a terminal to the console. -/
def command? (c : Configuration) (m : Machine) : Option Command :=
  match find? m with
  | some console =>
    if console.line.isNmdm then some ⟨c.terminal, ["-l", hostLine m.id]⟩ else none
  | none => none

end Guestkeeper.Console
