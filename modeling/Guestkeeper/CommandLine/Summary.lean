import Guestkeeper.Machine.Basic

set_option autoImplicit false

/-! # Listings

How a machine is shown to the operator: on one line, or with all its parts. -/

namespace Guestkeeper.CommandLine

open Guestkeeper.Text

/-- The text with blanks after it, up to a width. -/
def padded (width : Nat) (text : String) : String :=
  text ++ String.ofList (List.replicate (width - text.length) ' ')

/-- The line of a machine in the list of all. -/
def listingLine (m : Machine) : String := m.id.text ++ "  " ++ m.name

def cpuLine (t : Topology) : String :=
  s!"cpu:      {t.count} ({t.sockets} sockets, {t.cores} cores, {t.threads} threads)"

def pinLine (p : CpuPin) : String := s!"  pin:    host {p.host} -> guest {p.guest}"

def flagNames (f : Flags) : String := String.intercalate ", " (f.enabled.map Flag.name)

def deviceLine (d : Device) : String :=
  "  " ++ padded 8 d.slot.text ++ " " ++ d.kind.name ++ "  " ++ d.comment

def bootLine (b : BootConfiguration) : String := "  " ++ b.name ++ "  " ++ b.methodName

/-- The lines that describe a machine. -/
def descriptionLines (m : Machine) : List String :=
  ["id:       " ++ m.id.text, "name:     " ++ m.name] ++
    (if m.comment.isEmpty then [] else ["comment:  " ++ m.comment]) ++
    cpuLine m.cpu :: m.cpu.pins.entries.map pinLine ++
    ["memory:   " ++ decimal m.memory.size.toNat ++ "M", "flags:    " ++ flagNames m.flags,
     "devices:"] ++
    m.devices.entries.map deviceLine ++
    "boot configurations:" :: m.boots.entries.map bootLine

end Guestkeeper.CommandLine
