import Guestkeeper.Error
import Guestkeeper.Text.Fields

set_option autoImplicit false

/-! # Serial lines

The LPC bridge of a machine has serial lines, at most one under each name. A line ends in a
file, in one side of a null-modem pair named after the machine, or in the hypervisor's own
standard streams; the firmware is attached the same way under the name `bootrom`. -/

namespace Guestkeeper

open Guestkeeper.Text

inductive TtyName
  | com1
  | com2
  | bootrom
  deriving DecidableEq, Repr

namespace TtyName

def index : TtyName → Nat
  | .com1 => 0
  | .com2 => 1
  | .bootrom => 2

theorem index_injective {a b : TtyName} (h : a.index = b.index) : a = b := by
  cases a <;> cases b <;> first | rfl | cases h

/-- Names are in the order `com1`, `com2`, `bootrom`. -/
instance : Ord TtyName := ⟨compareOn index⟩

instance : Std.TransOrd TtyName := inferInstanceAs (Std.TransCmp (compareOn index))

instance : Std.LawfulEqOrd TtyName where
  eq_of_compare {a b} h :=
    index_injective (Std.compare_eq_iff_eq.1 (show compare a.index b.index = .eq from h))

def text : TtyName → String
  | .com1 => "com1"
  | .com2 => "com2"
  | .bootrom => "bootrom"

def ofText (text : String) : Except Error TtyName :=
  match text with
  | "com1" => .ok .com1
  | "com2" => .ok .com2
  | "bootrom" => .ok .bootrom
  | _ => invalid (.ttyName text)

end TtyName

/-- The side of a machine's null-modem pair that the hypervisor opens. -/
def guestLine (id : Uuid) : String := "/dev/nmdm_" ++ id.text ++ "_A"

/-- The side of a machine's null-modem pair that the operator's terminal opens. -/
def hostLine (id : Uuid) : String := "/dev/nmdm_" ++ id.text ++ "_B"

inductive TtyBackend
  | file (name : TtyName) (path : String)
  | nmdm (name : TtyName)
  | stdio (name : TtyName)
  deriving DecidableEq, Repr

namespace TtyBackend

def name : TtyBackend → TtyName
  | .file name _ | .nmdm name | .stdio name => name

/-- Whether an operator can attach to the line. -/
def isConsole : TtyBackend → Bool
  | .nmdm _ | .stdio _ => true
  | .file _ _ => false

def isNmdm : TtyBackend → Bool
  | .nmdm _ => true
  | _ => false

/-- The value of the hypervisor's option for the line. -/
def argument (id : Uuid) : TtyBackend → String
  | .file name path => name.text ++ "," ++ path
  | .nmdm name => name.text ++ "," ++ guestLine id
  | .stdio name => name.text ++ ",stdio"

/-- Reads `file;<name>;<path>`, `nmdm;<name>` or `stdio;<name>`. The name is read before the
number of fields is looked at. -/
def ofText (text : String) : Except Error TtyBackend :=
  match fields ';' text with
  | kind :: name :: more => do
    let name ← TtyName.ofText name
    match kind, more with
    | "file", [path] => if path.isEmpty then invalid (.ttyForm text) else return .file name path
    | "nmdm", [] => return .nmdm name
    | "stdio", [] => return .stdio name
    | _, _ => invalid (.ttyForm text)
  | _ => invalid (.ttyWithoutName text)

end TtyBackend

/-- The serial lines of the LPC bridge, in the order of their names. The firmware is a file, and
there is one null-modem pair for a machine. -/
structure Lpc where
  lines : Table TtyBackend.name
  firmware_file : (lines.find? .bootrom).all (fun line => !line.isConsole) = true
  nmdm_le_one : (lines.entries.filter TtyBackend.isNmdm).length ≤ 1
  deriving DecidableEq

namespace Lpc

/-- Adds one line, under a name that is not taken. -/
def addLine (lines : Table TtyBackend.name) (line : TtyBackend) :
    Except Error (Table TtyBackend.name) :=
  if lines.contains line.name then .error (.duplicate .ttyDevice line.name.text)
  else .ok (lines.insert line)

/-- The bridge with these lines. A console in place of the firmware is refused before a second
null-modem pair is. -/
def ofLines (lines : List TtyBackend) : Except Error Lpc := do
  let table ← lines.foldlM addLine ∅
  if hf : (table.find? .bootrom).all (fun line => !line.isConsole) = true then
    if hn : (table.entries.filter TtyBackend.isNmdm).length ≤ 1 then return ⟨table, hf, hn⟩
    else invalid (.severalNmdm
      ((table.entries.filter TtyBackend.isNmdm).map fun line => line.name.text))
  else invalid .bootromBackend

def get? (l : Lpc) (name : TtyName) : Option TtyBackend := l.lines.find? name

def backends (l : Lpc) : List TtyBackend := l.lines.entries

end Lpc

end Guestkeeper
