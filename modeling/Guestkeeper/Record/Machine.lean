import Guestkeeper.Json.Reader
import Guestkeeper.Json.Writer
import Guestkeeper.Machine.Basic
import Guestkeeper.Record.Devices

set_option autoImplicit false

/-! # Machine records

A machine is kept as a JSON text: an envelope with the schema and the machine. Reading checks
the text, then the schema, then the machine; in the envelope nothing but the schema and the
machine is looked at. The path a machine came from is no part of its record. -/

namespace Guestkeeper

open Guestkeeper.Record Guestkeeper.Text

namespace Machine

def toJson (m : Machine) : Json :=
  .object [("id", m.id.toJson), ("name", .text m.name), ("comment", .text m.comment),
    ("cpu", m.cpu.toJson), ("memory", m.memory.toJson), ("flags", m.flags.toJson),
    ("devices", .array (m.devices.entries.map Device.toJson)),
    ("boot_configurations", .array (m.boots.entries.map BootConfiguration.toJson))]

/-- A machine as it is written down, with lists instead of tables. -/
structure Written where
  id : Uuid
  name : String
  comment : String
  cpu : Topology
  memory : Memory
  flags : Flags
  devices : List Device
  boots : List BootConfiguration

def Written.ofJson : Json → Read Written :=
  part ["id", "name", "comment", "cpu", "memory", "flags", "devices", "boot_configurations"]
    (Written.mk <$> field "id" Uuid.ofJson <*> field "name" text <*>
      fieldWith "comment" text "" <*> field "cpu" Topology.ofJson <*>
      field "memory" Memory.ofJson <*> fieldWith "flags" Flags.ofJson {} <*>
      fieldWith "devices" (list Device.ofJson) [] <*>
      fieldWith "boot_configurations" (list BootConfiguration.ofJson) [])

/-- Takes one device into the table, in a slot that is not taken. -/
def storeDevice (t : Table Device.slot) (d : Device) : Except Error (Table Device.slot) := do
  d.kind.validate
  if t.contains d.slot then throw (.duplicate .deviceSlot d.slot.text)
  return t.insert d

/-- Takes one boot configuration into the table, under a name that is not taken. -/
def storeBoot (t : Table BootConfiguration.name) (b : BootConfiguration) :
    Except Error (Table BootConfiguration.name) :=
  if t.contains b.name then .error (.duplicate .bootConfiguration b.name) else .ok (t.insert b)

/-- The machine that was written down. -/
def Written.build (w : Written) : Except Error Machine := do
  checkName w.name
  let devices ← w.devices.foldlM storeDevice ∅
  checkVolumes devices.entries
  let boots ← w.boots.foldlM storeBoot ∅
  return ⟨w.id, w.name, w.comment, w.cpu, w.memory, w.flags, devices, boots, none⟩

def ofJson (j : Json) : Read Machine := do
  let w ← Written.ofJson j
  checked w.build

end Machine

namespace Record

/-- The schema of the records that are written and read. -/
def schema : String := "urn:bhyve-vm:machine:1"

/-- The text of a machine's record. -/
def encodeText (m : Machine) : String :=
  (Json.object [("schema", .text schema), ("machine", m.toJson)]).lines ++ "\n"

/-- A machine's record. -/
def encode (m : Machine) : ByteArray := (encodeText m).toUTF8

/-- The tokens of the schema and of the machine in an envelope. -/
structure Envelope where
  schema : List Json.Token
  machine : List Json.Token

open Json in
/-- Opens an envelope, given as an object. Other members must be well-formed. -/
def envelopeOfMembers? (members : List (String × List Token)) : Option Envelope :=
  let others := members.filter fun m => m.1 ≠ "schema" && m.1 ≠ "machine"
  if others.all fun m => (ofTokens? (.skip m.2.length) m.2).isSome then
    match members.filter fun m => m.1 = "schema", members.filter fun m => m.1 = "machine" with
    | [s], [m] => some ⟨s.2, m.2⟩
    | _, _ => none
  else none

open Json in
/-- Opens an envelope, which may also be an array of the schema and the machine. -/
def envelope? (tokens : List Token) : Option Envelope :=
  match tokens with
  | .leftBrace :: rest =>
    if rest.getLast? = some .rightBrace then
      ((pieces rest.dropLast).mapM memberTokens?).bind envelopeOfMembers?
    else none
  | .leftBracket :: rest =>
    if rest.getLast? = some .rightBracket then
      match pieces rest.dropLast with
      | [s, m] => some ⟨s, m⟩
      | _ => none
    else none
  | _ => none

/-- How deep a machine may nest inside its envelope. -/
def machineDepth : Nat := Json.depthLimit - 1

/-- The schema and the machine of a record. -/
def open? (bytes : ByteArray) : Option (String × Json) := do
  let tokens ← Json.tokens? (symbols bytes)
  let e ← envelope? tokens
  let machine ← Json.ofTokens? (.full machineDepth) e.machine
  match e.schema with
  | [.text s] => return (s, machine)
  | _ => none

/-- Reads a machine's record. -/
def decode (bytes : ByteArray) : Except Error Machine :=
  match open? bytes with
  | none => .error .malformedRecord
  | some (s, machine) =>
    if s ≠ schema then .error (.unsupportedSchema s)
    else match Machine.ofJson machine with
      | .ok m => .ok m
      | .error .malformed => .error .malformedRecord
      | .error (.rejected cause) => .error (.rejectedRecord cause)

end Record

end Guestkeeper
