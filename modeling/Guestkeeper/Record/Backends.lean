import Guestkeeper.Device
import Guestkeeper.Record.Scalars

set_option autoImplicit false

/-! # Backends in records

The written forms of serial lines, storage, network interfaces and framebuffers. A backend
with several kinds carries its kind under `type`. -/

namespace Guestkeeper

open Guestkeeper.Record

namespace TtyName

def toJson (n : TtyName) : Json := .text n.text

def words : List (String × TtyName) := [("com1", .com1), ("com2", .com2), ("bootrom", .bootrom)]

def ofJson (setting : Record.Setting) : Json → Read TtyName := word setting words

end TtyName

namespace TtyBackend

def toJson : TtyBackend → Json
  | .file name path => .object [("type", .text "file"), ("name", name.toJson), ("path", .text path)]
  | .nmdm name => .object [("type", .text "nmdm"), ("name", name.toJson)]
  | .stdio name => .object [("type", .text "stdio"), ("name", name.toJson)]

def nameField : FieldReader TtyName := field "name" (TtyName.ofJson .copied)

def ofJson (setting : Record.Setting) : Json → Read TtyBackend :=
  tagged setting "type" [
    ("file", part ["name", "path"] (TtyBackend.file <$> nameField <*> field "path" text)),
    ("nmdm", part ["name"] (TtyBackend.nmdm <$> nameField)),
    ("stdio", part ["name"] (TtyBackend.stdio <$> nameField))]

end TtyBackend

namespace Lpc

def toJson (l : Lpc) : Json := .array (l.backends.map TtyBackend.toJson)

def ofJson (setting : Record.Setting) (j : Json) : Read Lpc := do
  checked (ofLines (← list (TtyBackend.ofJson setting) j))

end Lpc

namespace OpenOption

def recordName : OpenOption → String
  | .noCache => "no-cache"
  | .synchronous => "synchronous"
  | .readOnly => "read-only"

def words : List (String × OpenOption) :=
  [("no-cache", .noCache), ("synchronous", .synchronous), ("read-only", .readOnly)]

def ofJson : Json → Read OpenOption := word .copied words

end OpenOption

/-- A number that may be missing. -/
def optionalNatural : Option Nat → Json
  | some n => .natural n
  | none => .null

namespace SectorSizes

def toJson (s : SectorSizes) : Json :=
  .object [("logical", .natural s.logical.toNat),
    ("physical", optionalNatural (s.physical.map UInt32.toNat))]

def ofJson : Json → Read SectorSizes :=
  part ["logical", "physical"]
    (SectorSizes.mk <$> field "logical" word32 <*> fieldIfNamed "physical" word32)

end SectorSizes

namespace StorageBackend

def toJson : StorageBackend → Json
  | .file path options sectors =>
    .object [("type", .text "file"), ("path", .text path),
      ("options", .array (options.entries.map fun o => .text o.recordName)),
      ("sector_sizes", (sectors.map SectorSizes.toJson).getD .null)]
  | .volume expected =>
    .object [("type", .text "zfs-volume"),
      ("expected_size", optionalNatural (expected.map UInt64.toNat))]
  | .scsi => .object [("type", .text "scsi")]

/-- A file with the options in any order and number. -/
def ofFileFields (path : String) (options : List OpenOption) (sectors : Option SectorSizes) :
    StorageBackend := .file path (Table.ofList options) sectors

def ofJson (setting : Record.Setting) : Json → Read StorageBackend :=
  tagged setting "type" [
    ("file", part ["path", "options", "sector_sizes"]
      (ofFileFields <$> field "path" text <*> fieldWith "options" (list OpenOption.ofJson) [] <*>
        fieldWith "sector_sizes" (optional SectorSizes.ofJson) none)),
    ("zfs-volume", part ["expected_size"]
      (StorageBackend.volume <$> fieldWith "expected_size" (optional word64) none)),
    ("scsi", emptyPart .scsi)]

end StorageBackend

namespace MacAddress

def toJson (a : MacAddress) : Json := .text a.text

def ofJson (j : Json) : Read MacAddress := parsed ofText j

end MacAddress

namespace NetworkBackend

def recordName : InterfaceKind → String
  | .tap => "tap"
  | .vmnet => "vm-net"

def toJson (b : NetworkBackend) : Json :=
  .object [("type", .text (recordName b.kind)), ("name", .text b.interface.name),
    ("host_mac", b.interface.hostMac.toJson), ("guest_mac", b.interface.guestMac.toJson),
    ("groups", .array (b.interface.groups.map .text))]

def interfacePart : Json → Read Interface :=
  part ["name", "host_mac", "guest_mac", "groups"]
    (Interface.mk <$> field "name" text <*> field "host_mac" MacAddress.ofJson <*>
      field "guest_mac" MacAddress.ofJson <*> fieldWith "groups" (list text) [])

/-- Reads a backend; its names are checked where it is put to use. -/
def ofJson (setting : Record.Setting) : Json → Read NetworkBackend :=
  tagged setting "type" [
    ("tap", fun j => (interfacePart j).map (NetworkBackend.mk .tap)),
    ("vm-net", fun j => (interfacePart j).map (NetworkBackend.mk .vmnet))]

end NetworkBackend

namespace IpAddress

def toJson (a : IpAddress) : Json := .text a.text

def ofJson (j : Json) : Read IpAddress := do
  match ofText? (← Record.text j) with
  | some a => return a
  | none => malformed

end IpAddress

namespace VgaMode

def words : List (String × VgaMode) := [("on", .on), ("off", .off), ("io", .io)]

def ofJson (setting : Record.Setting) : Json → Read VgaMode := word setting words

end VgaMode

namespace Framebuffer

def toJson (f : Framebuffer) : Json :=
  .object [("width", .natural f.width.toNat), ("height", .natural f.height.toNat),
    ("listen_address", f.address.toJson), ("listen_port", .natural f.port.toNat),
    ("vga_mode", .text f.vga.text), ("wait_for_vnc", .bool f.wait)]

def ofJson (setting : Record.Setting) : Json → Read Framebuffer :=
  part ["width", "height", "listen_address", "listen_port", "vga_mode", "wait_for_vnc"]
    (Framebuffer.mk <$> field "width" word32 <*> field "height" word32 <*>
      field "listen_address" IpAddress.ofJson <*> field "listen_port" word16 <*>
      field "vga_mode" (VgaMode.ofJson setting) <*> field "wait_for_vnc" bool)

end Framebuffer

namespace HostAddress

def toJson (a : HostAddress) : Json := .text a.text

def ofJson (j : Json) : Read HostAddress := parsed ofText j

end HostAddress

end Guestkeeper
