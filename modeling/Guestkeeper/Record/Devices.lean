import Guestkeeper.Machine.BootEntry
import Guestkeeper.Record.Backends

set_option autoImplicit false

/-! # Devices and boot configurations in records

A device is one flat object: its slot, its comment, its kind, and the fields of the kind. A
boot configuration carries its method under `type`, and so does the kernel of one that uses
the loader. -/

namespace Guestkeeper

open Guestkeeper.Record

namespace HostBridgeVendor

def words : List (String × HostBridgeVendor) := [("default", .default), ("amd", .amd)]

def ofJson : Json → Read HostBridgeVendor := word .copied words

end HostBridgeVendor

namespace DeviceKind

/-- The fields of a kind, besides its name. -/
def members : DeviceKind → List (String × Json)
  | .hostBridge vendor => [("vendor", .text vendor.text)]
  | .virtioNetwork backend | .e1000Network backend => [("backend", backend.toJson)]
  | .virtioBlock backend | .ahciDisk backend | .ahciOpticalDisk backend =>
    [("backend", backend.toJson)]
  | .lpc bridge => [("lpc", bridge.toJson)]
  | .passthru address => [("host_slot", address.toJson)]
  | .framebuffer screen => [("framebuffer", screen.toJson)]
  | .xhciUsbTablet => []

/-- The kind with its name first. -/
def toMembers (k : DeviceKind) : List (String × Json) := ("kind", .text k.name) :: k.members

def storagePart (make : StorageBackend → DeviceKind) : Json → Read DeviceKind :=
  part ["backend"] (make <$> field "backend" (StorageBackend.ofJson .copied))

def networkPart (make : NetworkBackend → DeviceKind) : Json → Read DeviceKind :=
  part ["backend"] (make <$> field "backend" (NetworkBackend.ofJson .copied))

def ofJson : Json → Read DeviceKind :=
  tagged .copied "kind" [
    ("host-bridge", part ["vendor"] (DeviceKind.hostBridge <$>
      field "vendor" HostBridgeVendor.ofJson)),
    ("virtio-network", networkPart .virtioNetwork),
    ("virtio-block", storagePart .virtioBlock),
    ("ahci-disk", storagePart .ahciDisk),
    ("ahci-optical-disk", storagePart .ahciOpticalDisk),
    ("lpc", part ["lpc"] (DeviceKind.lpc <$> field "lpc" (Lpc.ofJson .copied))),
    ("passthru", part ["host_slot"] (DeviceKind.passthru <$>
      field "host_slot" HostAddress.ofJson)),
    ("framebuffer", part ["framebuffer"] (DeviceKind.framebuffer <$>
      field "framebuffer" (Framebuffer.ofJson .copied))),
    ("xhci-usb-tablet", emptyPart .xhciUsbTablet),
    ("e1000-network", networkPart .e1000Network)]

end DeviceKind

namespace Device

def toJson (d : Device) : Json :=
  .object (("slot", d.slot.toJson) :: ("comment", .text d.comment) :: d.kind.toMembers)

/-- Reads a device. The slot and the comment are read before the kind, which gets the other
members. -/
def ofJson : Json → Read Device
  | .object members => do
    let placed ← part ["slot", "comment"]
      (Prod.mk <$> field "slot" Slot.ofJson <*> fieldWith "comment" text "") (.object members)
    let kind ← DeviceKind.ofJson
      (.object (members.filter fun m => m.1 ≠ "slot" && m.1 ≠ "comment"))
    return ⟨placed.1, placed.2, kind⟩
  | _ => malformed

end Device

namespace Kernel

def toJson : Kernel → Json
  | .openBsd path disk =>
    .object [("type", .text "open-bsd"), ("kernel_path", .text path), ("boot_device", disk.toJson)]
  | .linux path disk arguments initrd initrdDisk =>
    .object [("type", .text "linux"), ("kernel_path", .text path), ("kernel_device", disk.toJson),
      ("arguments", .array (arguments.map .text)), ("initrd_path", .text initrd),
      ("initrd_device", initrdDisk.toJson)]

def ofJson : Json → Read Kernel :=
  tagged .copied "type" [
    ("open-bsd", part ["kernel_path", "boot_device"]
      (Kernel.openBsd <$> field "kernel_path" text <*> field "boot_device" Slot.ofJson)),
    ("linux", part ["kernel_path", "kernel_device", "arguments", "initrd_path", "initrd_device"]
      (Kernel.linux <$> field "kernel_path" text <*> field "kernel_device" Slot.ofJson <*>
        fieldWith "arguments" (list text) [] <*> field "initrd_path" text <*>
        field "initrd_device" Slot.ofJson))]

end Kernel

namespace BootConfiguration

def diskToJson (s : Slot) : Json := .object [("slot", s.toJson)]

def diskOfJson : Json → Read Slot := part ["slot"] (id <$> field "slot" Slot.ofJson)

/-- The member that belongs to the method. -/
def methodMember : BootMethod → String × Json
  | .grub kernel => ("kernel", kernel.toJson)
  | .uefi firmware => ("firmware", .text firmware)

def toJson (b : BootConfiguration) : Json :=
  .object [("type", .text b.methodName), ("name", .text b.name), ("comment", .text b.comment),
    methodMember b.method, ("disks", .array (b.disks.map diskToJson))]

/-- Reads a configuration whose method stands in the given field. -/
def methodPart (name : String) (method : Json → Read BootMethod) :
    Json → Read BootConfiguration :=
  part ["name", "comment", name, "disks"]
    (BootConfiguration.mk <$> field "name" text <*> fieldWith "comment" text "" <*>
      field name method <*> fieldWith "disks" (list diskOfJson) [])

def ofJson : Json → Read BootConfiguration :=
  tagged .alone "type" [
    ("grub-bhyve", methodPart "kernel" fun j => (Kernel.ofJson j).map .grub),
    ("uefi", methodPart "firmware" fun j => (text j).map .uefi)]

end BootConfiguration

end Guestkeeper
