import Guestkeeper.Device.Framebuffer
import Guestkeeper.Device.Network
import Guestkeeper.Device.Storage
import Guestkeeper.Device.Tty

set_option autoImplicit false

/-! # Devices

A device is what sits in a slot of the guest: its kind with the backend on the host, and a
comment. The kind decides the hypervisor's name for the device and its options. -/

namespace Guestkeeper

open Guestkeeper.Text

inductive HostBridgeVendor
  | default
  | amd
  deriving DecidableEq, Repr

namespace HostBridgeVendor

def text : HostBridgeVendor → String
  | .default => "default"
  | .amd => "amd"

def ofText (text : String) : Except Error HostBridgeVendor :=
  match text with
  | "default" => .ok .default
  | "amd" => .ok .amd
  | _ => invalid (.unknownVendor text)

end HostBridgeVendor

/-- The address of a device of the host that is passed through to the guest. -/
structure HostAddress where
  bus : UInt32
  slot : UInt32
  function : UInt32
  deriving DecidableEq, Repr

namespace HostAddress

/-- Reads three numerals with slashes between them. -/
def ofText (text : String) : Except Error HostAddress :=
  match (fields '/' text).map readWord32 with
  | [.ok bus, .ok slot, .ok function] => .ok ⟨bus, slot, function⟩
  | _ => invalid (.hostSlotForm text)

def text (a : HostAddress) : String :=
  decimal a.bus.toNat ++ "/" ++ decimal a.slot.toNat ++ "/" ++ decimal a.function.toNat

end HostAddress

inductive DeviceKind
  | hostBridge (vendor : HostBridgeVendor)
  | virtioNetwork (backend : NetworkBackend)
  | virtioBlock (backend : StorageBackend)
  | ahciDisk (backend : StorageBackend)
  | ahciOpticalDisk (backend : StorageBackend)
  | lpc (bridge : Lpc)
  | passthru (address : HostAddress)
  | framebuffer (screen : Framebuffer)
  | xhciUsbTablet
  | e1000Network (backend : NetworkBackend)
  deriving DecidableEq

namespace DeviceKind

/-- The name of the kind in records and on the operator's command line. -/
def name : DeviceKind → String
  | .hostBridge _ => "host-bridge"
  | .virtioNetwork _ => "virtio-network"
  | .virtioBlock _ => "virtio-block"
  | .ahciDisk _ => "ahci-disk"
  | .ahciOpticalDisk _ => "ahci-optical-disk"
  | .lpc _ => "lpc"
  | .passthru _ => "passthru"
  | .framebuffer _ => "framebuffer"
  | .xhciUsbTablet => "xhci-usb-tablet"
  | .e1000Network _ => "e1000-network"

/-- The hypervisor's name for the kind. -/
def emulation : DeviceKind → String
  | .hostBridge .default => "hostbridge"
  | .hostBridge .amd => "amd_hostbridge"
  | .virtioNetwork _ => "virtio-net"
  | .virtioBlock _ => "virtio-blk"
  | .ahciDisk _ => "ahci-hd"
  | .ahciOpticalDisk _ => "ahci-cd"
  | .lpc _ => "lpc"
  | .passthru _ => "passthru"
  | .framebuffer _ => "fbuf"
  | .xhciUsbTablet => "xhci"
  | .e1000Network _ => "e1000"

def storage? : DeviceKind → Option StorageBackend
  | .virtioBlock backend | .ahciDisk backend | .ahciOpticalDisk backend => some backend
  | _ => none

def network? : DeviceKind → Option NetworkBackend
  | .virtioNetwork backend | .e1000Network backend => some backend
  | _ => none

def lpc? : DeviceKind → Option Lpc
  | .lpc l => some l
  | _ => none

def isHostBridge : DeviceKind → Bool
  | .hostBridge _ => true
  | _ => false

def isOptical : DeviceKind → Bool
  | .ahciOpticalDisk _ => true
  | _ => false

/-- Whether the data is a volume kept under the machine's directory. -/
def isVolume (k : DeviceKind) : Bool := k.storage?.any StorageBackend.isVolume

/-- The options that do not depend on the machine. -/
def arguments : DeviceKind → List String
  | .virtioNetwork backend | .e1000Network backend =>
    [backend.interface.name, "mac=" ++ backend.interface.guestMac.text]
  | .passthru address => [address.text]
  | .framebuffer screen => screen.arguments
  | .xhciUsbTablet => ["tablet"]
  | _ => []

def validate : DeviceKind → Except Error Unit
  | .virtioNetwork backend | .e1000Network backend => backend.validate
  | .framebuffer screen => screen.validate
  | _ => .ok ()

end DeviceKind

structure Device where
  slot : Slot
  comment : String
  kind : DeviceKind
  deriving DecidableEq

/-- The first two volumes, in the order of the devices, that would be kept under one path.
`seen` holds the slots of the volumes passed so far. -/
def sharedVolume? (seen : List Slot) : List Device → Option (Slot × Slot)
  | [] => none
  | d :: ds =>
    if d.kind.isVolume then
      match seen.find? fun s => s.deviceId = d.slot.deviceId with
      | some other => some (other, d.slot)
      | none => sharedVolume? (d.slot :: seen) ds
    else sharedVolume? seen ds

/-- Refuses devices, given in slot order, of which two volumes would share a path. -/
def checkVolumes (devices : List Device) : Except Error Unit :=
  match sharedVolume? [] devices with
  | some (first, second) => invalid (.sharedVolume first second)
  | none => .ok ()

end Guestkeeper
