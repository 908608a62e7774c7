import Guestkeeper.Machine.BootEntry
import Guestkeeper.Device

set_option autoImplicit false

/-! # Requests

What an operator asks for with a command line: one request about machines, and which
configuration file it is made under. Texts whose reading belongs to carrying out the request
stay texts. -/

namespace Guestkeeper.CommandLine

/-- The processors that are asked for: their number, or factors of it, and pins. -/
structure TopologyRequest where
  count : Option UInt32
  sockets : Option UInt32
  cores : Option UInt32
  threads : Option UInt32
  pins : List String
  deriving DecidableEq, Repr

structure MemoryRequest where
  gigabytes : Option UInt64
  megabytes : Option UInt64
  deriving DecidableEq, Repr

/-- The kinds of devices, without what belongs to each. -/
inductive KindWord
  | hostBridge
  | virtioNetwork
  | virtioBlock
  | ahciDisk
  | ahciOpticalDisk
  | lpc
  | passthru
  | framebuffer
  | xhciUsbTablet
  | e1000Network
  deriving DecidableEq, Repr

namespace KindWord

def all : List KindWord :=
  [.hostBridge, .virtioNetwork, .virtioBlock, .ahciDisk, .ahciOpticalDisk, .lpc, .passthru,
   .framebuffer, .xhciUsbTablet, .e1000Network]

/-- The operator's word for the kind. -/
def text : KindWord → String
  | .hostBridge => "host-bridge"
  | .virtioNetwork => "virtio-network"
  | .virtioBlock => "virtio-block"
  | .ahciDisk => "ahci-disk"
  | .ahciOpticalDisk => "ahci-optical-disk"
  | .lpc => "lpc"
  | .passthru => "passthru"
  | .framebuffer => "framebuffer"
  | .xhciUsbTablet => "xhci-usb-tablet"
  | .e1000Network => "e1000-network"

/-- The name of the kind in messages about missing options. -/
def title : KindWord → String
  | .hostBridge => "HostBridge"
  | .virtioNetwork => "VirtioNetwork"
  | .virtioBlock => "VirtioBlock"
  | .ahciDisk => "AhciDisk"
  | .ahciOpticalDisk => "AhciOpticalDisk"
  | .lpc => "Lpc"
  | .passthru => "Passthru"
  | .framebuffer => "Framebuffer"
  | .xhciUsbTablet => "XhciUsbTablet"
  | .e1000Network => "E1000Network"

def ofText? (text : String) : Option KindWord := all.find? fun k => k.text = text

end KindWord

/-- A device that is asked for. What does not belong to its kind is not looked at. -/
structure DeviceRequest where
  kind : KindWord
  slot : Option Slot
  replace : Bool
  comment : String
  backend : Option String
  ttys : List TtyBackend
  hostSlot : Option HostAddress
  vendor : HostBridgeVendor
  screen : Framebuffer
  deriving DecidableEq

/-- A request. Machines are given by their identifier or their name. -/
inductive Request
  | define (name comment : String) (cpu : TopologyRequest) (memory : MemoryRequest)
      (flags : List String)
  | list
  | describe (machine : String)
  | delete (machine : String)
  | modify (machine : String) (name comment : Option String) (cpu : TopologyRequest)
      (memory : MemoryRequest) (flags : List String)
  | addDevice (machine : String) (device : DeviceRequest)
  | deleteDevices (machine : String) (slots : List Slot)
  | addBoot (machine : String) (boot : BootConfiguration) (update : Bool)
  | deleteBoots (machine : String) (names : List String)
  | realize (machine : String) (dryRun : Bool)
  | start (machine boot : String) (dryRun : Bool)
  | console (machine : String) (dryRun : Bool)
  | kill (machine : String) (dryRun : Bool)
  | writeOut (machine : String) (output : Option String)
  | readIn (file : String) (replace : Bool)
  deriving DecidableEq

structure Invocation where
  /-- The path of the configuration file. -/
  configuration : String
  request : Request
  deriving DecidableEq

end Guestkeeper.CommandLine
