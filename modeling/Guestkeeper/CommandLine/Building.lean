import Guestkeeper.CommandLine.Failure
import Guestkeeper.Machine.Boots
import Guestkeeper.Machine.Devices

set_option autoImplicit false

/-! # What a request asks for

The parts of a request are made into what the library works with: topologies, memory, devices
and changes. Texts are read here, after the machine they concern was found. -/

namespace Guestkeeper.CommandLine

open Guestkeeper.Text

/-! ## Processors and memory -/

/-- The topology without its pins. -/
def TopologyRequest.factors (r : TopologyRequest) : Except Error (Option Topology) :=
  match r.count with
  | some count => (Topology.ofCount count).map some
  | none =>
    if r.sockets.isSome || r.cores.isSome || r.threads.isSome then
      (Topology.ofFactors (r.sockets.getD 1) (r.cores.getD 1) (r.threads.getD 1) none).map some
    else .ok none

/-- Reads one number of a pin. -/
def pinNumber (side pin text : String) : Except Failure UInt32 :=
  (readWord32 text).mapError fun fault =>
    .during (side ++ " cpu in '" ++ pin ++ "'") (.numeral fault)

/-- Reads a pin, `<host>:<guest>`. -/
def readPin (pin : String) : Except Failure CpuPin :=
  match cut ':' pin with
  | none => .error (.pinForm pin)
  | some (host, guest) => do
    let hostCpu ← pinNumber "host" pin host
    let guestCpu ← pinNumber "guest" pin guest
    return ⟨hostCpu, guestCpu⟩

/-- The topology that is asked for, if one is. -/
def TopologyRequest.topology? (r : TopologyRequest) : Except Failure (Option Topology) := do
  let factors ← r.factors.mapError .error
  if r.pins.isEmpty then return factors
  else match factors with
    | none => throw .pinsWithoutTopology
    | some t =>
      let pins ← r.pins.mapM readPin
      let pinned ← (t.withPins pins).mapError .error
      return some pinned

/-- The memory that is asked for, if any is; what is not given stays as it is. -/
def MemoryRequest.memory? (r : MemoryRequest) (present : Memory) : Except Error (Option Memory) :=
  if r.gigabytes.isNone && r.megabytes.isNone then .ok none
  else (Memory.ofSizes (r.gigabytes.getD present.gigabytes)
    (r.megabytes.getD present.megabytes)).map some

/-! ## Devices -/

namespace DeviceRequest

/-- The text of the backend, which some kinds need. -/
def backendText (r : DeviceRequest) : Except Failure String :=
  match r.backend with
  | some text => .ok text
  | none => .error (.backendMissing r.kind)

def storage (r : DeviceRequest) : Except Failure StorageBackend := do
  (StorageBackend.ofText (← r.backendText)).mapError .error

def network (r : DeviceRequest) : Except Failure NetworkBackend := do
  (NetworkBackend.ofText (← r.backendText)).mapError .error

/-- The device that is asked for. -/
def build (r : DeviceRequest) : Except Failure DeviceKind :=
  match r.kind with
  | .hostBridge => .ok (.hostBridge r.vendor)
  | .virtioNetwork => r.network.map .virtioNetwork
  | .e1000Network => r.network.map .e1000Network
  | .virtioBlock => r.storage.map .virtioBlock
  | .ahciDisk => r.storage.map .ahciDisk
  | .ahciOpticalDisk => r.storage.map .ahciOpticalDisk
  | .lpc => ((Lpc.ofLines r.ttys).mapError Failure.error).map .lpc
  | .passthru =>
    match r.hostSlot with
    | some address => .ok (.passthru address)
    | none => .error .hostSlotMissing
  | .framebuffer => .ok (.framebuffer r.screen)
  | .xhciUsbTablet => .ok .xhciUsbTablet

def addition (r : DeviceRequest) : Except Failure Addition :=
  r.build.map fun kind =>
    { kind := kind, comment := r.comment, slot := r.slot, replace := r.replace }

end DeviceRequest

/-! ## Machines -/

/-- The definition of a new machine. -/
def definition (id : Uuid) (name comment : String) (cpu : TopologyRequest)
    (memory : MemoryRequest) (flags : List String) : Except Failure Definition := do
  let topology ← cpu.topology?
  let size ← (Memory.ofSizes (memory.gigabytes.getD 0) (memory.megabytes.getD 0)).mapError
    Failure.error
  let changes ← (FlagChanges.ofTexts flags).mapError Failure.error
  return {
    id := id
    name := name
    comment := comment
    cpu := topology.getD Topology.single
    memory := size
    flags := changes }

/-- The changes that are asked for. -/
def changes (present : Machine) (name comment : Option String) (cpu : TopologyRequest)
    (memory : MemoryRequest) (flags : List String) : Except Failure Changes := do
  let size ← (memory.memory? present.memory).mapError Failure.error
  let topology ← cpu.topology?
  let assignments ← (FlagChanges.ofTexts flags).mapError Failure.error
  return { name := name, comment := comment, cpu := topology, memory := size, flags := assignments }

end Guestkeeper.CommandLine
