import Guestkeeper.Slot
import Guestkeeper.Uuid
import Guestkeeper.Host.Cause
import Guestkeeper.Text.Escaped

set_option autoImplicit false

/-! # Causes of failure

Every operation on machines fails with one of the causes below. A cause carries what the
operator needs to know; its wording is in `Error.message`. Causes in `Invalid` are faults of
the input or of a machine description, all reported as failed validation. -/

namespace Guestkeeper

open Guestkeeper.Text

/-- What can be missing. -/
inductive Missing
  | machine
  | device
  | bootConfiguration
  deriving DecidableEq, Repr

def Missing.text : Missing → String
  | .machine => "machine"
  | .device => "device"
  | .bootConfiguration => "boot configuration"

/-- What can be there already. -/
inductive Occupied
  | deviceSlot
  | lpcDevice
  | ttyDevice
  | bootConfiguration
  | machine
  | machineName
  deriving DecidableEq, Repr

def Occupied.text : Occupied → String
  | .deviceSlot => "device slot"
  | .lpcDevice => "LPC device"
  | .ttyDevice => "tty device"
  | .bootConfiguration => "boot configuration"
  | .machine => "machine"
  | .machineName => "machine name"

/-- Malformed input, or an inconsistent machine description. -/
inductive Invalid
  | busTooLarge (bus : Nat)
  | slotTooLarge (slot : Nat)
  | functionTooLarge (function : Nat)
  | slotForm (text : String)
  | slotComponent (text part : String)
  | zeroFactor (sockets cores threads : UInt32)
  | topologyOverflow
  | cpuCount (cpus sockets cores threads : UInt32)
  | pinOutside (guest : UInt32) (cpus : Nat)
  | memoryTooLarge (gigabytes megabytes : UInt64)
  | flagForm (text : String)
  | flagValue (value : String)
  | unknownFlag (name : String)
  | macForm (text : String)
  | networkForm (text : String)
  | unknownNetworkKind (kind : String)
  | interfaceName (name start : String)
  | groupName (group : String)
  | missingFilePath
  | unknownFileOption (option : String)
  | sectorSize (text : String)
  | volumeSize (text : String)
  | surplusVolumeField
  | unknownStorageKind (kind : String)
  | ttyWithoutName (text : String)
  | ttyName (text : String)
  | ttyForm (text : String)
  | bootromBackend
  | severalNmdm (names : List String)
  | unknownVendor (text : String)
  | unknownVgaMode (text : String)
  | hostSlotForm (text : String)
  | framebufferWidth (width : UInt32)
  | framebufferHeight (height : UInt32)
  | sharedVolume (first second : Slot)
  | emptyBootName
  | attachesOther (boot : String) (slot : Slot)
  | loadsFromOther (boot : String) (slot : Slot)
  | emptyMachineName
  | controlInMachineName (name : String)
  | reservedForHostBridge (slot : Slot)
  | hostBridgeElsewhere (slot : Slot)
  | lpcOffBusZero (slot : Slot)
  | hostBridgeDeletion
  | firmwareWithoutLpc (boot : String)
  | secondBootrom (boot : String)
  | attachedNotStorage (slot : Slot) (boot : String)
  | notAttached (slot : Slot)
  | controlInArgument (argument : String)
  | notGrub (boot : String)
  | relativeDirectory (path : String)
  | relativeSetting (name path : String)
  | unreadableConfiguration
  | ambiguousName (count : Nat) (name : String)
  deriving DecidableEq, Repr

/-- The reason shown after `validation failed: `. -/
def Invalid.message : Invalid → String
  | .busTooLarge bus => s!"bus {bus} exceeds max 255"
  | .slotTooLarge slot => s!"slot {slot} exceeds max 31"
  | .functionTooLarge function => s!"function {function} exceeds max 7"
  | .slotForm text => s!"device slot '{text}' must have the form bus:slot:function"
  | .slotComponent text part =>
    s!"device slot '{text}' contains a non-numeric component '{part}'"
  | .zeroFactor sockets cores threads =>
    s!"sockets ({sockets}), cores ({cores}) and threads ({threads}) must all be at least 1"
  | .topologyOverflow => "cpu topology overflows"
  | .cpuCount cpus sockets cores threads =>
    s!"cpus ({cpus}) must equal sockets ({sockets}) * cores ({cores}) * threads ({threads})"
  | .pinOutside guest cpus =>
    s!"pinned guest cpu {guest} is outside the {cpus} configured cpus"
  | .memoryTooLarge gigabytes megabytes =>
    s!"memory of {gigabytes}G + {megabytes}M does not fit in 64 bits of megabytes"
  | .flagForm text => s!"flag assignment '{text}' must be name=value"
  | .flagValue value => s!"flag value '{value}' must be true or false"
  | .unknownFlag name => s!"unknown flag '{name}'"
  | .macForm text => s!"'{text}' is not a valid MAC address"
  | .networkForm text =>
    s!"network backend '{text}' must have the form kind;name;host-mac;guest-mac[;groups]"
  | .unknownNetworkKind kind => s!"unknown network backend kind '{kind}'"
  | .interfaceName name start =>
    s!"interface name '{name}' must be {start} followed by a unit number"
  | .groupName group => s!"interface group name '{group}' is not valid"
  | .missingFilePath => "file backend requires a path"
  | .unknownFileOption option => s!"unknown file backend option '{option}'"
  | .sectorSize text => s!"'{text}' is not a sector size"
  | .volumeSize text => s!"'{text}' is not a size in bytes"
  | .surplusVolumeField => "zfs-volume backend takes at most a size"
  | .unknownStorageKind kind => s!"unknown storage backend kind '{kind}'"
  | .ttyWithoutName text => s!"tty backend '{text}' has no device name"
  | .ttyName text => s!"'{text}' is not one of com1, com2, bootrom"
  | .ttyForm text =>
    s!"tty backend '{text}' must be file;<name>;<path>, nmdm;<name> or stdio;<name>"
  | .bootromBackend => "bootrom must be backed by a firmware file"
  | .severalNmdm names =>
    "only one tty may use nmdm, not " ++ String.intercalate " and " names
  | .unknownVendor text => s!"unknown host bridge vendor '{text}'"
  | .unknownVgaMode text => s!"unknown vga mode '{text}'"
  | .hostSlotForm text => s!"host slot '{text}' must have the form bus/slot/function"
  | .framebufferWidth width => s!"framebuffer width {width} must be between 1 and 1920"
  | .framebufferHeight height => s!"framebuffer height {height} must be between 1 and 1200"
  | .sharedVolume first second =>
    s!"ZFS volumes at {first.text} and {second.text} would share disk-{second.deviceId}"
  | .emptyBootName => "boot configuration name cannot be empty"
  | .attachesOther boot slot =>
    s!"boot configuration '{boot}' attaches {slot.text}, which is not a storage device"
  | .loadsFromOther boot slot =>
    s!"boot configuration '{boot}' loads from {slot.text}, which is not an attached disk"
  | .emptyMachineName => "machine name cannot be empty"
  | .controlInMachineName name => s!"machine name {escaped name} contains control characters"
  | .reservedForHostBridge slot => s!"{slot.text} is reserved for the host bridge"
  | .hostBridgeElsewhere slot =>
    s!"the host bridge belongs at {Slot.hostBridge.text}, not {slot.text}"
  | .lpcOffBusZero slot => s!"LPC devices must be on bus 0, not {slot.text}"
  | .hostBridgeDeletion => s!"the host bridge at {Slot.hostBridge.text} cannot be deleted"
  | .firmwareWithoutLpc boot =>
    s!"boot configuration '{boot}' uses UEFI firmware, which requires an LPC device"
  | .secondBootrom boot =>
    s!"boot configuration '{boot}' supplies a bootrom, but the LPC device already has one"
  | .attachedNotStorage slot boot =>
    s!"{slot.text} is attached to boot configuration '{boot}' but is not a storage device"
  | .notAttached slot => s!"{slot.text} is not attached to the boot configuration"
  | .controlInArgument argument =>
    s!"kernel argument {escaped argument} contains a control character"
  | .notGrub boot => s!"boot configuration '{boot}' does not use grub-bhyve"
  | .relativeDirectory path => s!"{path} is not an absolute path"
  | .relativeSetting name path => s!"{name} must be an absolute path, not {path}"
  | .unreadableConfiguration => "client configuration"
  | .ambiguousName count name => s!"{count} machines are named '{name}'; use a UUID"

/-- How a process failed. -/
inductive ProcessFault
  | exited (status : Int)
  | commandExited (command : String) (status : Int)
  | notStarted (reason : String)
  deriving DecidableEq, Repr

def ProcessFault.message : ProcessFault → String
  | .exited status => s!"exited with status {status}"
  | .commandExited command status => s!"'{command}' exited with status {status}"
  | .notStarted reason => reason

/-- Why an operation on machines fails. -/
inductive Error
  | nonexistent (kind : Missing) (names : List String)
  | duplicate (kind : Occupied) (name : String)
  | slotsExhausted
  | referencedByBoot (references : List SlotReference)
  | noSingleConsole (candidates : Nat)
  | invalid (cause : Invalid)
  | scsiUnimplemented
  | processFailed (executable : String) (fault : ProcessFault)
  | io (path : String) (cause : Host.Cause)
  /-- The record does not have the format of a machine record. -/
  | malformedRecord
  /-- The record has the format and describes something that is refused. -/
  | rejectedRecord (cause : Error)
  | unsupportedSchema (schema : String)
  | misfiledRecord (path : String) (id : Uuid)
  deriving DecidableEq

namespace Error

/-- The text shown to the operator. -/
def message : Error → String
  | .nonexistent kind names =>
    "nonexistent " ++ kind.text ++ ": " ++ String.intercalate ", " names
  | .duplicate kind name => "duplicate " ++ kind.text ++ ": " ++ name
  | .slotsExhausted => "no free device slots remain on bus 0"
  | .referencedByBoot references =>
    "device referenced by boot configuration: " ++
      String.intercalate ", " (references.map SlotReference.text)
  | .noSingleConsole candidates =>
    s!"machine has no single attachable console ({candidates} console-capable devices)"
  | .invalid cause => "validation failed: " ++ cause.message
  | .scsiUnimplemented => "unimplemented: SCSI storage backend"
  | .processFailed executable fault =>
    "process " ++ executable ++ " failed: " ++ fault.message
  | .io path cause => path ++ ": " ++ cause.message
  | .malformedRecord => "machine record"
  | .rejectedRecord cause => "machine record: " ++ cause.message
  | .unsupportedSchema schema => "machine record: unsupported schema '" ++ schema ++ "'"
  | .misfiledRecord path id => "machine record: " ++ path ++ " holds machine " ++ id.text

end Error

/-- Fails with an invalid input or description. -/
def invalid {α : Type} (cause : Invalid) : Except Error α := .error (.invalid cause)

end Guestkeeper
