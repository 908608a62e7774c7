import Guestkeeper.Configuration
import Guestkeeper.Machine.Basic
import Guestkeeper.Realization.Storage

set_option autoImplicit false

/-! # Realizing a machine

Before a machine can start, its disks and network interfaces must be on the host. Realization
goes through the devices in slot order, sees to each disk, and runs the commands for each
interface. A dry run tells what would be done. -/

namespace Guestkeeper.Realization

open Guestkeeper.Text Guestkeeper.Host

/-- What was found or done for one device. -/
inductive Step
  | storage (slot : Slot) (outcome : StorageOutcome)
  | network (slot : Slot) (commands : List Command) (executed : Bool)
  deriving DecidableEq, Repr

/-- A heading with lines below it. -/
def indented (heading : String) (lines : List String) : String :=
  String.join (heading :: lines.map fun line => "\n  " ++ line)

/-- The text of a step as it is shown to the operator. -/
def Step.text : Step → String
  | .storage slot (.existing path size) =>
    slot.text ++ ": " ++ path ++ " exists (" ++ decimal size ++ " bytes)"
  | .storage slot (.missing path) => slot.text ++ ": " ++ path ++ " does not exist"
  | .storage slot (.sizeMismatch path expected actual) =>
    slot.text ++ ": " ++ path ++ " is " ++ decimal actual ++ " bytes, expected " ++
      decimal expected
  | .storage slot (.created path size) =>
    slot.text ++ ": created " ++ path ++ " (" ++ decimal size ++ " bytes)"
  | .storage slot (.wouldCreate _ _ steps) => indented (slot.text ++ ": would run:") steps
  | .network slot commands executed =>
    indented (slot.text ++ if executed then ": ran:" else ": would run:")
      (commands.map Command.text)

variable {m : Type → Type} [Monad m]

/-- Runs commands one after another up to the first that fails. -/
def runAll (run : Executor m) : List Command → ExceptT Error m Unit
  | [] => pure ()
  | command :: rest => do
    let status ← run command
    if status ≠ 0 then
      throw (.processFailed command.executable (.commandExited command.text status))
    runAll run rest

/-- Realizes the disk of a device, if it has one. -/
def storageStep (c : Configuration) (tool : StorageTool m) (id : Uuid) (dryRun : Bool)
    (d : Device) : ExceptT Error m (List Step) :=
  match d.kind.storage? with
  | none => pure []
  | some backend => do
    let path ← ExceptT.mk (pure (backend.target c.volumeRoot id d.slot.deviceId))
    let outcome ← realizeStorage tool backend path (backend.expectedSize.map UInt64.toNat) dryRun
    return [.storage d.slot outcome]

/-- Realizes the network interface of a device, if it has one. -/
def networkStep (c : Configuration) (tool : StorageTool m) (run : Executor m) (dryRun : Bool)
    (d : Device) : ExceptT Error m (List Step) :=
  match d.kind.network? with
  | none => pure []
  | some backend => do
    let present ← tool.size backend.deviceNode
    let commands := backend.commands c.ifconfig present.isSome
    if !dryRun then runAll run commands
    return [.network d.slot commands (!dryRun)]

/-- Realizes devices one after another. -/
def realizeDevices (c : Configuration) (tool : StorageTool m) (run : Executor m) (id : Uuid)
    (dryRun : Bool) : List Device → ExceptT Error m (List Step)
  | [] => pure []
  | d :: rest => do
    let storage ← storageStep c tool id dryRun d
    let network ← networkStep c tool run dryRun d
    let more ← realizeDevices c tool run id dryRun rest
    return storage ++ network ++ more

/-- Realizes a machine and gives the steps. -/
def realize (c : Configuration) (tool : StorageTool m) (run : Executor m) (machine : Machine)
    (dryRun : Bool) : ExceptT Error m (List Step) :=
  realizeDevices c tool run machine.id dryRun machine.devices.entries

end Guestkeeper.Realization
