import Guestkeeper.Host.Files
import Guestkeeper.Device.Storage

set_option autoImplicit false

/-! # Realizing storage

Realizing a disk finds out what is at its path and creates a volume that is missing. Files are
never created, and what is there is left as it is: a volume of another size than expected is
reported, since volumes may be resized outside. -/

namespace Guestkeeper.Realization

open Guestkeeper.Text Guestkeeper.Host

/-- What is asked of the place that holds the disks. -/
structure StorageTool (m : Type → Type) where
  /-- The size of the object at a path, if there is one. -/
  size : String → ExceptT Error m (Option Nat)
  /-- Creates an object of a size. -/
  create : String → Nat → ExceptT Error m Unit
  /-- What `create` would do, line by line. -/
  describeCreate : String → Nat → m (List String)

/-- What was found or done. -/
inductive StorageOutcome
  | existing (path : String) (size : Nat)
  | missing (path : String)
  | sizeMismatch (path : String) (expected actual : Nat)
  | created (path : String) (size : Nat)
  | wouldCreate (path : String) (size : Nat) (steps : List String)
  deriving DecidableEq, Repr

variable {m : Type → Type} [Monad m]

/-- Realizes a disk at its path. A dry run only looks. -/
def realizeStorage (tool : StorageTool m) (backend : StorageBackend) (path : String)
    (expected : Option Nat) (dryRun : Bool) : ExceptT Error m StorageOutcome :=
  match backend with
  | .scsi => throw .scsiUnimplemented
  | .file _ _ _ => do
    match ← tool.size path with
    | some size => return .existing path size
    | none => return .missing path
  | .volume _ => do
    match ← tool.size path with
    | some actual =>
      match expected with
      | some size =>
        if size = actual then return .existing path actual
        else return .sizeMismatch path size actual
      | none => return .existing path actual
    | none =>
      let size := expected.getD 0
      if dryRun then
        let steps ← ExceptT.lift (tool.describeCreate path size)
        return .wouldCreate path size steps
      else
        tool.create path size
        return .created path size

/-! ## Volumes on the host

A machine's directory is a dataset with the directory's path for its name. It is created along
with the first volume. -/

/-- The command that creates the dataset of a directory. -/
def datasetCommand (zfs directory : String) : Except Error Command :=
  match Path.belowRoot? directory with
  | some dataset => .ok ⟨zfs, ["create", "-p", dataset]⟩
  | none => invalid (.relativeDirectory directory)

/-- The directory of a path, where it is missing. -/
def missingDirectory [Files m] (path : String) : m (Option String) :=
  match Path.parent? path with
  | none => pure none
  | some directory => do
    if ← isThere directory then return none else return some directory

/-- Creates the directory of a volume as a dataset, where it is missing. -/
def createDataset [Files m] (run : Executor m) (zfs path : String) : ExceptT Error m Unit := do
  match ← ExceptT.lift (missingDirectory path) with
  | none => pure ()
  | some directory =>
    let command ← ExceptT.mk (pure (datasetCommand zfs directory))
    let status ← run command
    if status ≠ 0 then throw (.processFailed command.executable (.exited status))

/-- The command that creating a volume begins with, or why there is none. -/
def datasetLines (zfs directory : String) : List String :=
  match datasetCommand zfs directory with
  | .ok command => [command.text]
  | .error e => ["# " ++ e.message]

/-- The host's file system, with datasets created by `zfs`. -/
def hostStorage [Files m] (run : Executor m) (zfs : String) : StorageTool m where
  size path := ExceptT.mk do
    match ← Files.size path with
    | .ok size => return .ok (some size)
    | .error .notFound => return .ok none
    | .error cause => return .error (.io path cause)
  create path size := do
    createDataset run zfs path
    at? path (Files.createNew path)
    at? path (Files.setLength path size)
  describeCreate path size := do
    let missing ← missingDirectory path
    return (missing.map (datasetLines zfs)).getD [] ++
      ["allocate " ++ decimal size ++ " bytes at " ++ path]

end Guestkeeper.Realization
