import Guestkeeper.Error
import Guestkeeper.Path
import Guestkeeper.Text.Fields

set_option autoImplicit false

/-! # Storage backends

What holds the data of a disk: a file of the host, a volume that is kept under the machine's
own directory, or a SCSI device, which can be described but not used yet. -/

namespace Guestkeeper

open Guestkeeper.Text

/-- How the hypervisor opens a file. -/
inductive OpenOption
  | noCache
  | synchronous
  | readOnly
  deriving DecidableEq, Repr

namespace OpenOption

def index : OpenOption → Nat
  | .noCache => 0
  | .synchronous => 1
  | .readOnly => 2

/-- The hypervisor's word for the option. -/
def argument : OpenOption → String
  | .noCache => "nocache"
  | .synchronous => "direct"
  | .readOnly => "ro"

/-- The operator's word for the option. -/
def ofText? : String → Option OpenOption
  | "nocache" => some .noCache
  | "sync" => some .synchronous
  | "ro" => some .readOnly
  | _ => none

end OpenOption

/-- Logical and, where known, physical sector size in bytes. -/
structure SectorSizes where
  logical : UInt32
  physical : Option UInt32
  deriving DecidableEq, Repr

namespace SectorSizes

def text (s : SectorSizes) : String :=
  match s.physical with
  | some physical => decimal s.logical.toNat ++ "/" ++ decimal physical.toNat
  | none => decimal s.logical.toNat

def size (text : String) : Except Error UInt32 :=
  match readWord32 text with
  | .ok n => .ok n
  | .error _ => invalid (.sectorSize text)

/-- Reads `L` or `L/P`. -/
def ofText (text : String) : Except Error SectorSizes :=
  match cut '/' text with
  | none => do
    let logical ← size text
    return ⟨logical, none⟩
  | some (first, second) => do
    let logical ← size first
    let physical ← size second
    return ⟨logical, some physical⟩

end SectorSizes

inductive StorageBackend
  | file (path : String) (options : Table OpenOption.index) (sectors : Option SectorSizes)
  | volume (expectedSize : Option UInt64)
  | scsi
  deriving DecidableEq

/-- Where a machine keeps the data of a volume: `<root>/<machine>/disk-<device>`. -/
def volumePath (root : String) (id : Uuid) (device : Nat) : String :=
  Path.join (Path.join root id.text) ("disk-" ++ decimal device)

namespace StorageBackend

def isVolume : StorageBackend → Bool
  | .volume _ => true
  | _ => false

/-- The path that the hypervisor opens. -/
def target (b : StorageBackend) (root : String) (id : Uuid) (device : Nat) :
    Except Error String :=
  match b with
  | .file path _ _ => .ok path
  | .volume _ => .ok (volumePath root id device)
  | .scsi => .error .scsiUnimplemented

def expectedSize : StorageBackend → Option UInt64
  | .volume size => size
  | _ => none

/-- The options that follow the path on the hypervisor's command line. -/
def arguments : StorageBackend → List String
  | .file _ options sectors =>
    options.entries.map OpenOption.argument ++
      (sectors.map fun s => "sectorsize=" ++ s.text).toList
  | _ => []

/-- What the fields after a file's path have set so far. -/
structure FileSettings where
  options : Table OpenOption.index := ∅
  sectors : Option SectorSizes := none

/-- Reads one field after a file's path. -/
def FileSettings.add (s : FileSettings) (field : String) : Except Error FileSettings :=
  match OpenOption.ofText? field with
  | some option => .ok { s with options := s.options.insert option }
  | none =>
    match after? "sectorsize=" field with
    | some sizes => (SectorSizes.ofText sizes).map fun z => { s with sectors := some z }
    | none => invalid (.unknownFileOption field)

/-- Reads the size of a volume; an empty field leaves it open. -/
def volumeSize (text : String) : Except Error (Option UInt64) :=
  if text.isEmpty then .ok none
  else match readWord64 text with
    | .ok n => .ok (some n)
    | .error _ => invalid (.volumeSize text)

/-- Reads `file;<path>[;nocache][;sync][;ro][;sectorsize=L[/P]]`, `zfs-volume[;<bytes>]` or
`scsi`. The size of a volume is read before surplus fields are refused. -/
def ofText (text : String) : Except Error StorageBackend :=
  match fields ';' text with
  | "file" :: path :: settings =>
    if path.isEmpty then invalid .missingFilePath
    else do
      let s ← settings.foldlM FileSettings.add {}
      return .file path s.options s.sectors
  | ["file"] => invalid .missingFilePath
  | ["zfs-volume"] => .ok (.volume none)
  | "zfs-volume" :: size :: surplus => do
    let expected ← volumeSize size
    if surplus.isEmpty then return .volume expected
    else invalid .surplusVolumeField
  | "scsi" :: _ => .ok .scsi
  | kind :: _ => invalid (.unknownStorageKind kind)
  | [] => invalid (.unknownStorageKind "")

end StorageBackend

end Guestkeeper
