import Guestkeeper.Host.Script
import Guestkeeper.Realization.Machine

set_option autoImplicit false

/-! # Storage as a map

A shelf is storage whose objects are a map from paths to sizes, some of which cannot be looked
at, along with a script of exit statuses for the commands that are run. On it realization is a
function that can be computed and reasoned about. -/

namespace Guestkeeper.Realization

open Guestkeeper.Text Guestkeeper.Host

/-- An object and its size. -/
structure StoredObject where
  path : String
  size : Nat
  deriving DecidableEq, Repr

structure Shelf where
  objects : Table StoredObject.path := ∅
  /-- Paths whose size cannot be asked for. -/
  unreadable : List String := []
  script : Script := {}

namespace Shelf

def size (path : String) (s : Shelf) : Except Error (Option Nat) :=
  if s.unreadable.contains path then .error (.io path .permissionDenied)
  else .ok ((s.objects.find? path).map StoredObject.size)

def create (path : String) (size : Nat) (s : Shelf) : Shelf :=
  { s with objects := s.objects.insert ⟨path, size⟩ }

/-- The shelf as the place that holds the disks. -/
def tool : StorageTool (StateM Shelf) where
  size path := ExceptT.mk fun s => (s.size path, s)
  create path size := ExceptT.mk fun s => (.ok (), s.create path size)
  describeCreate path size := fun s =>
    (["create " ++ path ++ " (" ++ decimal size ++ " bytes)"], s)

/-- The script as the runner of commands. -/
def run : Executor (StateM Shelf) := fun c => ExceptT.mk fun s =>
  let (result, script) := s.script.answer c
  (result, { s with script := script })

end Shelf

end Guestkeeper.Realization
