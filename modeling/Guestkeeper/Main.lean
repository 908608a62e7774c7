import Guestkeeper.CommandLine.Program

set_option autoImplicit false

/-! # The command line on the host

The program is run on the host's own files. Other programs are not started from here: what
would start one reports that it could not. -/

namespace Guestkeeper

open Guestkeeper.Host

namespace RealHost

/-- The cause for which the host refused. -/
def causeOf : IO.Error → Cause
  | .noFileOrDirectory _ _ _ => .notFound
  | .alreadyExists _ _ _ => .alreadyExists
  | .permissionDenied _ _ _ => .permissionDenied
  | .inappropriateType _ code _ => if code = 21 then .isADirectory else .notADirectory
  | e => .other (toString e)

/-- The result of an operation, with the cause where it was refused. -/
def caught {α : Type} (operation : IO α) : IO (Except Cause α) := do
  try
    return .ok (← operation)
  catch e =>
    return .error (causeOf e)

/-- The directory entry of a path. -/
def entry (path : String) : IO.FS.DirEntry := ⟨".", path⟩

def size (path : String) : IO Nat := do
  return (← (entry path).path.metadata).byteSize.toNat

def zeros (count : Nat) : ByteArray := ⟨Array.replicate count 0⟩

/-- Cuts a file, or fills it up with zeros in blocks. -/
def setLength (path : String) (length : Nat) : IO Unit := do
  let held ← size path
  if length ≤ held then
    let bytes ← IO.FS.readBinFile path
    IO.FS.writeBinFile path (bytes.extract 0 length)
  else
    let file ← IO.FS.Handle.mk path .append
    let block := zeros 65536
    for _ in [0:(length - held) / block.size] do
      file.write block
    file.write (zeros ((length - held) % block.size))

def append (path : String) (bytes : ByteArray) : IO Unit := do
  let file ← IO.FS.Handle.mk path .append
  file.write bytes

def names (path : String) : IO (List String) := do
  return ((← (entry path).path.readDir).map IO.FS.DirEntry.fileName).toList

/-- A number of this many random bytes. -/
def randomNumber (count : USize) : IO Nat := do
  let bytes ← IO.getRandomBytes count
  return bytes.toList.foldl (fun n b => 256 * n + b.toNat) 0

instance : Files IO where
  size path := caught (size path)
  read path := caught (IO.FS.readBinFile path)
  create path := caught (IO.FS.writeBinFile path ByteArray.empty)
  createNew path := caught (discard (IO.FS.Handle.mk path .writeNew))
  append path bytes := caught (append path bytes)
  setLength path length :=
    if length < 1 <<< 63 then caught (setLength path length)
    else return .error .lengthOutOfRange
  sync path := caught (discard (size path))
  rename path newPath := caught (IO.FS.rename path newPath)
  remove path := caught (IO.FS.removeFile path)
  list path := caught (names path)
  createDirectories path := caught (IO.FS.createDirAll path)
  freshSuffix := do
    return "." ++ String.ofList (Text.fixedHex 12 (← randomNumber 6))

instance : Terminal IO where
  print := IO.print
  complain := IO.eprint
  freshId := Uuid.ofRandomBits <$> (· % (1 <<< 122)) <$> randomNumber 16

/-- What is said where another program would have to be started. -/
def unstarted : String := "other programs are not started from here"

def runNothing : Executor IO := fun command =>
  throw (.processFailed command.executable (.notStarted unstarted))

/-- The environment variable that names the configuration file. -/
def configurationVariable : String := "BHYVE_VM_CONFIGURATION"

def defaultConfiguration : String := "/usr/local/etc/bhyve-vm.toml"

end RealHost

end Guestkeeper

open Guestkeeper in
def main (arguments : List String) : IO UInt32 := do
  let named ← IO.getEnv RealHost.configurationVariable
  let path := named.getD RealHost.defaultConfiguration
  let finish ← CommandLine.program RealHost.runNothing path arguments
  let status ← CommandLine.complete RealHost.runNothing finish
  return (status % 256).toNat.toUInt32
