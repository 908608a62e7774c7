import Guestkeeper.Host.Command
import Guestkeeper.Error

set_option autoImplicit false

/-! # What is asked of the host

The operations on files and processes that the store, the realization of machines and the
command line are written with. They are stated for any monad: the program runs them on the
host, and statements about them are made over a directory tree held as a value. -/

namespace Guestkeeper.Host

/-- Files of the host. A path is absolute, or relative to the current directory. -/
class Files (m : Type → Type) where
  /-- The size of what is at the path. -/
  size : String → m (Except Cause Nat)
  /-- The contents of a file. -/
  read : String → m (Except Cause ByteArray)
  /-- Makes the file an empty one, whether it is there or not. -/
  create : String → m (Except Cause Unit)
  /-- Makes an empty file where nothing is. -/
  createNew : String → m (Except Cause Unit)
  /-- Adds bytes at the end of a file. -/
  append : String → ByteArray → m (Except Cause Unit)
  /-- Cuts a file to a length or fills it up with zeros. -/
  setLength : String → Nat → m (Except Cause Unit)
  /-- Waits until the contents of a file, or the entries of a directory, are on the disk. -/
  sync : String → m (Except Cause Unit)
  /-- Moves a file, in place of the file that was at the new path. -/
  rename : String → String → m (Except Cause Unit)
  /-- Removes a file. -/
  remove : String → m (Except Cause Unit)
  /-- The names in a directory, in no particular order. -/
  list : String → m (Except Cause (List String))
  /-- Makes a directory and those above it, as far as they are missing. -/
  createDirectories : String → m (Except Cause Unit)
  /-- A name part that no file of the directory has yet. -/
  freshSuffix : m String

/-- Runs a command and gives its exit status; `128 + n` after signal `n`. -/
abbrev Executor (m : Type → Type) := Command → ExceptT Error m Int

section

variable {m : Type → Type} [Monad m]

/-- The result of an operation on a path, its cause reported with the path. -/
def at? {α : Type} (path : String) (operation : m (Except Cause α)) : ExceptT Error m α :=
  ExceptT.mk (operation >>= fun result => pure (result.mapError (Error.io path)))

/-- Whether something is at the path. -/
def isThere [Files m] (path : String) : m Bool :=
  Files.size path >>= fun result => pure result.toBool

/-- Makes a file with these contents, in place of what was in it. -/
def writeFile [Files m] (path : String) (bytes : ByteArray) : m (Except Cause Unit) := do
  match ← Files.create path with
  | .error cause => return .error cause
  | .ok _ => Files.append path bytes

/-- The text of a file. -/
def readText [Files m] (path : String) : m (Except Cause String) := do
  match ← Files.read path with
  | .error cause => return .error cause
  | .ok bytes =>
    match String.fromUTF8? bytes with
    | some text => return .ok text
    | none => return .error .notUtf8

end

end Guestkeeper.Host
