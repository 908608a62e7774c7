import Guestkeeper.Host.Files
import Guestkeeper.Record.Machine

set_option autoImplicit false

/-! # The machine store

Machines are kept in a directory with one record for each, named after the machine's
identifier. A record is only ever replaced as a whole: the new one is written to a file beside
it, which is then renamed over it, so that whoever looks sees the old record or the new one.
A machine's name belongs to no other machine of the store. -/

namespace Guestkeeper

open Guestkeeper.Host Guestkeeper.Text

structure Store where
  directory : String
  deriving DecidableEq, Repr

namespace Store

/-- How the names of records end. -/
def recordEnding : String := ".json"

/-- Where the record of a machine is kept. -/
def recordPath (s : Store) (id : Uuid) : String :=
  Path.join s.directory (id.text ++ recordEnding)

/-- Where a new record of a machine is written before it gets its place. -/
def temporaryPath (s : Store) (id : Uuid) (suffix : String) : String :=
  Path.join s.directory ("." ++ id.text ++ suffix ++ ".tmp")

/-- The text before an ending, if the text has it. -/
def before? (ending text : String) : Option String :=
  let cs := text.toList
  let es := ending.toList
  if es.isSuffixOf cs then some (String.ofList (cs.take (cs.length - es.length))) else none

/-- The identifier that a file's name stands for. Names of other files are passed over. -/
def recordId? (name : String) : Option Uuid := (before? recordEnding name).bind Uuid.ofText?

/-- Whether a machine comes before another, or is equal to it, in listings: by name, then by
identifier. -/
def listedBefore (a b : Machine) : Bool :=
  ((compare a.name b.name).then (compare a.id b.id)).isLE

variable {m : Type → Type} [Monad m] [Files m]

/-- The store in a directory, which is made if it is missing. -/
def prepare (directory : String) : ExceptT Error m Store := do
  at? directory (Files.createDirectories directory)
  return ⟨directory⟩

/-! ## Looking machines up -/

/-- What a file's contents are, or that there is none. -/
def readRecord (path : String) (id : Uuid) : ExceptT Error m ByteArray := ExceptT.mk do
  match ← Files.read path with
  | .ok bytes => return .ok bytes
  | .error .notFound => return .error (.nonexistent .machine [id.text])
  | .error cause => return .error (.io path cause)

/-- The machine that a record holds, which must be the one the record is named after. -/
def openRecord (path : String) (id : Uuid) (bytes : ByteArray) : Except Error Machine := do
  let machine ← Record.decode bytes
  if machine.id ≠ id then throw (.misfiledRecord path machine.id)
  return machine.withSource path

/-- The machine with an identifier. -/
def get (s : Store) (id : Uuid) : ExceptT Error m Machine := do
  let bytes ← readRecord (s.recordPath id) id
  ExceptT.mk (pure (openRecord (s.recordPath id) id bytes))

/-- The machines with the given identifiers. -/
def getAll (s : Store) : List Uuid → ExceptT Error m (List Machine)
  | [] => pure []
  | id :: rest => do
    let machine ← s.get id
    let more ← s.getAll rest
    return machine :: more

/-- Every machine, in the order of listings. One record that cannot be read spoils them
all. -/
def list (s : Store) : ExceptT Error m (List Machine) := do
  let names ← at? s.directory (Files.list s.directory)
  let machines ← s.getAll (names.filterMap recordId?)
  return machines.mergeSort listedBefore

/-- The only machine of a name among these. -/
def findNamed (machines : List Machine) (name : String) : Except Error Machine :=
  match machines.filter fun machine => machine.name = name with
  | [] => .error (.nonexistent .machine [name])
  | [only] => .ok only
  | several => invalid (.ambiguousName several.length name)

/-- The machine with the identifier that the key stands for or, where it stands for none, with
the key for its name. -/
def find (s : Store) (key : String) : ExceptT Error m Machine :=
  match Uuid.ofText? key with
  | some id => s.get id
  | none => do
    let machines ← s.list
    ExceptT.mk (pure (findNamed machines key))

/-- Whether there is a record for the identifier. -/
def exists? (s : Store) (id : Uuid) : m Bool := isThere (s.recordPath id)

/-! ## Writing and deleting records -/

/-- Makes a file with these contents and waits until they are on the disk. -/
def writeSynced (path : String) (bytes : ByteArray) : ExceptT Error m Unit := do
  at? path (Files.create path)
  at? path (Files.append path bytes)
  at? path (Files.sync path)

/-- Writes a record beside the place it belongs to and moves it there. -/
def replaceRecord (temporary target : String) (bytes : ByteArray) : ExceptT Error m Unit := do
  writeSynced temporary bytes
  at? target (Files.rename temporary target)

/-- Runs `action`; where it fails, the file at the path is removed. -/
def removingOnFailure (path : String) (action : ExceptT Error m Unit) : ExceptT Error m Unit :=
  ExceptT.mk do
    match ← action.run with
    | .ok _ => return .ok ()
    | .error e =>
      let _ ← Files.remove path
      return .error e

/-- Writes the record of a machine, in place of an earlier one, and waits until it is sure to
stay. -/
def put (s : Store) (machine : Machine) : ExceptT Error m Machine := do
  let target := s.recordPath machine.id
  let suffix ← ExceptT.lift Files.freshSuffix
  let temporary := s.temporaryPath machine.id suffix
  removingOnFailure temporary (replaceRecord temporary target (Record.encode machine))
  at? s.directory (Files.sync s.directory)
  return machine.withSource target

/-- Refuses a name that one of the machines has. -/
def checkNameFree (machines : List Machine) (name : String) : Except Error Unit :=
  if machines.any fun machine => machine.name = name then
    .error (.duplicate .machineName name)
  else .ok ()

/-- Stores a new machine, whose identifier and name must be free. -/
def insert (s : Store) (machine : Machine) : ExceptT Error m Machine := do
  if ← ExceptT.lift (s.exists? machine.id) then throw (.duplicate .machine machine.id.text)
  let machines ← s.list
  ExceptT.mk (pure (checkNameFree machines machine.name))
  s.put machine

/-- Removes the record of a machine. -/
def delete (s : Store) (id : Uuid) : ExceptT Error m Unit := ExceptT.mk do
  match ← Files.remove (s.recordPath id) with
  | .ok _ => return .ok ()
  | .error .notFound => return .error (.nonexistent .machine [id.text])
  | .error cause => return .error (.io (s.recordPath id) cause)

/-! ## Moving machines between stores -/

/-- The text of a machine's record, as another store takes it. -/
def exportText (s : Store) (id : Uuid) : ExceptT Error m String := do
  let machine ← s.get id
  return Record.encodeText machine

/-- The record of a machine. -/
def exportRecord (s : Store) (id : Uuid) : ExceptT Error m ByteArray := do
  let text ← s.exportText id
  return text.toUTF8

/-- Stores the machine of a record. With `replace` the machine may be there already; its name
must not be another's. -/
def importRecord (s : Store) (bytes : ByteArray) (replace : Bool) : ExceptT Error m Machine := do
  let machine ← ExceptT.mk (pure (Record.decode bytes))
  if replace then
    let machines ← s.list
    let others := machines.filter fun other => other.id ≠ machine.id
    ExceptT.mk (pure (checkNameFree others machine.name))
    s.put machine
  else s.insert machine

end Store

end Guestkeeper
