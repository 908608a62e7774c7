import Guestkeeper.Host.Files
import Guestkeeper.Host.FileTree
import Guestkeeper.Host.Script
import Guestkeeper.Host.Terminal

set_option autoImplicit false

/-! # The host as a value

A simulated host has a directory tree, a current directory, a script for processes, and what
was printed. The store and the command line run on it as functions from one such value to the
next. Processes are answered by the script, or by programs that are installed in the tree. -/

namespace Guestkeeper.Host

structure Simulation where
  tree : FileTree
  current : List String := []
  script : Script := {}
  /-- What was printed on the standard output. -/
  printed : String := ""
  /-- What was printed on the standard error output. -/
  complaints : String := ""
  /-- How many identifiers were handed out. -/
  drawn : Nat := 0

namespace Simulation

instance : Inhabited Simulation := ⟨{ tree := default }⟩

/-! ## Files -/

/-- Asks the tree. -/
def ask {α : Type} (question : FileTree → List String → Except Cause α) :
    StateM Simulation (Except Cause α) := fun s => (question s.tree s.current, s)

/-- Changes the tree, which stays as it is where the change is refused. -/
def change (operation : FileTree → List String → Except Cause FileTree) :
    StateM Simulation (Except Cause Unit) := fun s =>
  match operation s.tree s.current with
  | .ok tree => (.ok (), { s with tree := tree })
  | .error cause => (.error cause, s)

/-- The places of the devices that stand for the standard outputs. -/
def printedPlace : List String := ["dev", "stdout"]

def complaintsPlace : List String := ["dev", "stderr"]

/-- Shows bytes that were written to a standard output by its path. -/
def echoed (s : Simulation) (path : String) (bytes : ByteArray) : Simulation :=
  let text := (String.fromUTF8? bytes).getD ""
  match s.tree.resolve s.current path with
  | .ok place =>
    if place = printedPlace then { s with printed := s.printed ++ text }
    else if place = complaintsPlace then { s with complaints := s.complaints ++ text }
    else s
  | .error _ => s

instance : Files (StateM Simulation) where
  size path := ask fun t current => t.size current path
  read path := ask fun t current => t.read current path
  create path := change fun t current => t.create current path
  createNew path := change fun t current => t.createNew current path
  append path bytes := fun s =>
    let (result, s) := change (fun t current => t.append current path bytes) s
    (result, if result.toBool then s.echoed path bytes else s)
  setLength path length := change fun t current => t.setLength current path length
  sync path := ask fun t current => (t.stat current path).map fun _ => ()
  rename path newPath := change fun t current => t.rename current path newPath
  remove path := change fun t current => t.remove current path
  list path := ask fun t current => t.list current path
  createDirectories path := fun s =>
    let (result, tree) := s.tree.createDirectories s.current path
    (result, { s with tree := tree })
  freshSuffix := pure ""

/-! ## The terminal -/

instance : Terminal (StateM Simulation) where
  print text := modify fun s => { s with printed := s.printed ++ text }
  complain text := modify fun s => { s with complaints := s.complaints ++ text }
  freshId := modifyGet fun s => (Uuid.ofRandomBits s.drawn, { s with drawn := s.drawn + 1 })

/-! ## Processes -/

/-- What a program does when it is run: how it ends and what it prints. -/
structure ProgramRun where
  status : Int
  output : String := ""
  deriving DecidableEq, Repr

/-- The programs by the places of their files, each a function of its arguments. -/
abbrev Programs := List String → Option (List String → ProgramRun)

/-- Where a program without a directory is looked for. -/
def programDirectory : String := "/bin"

/-- The path at which a program is looked for. -/
def programPath (executable : String) : String :=
  if executable.isEmpty || executable.toList.contains '/' then executable
  else Path.join programDirectory executable

/-- The program at a path, or why there is none that can be run. -/
def findProgram (programs : Programs) (s : Simulation) (executable : String) :
    Except Cause (List String → ProgramRun) := do
  let place ← s.tree.resolve s.current (programPath executable)
  match s.tree.lookup place, programs place with
  | none, _ => throw .notFound
  | some (.file _ _), some program => return program
  | some _, _ => throw .permissionDenied

/-- What is said of a command with a NUL character in it, which no process can be given. -/
def nulInCommand : String := "nul byte found in provided data"

def hasNul (command : Command) : Bool :=
  (command.executable :: command.arguments).any fun text => text.toList.contains '\x00'

/-- The program that a command runs, or the reason why it cannot be started. -/
def programOf (programs : Programs) (s : Simulation) (command : Command) :
    Except String (List String → ProgramRun) :=
  if hasNul command then .error nulInCommand
  else (findProgram programs s command.executable).mapError Cause.message

/-- Runs a command with the installed programs. -/
def runInstalled (programs : Programs) : Executor (StateM Simulation) := fun command =>
  ExceptT.mk fun s =>
    match programOf programs s command with
    | .error reason => (.error (.processFailed command.executable (.notStarted reason)), s)
    | .ok program =>
      let run := program command.arguments
      (.ok run.status, { s with printed := s.printed ++ run.output })

/-- Runs a command by the script. -/
def runScripted : Executor (StateM Simulation) := fun command => ExceptT.mk fun s =>
  let (result, script) := s.script.answer command
  (result, { s with script := script })

/-- Runs a command by the script; one that succeeds makes the directory that its last argument
names, seen from the root. -/
def runMakingDirectories : Executor (StateM Simulation) := fun command => do
  let status ← runScripted command
  if status = 0 then
    match command.arguments.getLast? with
    | some dataset =>
      let _ ← ExceptT.lift (Files.createDirectories ("/" ++ dataset) :
        StateM Simulation (Except Cause Unit))
    | none => pure ()
  return status

end Simulation

end Guestkeeper.Host
