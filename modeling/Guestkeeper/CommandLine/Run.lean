import Guestkeeper.CommandLine.Building
import Guestkeeper.CommandLine.Summary
import Guestkeeper.Configuration.Loading
import Guestkeeper.Launch.Console
import Guestkeeper.Host.Terminal
import Guestkeeper.Launch.Loader
import Guestkeeper.Realization.Machine
import Guestkeeper.Store

set_option autoImplicit false

/-! # Carrying out requests

A request is carried out under a configuration and on the store that the configuration names.
A command that changes a machine reads its record, makes a new machine and writes that back as
a whole. Starting a machine and attaching to its console end by handing the process over to
another program. -/

namespace Guestkeeper.CommandLine

open Guestkeeper.Host Guestkeeper.Text Guestkeeper.Realization

/-- How the program ends. -/
inductive Finish
  | exit (status : Int)
  /-- Another program takes its place. -/
  | become (command : Command)
  deriving DecidableEq, Repr

/-! ## Steps -/

variable {m : Type → Type} [Monad m]

/-- What a request is carried out in. -/
abbrev Act (m : Type → Type) := ExceptT Failure m

/-- An operation of the library. -/
def act {α : Type} (x : ExceptT Error m α) : Act m α :=
  ExceptT.mk (x.run >>= fun result => pure (result.mapError .error))

/-- A result that is there already. -/
def given {α : Type} (x : Except Failure α) : Act m α := ExceptT.mk (pure x)

/-- A result of the library that is there already. -/
def settled {α : Type} (x : Except Error α) : Act m α := given (x.mapError .error)

/-- An operation of the host, with what was being done. -/
def attempt {α : Type} (activity : String) (x : m (Except Cause α)) : Act m α :=
  ExceptT.mk (x >>= fun result => pure (result.mapError fun cause =>
    .during activity (.host cause)))

def printLine [Terminal m] (text : String) : Act m Unit :=
  ExceptT.lift (Terminal.print (text ++ "\n"))

def printLines [Terminal m] (lines : List String) : Act m Unit :=
  ExceptT.lift (Terminal.print (Launch.lineText lines))

variable [Files m]

/-- Reads a machine, changes it, and writes it back. -/
def update (s : Store) (key : String) (change : Machine → Except Failure Machine) :
    Act m Unit := do
  let machine ← act (s.find key)
  let changed ← given (change machine)
  let _ ← act (s.put changed)

/-- Realizes a machine and prints the steps. -/
def realizeMachine [Terminal m] (run : Executor m) (c : Configuration) (machine : Machine)
    (dryRun : Bool) : Act m Unit := do
  let steps ← act (realize c (hostStorage run c.zfs) run machine dryRun)
  printLines (steps.map Step.text)

/-- Makes a file and the directory that it is in. -/
def writeLoaderFile (file : Launch.LoaderFile) : Act m Unit := do
  match Path.parent? file.path with
  | some directory => attempt ("creating " ++ directory) (Files.createDirectories directory)
  | none => pure ()
  attempt ("writing " ++ file.path) (writeFile file.path file.contents.toUTF8)

def writeLoaderFiles : List Launch.LoaderFile → Act m Unit
  | [] => pure ()
  | file :: rest => do
    writeLoaderFile file
    writeLoaderFiles rest

/-- Writes the loader's files and runs the loader, which must succeed. -/
def runLoader (run : Executor m) (loader : Launch.Loader) : Act m Unit := do
  writeLoaderFiles loader.files
  let status ← act (run loader.command)
  if status ≠ 0 then
    throw (.error (.processFailed loader.command.executable (.exited status)))

/-- The loader's files and command as they are shown. -/
def loaderText (loader : Launch.Loader) : String :=
  String.join (loader.files.map fun file => "# " ++ file.path ++ "\n" ++ file.contents) ++
    loader.command.text ++ "\n"

/-- Starts a machine, or shows what would be done. -/
def startMachine [Terminal m] (run : Executor m) (c : Configuration) (machine : Machine)
    (name : String) (dryRun : Bool) : Act m Finish := do
  match machine.boot? name with
  | none => throw (.error (.nonexistent .bootConfiguration [name]))
  | some boot =>
    let plan ← settled (Launch.plan c machine boot)
    realizeMachine run c machine dryRun
    if dryRun then
      ExceptT.lift (Terminal.print ((plan.loader.map loaderText).getD ""))
      printLine plan.hypervisor.text
      return .exit 0
    else
      match plan.loader with
      | some loader => runLoader run loader
      | none => pure ()
      return .become plan.hypervisor

/-- Attaches to the console of a machine, or shows how. -/
def attachConsole [Terminal m] (c : Configuration) (machine : Machine) (dryRun : Bool) :
    Act m Finish :=
  match Console.command? c machine with
  | none => throw (.error (.noSingleConsole (Console.candidates machine).length))
  | some command =>
    if dryRun then do
      printLine command.text
      return .exit 0
    else return .become command

/-- Destroys a running machine, or shows how. The program ends as the tool does. -/
def killMachine [Terminal m] (run : Executor m) (c : Configuration) (machine : Machine)
    (dryRun : Bool) : Act m Finish := do
  let command := Launch.killCommand c machine
  if dryRun then
    printLine command.text
    return .exit 0
  else
    let status ← act (run command)
    if status ≠ 0 then
      ExceptT.lift (Terminal.complain
        (command.executable ++ " exited with status " ++ toString status ++ "\n"))
    return .exit status

/-! ## Requests -/

/-- Carries out a request. -/
def perform [Terminal m] (run : Executor m) (c : Configuration) (s : Store) :
    Request → Act m Finish
  | .define name comment cpu memory flags => do
    let id ← ExceptT.lift Terminal.freshId
    let d ← given (definition id name comment cpu memory flags)
    let machine ← settled (Machine.define d)
    let stored ← act (s.insert machine)
    printLine stored.id.text
    return .exit 0
  | .list => do
    printLines ((← act s.list).map listingLine)
    return .exit 0
  | .describe key => do
    printLines (descriptionLines (← act (s.find key)))
    return .exit 0
  | .delete key => do
    let machine ← act (s.find key)
    act (s.delete machine.id)
    return .exit 0
  | .modify key name comment cpu memory flags => do
    update s key fun machine => do
      let wanted ← changes machine name comment cpu memory flags
      (machine.apply wanted).mapError .error
    return .exit 0
  | .addDevice key device => do
    let machine ← act (s.find key)
    let addition ← given device.addition
    let (changed, slot) ← settled (machine.addDevice addition)
    let _ ← act (s.put changed)
    printLine slot.text
    return .exit 0
  | .deleteDevices key slots => do
    update s key fun machine => (machine.deleteDevices slots).mapError .error
    return .exit 0
  | .addBoot key boot replace => do
    update s key fun machine => (machine.mergeBoots [boot] replace).mapError .error
    return .exit 0
  | .deleteBoots key names => do
    update s key fun machine => (machine.removeBoots names).mapError .error
    return .exit 0
  | .realize key dryRun => do
    realizeMachine run c (← act (s.find key)) dryRun
    return .exit 0
  | .start key boot dryRun => do
    startMachine run c (← act (s.find key)) boot dryRun
  | .console key dryRun => do
    attachConsole c (← act (s.find key)) dryRun
  | .kill key dryRun => do
    killMachine run c (← act (s.find key)) dryRun
  | .writeOut key output => do
    let machine ← act (s.find key)
    let text ← act (s.exportText machine.id)
    match output with
    | some path => attempt ("writing " ++ path) (writeFile path text.toUTF8)
    | none => ExceptT.lift (Terminal.print text)
    return .exit 0
  | .readIn file replace => do
    let bytes ← attempt ("reading " ++ file) (Files.read file)
    let machine ← act (s.importRecord bytes replace)
    printLine machine.id.text
    return .exit 0

/-- Loads the configuration, opens the store and carries out the request. -/
def invoke [Terminal m] (run : Executor m) (i : Invocation) : Act m Finish := do
  let c ← ExceptT.mk do
    match ← (Configuration.load i.configuration : ExceptT Error m Configuration).run with
    | .ok c => return .ok c
    | .error e => return .error (.during ("loading " ++ i.configuration) (.error e))
  let s ← act (Store.prepare c.machineDirectory)
  perform run c s i.request

end Guestkeeper.CommandLine
