import Guestkeeper.CommandLine.Reading
import Guestkeeper.CommandLine.Run

set_option autoImplicit false

/-! # The program

The whole program from its arguments to the point at which it ends or another program takes
its place. Failures are reported on the standard error output. -/

namespace Guestkeeper.CommandLine

open Guestkeeper.Host

variable {m : Type → Type} [Monad m] [Files m] [Terminal m]

/-- The name that the program goes by. -/
def programName : String := "bhyve-vm"

def versionText : String := programName ++ " 0.1.0\n"

def usageText : String :=
  "Usage: " ++ programName ++ " [--verbose] [--configuration <path>] <command>\n" ++
    "Commands: " ++ String.intercalate ", " (CommandWord.all.map CommandWord.text) ++ "\n"

/-- The status of a program that could not do what it was asked to. -/
def failureStatus : Int := 1

/-- The status of a program whose arguments make no sense. -/
def usageStatus : Int := 2

/-- Reports a failure and gives the status with which the program ends. -/
def report (f : Failure) : m Int := do
  Terminal.complain (programName ++ ": " ++ f.message ++ "\n")
  return failureStatus

/-- The whole program, up to the point at which another program takes its place. -/
def program (run : Executor m) (configuration : String) (arguments : List String) :
    m Finish := do
  match readArguments configuration arguments with
  | .invocation i =>
    match ← (invoke run i).run with
    | .ok finish => return finish
    | .error f => return .exit (← report f)
  | .help =>
    Terminal.print usageText
    return .exit 0
  | .version =>
    Terminal.print versionText
    return .exit 0
  | .refused =>
    Terminal.complain usageText
    return .exit usageStatus

/-- The status with which the program ends. A program that takes this one's place answers for
it; one that cannot be started is reported. -/
def complete (run : Executor m) : Finish → m Int
  | .exit status => pure status
  | .become command => do
    match ← (run command).run with
    | .ok status => return status
    | .error e => report (.error e)

end Guestkeeper.CommandLine
