import Guestkeeper.CommandLine.Request
import Guestkeeper.Text.Numeral

set_option autoImplicit false

/-! # Why a request fails

A request fails with a cause of the library, with one that concerns the command line alone, or
with a refusal of the host. What was being done is put before the cause. -/

namespace Guestkeeper.CommandLine

open Guestkeeper.Text

inductive Failure
  | error (cause : Error)
  | host (cause : Host.Cause)
  | numeral (fault : NumeralFault)
  | pinsWithoutTopology
  | pinForm (pin : String)
  | backendMissing (kind : KindWord)
  | hostSlotMissing
  /-- Something that failed while something else was being done. -/
  | during (activity : String) (failure : Failure)
  deriving DecidableEq

namespace Failure

/-- The message of a cause; the host's own words are said once more after it. -/
def errorMessage (e : Error) : String :=
  match e with
  | .io _ cause => e.message ++ ": " ++ cause.message
  | _ => e.message

def message : Failure → String
  | .error cause => errorMessage cause
  | .host cause => cause.message
  | .numeral fault => fault.message
  | .pinsWithoutTopology => "--pin requires --cpu-count or --sockets/--cores/--threads"
  | .pinForm pin => "pin '" ++ pin ++ "' must have the form <host>:<guest>"
  | .backendMissing kind => "--kind " ++ kind.title ++ " requires --backend"
  | .hostSlotMissing => "--kind passthru requires --host-slot"
  | .during activity failure => activity ++ ": " ++ failure.message

end Failure

end Guestkeeper.CommandLine
