import Guestkeeper.Uuid

set_option autoImplicit false

/-! # The operator's terminal

What the command line needs of the host besides files and processes: the two outputs, and
identifiers for new machines. -/

namespace Guestkeeper.Host

class Terminal (m : Type → Type) where
  /-- Prints a text on the standard output. -/
  print : String → m Unit
  /-- Prints a text on the standard error output. -/
  complain : String → m Unit
  /-- An identifier that no machine has. -/
  freshId : m Uuid

end Guestkeeper.Host
