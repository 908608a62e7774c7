import Guestkeeper.Text.ShellWord

set_option autoImplicit false

/-! # Commands

A program with its arguments, as it is handed to the host, and its text as an operator would
type it. -/

namespace Guestkeeper

structure Command where
  executable : String
  arguments : List String
  deriving DecidableEq, Repr

/-- The command line: the program and its arguments as words with blanks between them. -/
def Command.text (c : Command) : String :=
  String.intercalate " " ((c.executable :: c.arguments).map Text.quote)

end Guestkeeper
