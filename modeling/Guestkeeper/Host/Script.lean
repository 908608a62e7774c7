import Guestkeeper.Host.Command
import Guestkeeper.Error

set_option autoImplicit false

/-! # Scripted processes

A script answers commands with exit statuses that are fixed beforehand and keeps the commands'
texts. With it, what runs other programs becomes a function that can be computed and reasoned
about. -/

namespace Guestkeeper.Host

/-- Exit statuses still to be answered, and the commands run so far. Where a status is
missing the command cannot be started; after the last one every command succeeds. -/
structure Script where
  statuses : List (Option Int) := []
  spawned : List String := []
  deriving DecidableEq, Repr

namespace Script

/-- Answers a command. -/
def answer (s : Script) (c : Command) : Except Error Int × Script :=
  let spawned := s.spawned ++ [c.text]
  match s.statuses with
  | [] => (.ok 0, ⟨[], spawned⟩)
  | some status :: rest => (.ok status, ⟨rest, spawned⟩)
  | none :: rest =>
    (.error (.processFailed c.executable (.notStarted "cannot start")), ⟨rest, spawned⟩)

end Script

end Guestkeeper.Host
