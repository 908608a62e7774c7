import Guestkeeper.Host.Files
import Guestkeeper.Host.Terminal

set_option autoImplicit false

/-! # Programs as dialogues with the host

Programs are written for any monad with the host's operations. Here they are read as dialogues:
a program is done with its result, or it asks the host one thing and goes on with the answer. What
a program does is then all there in its questions and their order, before anything is said about
how a host answers.
-/

namespace Guestkeeper.Host

/-- A change of the host's files that is made as a whole or not at all. -/
inductive Change
  | create (path : String)
  | createNew (path : String)
  | setLength (path : String) (length : Nat)
  | rename (path newPath : String)
  | remove (path : String)

/-- One thing that a program asks of the host. -/
inductive Question
  | size (path : String)
  | read (path : String)
  | list (path : String)
  | sync (path : String)
  | change (c : Change)
  | append (path : String) (bytes : ByteArray)
  | createDirectories (path : String)
  | freshSuffix
  | print (text : String)
  | complain (text : String)
  | freshId

/-- What the host answers a question with. -/
def Question.Answer : Question → Type
  | .size _ => Except Cause Nat
  | .read _ => Except Cause ByteArray
  | .list _ => Except Cause (List String)
  | .sync _ | .change _ | .append _ _ | .createDirectories _ => Except Cause Unit
  | .freshSuffix => String
  | .print _ | .complain _ => Unit
  | .freshId => Uuid

/-- A program with a result in `α`. -/
inductive Dialogue (α : Type) : Type
  | done (result : α)
  | ask (q : Question) (next : q.Answer → Dialogue α)

namespace Dialogue

variable {α β γ : Type}

/-- Goes on with `f` when the dialogue is done. -/
def bind : Dialogue α → (α → Dialogue β) → Dialogue β
  | done a, f => f a
  | ask q next, f => ask q fun answer => (next answer).bind f

theorem bind_done (p : Dialogue α) : p.bind done = p := by
  induction p with
  | done a => rfl
  | ask q next ih => exact congrArg (ask q) (funext ih)

theorem bind_assoc (p : Dialogue α) (f : α → Dialogue β) (g : β → Dialogue γ) :
    (p.bind f).bind g = p.bind fun a => (f a).bind g := by
  induction p with
  | done a => rfl
  | ask q next ih => exact congrArg (ask q) (funext ih)

instance : Monad Dialogue where
  pure := done
  bind := bind

instance : LawfulMonad Dialogue :=
  LawfulMonad.mk' Dialogue bind_done (fun _ _ => rfl) bind_assoc

/-- The dialogue that asks one question and is done with the answer. -/
def asking (q : Question) : Dialogue q.Answer := ask q done

instance : Files Dialogue where
  size path := asking (.size path)
  read path := asking (.read path)
  create path := asking (.change (.create path))
  createNew path := asking (.change (.createNew path))
  append path bytes := asking (.append path bytes)
  setLength path length := asking (.change (.setLength path length))
  sync path := asking (.sync path)
  rename path newPath := asking (.change (.rename path newPath))
  remove path := asking (.change (.remove path))
  list path := asking (.list path)
  createDirectories path := asking (.createDirectories path)
  freshSuffix := asking .freshSuffix

instance : Terminal Dialogue where
  print text := asking (.print text)
  complain text := asking (.complain text)
  freshId := asking .freshId

end Dialogue

end Guestkeeper.Host
