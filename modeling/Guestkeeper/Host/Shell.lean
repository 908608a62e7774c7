import Guestkeeper.Host.Command
import Guestkeeper.Text.Fields
import Guestkeeper.Text.Numeral

set_option autoImplicit false

/-! # The shell of the simulated host

A shell that reads a script of simple commands character by character and runs each command where
it ends. Commands are joined by semicolons, newlines, `&&` and `||`. There are no pipes, no
redirections and no control structures. Programs are started by a function that is given with the
shell and tells how a command ends. -/

namespace Guestkeeper.Host.Shell

open Guestkeeper.Text

/-- Where the shell stands in the script. What follows a backslash or a dollar sign may stand
between double quotes; the characters of a name come last first. -/
inductive Mode
  | plain
  | single
  | double
  | escaped (inside : Bool)
  | dollar (inside : Bool) (name : List Char)
  deriving DecidableEq, Repr

/-- The shell between two characters. Words and their characters come last first. -/
structure Session where
  /-- The name of the script and its arguments. -/
  arguments : List String
  values : List (String × String) := []
  /-- Signals that are ignored. -/
  ignored : List Nat := []
  /-- How the last command ended. -/
  status : Nat := 0
  /-- Whether the shell itself has ended. -/
  ended : Bool := false
  /-- Whether the command that is being read is to be run. -/
  live : Bool := true
  mode : Mode := .plain
  word : Option (List Char) := none
  words : List String := []

namespace Session

/-! ## Commands -/

/-- What stands for the number of the shell's own process. -/
def ownProcess : String := "4242"

/-- The signals by their numbers, from 1 on. -/
def signals : List String :=
  ["HUP", "INT", "QUIT", "ILL", "TRAP", "ABRT", "BUS", "FPE", "KILL", "USR1", "SEGV", "USR2",
   "PIPE", "ALRM", "TERM", "STKFLT", "CHLD", "CONT", "STOP", "TSTP", "TTIN", "TTOU", "URG",
   "XCPU", "XFSZ", "VTALRM", "PROF", "WINCH", "IO", "PWR", "SYS"]

def signal? (text : String) : Option Nat :=
  match signals.idxOf? text with
  | some i => some (i + 1)
  | none => (readNatural 65 text).toOption

/-- Signals that do not end a process. -/
def harmless : List Nat := [0, 17, 18, 19, 20, 21, 22, 23, 28]

/-- The signal that is to be sent and the processes that are to get it. -/
def delivery? : List String → Option (Nat × List String)
  | "-s" :: name :: targets => (signal? name).map fun n => (n, targets)
  | word :: targets =>
    match after? "-" word with
    | some name => (signal? name).map fun n => (n, targets)
    | none => some (15, word :: targets)
  | [] => none

def stop (s : Session) (status : Nat) : Session := { s with status := status, ended := true }

/-- Sends a signal to the shell itself, which ends it unless it is ignored. -/
def kill (s : Session) (words : List String) : Session :=
  match delivery? words with
  | some (n, [target]) =>
    if target ≠ ownProcess then { s with status := 1 }
    else if harmless.contains n || (s.ignored.contains n && n ≠ 9) then { s with status := 0 }
    else s.stop (128 + n)
  | _ => { s with status := 2 }

def isNameChar (c : Char) : Bool := c.isAlphanum || c = '_'

/-- The name and the value of an assignment. -/
def assignment? (word : String) : Option (String × String) :=
  (cut '=' word).filter fun (name, _) => !name.isEmpty && name.toList.all isNameChar

/-- Runs a command that is built in or a program. -/
def run (start : Command → Nat) (s : Session) : List String → Session
  | [] | ":" :: _ => { s with status := 0 }
  | ["exit"] => s.stop s.status
  | "exit" :: n :: _ => s.stop (((readNatural (1 <<< 31) n).map (· % 256)).toOption.getD 2)
  | "kill" :: words => s.kill words
  | "!" :: words =>
    let s := s.run start words
    { s with status := if s.status = 0 then 1 else 0 }
  | "trap" :: "" :: names => { s with ignored := names.filterMap signal? ++ s.ignored, status := 0 }
  | "exec" :: executable :: arguments => s.stop (start ⟨executable, arguments⟩)
  | executable :: arguments => { s with status := start ⟨executable, arguments⟩ }

/-- Runs the words that were read, if there are any. Assignments before a program are forgotten. -/
def runWords (start : Command → Nat) (s : Session) : Session :=
  let words := s.words.reverse
  let program := words.dropWhile fun word => (assignment? word).isSome
  if words.isEmpty || !s.live then s
  else if program.isEmpty then
    { s with values := words.filterMap assignment? ++ s.values, status := 0 }
  else s.run start program

/-! ## Reading -/

def push (s : Session) (c : Char) : Session := { s with word := some (c :: s.word.getD []) }

/-- Enters a mode in which a word is read. -/
def enter (s : Session) (mode : Mode) : Session :=
  { s with mode := mode, word := some (s.word.getD []) }

def endWord (s : Session) : Session :=
  match s.word with
  | none => s
  | some cs => { s with word := none, words := String.ofList cs.reverse :: s.words }

/-- Runs the command that ends here. The next one is run if the status is as it should be. -/
def endCommand (start : Command → Nat) (next : Nat → Bool) (s : Session) : Session :=
  let s := s.endWord.runWords start
  { s with words := [], live := !s.ended && next s.status }

/-- The value of a parameter. -/
def value (s : Session) (name : String) : String :=
  match name with
  | "?" => decimal s.status
  | "#" => decimal (s.arguments.length - 1)
  | "$" => ownProcess
  | "*" => String.intercalate " " (s.arguments.drop 1)
  | name =>
    match name.toNat? with
    | some n => s.arguments.getD n ""
    | none => (s.values.lookup name).getD ""

/-- The characters that a parameter stands for; `none` separates words. -/
def characters (s : Session) : List Char → List (Option Char)
  | ['@'] => [none].intercalate ((s.arguments.drop 1).map fun a => a.toList.map some)
  | name => (s.value (String.ofList name)).toList.map some

/-- Puts in what a parameter stands for, of which blanks make words outside of quotes. -/
def expand (inside : Bool) (s : Session) (name : List Char) : Session :=
  let take (s : Session) : Option Char → Session
    | none => s.endWord
    | some c => if !inside && separatesWords c then s.endWord else s.push c
  (s.characters name).foldl take { s with mode := if inside then .double else .plain }

def plainStep (start : Command → Nat) (s : Session) (c : Char) : Session :=
  match c with
  | '\'' => s.enter .single
  | '"' => s.enter .double
  | '\\' => { s with mode := .escaped false }
  | '$' => { s with mode := .dollar false [] }
  | ' ' | '\t' => s.endWord
  | ';' | '\n' => s.endCommand start fun _ => true
  | '&' => s.endCommand start (· = 0)
  | '|' => s.endCommand start (· ≠ 0)
  | c => s.push c

def doubleStep (s : Session) (c : Char) : Session :=
  match c with
  | '"' => { s with mode := .plain }
  | '\\' => { s with mode := .escaped true }
  | '$' => { s with mode := .dollar true [] }
  | c => s.push c

def openStep (start : Command → Nat) (inside : Bool) (s : Session) (c : Char) : Session :=
  if inside then s.doubleStep c else s.plainStep start c

/-- Parameters with names of one character, besides the digits. -/
def shortNames : List Char := ['?', '#', '$', '@', '*']

/-- Takes one character. -/
def step (start : Command → Nat) (s : Session) (c : Char) : Session :=
  match s.mode with
  | .plain => s.plainStep start c
  | .double => s.doubleStep c
  | .single => if c = '\'' then { s with mode := .plain } else s.push c
  | .escaped false => { s with mode := .plain }.push c
  | .escaped true =>
    if ['$', '"', '\\', '\x60'].contains c then { s with mode := .double }.push c
    else ({ s with mode := .double }.push '\\').push c
  | .dollar inside [] =>
    if shortNames.contains c || c.isDigit then s.expand inside [c]
    else if isNameChar c then { s with mode := .dollar inside [c] }
    else openStep start inside ({ s with mode := if inside then .double else .plain }.push '$') c
  | .dollar inside name =>
    if isNameChar c then { s with mode := .dollar inside (c :: name) }
    else openStep start inside (s.expand inside name.reverse) c

/-- The status at the end of the script. A script that ends between quotes has status 2. -/
def finish (start : Command → Nat) (s : Session) : Nat :=
  match s.mode with
  | .plain => (s.endCommand start fun _ => true).status
  | .dollar false name => ((s.expand false name.reverse).endCommand start fun _ => true).status
  | _ => 2

end Session

/-- How a script ends that is given as a text. -/
def scriptStatus (start : Command → Nat) (script : String) (arguments : List String) : Nat :=
  (script.toList.foldl (Session.step start) { arguments := arguments }).finish start

/-- The shell as a program. Without a script it reads what nobody writes. -/
def status (start : Command → Nat) : List String → Nat
  | [] => 0
  | ["-c", script] => scriptStatus start script ["sh"]
  | "-c" :: script :: arguments => scriptStatus start script arguments
  | _ => 2

end Guestkeeper.Host.Shell
