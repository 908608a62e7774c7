import Guestkeeper.Host.Shell
import Guestkeeper.Host.Simulation

set_option autoImplicit false

/-! # Programs of the simulated host

A simulated host comes with a few directories and devices, with small programs, and with a
shell. -/

namespace Guestkeeper.Host.Simulation

def directories : List String :=
  ["/bin", "/boot", "/dev", "/etc", "/home", "/lib", "/media", "/mnt", "/opt", "/proc", "/root",
   "/run", "/sbin", "/srv", "/sys", "/tmp", "/usr/bin", "/usr/lib", "/usr/local/bin",
   "/usr/local/etc", "/usr/local/sbin", "/usr/sbin", "/usr/share", "/var/db", "/var/lib",
   "/var/log", "/var/run", "/var/tmp"]

/-- Directories with programs. -/
def programDirectories : List (List String) := [["bin"], ["usr", "bin"]]

/-- The names of the shell. -/
def shellNames : List String := ["sh", "dash", "bash"]

def programNames : List String :=
  ["echo", "true", "false", "cat", "ls", "sleep", "test", "["] ++ shellNames

/-- Files that are no programs. -/
def plainFiles : List String := ["/etc/passwd", "/etc/group", "/etc/shadow", "/etc/hosts"]

/-- Devices that hold nothing and take everything. -/
def idleDevices : List String :=
  ["/dev/null", "/dev/zero", "/dev/random", "/dev/urandom", "/dev/stdin", "/dev/stdout",
   "/dev/stderr"]

/-- A device with no room. -/
def fullDevice : String := "/dev/full"

/-- The tree with a directory, if it can be made. -/
def withDirectory (t : FileTree) (path : String) : FileTree := (t.createDirectories [] path).2

/-- The tree with something at an absolute path. -/
def withContent (content : Content) (t : FileTree) (path : String) : FileTree :=
  t.put ((path.toList.splitOn '/').drop 1 |>.map String.ofList) content

/-- The paths of all programs. -/
def programPaths : List String :=
  programDirectories.flatMap fun directory =>
    programNames.map fun name => "/" ++ String.intercalate "/" (directory ++ [name])

/-- The tree of a host on which nothing has happened yet. -/
def freshTree : FileTree :=
  let t := directories.foldl withDirectory default
  let t := (programPaths ++ plainFiles).foldl (withContent .emptyFile) t
  withContent (.device true) (idleDevices.foldl (withContent (.device false)) t) fullDevice

/-- The host on which nothing has happened yet. -/
def freshHost : Simulation := { tree := freshTree }

/-- Whether two integers are in the relation that a word names. -/
def comparison? (word : String) (a b : Int) : Option Bool :=
  match word with
  | "-eq" => some (a = b)
  | "-ne" => some (a ≠ b)
  | "-lt" => some (a < b)
  | "-le" => some (a ≤ b)
  | "-gt" => some (b < a)
  | "-ge" => some (b ≤ a)
  | _ => none

/-- Whether a condition holds, if it is one. -/
def condition? : List String → Option Bool
  | [] => some false
  | [a] => some (!a.isEmpty)
  | ["-n", a] => some (!a.isEmpty)
  | ["-z", a] => some a.isEmpty
  | ["-e", path] => some (freshTree.stat [] path).toBool
  | [a, "=", b] => some (a = b)
  | [a, "!=", b] => some (a ≠ b)
  | "!" :: words => (condition? words).map not
  | [a, word, b] => do comparison? word (← a.toInt?) (← b.toInt?)
  | _ => none

/-- The run of a program that tells whether a condition holds. -/
def conditionRun (words : List String) : ProgramRun :=
  { status := match condition? words with
      | some true => 0
      | some false => 1
      | none => 2 }

/-- What the program with a name does, but for the shell. -/
def smallProgram? : String → Option (List String → ProgramRun)
  | "echo" =>
    some fun arguments => { status := 0, output := String.intercalate " " arguments ++ "\n" }
  | "true" => some fun _ => { status := 0 }
  | "false" => some fun _ => { status := 1 }
  | "cat" =>
    some fun paths =>
      { status := if paths.all fun path => (freshTree.read [] path).toBool then 0 else 1 }
  | "ls" =>
    some fun paths =>
      { status := if paths.all fun path => (freshTree.stat [] path).toBool then 0 else 2 }
  | "sleep" => some fun arguments => { status := if arguments.isEmpty then 1 else 0 }
  | "test" => some conditionRun
  | "[" =>
    some fun words =>
      if words.getLast? = some "]" then conditionRun words.dropLast else { status := 2 }
  | _ => none

/-- The name of the program at a place. -/
def programName? (place : List String) : Option String :=
  place.getLast?.filter fun name =>
    programDirectories.contains place.dropLast && programNames.contains name

/-- How a command ends that a shell starts. -/
def commandStatus (programs : Programs) (c : Command) : Nat :=
  match findProgram programs freshHost c.executable with
  | .ok program => (program c.arguments).status.toNat
  | .error .permissionDenied => 126
  | .error _ => 127

/-- The programs, among them shells that start shells up to the given depth. -/
def programs : Nat → Programs
  | 0, place => (programName? place).bind smallProgram?
  | depth + 1, place =>
    (programName? place).bind fun name =>
      if shellNames.contains name then
        some fun arguments => { status := Shell.status (commandStatus (programs depth)) arguments }
      else smallProgram? name

/-- The programs, with shells that are started by few other shells. -/
def usualPrograms : Programs := programs 8

/-- Makes a file with a text and the directories above it, as far as the host lets it. -/
def makeFile (path text : String) : StateM Simulation Unit := do
  match Path.parent? path with
  | some directory =>
    let _ ← (Files.createDirectories directory : StateM Simulation (Except Cause Unit))
  | none => pure ()
  let _ ← (writeFile path text.toUTF8 : StateM Simulation (Except Cause Unit))

end Guestkeeper.Host.Simulation
