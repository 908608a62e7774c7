import Guestkeeper.CommandLine.Grammar
import Guestkeeper.CommandLine.Request
import Guestkeeper.Slot.Reading

set_option autoImplicit false

/-! # Reading command lines

Every command has its grammar. What the grammar lets through is then made into a request: each
value was checked when it was read, so this fails nowhere. -/

namespace Guestkeeper.CommandLine

open Guestkeeper.Text

/-! ## Values -/

/-- A numeral below a bound, which may also have a minus sign if it is zero. -/
def signedNatural? (bound : Nat) (text : String) : Option Nat :=
  match text.toList with
  | '-' :: digits => if !digits.isEmpty && digits.all (· == '0') then some 0 else none
  | _ => (readNatural bound text).toOption

def word16? (text : String) : Option UInt16 := (signedNatural? UInt16.size text).map UInt16.ofNat

def word32? (text : String) : Option UInt32 := (signedNatural? UInt32.size text).map UInt32.ofNat

def word64? (text : String) : Option UInt64 := (readWord64 text).toOption

def slot? (text : String) : Option Slot := (Slot.ofText text).toOption

def tty? (text : String) : Option TtyBackend := (TtyBackend.ofText text).toOption

def hostSlot? (text : String) : Option HostAddress := (HostAddress.ofText text).toOption

def vendor? (text : String) : Option HostBridgeVendor := (HostBridgeVendor.ofText text).toOption

def vga? (text : String) : Option VgaMode := (VgaMode.ofText text).toOption

/-- Whether a value can be read. -/
def readable {α : Type} (read : String → Option α) (text : String) : Bool := (read text).isSome

/-- Paths have at least one character. -/
def isPath (text : String) : Bool := !text.isEmpty

/-! ## Grammars -/

/-- Options that every command takes, before or after its name. -/
def commonOptions : List OptionRule :=
  [{ name := "verbose", arity := .counter }, { name := "configuration", accepts := isPath }]

def topologyOptions : List OptionRule :=
  [{ name := "cpu-count", accepts := readable word32?
     excludes := ["sockets", "cores", "threads"] },
   { name := "sockets", accepts := readable word32? },
   { name := "cores", accepts := readable word32? },
   { name := "threads", accepts := readable word32? },
   { name := "pin", arity := .repeated }]

def memoryOptions : List OptionRule :=
  [{ name := "memory-gigabytes", accepts := readable word64? },
   { name := "memory-megabytes", accepts := readable word64? }]

def flagOption : OptionRule := { name := "flag", arity := .repeated }

def nameOption : OptionRule := { name := "name", required := true }

def commentOption : OptionRule := { name := "comment" }

def dryRunOption : OptionRule := { name := "dry-run", arity := .toggle }

def replaceOption : OptionRule := { name := "replace", arity := .toggle }

/-- An option that must be there with a path. -/
def pathOption (name : String) : OptionRule := { name := name, accepts := isPath, required := true }

/-- An option that must be there with a slot. -/
def slotOption (name : String) : OptionRule :=
  { name := name, accepts := readable slot?, required := true }

def bootOptions : List OptionRule :=
  [{ name := "disk", arity := .repeated, accepts := readable slot? }, commentOption,
   { name := "update", arity := .toggle }]

def deviceOptions : List OptionRule :=
  [{ name := "kind", accepts := readable KindWord.ofText?, required := true },
   { name := "slot", accepts := readable slot? },
   { name := "replace", arity := .toggle, needs := ["slot"] },
   commentOption,
   { name := "backend" },
   { name := "tty", arity := .repeated, accepts := readable tty? },
   { name := "host-slot", accepts := readable hostSlot? },
   { name := "vendor", accepts := readable vendor? },
   { name := "width", accepts := readable word32? },
   { name := "height", accepts := readable word32? },
   { name := "listen", accepts := readable IpAddress.ofText? },
   { name := "port", accepts := readable word16? },
   { name := "vga", accepts := readable vga? },
   { name := "wait", arity := .toggle }]

/-- The names of the commands. -/
inductive CommandWord
  | define
  | list
  | describe
  | delete
  | modify
  | addDevice
  | deleteDevices
  | addUefi
  | addOpenBsd
  | addLinux
  | deleteBoots
  | realize
  | start
  | console
  | kill
  | writeOut
  | readIn
  deriving DecidableEq, Repr

namespace CommandWord

def all : List CommandWord :=
  [.define, .list, .describe, .delete, .modify, .addDevice, .deleteDevices, .addUefi, .addOpenBsd,
   .addLinux, .deleteBoots, .realize, .start, .console, .kill, .writeOut, .readIn]

def text : CommandWord → String
  | .define => "define"
  | .list => "list"
  | .describe => "show"
  | .delete => "delete"
  | .modify => "modify"
  | .addDevice => "device-add"
  | .deleteDevices => "device-delete"
  | .addUefi => "boot-add-uefi"
  | .addOpenBsd => "boot-add-openbsd"
  | .addLinux => "boot-add-linux"
  | .deleteBoots => "boot-delete"
  | .realize => "realize"
  | .start => "run"
  | .console => "console"
  | .kill => "kill"
  | .writeOut => "export"
  | .readIn => "import"

def ofText? (text : String) : Option CommandWord := all.find? fun c => c.text = text

/-- The options of the command's own. -/
def options : CommandWord → List OptionRule
  | .define => [nameOption, commentOption] ++ topologyOptions ++ memoryOptions ++ [flagOption]
  | .modify =>
    [{ name := "name" }, commentOption] ++ topologyOptions ++ memoryOptions ++ [flagOption]
  | .addDevice => deviceOptions
  | .addUefi => nameOption :: pathOption "firmware" :: bootOptions
  | .addOpenBsd => nameOption :: pathOption "kernel" :: slotOption "boot-device" :: bootOptions
  | .addLinux =>
    [nameOption, pathOption "kernel", slotOption "kernel-device",
     { name := "argument", arity := .repeated, hyphens := true },
     pathOption "initrd", slotOption "initrd-device"] ++ bootOptions
  | .realize | .console | .kill => [dryRunOption]
  | .start => [{ name := "boot", required := true }, dryRunOption]
  | .writeOut => [{ name := "output", accepts := isPath }]
  | .readIn => [replaceOption]
  | .list | .describe | .delete | .deleteDevices | .deleteBoots => []

def operands : CommandWord → List OperandRule
  | .define | .list => []
  | .deleteDevices => [{}, { accepts := readable slot?, several := true }]
  | .deleteBoots => [{}, { several := true }]
  | .readIn => [{ accepts := isPath }]
  | _ => [{}]

def grammar (c : CommandWord) : Grammar :=
  { options := c.options ++ commonOptions, operands := c.operands }

end CommandWord

/-- The word that asks for help about a command. -/
def helpWord : String := "help"

/-- What stands before the command. -/
def outerGrammar : Grammar :=
  { options := commonOptions
    commands := helpWord :: CommandWord.all.map CommandWord.text
    versioned := true }

/-! ## Requests -/

namespace Given

def topology (g : Given) : TopologyRequest where
  count := (g.value? "cpu-count").bind word32?
  sockets := (g.value? "sockets").bind word32?
  cores := (g.value? "cores").bind word32?
  threads := (g.value? "threads").bind word32?
  pins := g.values "pin"

def memory (g : Given) : MemoryRequest where
  gigabytes := (g.value? "memory-gigabytes").bind word64?
  megabytes := (g.value? "memory-megabytes").bind word64?

def comment (g : Given) : String := (g.value? "comment").getD ""

/-- The value of an option, read, or a default where the option was not given. -/
def valueOr {α : Type} (g : Given) (name : String) (read : String → Option α) (default : α) : α :=
  ((g.value? name).bind read).getD default

def screen (g : Given) : Framebuffer where
  width := g.valueOr "width" word32? 1024
  height := g.valueOr "height" word32? 768
  address := g.valueOr "listen" IpAddress.ofText? IpAddress.loopback
  port := g.valueOr "port" word16? 5900
  vga := g.valueOr "vga" vga? .io
  wait := g.has "wait"

def device? (g : Given) : Option DeviceRequest := do
  let kind ← (← g.value? "kind") |> KindWord.ofText?
  return {
    kind := kind
    slot := (g.value? "slot").bind slot?
    replace := g.has "replace"
    comment := g.comment
    backend := g.value? "backend"
    ttys := (g.values "tty").filterMap tty?
    hostSlot := (g.value? "host-slot").bind hostSlot?
    vendor := g.valueOr "vendor" vendor? .default
    screen := g.screen }

/-- A boot configuration with the given method. -/
def boot? (g : Given) (method : BootMethod) : Option BootConfiguration := do
  let name ← g.value? "name"
  return ⟨name, g.comment, method, (g.values "disk").filterMap slot?⟩

def addBoot? (g : Given) (machine : String) (method : BootMethod) : Option Request := do
  let boot ← g.boot? method
  return .addBoot machine boot (g.has "update")

def openBsd? (g : Given) : Option Kernel := do
  let disk ← (← g.value? "boot-device") |> slot?
  return .openBsd (← g.value? "kernel") disk

def linux? (g : Given) : Option Kernel := do
  let disk ← (← g.value? "kernel-device") |> slot?
  let initrdDisk ← (← g.value? "initrd-device") |> slot?
  return .linux (← g.value? "kernel") disk (g.values "argument") (← g.value? "initrd") initrdDisk

end Given

/-- The request of a command about the machine or file that is its first operand. -/
def requestAbout? (g : Given) (subject : String) (others : List String) :
    CommandWord → Option Request
  | .describe => some (.describe subject)
  | .delete => some (.delete subject)
  | .modify =>
    some (.modify subject (g.value? "name") (g.value? "comment") g.topology g.memory
      (g.values "flag"))
  | .addDevice => g.device?.map (.addDevice subject)
  | .deleteDevices => some (.deleteDevices subject (others.filterMap slot?))
  | .addUefi => (g.value? "firmware").bind fun path => g.addBoot? subject (.uefi path)
  | .addOpenBsd => g.openBsd?.bind fun kernel => g.addBoot? subject (.grub kernel)
  | .addLinux => g.linux?.bind fun kernel => g.addBoot? subject (.grub kernel)
  | .deleteBoots => some (.deleteBoots subject others)
  | .realize => some (.realize subject (g.has "dry-run"))
  | .start => (g.value? "boot").map fun boot => .start subject boot (g.has "dry-run")
  | .console => some (.console subject (g.has "dry-run"))
  | .kill => some (.kill subject (g.has "dry-run"))
  | .writeOut => some (.writeOut subject (g.value? "output"))
  | .readIn => some (.readIn subject (g.has "replace"))
  | .define | .list => none

/-- The request of a command with what was given to it. -/
def request? (g : Given) (c : CommandWord) : Option Request :=
  match c, g.operands with
  | .define, _ =>
    (g.value? "name").map fun name =>
      .define name g.comment g.topology g.memory (g.values "flag")
  | .list, _ => some .list
  | _, subject :: others => requestAbout? g subject others c
  | _, [] => none

/-- What a whole command line comes to. -/
inductive Outcome
  | invocation (i : Invocation)
  | help
  | version
  | refused
  deriving DecidableEq

/-- Help about the command that is named, or about all of them. -/
def helpOutcome : List String → Outcome
  | [] => .help
  | [name] => if outerGrammar.commands.contains name then .help else .refused
  | _ => .refused

/-- The invocation of a command. The configuration file is the one given last; without any it
is the default. -/
def invocation? (outer inner : Given) (configuration : String) (c : CommandWord) :
    Option Invocation :=
  let path := (inner.value? "configuration").getD
    ((outer.value? "configuration").getD configuration)
  (request? inner c).map fun request => ⟨path, request⟩

/-- Reads the arguments of a command. -/
def readCommand (outer : Given) (configuration name : String) (rest : List String) : Outcome :=
  match CommandWord.ofText? name with
  | none => .refused
  | some c =>
    match c.grammar.read rest with
    | .done inner =>
      match invocation? outer inner configuration c with
      | some i => .invocation i
      | none => .refused
    | .help => .help
    | _ => .refused

/-- Reads a command line, given the path of the configuration file that is used where none is
named. -/
def readArguments (configuration : String) (arguments : List String) : Outcome :=
  match outerGrammar.read arguments with
  | .command outer name rest =>
    if name = helpWord then helpOutcome rest else readCommand outer configuration name rest
  | .help => .help
  | .version => .version
  | .done _ | .refused => .refused

end Guestkeeper.CommandLine
