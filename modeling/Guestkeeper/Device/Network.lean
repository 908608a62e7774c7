import Guestkeeper.Host.Command
import Guestkeeper.Error
import Guestkeeper.Path
import Guestkeeper.Text.Hexadecimal

set_option autoImplicit false

/-! # Network backends

A guest's network card is backed by a host interface of the kind `tap` or `vmnet`. The
interface has a name, Ethernet addresses for both ends, and groups that it joins. The kind
decides how the name begins; a machine only takes backends whose names pass `validate`. -/

namespace Guestkeeper

open Guestkeeper.Text

/-- An Ethernet address of six octets. -/
structure MacAddress where
  octets : List UInt8
  length_octets : octets.length = 6
  deriving DecidableEq

namespace MacAddress

/-- One octet: two hexadecimal digits, or a plus sign and one digit. -/
def octet? (cs : List Char) : Option UInt8 :=
  match cs with
  | ['+', low] => (hexValue? low).map UInt8.ofNat
  | [high, low] => (readHex? 0 [high, low]).map UInt8.ofNat
  | _ => none

def ofText (text : String) : Except Error MacAddress :=
  match (text.toList.splitOn ':').mapM octet? with
  | some octets =>
    if h : octets.length = 6 then .ok ⟨octets, h⟩ else invalid (.macForm text)
  | none => invalid (.macForm text)

/-- Six octets of two lower-case digits with colons between them. -/
def text (a : MacAddress) : String :=
  String.ofList ([':'].intercalate (a.octets.map fun o => fixedHex 2 o.toNat))

end MacAddress

inductive InterfaceKind
  | tap
  | vmnet
  deriving DecidableEq, Repr

/-- How the names of such interfaces begin. -/
def InterfaceKind.start : InterfaceKind → String
  | .tap => "tap"
  | .vmnet => "vmnet"

structure Interface where
  name : String
  hostMac : MacAddress
  guestMac : MacAddress
  groups : List String := []
  deriving DecidableEq

namespace Interface

/-- Host interfaces have names of at most this many bytes; so do their groups. -/
def nameLimit : Nat := 15

/-- Whether the name is the kind's beginning followed by a unit number. -/
def isNameOf (kind : InterfaceKind) (name : String) : Bool :=
  match after? kind.start name with
  | some unit =>
    !unit.isEmpty && unit.toList.all Char.isDigit && name.utf8ByteSize ≤ nameLimit
  | none => false

/-- Group names are ASCII letters, digits and underscores and do not end in a digit. -/
def isGroupName (group : String) : Bool :=
  !group.isEmpty && group.utf8ByteSize ≤ nameLimit &&
    group.toList.all (fun c => c.isAlphanum || c == '_') &&
    !(group.toList.getLast?.any Char.isDigit)

/-- Checks the name, then the groups in order. -/
def check (kind : InterfaceKind) (i : Interface) : Except Error Unit :=
  if isNameOf kind i.name then
    match i.groups.find? fun g => !isGroupName g with
    | some g => invalid (.groupName g)
    | none => .ok ()
  else invalid (.interfaceName i.name kind.start)

end Interface

structure NetworkBackend where
  kind : InterfaceKind
  interface : Interface
  deriving DecidableEq

namespace NetworkBackend

def validate (b : NetworkBackend) : Except Error Unit := b.interface.check b.kind

/-- A backend whose interface passes the checks of its kind. -/
def ofInterface (kind : InterfaceKind) (i : Interface) : Except Error NetworkBackend :=
  (i.check kind).map fun _ => ⟨kind, i⟩

/-- Reads `tap;<name>;<host-mac>;<guest-mac>[;<group>,...]`, or the same with `vmnet`. The
addresses are read before the kind is looked at. -/
def ofText (text : String) : Except Error NetworkBackend :=
  let read (kind name host guest groups : String) : Except Error NetworkBackend := do
    let hostMac ← MacAddress.ofText host
    let guestMac ← MacAddress.ofText guest
    let groups := if groups.isEmpty then [] else fields ',' groups
    let interface : Interface := ⟨name, hostMac, guestMac, groups⟩
    match kind with
    | "tap" => ofInterface .tap interface
    | "vmnet" => ofInterface .vmnet interface
    | _ => invalid (.unknownNetworkKind kind)
  match fields ';' text with
  | [kind, name, host, guest] => read kind name host guest ""
  | [kind, name, host, guest, groups] => read kind name host guest groups
  | _ => invalid (.networkForm text)

/-- The device node that the host shows for the interface. -/
def deviceNode (b : NetworkBackend) : String := Path.join "/dev" b.interface.name

/-- The commands that bring the interface into the configured state; it is created first
unless it is there. -/
def commands (b : NetworkBackend) (ifconfig : String) (present : Bool) : List Command :=
  let i := b.interface
  (if present then [] else [⟨ifconfig, [i.name, "create"]⟩]) ++
    ⟨ifconfig, [i.name, "ether", i.hostMac.text]⟩ ::
      i.groups.map fun g => ⟨ifconfig, [i.name, "group", g]⟩

end NetworkBackend

end Guestkeeper
