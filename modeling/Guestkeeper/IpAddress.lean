import Guestkeeper.Text.Hexadecimal
import Guestkeeper.Text.Numeral

set_option autoImplicit false

/-! # Internet addresses

The address a framebuffer listens on. A version 4 address is four decimal numbers without
leading zeros. A version 6 address is eight groups of hexadecimal digits; one run of zero
groups may be left out as `::`, and the last two groups may be a version 4 address. Writing
leaves out the longest run of at least two zero groups, the first of several, and shows a
version 4 address only where it is mapped into version 6. -/

namespace Guestkeeper

open Guestkeeper.Text

structure Ipv4Address where
  octets : List UInt8
  length_octets : octets.length = 4
  deriving DecidableEq

structure Ipv6Address where
  groups : List UInt16
  length_groups : groups.length = 8
  deriving DecidableEq

inductive IpAddress
  | v4 (address : Ipv4Address)
  | v6 (address : Ipv6Address)
  deriving DecidableEq

namespace Ipv4Address

/-- One number of the address: no leading zero, at most 255. -/
def octet? (cs : List Char) : Option UInt8 :=
  match cs with
  | [] => none
  | c :: rest =>
    if c = '0' && !rest.isEmpty then none
    else match readDigits 256 0 cs with
      | .ok n => some (UInt8.ofNat n)
      | .error _ => none

def ofList? (cs : List Char) : Option Ipv4Address :=
  match (cs.splitOn '.').mapM octet? with
  | some octets => if h : octets.length = 4 then some ⟨octets, h⟩ else none
  | none => none

def chars (a : Ipv4Address) : List Char :=
  ['.'].intercalate (a.octets.map fun o => Nat.toDigits 10 o.toNat)

/-- The address as two groups of a version 6 address. -/
def asGroups (a : Ipv4Address) : List UInt16 :=
  match a.octets with
  | [p, q, r, s] => [p.toUInt16 * 256 + q.toUInt16, r.toUInt16 * 256 + s.toUInt16]
  | _ => []

end Ipv4Address

namespace Ipv6Address

/-- One group: one to four hexadecimal digits. -/
def group? (cs : List Char) : Option UInt16 :=
  if cs.isEmpty || 4 < cs.length then none else (readHex? 0 cs).map UInt16.ofNat

/-- The groups of one side of `::`, or of the whole address. A version 4 address may stand at
the end where `tail` says so. -/
def groups? (tail : Bool) (cs : List Char) : Option (List UInt16) :=
  if cs.isEmpty then some []
  else
    let fields := cs.splitOn ':'
    match fields.mapM group? with
    | some groups => some groups
    | none =>
      match tail, (Ipv4Address.ofList? (fields.getLastD [])), fields.dropLast.mapM group? with
      | true, some last, some groups => some (groups ++ last.asGroups)
      | _, _, _ => none

/-- The characters before and after the first `::`. -/
def cutGap : List Char → Option (List Char × List Char)
  | ':' :: ':' :: rest => some ([], rest)
  | c :: rest => (cutGap rest).map fun (front, back) => (c :: front, back)
  | [] => none

def ofGroups? (groups : List UInt16) : Option Ipv6Address :=
  if h : groups.length = 8 then some ⟨groups, h⟩ else none

def ofList? (cs : List Char) : Option Ipv6Address :=
  match cutGap cs with
  | none => (groups? true cs).bind ofGroups?
  | some (front, back) =>
    match groups? false front, groups? true back with
    | some first, some last =>
      let missing := 8 - (first.length + last.length)
      if missing = 0 then none else ofGroups? (first ++ List.replicate missing 0 ++ last)
    | _, _ => none

/-- The number of zero groups from a position on. -/
def zerosFrom (groups : List UInt16) (start : Nat) : Nat :=
  ((groups.drop start).takeWhile (· == 0)).length

/-- Start and length of the longest run of zero groups, the first of several. -/
def longestZeros (groups : List UInt16) : Nat × Nat :=
  (List.range groups.length).foldl
    (fun best i => if best.2 < zerosFrom groups i then (i, zerosFrom groups i) else best) (0, 0)

def groupChars (groups : List UInt16) : List Char :=
  [':'].intercalate (groups.map fun g => Nat.toDigits 16 g.toNat)

/-- The version 4 address that is mapped into version 6, if this is one. -/
def mapped? (a : Ipv6Address) : Option Ipv4Address :=
  match a.groups with
  | [0, 0, 0, 0, 0, 0xffff, g, h] =>
    some ⟨[(g / 256).toUInt8, g.toUInt8, (h / 256).toUInt8, h.toUInt8], rfl⟩
  | _ => none

def chars (a : Ipv6Address) : List Char :=
  match a.mapped? with
  | some inner => "::ffff:".toList ++ inner.chars
  | none =>
    let (start, count) := longestZeros a.groups
    if count < 2 then groupChars a.groups
    else groupChars (a.groups.take start) ++ [':', ':'] ++
      groupChars (a.groups.drop (start + count))

end Ipv6Address

namespace IpAddress

def ofText? (text : String) : Option IpAddress :=
  match Ipv4Address.ofList? text.toList with
  | some a => some (.v4 a)
  | none => (Ipv6Address.ofList? text.toList).map .v6

def text : IpAddress → String
  | .v4 a => String.ofList a.chars
  | .v6 a => String.ofList a.chars

/-- The address `127.0.0.1`. -/
def loopback : IpAddress := .v4 ⟨[127, 0, 0, 1], rfl⟩

end IpAddress

end Guestkeeper
