import Guestkeeper.Text.Hexadecimal

set_option autoImplicit false

/-! # Universally unique identifiers

A machine is known by a 128-bit number. It is written as 32 lower-case hexadecimal digits in
groups of 8, 4, 4, 4 and 12 with hyphens between them; it is read from that form, from the
digits alone, from the hyphenated form in braces and from its URN, with digits and letters of
either case. -/

namespace Guestkeeper

open Guestkeeper.Text

structure Uuid where
  number : Nat
  number_lt : number < 1 <<< 128
  deriving DecidableEq

namespace Uuid

theorem ext {a b : Uuid} (h : a.number = b.number) : a = b := by
  cases a; cases b; cases h; rfl

/-- Identifiers are in the order of their numbers, which is the order of their texts. -/
instance : Ord Uuid := ⟨compareOn number⟩

instance : Std.TransOrd Uuid := inferInstanceAs (Std.TransCmp (compareOn number))

instance : Std.LawfulEqOrd Uuid where
  eq_of_compare {a b} h :=
    ext (Std.compare_eq_iff_eq.1 (show compare a.number b.number = .eq from h))

/-- Lengths of the groups of digits. -/
def groupLengths : List Nat := [8, 4, 4, 4, 12]

/-- Cuts a list into pieces of the given lengths. -/
def cutInto : List Nat → List Char → List (List Char)
  | [], _ => []
  | n :: ns, cs => cs.take n :: cutInto ns (cs.drop n)

def hyphenated (id : Uuid) : List Char :=
  ['-'].intercalate (cutInto groupLengths (fixedHex 32 id.number))

/-- The written form of the identifier. -/
def text (id : Uuid) : String := String.ofList id.hyphenated

def ofDigits? (digits : List Char) : Option Uuid :=
  match readHex? 0 digits with
  | some n => if h : n < 1 <<< 128 then some ⟨n, h⟩ else none
  | none => none

def ofHyphenated? (cs : List Char) : Option Uuid :=
  let groups := cs.splitOn '-'
  if groups.map List.length = groupLengths then ofDigits? groups.flatten else none

/-- How the URN of an identifier begins, in letters of either case. -/
def urnStart : List Char := "urn:uuid:".toList

/-- Reads any of the four forms. -/
def ofText? (text : String) : Option Uuid :=
  let cs := text.toList
  if cs.length = 32 then ofDigits? cs
  else if cs.head? = some '\x7b' && cs.getLast? = some '\x7d' then
    ofHyphenated? (cs.drop 1).dropLast
  else if urnStart.isPrefixOf (cs.map Char.toLower) then ofHyphenated? (cs.drop urnStart.length)
  else ofHyphenated? cs

/-- The identifier of version 4 with these 122 bits at random: 48 of them, the version, 12 more,
the variant, and the rest. -/
def ofRandomBits (bits : Nat) : Uuid :=
  let start := ((bits >>> 74) * 16 + 4) <<< 12 + (bits >>> 62) % (1 <<< 12)
  ⟨((start * 4 + 2) <<< 62 + bits % (1 <<< 62)) % (1 <<< 128), Nat.mod_lt _ (by decide)⟩

end Uuid

end Guestkeeper
