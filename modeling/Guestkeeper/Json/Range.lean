set_option autoImplicit false

/-! # Numbers out of range

Whether a number has a place among the floating-point numbers of double precision. A number is
taken as a significand and a power of ten. The significand is made of the first digits, as far
as they fit into 64 bits, and the digits after them only count for the power. Significand and
power are each rounded to double precision before they are multiplied, so the limit is a little
lower for some numbers than the greatest double would have it. -/

namespace Guestkeeper.Json

/-! ## Rounding -/

/-- How many bits a number has beyond the 53 that double precision keeps. -/
def surplusBits (n : Nat) : Nat := n.log2 + 1 - 53

/-- The integer of double precision that is nearest to `n`, the even one of two. Integers too
large for double precision are rounded all the same. -/
def roundDouble (n : Nat) : Nat :=
  let unit := 1 <<< surplusBits n
  let quotient := n / unit
  let remainder := n % unit
  let isUp := unit < 2 * remainder || (unit = 2 * remainder && quotient % 2 = 1)
  (if isUp then quotient + 1 else quotient) * unit

/-- The least number that rounds to infinity in double precision. -/
def hugeLimit : Nat := (1 <<< 1024) - (1 <<< 970)

/-- The greatest power of ten in double precision. -/
def powerLimit : Nat := 308

/-- Whether `significand * 10 ^ power` is out of range. -/
def isHuge (significand : Nat) (power : Int) : Bool :=
  if significand = 0 ∨ power < 0 then false
  else if powerLimit < power.toNat then true
  else hugeLimit ≤ roundDouble significand * roundDouble (Nat.pow 10 power.toNat)

example : roundDouble (2 ^ 53 + 1) = 2 ^ 53 ∧ roundDouble (2 ^ 53 + 3) = 2 ^ 53 + 4 := by decide

/-! ## Digits -/

def digitValue (c : Char) : Nat := c.toNat - '0'.toNat

/-- A significand and how many digits it was made of. -/
structure Significand where
  value : Nat := 0
  count : Nat := 0
  deriving DecidableEq, Repr

/-- Takes digits into the significand up to the first that would make it too large. -/
def Significand.take (s : Significand) : List Char → Significand
  | [] => s
  | c :: cs =>
    let value := 10 * s.value + digitValue c
    if value < UInt64.size then take ⟨value, s.count + 1⟩ cs else s

/-- Larger exponents are as good as this one. -/
def exponentLimit : Nat := 1 <<< 31

/-- The value of an exponent's digits, up to the limit. -/
def exponentValue (digits : List Char) : Nat :=
  digits.foldl (fun n c => min (10 * n + digitValue c) exponentLimit) 0

end Guestkeeper.Json
