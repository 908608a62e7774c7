set_option autoImplicit false

/-! # Numerals

Decimal numerals as they are read from options, addresses and sizes: ASCII digits with any
number of leading zeros, after an optional plus sign, and a bound on the value. The fault
names the first digit position at which reading cannot go on. -/

namespace Guestkeeper.Text

inductive NumeralFault
  | empty
  | invalidDigit
  | tooLarge
  deriving DecidableEq, Repr

def NumeralFault.message : NumeralFault → String
  | .empty => "cannot parse integer from empty string"
  | .invalidDigit => "invalid digit found in string"
  | .tooLarge => "number too large to fit in target type"

/-- Reads digits onto the value read so far, which stays below `bound`. -/
def readDigits (bound : Nat) : Nat → List Char → Except NumeralFault Nat
  | value, [] => .ok value
  | value, c :: cs =>
    if c.isDigit then
      let next := 10 * value + (c.toNat - '0'.toNat)
      if next < bound then readDigits bound next cs else .error .tooLarge
    else .error .invalidDigit

/-- Reads a numeral whose value must be below `bound`. -/
def readNatural (bound : Nat) (text : String) : Except NumeralFault Nat :=
  match text.toList with
  | [] => .error .empty
  | ['+'] => .error .invalidDigit
  | '+' :: cs => readDigits bound 0 cs
  | cs => readDigits bound 0 cs

def readWord32 (text : String) : Except NumeralFault UInt32 :=
  (readNatural UInt32.size text).map UInt32.ofNat

def readWord64 (text : String) : Except NumeralFault UInt64 :=
  (readNatural UInt64.size text).map UInt64.ofNat

/-- The decimal numeral without leading zeros. -/
def decimal (n : Nat) : String := String.ofList (Nat.toDigits 10 n)

theorem readDigits_lt {bound value : Nat} {cs : List Char} {n : Nat} (hv : value < bound)
    (h : readDigits bound value cs = .ok n) : n < bound := by
  induction cs generalizing value with
  | nil => cases h; exact hv
  | cons c cs ih =>
    simp only [readDigits] at h
    split at h
    · split at h
      · exact ih (by assumption) h
      · cases h
    · cases h

end Guestkeeper.Text
