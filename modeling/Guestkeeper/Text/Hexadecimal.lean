set_option autoImplicit false

/-! # Hexadecimal digits

Reading takes digits of either case; writing uses lower case. Numbers of a fixed width keep
their leading zeros. -/

namespace Guestkeeper.Text

/-- The value of a hexadecimal digit of either case. -/
def hexValue? (c : Char) : Option Nat :=
  if c.isDigit then some (c.toNat - '0'.toNat)
  else if 'a' ≤ c && c ≤ 'f' then some (c.toNat - 'a'.toNat + 10)
  else if 'A' ≤ c && c ≤ 'F' then some (c.toNat - 'A'.toNat + 10)
  else none

/-- Reads hexadecimal digits onto the value read so far. -/
def readHex? : Nat → List Char → Option Nat
  | value, [] => some value
  | value, c :: cs =>
    match hexValue? c with
    | some d => readHex? (16 * value + d) cs
    | none => none

/-- The last `width` hexadecimal digits of `n`. -/
def fixedHex : Nat → Nat → List Char
  | 0, _ => []
  | width + 1, n => fixedHex width (n / 16) ++ [Nat.digitChar (n % 16)]

theorem length_fixedHex (width n : Nat) : (fixedHex width n).length = width := by
  induction width generalizing n with
  | zero => rfl
  | succ w ih => simp [fixedHex, ih]

theorem hexValue?_digitChar : ∀ d, d < 16 → hexValue? (Nat.digitChar d) = some d := by
  decide

theorem readHex?_append (cs ds : List Char) (value : Nat) :
    readHex? value (cs ++ ds) = (readHex? value cs).bind fun v => readHex? v ds := by
  induction cs generalizing value with
  | nil => rfl
  | cons c cs ih =>
    simp only [List.cons_append, readHex?]
    cases hexValue? c with
    | none => rfl
    | some d => exact ih _

/-- One more hexadecimal digit is four more bits. -/
theorem shiftLeft_digit (n width : Nat) : n <<< (4 * (width + 1)) = 16 * n <<< (4 * width) := by
  rw [Nat.mul_succ, Nat.add_comm, Nat.shiftLeft_add, Nat.shiftLeft_eq n 4, Nat.mul_comm n,
    Nat.shiftLeft_eq, Nat.shiftLeft_eq, Nat.mul_assoc]

/-- A number that fits the width is read back from its digits. -/
theorem readHex?_fixedHex (width n value : Nat) (h : n < 1 <<< (4 * width)) :
    readHex? value (fixedHex width n) = some (value <<< (4 * width) + n) := by
  induction width generalizing n with
  | zero =>
    have : n = 0 := by simpa using h
    simp [fixedHex, readHex?, this]
  | succ w ih =>
    rw [shiftLeft_digit] at h
    have hdiv : n / 16 < 1 <<< (4 * w) := by omega
    have hlast := hexValue?_digitChar (n % 16) (Nat.mod_lt _ (by decide))
    rw [fixedHex, readHex?_append, ih _ hdiv]
    simp only [Option.bind_some, readHex?, hlast, Option.some.injEq]
    rw [shiftLeft_digit]
    omega

theorem readHex?_zero_fixedHex {width n : Nat} (h : n < 1 <<< (4 * width)) :
    readHex? 0 (fixedHex width n) = some n := by
  rw [readHex?_fixedHex width n 0 h, Nat.shiftLeft_eq, Nat.zero_mul, Nat.zero_add]

end Guestkeeper.Text
