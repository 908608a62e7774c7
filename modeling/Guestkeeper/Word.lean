set_option autoImplicit false

/-! # Words

Arithmetic on words of 32 and of 64 bits that gives no result where the exact one does not fit.
The statements say which exact number a result stands for, so that what is built on these
operations can be compared with arithmetic on natural numbers. -/

namespace Guestkeeper.Word

/-- The number as a word of 32 bits, if it fits. -/
def fit32? (n : Nat) : Option UInt32 := if n < UInt32.size then some (.ofNat n) else none

/-- The number as a word of 64 bits, if it fits. -/
def fit64? (n : Nat) : Option UInt64 := if n < UInt64.size then some (.ofNat n) else none

def product32? (a b : UInt32) : Option UInt32 := fit32? (a.toNat * b.toNat)

def product64? (a b : UInt64) : Option UInt64 := fit64? (a.toNat * b.toNat)

def sum64? (a b : UInt64) : Option UInt64 := fit64? (a.toNat + b.toNat)

theorem fit32?_eq_some_iff {n : Nat} {w : UInt32} : fit32? n = some w ↔ n = w.toNat := by
  rw [fit32?]
  constructor
  · split
    · next h =>
      intro hw
      rw [← Option.some.inj hw, UInt32.toNat_ofNat_of_lt' h]
    · intro hw
      cases hw
  · rintro rfl
    rw [if_pos w.toNat_lt, UInt32.ofNat_toNat]

theorem fit64?_eq_some_iff {n : Nat} {w : UInt64} : fit64? n = some w ↔ n = w.toNat := by
  rw [fit64?]
  constructor
  · split
    · next h =>
      intro hw
      rw [← Option.some.inj hw, UInt64.toNat_ofNat_of_lt' h]
    · intro hw
      cases hw
  · rintro rfl
    rw [if_pos w.toNat_lt, UInt64.ofNat_toNat]

theorem product32?_eq_some_iff {a b c : UInt32} :
    product32? a b = some c ↔ a.toNat * b.toNat = c.toNat := fit32?_eq_some_iff

theorem product64?_eq_some_iff {a b c : UInt64} :
    product64? a b = some c ↔ a.toNat * b.toNat = c.toNat := fit64?_eq_some_iff

theorem sum64?_eq_some_iff {a b c : UInt64} :
    sum64? a b = some c ↔ a.toNat + b.toNat = c.toNat := fit64?_eq_some_iff

end Guestkeeper.Word
