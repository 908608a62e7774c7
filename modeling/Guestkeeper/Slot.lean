import Guestkeeper.Table
import Guestkeeper.Text.Numeral

set_option autoImplicit false

/-! # Device slots

A slot is the guest PCI address of a device: a bus, a slot on it and a function. Slots are in
lexicographic order; that is the order of a machine's devices on the hypervisor's command
line. -/

namespace Guestkeeper

open Guestkeeper.Text

structure Slot where
  bus : Fin 256
  slot : Fin 32
  function : Fin 8
  deriving DecidableEq, Repr

namespace Slot

/-- Lexicographic order of bus, slot and function. -/
instance : Ord Slot :=
  ⟨compareLex (compareOn bus) (compareLex (compareOn slot) (compareOn function))⟩

instance : Std.TransOrd Slot :=
  inferInstanceAs (Std.TransCmp
    (compareLex (compareOn bus) (compareLex (compareOn slot) (compareOn function))))

instance : Std.LawfulEqOrd Slot where
  eq_of_compare {a b} h := by
    have h' : compareLex (compareOn bus) (compareLex (compareOn slot) (compareOn function)) a b
        = .eq := h
    simp only [compareLex, compareOn, Ordering.then_eq_eq, Std.compare_eq_iff_eq] at h'
    cases a; cases b
    simp_all

/-- The slot of the host bridge on every machine. -/
def hostBridge : Slot := ⟨0, 0, 0⟩

/-- The number that names a device's storage, as in `disk-3`. -/
def deviceId (s : Slot) : Nat := s.slot

/-- The slot written as `bus:slot:function`. -/
def text (s : Slot) : String :=
  decimal s.bus ++ ":" ++ decimal s.slot ++ ":" ++ decimal s.function

/-- The slots that are handed out when none is asked for: function 0 of the slots 1 to 31 on
bus 0. -/
def automatic : List Slot := (List.finRange 31).map fun i => ⟨0, i.succ, 0⟩

end Slot

/-- A boot configuration that refers to a slot. -/
structure SlotReference where
  slot : Slot
  configuration : String
  deriving DecidableEq, Repr

def SlotReference.text (r : SlotReference) : String :=
  r.slot.text ++ " (boot configuration '" ++ r.configuration ++ "')"

end Guestkeeper
