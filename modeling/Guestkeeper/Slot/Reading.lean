import Guestkeeper.Error
import Guestkeeper.Text.Blank
import Guestkeeper.Text.Fields

set_option autoImplicit false

/-! # Reading device slots

A slot is read from three numerals with colons between them; blanks around the whole are
allowed. Each number has its bound. -/

namespace Guestkeeper.Slot

open Guestkeeper.Text

/-- The slot with the given numbers, which are checked in the order bus, slot, function. -/
def ofNumbers (bus slot function : Nat) : Except Error Slot :=
  if hb : bus < 256 then
    if hs : slot < 32 then
      if hf : function < 8 then .ok ⟨⟨bus, hb⟩, ⟨slot, hs⟩, ⟨function, hf⟩⟩
      else Guestkeeper.invalid (.functionTooLarge function)
    else Guestkeeper.invalid (.slotTooLarge slot)
  else Guestkeeper.invalid (.busTooLarge bus)

/-- One of the three numbers in `text`. -/
def component (text part : String) : Except Error Nat :=
  match readNatural UInt32.size part with
  | .ok n => .ok n
  | .error _ => Guestkeeper.invalid (.slotComponent text part)

/-- Reads `bus:slot:function`. -/
def ofText (text : String) : Except Error Slot := do
  match fields ':' (trim text) with
  | [a, b, c] =>
    let bus ← component text a
    let slot ← component text b
    let function ← component text c
    ofNumbers bus slot function
  | _ => Guestkeeper.invalid (.slotForm text)

end Guestkeeper.Slot
