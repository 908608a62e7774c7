set_option autoImplicit false

/-! # Blanks and control characters

The characters that count as white space (the Unicode property `White_Space`) and as control
characters (the category `Cc`). Some of the former are no white space to the core library. -/

namespace Guestkeeper.Text

/-- Code points with the property `White_Space`, as inclusive ranges. -/
def blankRanges : List (Nat × Nat) :=
  [(0x09, 0x0D), (0x20, 0x20), (0x85, 0x85), (0xA0, 0xA0), (0x1680, 0x1680),
   (0x2000, 0x200A), (0x2028, 0x2029), (0x202F, 0x202F), (0x205F, 0x205F),
   (0x3000, 0x3000)]

def inRanges (ranges : List (Nat × Nat)) (c : Char) : Bool :=
  ranges.any fun r => r.1 ≤ c.toNat && c.toNat ≤ r.2

def isBlank (c : Char) : Bool := inRanges blankRanges c

/-- Category `Cc`: the two blocks of control codes. -/
def isControl (c : Char) : Bool :=
  c.toNat < 0x20 || (0x7F ≤ c.toNat && c.toNat ≤ 0x9F)

/-- The characters without the blanks at both ends. -/
def trimList (cs : List Char) : List Char :=
  ((cs.dropWhile isBlank).reverse.dropWhile isBlank).reverse

/-- The text without the blanks at both ends. -/
def trim (text : String) : String := String.ofList (trimList text.toList)

/-- Whether there is nothing but blanks. -/
def isAllBlank (text : String) : Bool := text.toList.all isBlank

def hasControl (text : String) : Bool := text.toList.any isControl

example : isBlank '\u00a0' = true ∧ ('\u00a0').isWhitespace = false := by decide

end Guestkeeper.Text
