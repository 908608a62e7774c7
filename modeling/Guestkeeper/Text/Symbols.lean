set_option autoImplicit false

/-! # Bytes as symbols

Records and settings arrive as bytes. A reader of them works on symbols: the characters of the
UTF-8 text, with each byte that belongs to no well-formed character kept as a gap. So the
reader decides where ill-formed bytes matter, and nothing is lost. -/

namespace Guestkeeper.Text

/-- A character, or a byte that belongs to none. -/
abbrev Symbol := Option Char

/-- The symbols from byte `i` on; `fuel` bounds their number. -/
def symbolsFrom (bytes : ByteArray) : Nat → Nat → List Symbol
  | 0, _ => []
  | fuel + 1, i =>
    if i < bytes.size then
      match bytes.utf8DecodeChar? i with
      | some c => some c :: symbolsFrom bytes fuel (i + c.utf8Size)
      | none => none :: symbolsFrom bytes fuel (i + 1)
    else []

/-- The symbols of a byte string. Each takes at least one byte. -/
def symbols (bytes : ByteArray) : List Symbol := symbolsFrom bytes bytes.size 0

/-- The characters, if there is no gap. -/
def characters? (symbols : List Symbol) : Option (List Char) := symbols.mapM id

end Guestkeeper.Text
