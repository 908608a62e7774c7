import Guestkeeper.Text.Symbols

set_option autoImplicit false

/-! # Texts as symbols

The bytes of a text are read as the characters of the text, and no byte is left as a gap. An ASCII
character is one byte.
-/

namespace Guestkeeper.Text

/-- The characters of `cs` are read from where their bytes begin. -/
theorem symbolsFrom_append (front : ByteArray) (cs : List Char) {fuel : Nat}
    (h : cs.utf8Encode.size ≤ fuel) :
    symbolsFrom (front ++ cs.utf8Encode) fuel front.size = cs.map some := by
  induction cs generalizing front fuel with
  | nil =>
      cases fuel with
      | zero => rfl
      | succ fuel => simp [symbolsFrom]
  | cons c cs ih =>
      have hsize : (c :: cs).utf8Encode.size = c.utf8Size + cs.utf8Encode.size := by
        rw [List.utf8Encode_cons, ByteArray.size_append, List.utf8Encode_singleton]
        simp
      have hpos : 0 < c.utf8Size := c.utf8Size_pos
      cases fuel with
      | zero => omega
      | succ fuel =>
          have hlt : front.size < (front ++ (c :: cs).utf8Encode).size := by
            rw [ByteArray.size_append]
            omega
          have hhead : (front ++ (c :: cs).utf8Encode).utf8DecodeChar? front.size = some c := by
            rw [ByteArray.utf8DecodeChar?_eq_utf8DecodeChar?_extract, ByteArray.size_append,
              ByteArray.extract_append_eq_right rfl rfl]
            exact List.utf8DecodeChar?_utf8Encode_cons
          -- the bytes of `c` go over to the front
          have hfront : front ++ (c :: cs).utf8Encode
              = (front ++ [c].utf8Encode) ++ cs.utf8Encode := by
            rw [List.utf8Encode_cons, ByteArray.append_assoc]
          have hnext : front.size + c.utf8Size = (front ++ [c].utf8Encode).size := by
            rw [ByteArray.size_append, List.utf8Encode_singleton]
            simp
          simp only [symbolsFrom, if_pos hlt, hhead, List.map_cons]
          rw [hfront, hnext, ih (front ++ [c].utf8Encode) (by omega)]

/-- The symbols of a text are its characters. -/
theorem symbols_toUTF8 (text : String) : symbols text.toUTF8 = text.toList.map some := by
  have hbytes : text.toUTF8 = ByteArray.empty ++ text.toList.utf8Encode := by
    rw [ByteArray.empty_append, String.utf8Encode_toList]
    rfl
  have hsize : text.toList.utf8Encode.size ≤ text.toUTF8.size :=
    Nat.le_of_eq (by rw [hbytes, ByteArray.empty_append])
  rw [symbols, hbytes]
  rw [hbytes] at hsize
  exact symbolsFrom_append ByteArray.empty text.toList hsize

/-! ## ASCII -/

/-- Letters and digits are ASCII characters. -/
theorem toNat_lt_of_isAlphanum {c : Char} (h : c.isAlphanum = true) : c.toNat < 128 := by
  have hranges : (65 ≤ c.toNat ∧ c.toNat ≤ 90 ∨ 97 ≤ c.toNat ∧ c.toNat ≤ 122) ∨
      48 ≤ c.toNat ∧ c.toNat ≤ 57 := by
    have hcases : c.isAlphanum = ((decide (65 ≤ c.val ∧ c.val ≤ 90) ||
        decide (97 ≤ c.val) && decide (c.val ≤ 122)) ||
        decide (48 ≤ c.val) && decide (c.val ≤ 57)) := rfl
    simpa [hcases, UInt32.le_iff_toNat_le] using h
  omega

theorem utf8ByteSize_ofList_of_ascii {cs : List Char} (h : ∀ c ∈ cs, c.toNat < 128) :
    (String.ofList cs).utf8ByteSize = cs.length := by
  induction cs with
  | nil => simp
  | cons c cs ih =>
      have hc : c.utf8Size = 1 := by
        have hlt : c.toNat < 128 := h c List.mem_cons_self
        have hval : c.val ≤ 127 := by
          rw [UInt32.le_iff_toNat_le]
          exact Nat.le_of_lt_succ hlt
        simp [Char.utf8Size, hval]
      rw [String.ofList_cons, String.utf8ByteSize_append, String.utf8ByteSize_singleton, hc,
        ih fun d hd => h d (List.mem_cons_of_mem c hd), List.length_cons, Nat.add_comm]

/-- A text of ASCII characters has as many bytes as characters. -/
theorem utf8ByteSize_of_ascii {text : String} (h : ∀ c ∈ text.toList, c.toNat < 128) :
    text.utf8ByteSize = text.toList.length := by
  rw [← utf8ByteSize_ofList_of_ascii h, String.ofList_toList]

end Guestkeeper.Text
