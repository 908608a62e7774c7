import Guestkeeper.Proofs.Outcome
import Guestkeeper.Text.Hexadecimal
import Guestkeeper.Text.Numeral

set_option autoImplicit false

/-! # Numerals read back

A decimal numeral is read as the number that its digits stand for, if it is below the bound, and
nothing else is read. So a number that is written in decimal is read back, and likewise one in
hexadecimal. Reading checks the bound after every digit, so the argument needs that a number's
leading digits never stand for more than the number itself.
-/

namespace Guestkeeper.Text

/-! ## Decimal numerals -/

theorem ne_of_isDigit {c d : Char} (hc : c.isDigit = true) (hd : d.isDigit = false) : c ≠ d := by
  rintro rfl
  rw [hc] at hd
  cases hd

/-- Reading more digits never makes the value smaller. -/
theorem le_ofDigitChars (cs : List Char) (value : Nat) :
    value ≤ Nat.ofDigitChars 10 cs value := by
  induction cs generalizing value with
  | nil => exact Nat.le_refl value
  | cons c cs ih =>
      rw [Nat.ofDigitChars_cons]
      have h := ih (10 * value + (c.toNat - '0'.toNat))
      omega

theorem readDigits_eq_ok {bound value : Nat} {cs : List Char}
    (hdigits : ∀ c ∈ cs, c.isDigit = true) (h : Nat.ofDigitChars 10 cs value < bound) :
    readDigits bound value cs = .ok (Nat.ofDigitChars 10 cs value) := by
  induction cs generalizing value with
  | nil => rfl
  | cons c cs ih =>
      rw [Nat.ofDigitChars_cons] at h ⊢
      have hc : c.isDigit = true := hdigits c List.mem_cons_self
      have hnext : 10 * value + (c.toNat - '0'.toNat) < bound :=
        Nat.lt_of_le_of_lt (le_ofDigitChars cs _) h
      simp only [readDigits, if_pos hc, if_pos hnext]
      exact ih (fun d hd => hdigits d (List.mem_cons_of_mem c hd)) h

/-- What is read from digits is the number that they stand for. -/
theorem of_readDigits {bound value n : Nat} {cs : List Char}
    (h : readDigits bound value cs = .ok n) :
    (∀ c ∈ cs, c.isDigit = true) ∧ Nat.ofDigitChars 10 cs value = n := by
  induction cs generalizing value with
  | nil =>
      cases h
      exact ⟨fun c hc => (List.not_mem_nil hc).elim, rfl⟩
  | cons c cs ih =>
      simp only [readDigits] at h
      split at h
      · next hc =>
          split at h
          · obtain ⟨hdigits, hvalue⟩ := ih h
            exact ⟨List.forall_mem_cons.2 ⟨hc, hdigits⟩, hvalue⟩
          · cases h
      · cases h

/-- Digits are read as the number that they stand for, if it is below the bound. -/
theorem readDigits_eq_ok_iff {bound value n : Nat} {cs : List Char} (hvalue : value < bound) :
    readDigits bound value cs = .ok n ↔
      (∀ c ∈ cs, c.isDigit = true) ∧ Nat.ofDigitChars 10 cs value = n ∧ n < bound := by
  constructor
  · intro h
    obtain ⟨hdigits, hn⟩ := of_readDigits h
    exact ⟨hdigits, hn, readDigits_lt hvalue h⟩
  · rintro ⟨hdigits, rfl, hlt⟩
    exact readDigits_eq_ok hdigits hlt

theorem isDigit_of_mem_decimal {n : Nat} {c : Char} (h : c ∈ Nat.toDigits 10 n) :
    c.isDigit = true := Nat.isDigit_of_mem_toDigits (by decide) (by decide) h

theorem readDigits_toDigits {bound n : Nat} (h : n < bound) :
    readDigits bound 0 (Nat.toDigits 10 n) = .ok n :=
  (readDigits_eq_ok_iff (Nat.zero_lt_of_lt h)).2
    ⟨fun _ hc => isDigit_of_mem_decimal hc, Nat.ofDigitChars_ten_toDigits, h⟩

/-- The digits of a number begin with a digit. -/
theorem exists_toDigits_eq_cons (n : Nat) :
    ∃ c cs, Nat.toDigits 10 n = c :: cs ∧ c.isDigit = true := by
  cases h : Nat.toDigits 10 n with
  | nil => exact absurd h Nat.toDigits_ne_nil
  | cons c cs => exact ⟨c, cs, rfl, isDigit_of_mem_decimal (h ▸ List.mem_cons_self)⟩

/-- Only zero begins with the digit `0`. -/
theorem eq_zero_of_toDigits {n : Nat} {cs : List Char} (h : Nat.toDigits 10 n = '0' :: cs) :
    n = 0 := by
  induction n using Nat.strongRecOn generalizing cs with
  | ind n ih =>
      rw [Nat.toDigits_eq_if (by decide)] at h
      by_cases hn : n < 10
      · rw [if_pos hn] at h
        have hall : ∀ d, d < 10 → Nat.digitChar d = '0' → d = 0 := by decide
        exact hall n hn (List.cons.inj h).1
      · rw [if_neg hn] at h
        cases hdigits : Nat.toDigits 10 (n / 10) with
        | nil => exact absurd hdigits Nat.toDigits_ne_nil
        | cons d ds =>
            rw [hdigits, List.cons_append] at h
            have hd : d = '0' := (List.cons.inj h).1
            have hzero : n / 10 = 0 := ih (n / 10) (by omega) (hd ▸ hdigits)
            omega

theorem toList_decimal (n : Nat) : (decimal n).toList = Nat.toDigits 10 n := by
  rw [decimal, String.toList_ofList]

theorem decimal_injective {n k : Nat} (h : decimal n = decimal k) : n = k := by
  have hdigits := congrArg String.toList h
  rw [toList_decimal, toList_decimal] at hdigits
  have hn : Nat.ofDigitChars 10 (Nat.toDigits 10 n) 0 = n := Nat.ofDigitChars_ten_toDigits
  rw [hdigits, Nat.ofDigitChars_ten_toDigits] at hn
  exact hn.symm

/-! ## Texts that are decimal numerals -/

/-- The text is a decimal numeral for the number: digits, of which the first may be zeros, after a
plus sign or none. -/
def IsNumeral (text : String) (n : Nat) : Prop :=
  ∃ digits : List Char, (text.toList = digits ∨ text.toList = '+' :: digits) ∧ digits ≠ [] ∧
    (∀ c ∈ digits, c.isDigit = true) ∧ Nat.ofDigitChars 10 digits 0 = n

theorem readNatural_of_plus {text : String} {digits : List Char} (bound : Nat)
    (htext : text.toList = '+' :: digits) (hne : digits ≠ []) :
    readNatural bound text = readDigits bound 0 digits := by
  unfold readNatural
  rw [htext]
  split
  · next heq => cases heq
  · next heq =>
      cases heq
      exact absurd rfl hne
  · next heq =>
      cases heq
      rfl
  · next hsign => exact absurd rfl (hsign digits)

theorem readNatural_of_digit {text : String} {c : Char} {cs : List Char} (bound : Nat)
    (htext : text.toList = c :: cs) (hc : c.isDigit = true) :
    readNatural bound text = readDigits bound 0 (c :: cs) := by
  have hplus : c ≠ '+' := ne_of_isDigit hc (by decide)
  unfold readNatural
  rw [htext]
  split
  · next heq => cases heq
  · next heq =>
      cases heq
      exact absurd rfl hplus
  · next heq =>
      cases heq
      exact absurd rfl hplus
  · rfl

/-- A numeral is read when its number is below the bound, and nothing else is read. -/
theorem readNatural_eq_ok_iff {bound n : Nat} {text : String} (hbound : 0 < bound) :
    readNatural bound text = .ok n ↔ IsNumeral text n ∧ n < bound := by
  constructor
  · intro h
    unfold readNatural at h
    split at h
    · cases h
    · cases h
    · next digits hplus htext =>
        obtain ⟨hdigits, hvalue, hlt⟩ := (readDigits_eq_ok_iff hbound).1 h
        exact ⟨⟨digits, .inr htext, fun hnil => hplus (by rw [hnil]), hdigits, hvalue⟩, hlt⟩
    · next hempty hplus hsign =>
        obtain ⟨hdigits, hvalue, hlt⟩ := (readDigits_eq_ok_iff hbound).1 h
        exact ⟨⟨_, .inl rfl, hempty, hdigits, hvalue⟩, hlt⟩
  · rintro ⟨⟨digits, htext, hne, hdigits, hvalue⟩, hlt⟩
    have hread : readDigits bound 0 digits = .ok n :=
      (readDigits_eq_ok_iff hbound).2 ⟨hdigits, hvalue, hlt⟩
    rcases htext with htext | htext
    · obtain ⟨c, cs, rfl⟩ := List.exists_cons_of_ne_nil hne
      rw [readNatural_of_digit bound htext (hdigits c List.mem_cons_self), hread]
    · rw [readNatural_of_plus bound htext hne, hread]

theorem readWord32_eq_ok_iff {text : String} {w : UInt32} :
    readWord32 text = .ok w ↔ IsNumeral text w.toNat := by
  rw [readWord32, Except.map_eq_ok_iff]
  constructor
  · rintro ⟨n, hn, rfl⟩
    obtain ⟨hnumeral, hlt⟩ := (readNatural_eq_ok_iff (by decide)).1 hn
    rwa [UInt32.toNat_ofNat_of_lt' hlt]
  · intro h
    exact ⟨w.toNat, (readNatural_eq_ok_iff (by decide)).2 ⟨h, w.toNat_lt⟩, UInt32.ofNat_toNat⟩

theorem readWord64_eq_ok_iff {text : String} {w : UInt64} :
    readWord64 text = .ok w ↔ IsNumeral text w.toNat := by
  rw [readWord64, Except.map_eq_ok_iff]
  constructor
  · rintro ⟨n, hn, rfl⟩
    obtain ⟨hnumeral, hlt⟩ := (readNatural_eq_ok_iff (by decide)).1 hn
    rwa [UInt64.toNat_ofNat_of_lt' hlt]
  · intro h
    exact ⟨w.toNat, (readNatural_eq_ok_iff (by decide)).2 ⟨h, w.toNat_lt⟩, UInt64.ofNat_toNat⟩

theorem isNumeral_decimal (n : Nat) : IsNumeral (decimal n) n :=
  ⟨Nat.toDigits 10 n, .inl (toList_decimal n), Nat.toDigits_ne_nil,
    fun _ hc => isDigit_of_mem_decimal hc, Nat.ofDigitChars_ten_toDigits⟩

namespace IsNumeral

variable {text : String} {n : Nat}

/-- A numeral holds nothing but digits and the sign. -/
theorem mem {c : Char} (h : IsNumeral text n) (hc : c ∈ text.toList) :
    c.isDigit = true ∨ c = '+' := by
  obtain ⟨digits, htext, -, hdigits, -⟩ := h
  rcases htext with htext | htext
  · exact .inl (hdigits c (htext ▸ hc))
  · rw [htext] at hc
    exact (List.mem_cons.1 hc).symm.imp_left (hdigits c)

theorem ne_empty (h : IsNumeral text n) : text ≠ "" := by
  rintro rfl
  obtain ⟨digits, htext, hne, -, -⟩ := h
  rcases htext with htext | htext
  · exact hne htext.symm
  · cases htext

theorem unique {k : Nat} (h : IsNumeral text n) (h' : IsNumeral text k) : n = k := by
  have hn : readNatural (n + k + 1) text = .ok n :=
    (readNatural_eq_ok_iff (by omega)).2 ⟨h, by omega⟩
  have hk : readNatural (n + k + 1) text = .ok k :=
    (readNatural_eq_ok_iff (by omega)).2 ⟨h', by omega⟩
  rw [hn] at hk
  exact Except.ok.inj hk

end IsNumeral

/-- A number is read back from its decimal numeral. -/
theorem readNatural_decimal {bound n : Nat} (h : n < bound) :
    readNatural bound (decimal n) = .ok n :=
  (readNatural_eq_ok_iff (Nat.zero_lt_of_lt h)).2 ⟨isNumeral_decimal n, h⟩

theorem readWord32_decimal (n : UInt32) : readWord32 (decimal n.toNat) = .ok n :=
  readWord32_eq_ok_iff.2 (isNumeral_decimal n.toNat)

/-! ## Hexadecimal numerals -/

/-- The character is the hexadecimal digit of a number, in either case. -/
def IsHexDigit (c : Char) (d : Nat) : Prop :=
  d < 16 ∧ (c = Nat.digitChar d ∨ c = (Nat.digitChar d).toUpper)

theorem toNat_lt_of_hexValue? {c : Char} {d : Nat} (h : hexValue? c = some d) : c.toNat < 103 := by
  rw [hexValue?] at h
  split at h
  · next hc =>
      have hrange : 48 ≤ c.toNat ∧ c.toNat ≤ 57 := by
        simpa [Char.isDigit, UInt32.le_iff_toNat_le] using hc
      omega
  · split at h
    · next hc =>
        have hrange : 97 ≤ c.toNat ∧ c.toNat ≤ 102 := by
          simpa [Char.le_def, UInt32.le_iff_toNat_le] using hc
        omega
    · split at h
      · next hc =>
          have hrange : 65 ≤ c.toNat ∧ c.toNat ≤ 70 := by
            simpa [Char.le_def, UInt32.le_iff_toNat_le] using hc
          omega
      · cases h

theorem hexValue?_eq_some_iff {c : Char} {d : Nat} : hexValue? c = some d ↔ IsHexDigit c d := by
  constructor
  · intro h
    have hall : ∀ n < 103, ∀ d ∈ hexValue? (Char.ofNat n), d < 16 ∧
        (Char.ofNat n = Nat.digitChar d ∨ Char.ofNat n = (Nat.digitChar d).toUpper) := by decide
    have hc := hall c.toNat (toNat_lt_of_hexValue? h) d
    rw [Char.ofNat_toNat] at hc
    exact hc h
  · rintro ⟨hd, rfl | rfl⟩
    · exact hexValue?_digitChar d hd
    · have hupper : ∀ d, d < 16 → hexValue? (Nat.digitChar d).toUpper = some d := by decide
      exact hupper d hd

theorem IsHexDigit.toLower {c : Char} {d : Nat} (h : IsHexDigit c d) :
    c.toLower = Nat.digitChar d := by
  obtain ⟨hd, rfl | rfl⟩ := h
  · have hlower : ∀ d, d < 16 → (Nat.digitChar d).toLower = Nat.digitChar d := by decide
    exact hlower d hd
  · have hlower : ∀ d, d < 16 → (Nat.digitChar d).toUpper.toLower = Nat.digitChar d := by decide
    exact hlower d hd

theorem IsHexDigit.ne {c c' : Char} {d : Nat} (h : IsHexDigit c d) (hc' : hexValue? c' = none) :
    c ≠ c' := by
  rintro rfl
  rw [hexValue?_eq_some_iff.2 h] at hc'
  cases hc'

theorem readHex?_two {high low : Char} {n : Nat} : readHex? 0 [high, low] = some n ↔
    ∃ h l, IsHexDigit high h ∧ IsHexDigit low l ∧ n = 16 * h + l := by
  simp only [← hexValue?_eq_some_iff, readHex?, Nat.mul_zero, Nat.zero_add]
  cases hexValue? high with
  | none => simp
  | some h =>
      cases hexValue? low with
      | none => simp
      | some l => simp [eq_comm]

theorem readHex?_toDigits (n : Nat) : readHex? 0 (Nat.toDigits 16 n) = some n := by
  induction n using Nat.strongRecOn with
  | ind n ih =>
      rw [Nat.toDigits_eq_if (by decide)]
      by_cases h : n < 16
      · rw [if_pos h]
        simp only [readHex?, hexValue?_digitChar n h, Nat.mul_zero, Nat.zero_add]
      · rw [if_neg h]
        have hlast := hexValue?_digitChar (n % 16) (Nat.mod_lt n (by decide))
        rw [readHex?_append, ih (n / 16) (by omega), Option.bind_some]
        simp only [readHex?, hlast, Option.some.injEq]
        omega

/-- A digit of a hexadecimal numeral. -/
theorem exists_digitChar_of_mem_hexadecimal {n : Nat} {c : Char} (h : c ∈ Nat.toDigits 16 n) :
    ∃ d, d < 16 ∧ c = Nat.digitChar d := by
  induction n using Nat.strongRecOn with
  | ind n ih =>
      rw [Nat.toDigits_eq_if (by decide)] at h
      by_cases hn : n < 16
      · rw [if_pos hn, List.mem_singleton] at h
        exact ⟨n, hn, h⟩
      · rw [if_neg hn, List.mem_append, List.mem_singleton] at h
        rcases h with h | h
        · exact ih (n / 16) (by omega) h
        · exact ⟨n % 16, Nat.mod_lt n (by decide), h⟩

end Guestkeeper.Text
