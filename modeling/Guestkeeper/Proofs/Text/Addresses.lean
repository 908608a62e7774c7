import Guestkeeper.Device
import Guestkeeper.Proofs.Text.Fields
import Guestkeeper.Slot.Reading
import Guestkeeper.Uuid

set_option autoImplicit false

/-! # Addresses and identifiers read back

Slots, addresses of host devices, Ethernet addresses and identifiers are written as numerals with
a separator between them, and are read back from that form.
-/

namespace Guestkeeper

open Guestkeeper.Text

namespace Text

/-- The text is three numerals with a separator between them. -/
def IsTriple (sep : Char) (text : String) (x y z : Nat) : Prop :=
  ∃ a b c, text = joinFields sep [a, b, c] ∧ IsNumeral a x ∧ IsNumeral b y ∧ IsNumeral c z

theorem joinFields_three (sep : Char) (a b c : String) :
    joinFields sep [a, b, c] = a ++ String.ofList [sep] ++ b ++ String.ofList [sep] ++ c := by
  rw [← String.toList_inj]
  simp [joinFields, List.intercalate]

theorem isTriple_decimal (sep : Char) (x y z : Nat) :
    IsTriple sep (decimal x ++ String.ofList [sep] ++ decimal y ++ String.ofList [sep] ++ decimal z)
      x y z :=
  ⟨_, _, _, (joinFields_three sep _ _ _).symm, isNumeral_decimal x, isNumeral_decimal y,
    isNumeral_decimal z⟩

namespace IsTriple

variable {sep : Char} {text : String} {x y z : Nat}

/-- The numerals are the fields of the text, because the separator is in none of them. -/
theorem exists_fields (h : IsTriple sep text x y z) (hdigit : sep.isDigit = false)
    (hplus : sep ≠ '+') :
    ∃ a b c, fields sep text = [a, b, c] ∧ IsNumeral a x ∧ IsNumeral b y ∧ IsNumeral c z := by
  obtain ⟨a, b, c, rfl, ha, hb, hc⟩ := h
  refine ⟨a, b, c, fields_joinFields (List.cons_ne_nil _ _) ?_, ha, hb, hc⟩
  simp only [List.forall_mem_cons]
  exact ⟨ha.notMem hdigit hplus, hb.notMem hdigit hplus, hc.notMem hdigit hplus,
    fun _ hnil => (List.not_mem_nil hnil).elim⟩

theorem unique {x' y' z' : Nat} (h : IsTriple sep text x y z) (h' : IsTriple sep text x' y' z')
    (hdigit : sep.isDigit = false) (hplus : sep ≠ '+') : x = x' ∧ y = y' ∧ z = z' := by
  obtain ⟨a, b, c, hfields, ha, hb, hc⟩ := h.exists_fields hdigit hplus
  obtain ⟨a', b', c', hfields', ha', hb', hc'⟩ := h'.exists_fields hdigit hplus
  rw [hfields] at hfields'
  cases hfields'
  exact ⟨ha.unique ha', hb.unique hb', hc.unique hc'⟩

theorem mem {c : Char} (h : IsTriple sep text x y z) (hc : c ∈ text.toList) :
    c.isDigit = true ∨ c = '+' ∨ c = sep := by
  obtain ⟨first, second, third, rfl, hfirst, hsecond, hthird⟩ := h
  rw [joinFields, String.toList_ofList] at hc
  rcases mem_intercalate hc with hsep | ⟨part, hpart, hc⟩
  · exact .inr (.inr hsep)
  · simp only [List.map_cons, List.map_nil, List.mem_cons, List.not_mem_nil, or_false] at hpart
    rcases hpart with rfl | rfl | rfl
    · exact (hfirst.mem hc).imp_right .inl
    · exact (hsecond.mem hc).imp_right .inl
    · exact (hthird.mem hc).imp_right .inl

theorem ne_empty (h : IsTriple sep text x y z) : text ≠ "" := by
  obtain ⟨a, b, c, rfl, ha, -, -⟩ := h
  exact joinFields_ne_empty ha.ne_empty [b, c]

end IsTriple

/-- The digits of a number of fixed width are hexadecimal. -/
theorem exists_digitChar_of_mem_fixedHex {width n : Nat} {c : Char} (h : c ∈ fixedHex width n) :
    ∃ d, d < 16 ∧ c = Nat.digitChar d := by
  induction width generalizing n with
  | zero => cases h
  | succ width ih =>
      rw [fixedHex, List.mem_append, List.mem_singleton] at h
      rcases h with h | h
      · exact ih h
      · exact ⟨n % 16, Nat.mod_lt n (by decide), h⟩

/-- A character that is no hexadecimal digit is in no number of fixed width. -/
theorem notMem_fixedHex {sep : Char} (hsep : ∀ d, d < 16 → Nat.digitChar d ≠ sep)
    (width n : Nat) : sep ∉ fixedHex width n := by
  intro h
  obtain ⟨d, hd, hc⟩ := exists_digitChar_of_mem_fixedHex h
  exact hsep d hd hc.symm

end Text

/-! ## Slots -/

namespace Slot

theorem component_eq_ok_iff {text part : String} {n : Nat} :
    component text part = .ok n ↔ IsNumeral part n ∧ n < UInt32.size := by
  rw [← readNatural_eq_ok_iff (by decide), component]
  cases readNatural UInt32.size part with
  | ok k => simp
  | error fault => simp [Guestkeeper.invalid]

theorem ofNumbers_eq_ok_iff {x y z : Nat} {s : Slot} :
    ofNumbers x y z = .ok s ↔ x = s.bus ∧ y = s.slot ∧ z = s.function := by
  constructor
  · intro h
    rw [ofNumbers] at h
    split at h
    · split at h
      · split at h
        · cases h
          exact ⟨rfl, rfl, rfl⟩
        · cases h
      · cases h
    · cases h
  · rintro ⟨rfl, rfl, rfl⟩
    rw [ofNumbers, dif_pos s.bus.isLt, dif_pos s.slot.isLt, dif_pos s.function.isLt]

/-- There is no blank in three numerals, so trimming the text leaves them as they are. -/
theorem trim_of_isTriple {text core : String} {x y z : Nat} (hpads : Pads text core)
    (h : IsTriple ':' core x y z) : trim text = core := by
  refine hpads.trim_eq h.ne_empty fun c hc => ?_
  rcases h.mem hc with hdigit | rfl | rfl
  · exact isBlank_of_isDigit hdigit
  · decide
  · decide

/-- A slot is read from three numerals for its numbers, with blanks around them. -/
theorem ofText_eq_ok_iff {text : String} {s : Slot} : ofText text = .ok s ↔
    ∃ core, Pads text core ∧ IsTriple ':' core s.bus s.slot s.function := by
  constructor
  · intro h
    rw [ofText] at h
    split at h
    · next a b c hfields =>
        simp only [Except.bind_eq_ok_iff, component_eq_ok_iff] at h
        obtain ⟨x, ⟨ha, -⟩, y, ⟨hb, -⟩, z, ⟨hc, -⟩, h⟩ := h
        obtain ⟨rfl, rfl, rfl⟩ := ofNumbers_eq_ok_iff.1 h
        obtain ⟨htext, -⟩ := (fields_eq_iff (List.cons_ne_nil _ _)).1 hfields
        exact ⟨trim text, pads_trim text, a, b, c, htext, ha, hb, hc⟩
    · cases h
  · rintro ⟨core, hpads, h⟩
    have htrim : trim text = core := trim_of_isTriple hpads h
    obtain ⟨a, b, c, hfields, ha, hb, hc⟩ := h.exists_fields (by decide) (by decide)
    rw [← htrim] at hfields
    -- each number is far below what a numeral may be
    have hbus : (s.bus : Nat) < UInt32.size := Nat.lt_trans s.bus.isLt (by decide)
    have hslot : (s.slot : Nat) < UInt32.size := Nat.lt_trans s.slot.isLt (by decide)
    have hfunction : (s.function : Nat) < UInt32.size :=
      Nat.lt_trans s.function.isLt (by decide)
    rw [ofText, hfields]
    simp only [Except.bind_eq_ok_iff, component_eq_ok_iff]
    exact ⟨_, ⟨ha, hbus⟩, _, ⟨hb, hslot⟩, _, ⟨hc, hfunction⟩,
      ofNumbers_eq_ok_iff.2 ⟨rfl, rfl, rfl⟩⟩

theorem ofText_text (s : Slot) : ofText s.text = .ok s :=
  ofText_eq_ok_iff.2 ⟨s.text, pads_self s.text, isTriple_decimal ':' _ _ _⟩

theorem text_injective : Function.Injective text := Except.injective_of_read ofText_text

end Slot

/-! ## Addresses of host devices -/

namespace HostAddress

theorem ofText_eq_ok_iff {text : String} {a : HostAddress} : ofText text = .ok a ↔
    IsTriple '/' text a.bus.toNat a.slot.toNat a.function.toNat := by
  constructor
  · intro h
    rw [ofText] at h
    split at h
    · next bus slot function hread =>
        cases h
        obtain ⟨first, _, hfields, hbus, hread⟩ := List.map_eq_cons_iff.1 hread
        obtain ⟨second, _, rfl, hslot, hread⟩ := List.map_eq_cons_iff.1 hread
        obtain ⟨third, _, rfl, hfunction, hread⟩ := List.map_eq_cons_iff.1 hread
        obtain rfl := List.map_eq_nil_iff.1 hread
        obtain ⟨htext, -⟩ := (fields_eq_iff (List.cons_ne_nil _ _)).1 hfields
        exact ⟨first, second, third, htext, readWord32_eq_ok_iff.1 hbus,
          readWord32_eq_ok_iff.1 hslot, readWord32_eq_ok_iff.1 hfunction⟩
    · cases h
  · intro h
    obtain ⟨first, second, third, hfields, hbus, hslot, hfunction⟩ :=
      h.exists_fields (by decide) (by decide)
    simp only [ofText, hfields, List.map_cons, List.map_nil, readWord32_eq_ok_iff.2 hbus,
      readWord32_eq_ok_iff.2 hslot, readWord32_eq_ok_iff.2 hfunction]

theorem ofText_text (a : HostAddress) : ofText a.text = .ok a :=
  ofText_eq_ok_iff.2 (isTriple_decimal '/' _ _ _)

end HostAddress

/-! ## Ethernet addresses -/

namespace MacAddress

/-- The text is an octet in two hexadecimal digits. -/
def IsOctet (part : String) (o : UInt8) : Prop :=
  ∃ high low h l, part = String.ofList [high, low] ∧ IsHexDigit high h ∧ IsHexDigit low l ∧
    o.toNat = 16 * h + l

/-- The text is an octet below 16 in a plus sign and one hexadecimal digit. -/
def IsSigned (part : String) (o : UInt8) : Prop :=
  ∃ low, part = String.ofList ['+', low] ∧ IsHexDigit low o.toNat

theorem octet?_signed (low : Char) :
    octet? ['+', low] = (hexValue? low).map UInt8.ofNat := rfl

theorem octet?_two {high : Char} (h : high ≠ '+') (low : Char) :
    octet? [high, low] = (readHex? 0 [high, low]).map UInt8.ofNat := by
  unfold octet?
  split
  · next heq => exact absurd (List.cons.inj heq).1 h
  · next heq =>
      cases heq
      rfl
  · next hne => exact absurd rfl (hne _ _)

theorem octet?_eq_some_iff {part : String} {o : UInt8} :
    octet? part.toList = some o ↔ IsOctet part o ∨ IsSigned part o := by
  constructor
  · intro h
    unfold octet? at h
    split at h
    · next low hpart =>
        obtain ⟨d, hd, rfl⟩ := Option.map_eq_some_iff.1 h
        have hdigit := hexValue?_eq_some_iff.1 hd
        have hlt : d < 256 := Nat.lt_trans hdigit.1 (by decide)
        refine .inr ⟨low, by rw [← hpart, String.ofList_toList], ?_⟩
        rwa [UInt8.toNat_ofNat_of_lt' hlt]
    · next high low _ hpart =>
        obtain ⟨n, hn, rfl⟩ := Option.map_eq_some_iff.1 h
        obtain ⟨d, e, hhigh, hlow, rfl⟩ := readHex?_two.1 hn
        have hlt : 16 * d + e < 256 := by
          have := hhigh.1
          have := hlow.1
          omega
        refine .inl ⟨high, low, d, e, by rw [← hpart, String.ofList_toList], hhigh, hlow, ?_⟩
        exact UInt8.toNat_ofNat_of_lt' hlt
    · cases h
  · rintro (⟨high, low, d, e, rfl, hhigh, hlow, ho⟩ | ⟨low, rfl, hlow⟩)
    · rw [String.toList_ofList, octet?_two (hhigh.ne rfl),
        readHex?_two.2 ⟨d, e, hhigh, hlow, rfl⟩, ← ho]
      exact congrArg some UInt8.ofNat_toNat
    · rw [String.toList_ofList, octet?_signed, hexValue?_eq_some_iff.2 hlow]
      exact congrArg some UInt8.ofNat_toNat

theorem colon_notMem {part : String} {o : UInt8} (h : IsOctet part o ∨ IsSigned part o) :
    ':' ∉ part.toList := by
  have hcolon : hexValue? ':' = none := rfl
  rcases h with ⟨high, low, d, e, rfl, hhigh, hlow, -⟩ | ⟨low, rfl, hlow⟩
  · simp [(hhigh.ne hcolon).symm, (hlow.ne hcolon).symm]
  · simp [(hlow.ne hcolon).symm]

theorem ofText_eq_ok_iff_mapM {text : String} {a : MacAddress} :
    ofText text = .ok a ↔ (text.toList.splitOn ':').mapM octet? = some a.octets := by
  rw [ofText]
  constructor
  · intro h
    split at h
    · next octets hoctets =>
        split at h
        · cases h
          exact hoctets
        · cases h
    · cases h
  · intro h
    rw [h]
    exact dif_pos a.length_octets

/-- An address is read from six octets with colons between them, of which those below 16 may have a
plus sign in place of the first digit. -/
theorem ofText_eq_ok_iff {text : String} {a : MacAddress} : ofText text = .ok a ↔
    ∃ parts, text = joinFields ':' parts ∧
      List.Forall₂ (fun part o => IsOctet part o ∨ IsSigned part o) parts a.octets := by
  have hfields : text.toList.splitOn ':' = (fields ':' text).map String.toList := by
    simp [fields, Function.comp_def]
  rw [ofText_eq_ok_iff_mapM, mapM_eq_some_iff, hfields, List.forall₂_map_left_iff]
  simp only [octet?_eq_some_iff]
  constructor
  · intro h
    exact ⟨fields ':' text, (joinFields_fields ':' text).symm, h⟩
  · rintro ⟨parts, rfl, h⟩
    have hne : parts ≠ [] := by
      rintro rfl
      have hlength := a.length_octets
      rw [← h.length_eq] at hlength
      cases hlength
    have hcolon : ∀ part ∈ parts, ':' ∉ part.toList :=
      ((List.forall₂_and_left parts _).1 (h.imp fun part o ho => ⟨colon_notMem ho, ho⟩)).1
    rwa [fields_joinFields hne hcolon]

theorem isOctet_fixedHex (o : UInt8) : IsOctet (String.ofList (fixedHex 2 o.toNat)) o := by
  have hdigit : ∀ n, IsHexDigit (Nat.digitChar (n % 16)) (n % 16) := fun n =>
    ⟨Nat.mod_lt n (by decide), .inl rfl⟩
  have hlt := o.toNat_lt
  exact ⟨_, _, o.toNat / 16 % 16, o.toNat % 16, rfl, hdigit _, hdigit _, by omega⟩

/-- The octets as they are written. -/
theorem exists_text_eq (a : MacAddress) :
    ∃ parts, a.text = joinFields ':' parts ∧ List.Forall₂ IsOctet parts a.octets := by
  refine ⟨a.octets.map fun o => String.ofList (fixedHex 2 o.toNat), ?_, ?_⟩
  · rw [text, joinFields, List.map_map]
    simp [Function.comp_def]
  · exact List.forall₂_map_left_iff.2 (List.forall₂_same.2 fun o _ => isOctet_fixedHex o)

theorem ofText_text (a : MacAddress) : ofText a.text = .ok a := by
  obtain ⟨parts, htext, h⟩ := a.exists_text_eq
  exact ofText_eq_ok_iff.2 ⟨parts, htext, h.imp fun _ _ => .inl⟩

end MacAddress

/-! ## Identifiers -/

namespace Uuid

theorem flatten_cutInto (ns : List Nat) (cs : List Char) :
    (cutInto ns cs).flatten = cs.take (ns.foldr (· + ·) 0) := by
  induction ns generalizing cs with
  | nil => simp [cutInto]
  | cons n ns ih =>
      rw [cutInto, List.flatten_cons, ih, List.foldr_cons, List.take_add]

theorem map_length_cutInto {ns : List Nat} {cs : List Char} (h : ns.foldr (· + ·) 0 ≤ cs.length) :
    (cutInto ns cs).map List.length = ns := by
  induction ns generalizing cs with
  | nil => rfl
  | cons n ns ih =>
      rw [List.foldr_cons] at h
      rw [cutInto, List.map_cons, List.length_take, ih (by rw [List.length_drop]; omega),
        Nat.min_eq_left (by omega)]

theorem mem_of_mem_cutInto {ns : List Nat} {cs group : List Char} (h : group ∈ cutInto ns cs) :
    ∀ c ∈ group, c ∈ cs := by
  induction ns generalizing cs with
  | nil => cases h
  | cons n ns ih =>
      rw [cutInto, List.mem_cons] at h
      intro c hc
      rcases h with rfl | h
      · exact List.mem_of_mem_take hc
      · exact List.mem_of_mem_drop (ih h c hc)

theorem ofHyphenated?_hyphenated (id : Uuid) : ofHyphenated? id.hyphenated = some id := by
  have hlength : (fixedHex 32 id.number).length = 32 := length_fixedHex 32 id.number
  have hgroups : id.hyphenated.splitOn '-' = cutInto groupLengths (fixedHex 32 id.number) := by
    refine List.splitOn_intercalate '-' (fun group hgroup hmem => ?_) (fun h => nomatch h)
    exact notMem_fixedHex (by decide) 32 id.number (mem_of_mem_cutInto hgroup _ hmem)
  have hlengths : (cutInto groupLengths (fixedHex 32 id.number)).map List.length
      = groupLengths := map_length_cutInto (by rw [hlength]; decide)
  have hflatten : (cutInto groupLengths (fixedHex 32 id.number)).flatten
      = fixedHex 32 id.number := by
    rw [flatten_cutInto]
    exact List.take_of_length_le (by rw [hlength]; decide)
  have hread : readHex? 0 (fixedHex 32 id.number) = some id.number :=
    readHex?_zero_fixedHex id.number_lt
  simp only [ofHyphenated?, hgroups, if_pos hlengths, hflatten, ofDigits?, hread,
    dif_pos id.number_lt]

theorem length_hyphenated (id : Uuid) : id.hyphenated.length = 36 := by
  simp [hyphenated, cutInto, groupLengths, List.intercalate, List.intersperse, length_fixedHex]

/-- The written form begins with a digit. -/
theorem exists_hyphenated_eq (id : Uuid) :
    ∃ d cs, d < 16 ∧ id.hyphenated = Nat.digitChar d :: cs := by
  have hlength : (fixedHex 32 id.number).length = 32 := length_fixedHex 32 id.number
  cases hdigits : fixedHex 32 id.number with
  | nil =>
      rw [hdigits] at hlength
      cases hlength
  | cons c cs =>
      obtain ⟨d, hd, rfl⟩ : ∃ d, d < 16 ∧ c = Nat.digitChar d :=
        exists_digitChar_of_mem_fixedHex (hdigits ▸ List.mem_cons_self)
      rw [hyphenated, hdigits]
      exact ⟨d, _, hd, rfl⟩

/-- An identifier is read back from its written form, which looks like no other form. -/
theorem ofText?_text (id : Uuid) : ofText? id.text = some id := by
  have hlong : id.hyphenated.length ≠ 32 := by
    rw [length_hyphenated]
    decide
  have hread := ofHyphenated?_hyphenated id
  obtain ⟨d, cs, hd, hcs⟩ := exists_hyphenated_eq id
  have hall : ∀ d, d < 16 →
      Nat.digitChar d ≠ '\x7b' ∧ 'u' ≠ (Nat.digitChar d).toLower := by decide
  obtain ⟨hbrace, hurn⟩ := hall d hd
  have hhead : (id.hyphenated.head? = some '\x7b') = False := by
    rw [hcs]
    simp [hbrace]
  have hstart : urnStart.isPrefixOf (id.hyphenated.map Char.toLower) = false := by
    have hcons : urnStart = 'u' :: "rn:uuid:".toList := by decide
    rw [hcs, hcons, List.map_cons, List.isPrefixOf_cons_cons, beq_false_of_ne hurn, Bool.false_and]
  rw [ofText?, text, String.toList_ofList]
  simp only [if_neg hlong, hhead, hstart]
  simpa using hread

theorem text_injective : Function.Injective text := by
  intro a b h
  have hread := ofText?_text a
  rw [h, ofText?_text] at hread
  exact (Option.some.inj hread).symm

/-- An identifier is written with digits and hyphens. -/
theorem notMem_text {c : Char} (hdigit : ∀ d, d < 16 → Nat.digitChar d ≠ c) (hhyphen : c ≠ '-')
    (id : Uuid) : c ∉ id.text.toList := by
  intro h
  rw [text, String.toList_ofList] at h
  rcases mem_intercalate h with h | ⟨group, hgroup, h⟩
  · exact hhyphen h
  · exact notMem_fixedHex hdigit 32 id.number (mem_of_mem_cutInto hgroup c h)

theorem notMem_slash (id : Uuid) : '/' ∉ id.text.toList :=
  notMem_text (by decide) (by decide) id

theorem length_text (id : Uuid) : id.text.toList.length = 36 := by
  rw [text, String.toList_ofList, length_hyphenated]

theorem text_ne {name : String} (hname : name.toList.length < 36) (id : Uuid) :
    id.text ≠ name := by
  rintro rfl
  exact absurd id.length_text (Nat.ne_of_lt hname)

end Uuid

end Guestkeeper
