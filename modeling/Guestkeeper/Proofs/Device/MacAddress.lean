import Guestkeeper.Proofs.Device.Network

set_option autoImplicit false

/-! # Ethernet addresses as they are read

An address is written as six octets of two hexadecimal digits each, with colons between them. Every
such text is read as the address that it stands for, and the address is written in lower case again.
Besides these, texts are read in which octets below 16 have a plus sign in place of their first
digit. They are the only others, and they stand for the same addresses as with a zero there.
-/

namespace Guestkeeper

open Guestkeeper.Text

namespace MacAddress

/-- The text is the address in six octets of two hexadecimal digits each. -/
def Written (text : String) (a : MacAddress) : Prop :=
  ∃ parts, text = joinFields ':' parts ∧ List.Forall₂ IsOctet parts a.octets

/-! ## Which texts are read -/

/-- A text is accepted when it has six parts and each of them is an octet. -/
theorem exists_ofText_iff {text : String} : (∃ a, ofText text = .ok a) ↔
    ∃ parts, parts.length = 6 ∧ text = joinFields ':' parts ∧
      ∀ part ∈ parts, ∃ o, IsOctet part o ∨ IsSigned part o := by
  simp only [ofText_eq_ok_iff]
  constructor
  · rintro ⟨a, parts, htext, h⟩
    refine ⟨parts, by rw [h.length_eq, a.length_octets], htext, ?_⟩
    exact ((List.forall₂_and_left parts _).1 (h.imp fun part o ho => ⟨⟨o, ho⟩, ho⟩)).1
  · rintro ⟨parts, hlength, htext, h⟩
    obtain ⟨octets, hoctets⟩ := exists_forall₂ h
    exact ⟨⟨octets, by rw [← hoctets.length_eq, hlength]⟩, parts, htext, hoctets⟩

theorem IsOctet.plus_notMem {part : String} {o : UInt8} (h : IsOctet part o) :
    '+' ∉ part.toList := by
  have hplus : hexValue? '+' = none := rfl
  obtain ⟨high, low, d, e, rfl, hhigh, hlow, -⟩ := h
  simp [(hhigh.ne hplus).symm, (hlow.ne hplus).symm]

theorem Written.plus_notMem {text : String} {a : MacAddress} (h : Written text a) :
    '+' ∉ text.toList := by
  obtain ⟨parts, rfl, h⟩ := h
  have hparts : ∀ part ∈ parts, '+' ∉ part.toList :=
    ((List.forall₂_and_left parts _).1 (h.imp fun part o ho => ⟨ho.plus_notMem, ho⟩)).1
  exact notMem_joinFields (by decide) hparts

/-- What is read is written in two digits each, unless it holds a plus sign. -/
theorem written_iff {text : String} {a : MacAddress} (h : ofText text = .ok a) :
    Written text a ↔ '+' ∉ text.toList := by
  refine ⟨Written.plus_notMem, fun hplus => ?_⟩
  obtain ⟨parts, rfl, hoctets⟩ := ofText_eq_ok_iff.1 h
  have hparts : ∀ part ∈ parts, '+' ∉ part.toList :=
    fun part hpart hmem => hplus (mem_joinFields hpart hmem)
  refine ⟨parts, rfl, ((List.forall₂_and_left parts _).2 ⟨hparts, hoctets⟩).imp ?_⟩
  rintro part o ⟨hnone, hoctet | ⟨low, rfl, -⟩⟩
  · exact hoctet
  · exact absurd (by simp) hnone

theorem ofText_of_written {text : String} {a : MacAddress} (h : Written text a) :
    ofText text = .ok a := by
  obtain ⟨parts, htext, h⟩ := h
  exact ofText_eq_ok_iff.2 ⟨parts, htext, h.imp fun _ _ => .inl⟩

/-- A text is read as it is written unless it is accepted with a plus sign in it. -/
theorem ofText_iff_written_iff {text : String} : (∀ a, ofText text = .ok a ↔ Written text a) ↔
    ∀ a, ofText text = .ok a → '+' ∉ text.toList := by
  constructor
  · intro h a ha
    exact ((h a).1 ha).plus_notMem
  · intro h a
    exact ⟨fun ha => (written_iff ha).2 (h a ha), ofText_of_written⟩

/-! ## How they are written again -/

/-- How a character of an accepted text is written: in lower case, and a plus sign as a zero. -/
def shown (c : Char) : Char := if c = '+' then '0' else c.toLower

theorem map_shown_octet {part : String} {o : UInt8} (h : IsOctet part o ∨ IsSigned part o) :
    part.toList.map shown = fixedHex 2 o.toNat := by
  have hplus : hexValue? '+' = none := rfl
  have hdigit : ∀ {c d}, IsHexDigit c d → shown c = Nat.digitChar d := by
    intro c d h
    rw [shown, if_neg (h.ne hplus), h.toLower]
  have hfixed : fixedHex 2 o.toNat =
      [Nat.digitChar (o.toNat / 16 % 16), Nat.digitChar (o.toNat % 16)] := rfl
  rw [hfixed]
  rcases h with ⟨high, low, d, e, rfl, hhigh, hlow, ho⟩ | ⟨low, rfl, hlow⟩
  · have hd := hhigh.1
    have he := hlow.1
    rw [String.toList_ofList, List.map_cons, List.map_singleton, hdigit hhigh, hdigit hlow,
      show o.toNat / 16 % 16 = d by omega, show o.toNat % 16 = e by omega]
  · have ho := hlow.1
    rw [String.toList_ofList, List.map_cons, List.map_singleton, hdigit hlow,
      show o.toNat / 16 % 16 = 0 by omega, show o.toNat % 16 = o.toNat by omega]
    rfl

theorem text_eq_of_ofText {text : String} {a : MacAddress} (h : ofText text = .ok a) :
    a.text = String.ofList (text.toList.map shown) := by
  obtain ⟨parts, rfl, hparts⟩ := ofText_eq_ok_iff.1 h
  have hoctets : parts.map (fun part => part.toList.map shown) =
      a.octets.map fun o => fixedHex 2 o.toNat := by
    have hall : List.Forall₂ (· = ·) (parts.map fun part => part.toList.map shown)
        (a.octets.map fun o => fixedHex 2 o.toNat) :=
      List.forall₂_map_left_iff.2 (List.forall₂_map_right_iff.2
        (hparts.imp fun part o ho => map_shown_octet ho))
    rwa [List.forall₂_eq_eq_eq] at hall
  rw [joinFields, String.toList_ofList, map_intercalate, List.map_map]
  exact congrArg (fun octets => String.ofList ([':'].intercalate octets)) hoctets.symm

/-- Without a plus sign, an address is written as it was read but for the case of its letters. -/
theorem text_eq_of_written {text : String} {a : MacAddress} (h : Written text a) :
    a.text = String.ofList (text.toList.map Char.toLower) := by
  have hplus := h.plus_notMem
  rw [text_eq_of_ofText (ofText_of_written h)]
  refine congrArg String.ofList (List.map_congr_left fun c hc => if_neg ?_)
  rintro rfl
  exact hplus hc

/-! ## Where they are read -/

theorem ofJson_text (text : String) (a : MacAddress) :
    ofJson (.text text) = .ok a ↔ ofText text = .ok a := by
  rw [ofJson, Record.parsed_eq_ok_iff]
  constructor
  · rintro ⟨_, htext, h⟩
    cases htext
    exact h
  · intro h
    exact ⟨text, rfl, h⟩

end MacAddress

/-- The third and the fourth field of a backend's text are read as its addresses. -/
theorem NetworkBackend.addresses_of_ofText {text kind name host guest : String}
    {rest : List String} {b : NetworkBackend} (h : ofText text = .ok b)
    (hfields : fields ';' text = kind :: name :: host :: guest :: rest) :
    MacAddress.ofText host = .ok b.interface.hostMac ∧
      MacAddress.ofText guest = .ok b.interface.guestMac := by
  obtain ⟨_, _, _, _, _, hparts, h⟩ := exists_ofFields_of_ofText h
  rw [hfields] at hparts
  cases hparts
  obtain ⟨-, -, hhost, hguest, -⟩ := ofFields_eq_ok_iff.1 h
  exact ⟨hhost, hguest⟩

namespace MacAddress

/-- **How addresses are read.** A text is read as an address when it has six octets with colons
between them, each in two hexadecimal digits or, below 16, in a plus sign and one digit. So it is
read as the one address that is written so, unless it is accepted with a plus sign in it. It is
written again in lower case, with zeros in place of the plus signs, and read back from that. This is
so wherever the text stands for an address, in a record or in the text of a network backend. -/
theorem octets_read (text : String) :
    (∀ a, ofText text = .ok a ↔ ∃ parts, text = joinFields ':' parts ∧
      List.Forall₂ (fun part o => IsOctet part o ∨ IsSigned part o) parts a.octets) ∧
    ((∃ a, ofText text = .ok a) ↔
      ∃ parts, parts.length = 6 ∧ text = joinFields ':' parts ∧
        ∀ part ∈ parts, ∃ o, IsOctet part o ∨ IsSigned part o) ∧
    ((∀ a, ofText text = .ok a ↔ Written text a) ↔
      ∀ a, ofText text = .ok a → '+' ∉ text.toList) ∧
    (∀ a, ofText text = .ok a → a.text = String.ofList (text.toList.map shown) ∧
      ('+' ∉ text.toList → a.text = String.ofList (text.toList.map Char.toLower)) ∧
      Written a.text a ∧ ofText a.text = .ok a) ∧
    (∀ a, ofJson (.text text) = .ok a ↔ ofText text = .ok a) ∧
    ∀ line kind name other rest b, NetworkBackend.ofText line = .ok b →
      (fields ';' line = kind :: name :: text :: other :: rest →
        ofText text = .ok b.interface.hostMac) ∧
      (fields ';' line = kind :: name :: other :: text :: rest →
        ofText text = .ok b.interface.guestMac) := by
  refine ⟨fun _ => ofText_eq_ok_iff, exists_ofText_iff, ofText_iff_written_iff, fun a h => ?_,
    ofJson_text text, fun line kind name other rest b h => ?_⟩
  · exact ⟨text_eq_of_ofText h, fun hplus => text_eq_of_written ((written_iff h).2 hplus),
      a.exists_text_eq, a.ofText_text⟩
  · exact ⟨fun hfields => (NetworkBackend.addresses_of_ofText h hfields).1,
      fun hfields => (NetworkBackend.addresses_of_ofText h hfields).2⟩

/-- Letters of either case, and a backend with two addresses. -/
theorem octets_read_cases :
    (∃ a, ofText "58:9C:fc:00:0A:01" = .ok a ∧ Written "58:9C:fc:00:0A:01" a ∧
      a.text = "58:9c:fc:00:0a:01") ∧
    ∃ b, NetworkBackend.ofText "tap;tap0;58:9C:fc:00:0A:01;58:9c:fc:00:00:02" = .ok b ∧
      ofText "58:9C:fc:00:0A:01" = .ok b.interface.hostMac := by
  obtain ⟨a, ha⟩ : ∃ a, ofText "58:9C:fc:00:0A:01" = .ok a := ⟨_, rfl⟩
  obtain ⟨b, hb⟩ : ∃ b, NetworkBackend.ofText "tap;tap0;58:9C:fc:00:0A:01;58:9c:fc:00:00:02" =
    .ok b := ⟨_, rfl⟩
  obtain ⟨-, -, hwritten, hshown, -, hbackend⟩ := octets_read "58:9C:fc:00:0A:01"
  have hplus : '+' ∉ "58:9C:fc:00:0A:01".toList := by decide
  exact ⟨⟨a, ha, (hwritten.2 (fun _ _ => hplus) a).1 ha, (hshown a ha).2.1 hplus⟩, b, hb,
    (hbackend _ "tap" "tap0" "58:9c:fc:00:00:02" [] b hb).1 rfl⟩

/-- A part need not be two hexadecimal digits. -/
theorem exists_signed_octet : ∃ a, ofText "58:9c:fc:00:00:+2" = .ok a ∧
    a.text = "58:9c:fc:00:00:02" ∧ ¬∃ b, Written "58:9c:fc:00:00:+2" b :=
  ⟨_, rfl, rfl, fun ⟨_, h⟩ => h.plus_notMem (by decide)⟩

end MacAddress

end Guestkeeper
