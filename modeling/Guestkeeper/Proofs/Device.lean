import Guestkeeper.Device
import Guestkeeper.Proofs.Text.Addresses
import Guestkeeper.Proofs.Text.IpAddress
import Guestkeeper.Proofs.Text.Symbols

set_option autoImplicit false

/-! # What the hypervisor is told about a device

The names of an interface and of its groups are made of letters, digits and underscores, and the
check that a device has to pass says just this and how long they are.

A device is described to the hypervisor by a text of fields with commas between them. Its slot, the
hypervisor's name for it and all of its options are written without commas. For the name of an
interface this is a consequence of that check; nothing of the sort holds of the path of a disk.
-/

namespace Guestkeeper

open Guestkeeper.Text

/-! ## Names of interfaces -/

/-- The rules for the names of groups. -/
structure Interface.GroupNamed (group : String) : Prop where
  length : 1 ≤ group.toList.length ∧ group.toList.length ≤ 15
  chars : ∀ c ∈ group.toList, c.isAlphanum = true ∨ c = '_'
  last : ∀ c, group.toList.getLast? = some c → c.isDigit = false

/-- The rules for the names of an interface and of its groups. -/
structure NetworkBackend.WellNamed (b : NetworkBackend) : Prop where
  name : ∃ unit : String, b.interface.name = b.kind.start ++ unit ∧ unit ≠ "" ∧
    ∀ c ∈ unit.toList, c.isDigit = true
  size : b.interface.name.utf8ByteSize ≤ 15
  groups : ∀ group ∈ b.interface.groups, Interface.GroupNamed group

namespace Interface

theorem isNameOf_eq_true_iff {kind : InterfaceKind} {name : String} :
    isNameOf kind name = true ↔
      (∃ unit : String, name = kind.start ++ unit ∧ unit ≠ "" ∧
        ∀ c ∈ unit.toList, c.isDigit = true) ∧ name.utf8ByteSize ≤ 15 := by
  rw [isNameOf]
  constructor
  · intro h
    split at h
    · next unit hunit =>
        simp only [Bool.and_eq_true, Bool.not_eq_true', decide_eq_true_eq] at h
        obtain ⟨⟨hempty, hdigits⟩, hsize⟩ := h
        refine ⟨⟨unit, after?_eq_some_iff.1 hunit, ?_, List.all_eq_true.1 hdigits⟩, hsize⟩
        rintro rfl
        cases hempty
    · cases h
  · rintro ⟨⟨unit, hname, hne, hdigits⟩, hsize⟩
    rw [after?_eq_some_iff.2 hname]
    have hempty : unit.isEmpty = false := by simpa using hne
    simp only [hempty, List.all_eq_true.2 hdigits, Bool.not_false, Bool.and_self, Bool.true_and,
      decide_eq_true_eq]
    exact hsize

theorem isGroupName_eq_true_iff {group : String} :
    isGroupName group = true ↔ GroupNamed group := by
  -- the limit is on bytes, and there is one for each of these characters
  have hsize : (∀ c ∈ group.toList, c.isAlphanum = true ∨ c = '_') →
      group.utf8ByteSize = group.toList.length := by
    intro hchars
    refine utf8ByteSize_of_ascii fun c hc => ?_
    rcases hchars c hc with h | rfl
    · exact toNat_lt_of_isAlphanum h
    · decide
  have hpos : 1 ≤ group.toList.length ↔ group ≠ "" := by
    rw [Nat.one_le_iff_ne_zero, ne_eq, List.length_eq_zero_iff, String.toList_eq_nil_iff]
  have hlast : group.toList.getLast?.any Char.isDigit = false ↔
      ∀ c, group.toList.getLast? = some c → c.isDigit = false := by
    cases group.toList.getLast? with
    | none => simp
    | some c => simp
  simp only [isGroupName, Bool.and_eq_true, Bool.not_eq_true', decide_eq_true_eq,
    List.all_eq_true, Bool.or_eq_true, beq_iff_eq, hlast]
  constructor
  · rintro ⟨⟨⟨hempty, hbytes⟩, hchars⟩, hdigit⟩
    rw [hsize hchars] at hbytes
    refine ⟨⟨hpos.2 ?_, hbytes⟩, hchars, hdigit⟩
    rintro rfl
    cases hempty
  · rintro ⟨⟨hne, hlength⟩, hchars, hdigit⟩
    rw [← hsize hchars] at hlength
    exact ⟨⟨⟨by simpa using hpos.1 hne, hlength⟩, hchars⟩, hdigit⟩

end Interface

namespace NetworkBackend

/-- The checks are the rules for names. -/
theorem validate_eq_ok_iff {b : NetworkBackend} : b.validate = .ok () ↔ b.WellNamed := by
  have hgroups : (b.interface.groups.find? fun g => !Interface.isGroupName g) = none ↔
      ∀ group ∈ b.interface.groups, Interface.GroupNamed group := by
    simp [Interface.isGroupName_eq_true_iff]
  rw [validate, Interface.check]
  constructor
  · intro h
    split at h
    · next hname =>
        obtain ⟨hunit, hsize⟩ := Interface.isNameOf_eq_true_iff.1 hname
        split at h
        · cases h
        · next hnone => exact ⟨hunit, hsize, hgroups.1 hnone⟩
    · cases h
  · rintro ⟨hunit, hsize, hnames⟩
    rw [if_pos (Interface.isNameOf_eq_true_iff.2 ⟨hunit, hsize⟩), hgroups.2 hnames]

/-- The names of a backend are made of ASCII letters, digits and underscores. -/
theorem WellNamed.chars {b : NetworkBackend} (h : b.WellNamed) :
    ∀ name ∈ b.interface.name :: b.interface.groups, ∀ c ∈ name.toList,
      c.isAlphanum = true ∨ c = '_' := by
  intro name hmem c hc
  rcases List.mem_cons.1 hmem with rfl | hmem
  · obtain ⟨unit, hname, -, hdigits⟩ := h.name
    have hstart : b.kind.start.toList.all Char.isAlphanum = true := by
      cases b.kind with
      | tap => rfl
      | vmnet => rfl
    rw [hname, String.toList_append, List.mem_append] at hc
    rcases hc with hc | hc
    · exact .inl (List.all_eq_true.1 hstart c hc)
    · exact .inl (by simp [Char.isAlphanum, hdigits c hc])
  · exact (h.groups name hmem).chars c hc

/-- No separator is in a name. -/
theorem WellNamed.notMem {b : NetworkBackend} (h : b.WellNamed) {sep : Char}
    (hsep : sep.isAlphanum = false) (hother : sep ≠ '_') :
    ∀ name ∈ b.interface.name :: b.interface.groups, sep ∉ name.toList := by
  intro name hname hmem
  rcases h.chars name hname sep hmem with halphanum | hunderscore
  · rw [hsep] at halphanum
    cases halphanum
  · exact hother hunderscore

end NetworkBackend

/-! ## Texts without commas -/

theorem comma_notMem_decimal (n : Nat) : ',' ∉ (decimal n).toList := notMem_decimal rfl n

theorem Slot.comma_notMem_text (s : Slot) : ',' ∉ s.text.toList := by
  simp [Slot.text, comma_notMem_decimal]

theorem HostAddress.comma_notMem_text (a : HostAddress) : ',' ∉ a.text.toList := by
  simp [HostAddress.text, comma_notMem_decimal]

/-- An Ethernet address is written with hexadecimal digits and colons. -/
theorem MacAddress.notMem_text {c : Char} (hdigit : ∀ d, d < 16 → Nat.digitChar d ≠ c)
    (hcolon : c ≠ ':') (a : MacAddress) : c ∉ a.text.toList := by
  intro hmem
  rw [MacAddress.text, String.toList_ofList] at hmem
  rcases mem_intercalate hmem with hc | ⟨part, hpart, hc⟩
  · exact hcolon hc
  · obtain ⟨o, -, rfl⟩ := List.mem_map.1 hpart
    exact notMem_fixedHex hdigit 2 o.toNat hc

theorem MacAddress.comma_notMem_text (a : MacAddress) : ',' ∉ a.text.toList :=
  a.notMem_text (by decide) (by decide)

theorem Ipv4Address.comma_notMem_chars (a : Ipv4Address) : ',' ∉ a.chars := by
  intro hmem
  rcases mem_intercalate hmem with hpoint | ⟨part, hpart, hmem⟩
  · cases hpoint
  · obtain ⟨o, -, rfl⟩ := List.mem_map.1 hpart
    exact absurd (isDigit_of_mem_decimal hmem) (by decide)

theorem Ipv6Address.comma_notMem_groupChars (groups : List UInt16) :
    ',' ∉ groupChars groups := by
  intro hmem
  rcases mem_intercalate hmem with hcolon | ⟨part, hpart, hmem⟩
  · cases hcolon
  · obtain ⟨g, -, rfl⟩ := List.mem_map.1 hpart
    obtain ⟨d, hd, hc⟩ := exists_digitChar_of_mem_hexadecimal hmem
    exact (by decide : ∀ d, d < 16 → ',' ≠ Nat.digitChar d) d hd hc

theorem Ipv6Address.comma_notMem_chars (a : Ipv6Address) : ',' ∉ a.chars := by
  have hgap : ',' ∉ [':', ':'] := by decide
  have hmapped : ',' ∉ "::ffff:".toList := by decide
  unfold Ipv6Address.chars
  split
  · next inner _ =>
      rw [List.mem_append, not_or]
      exact ⟨hmapped, inner.comma_notMem_chars⟩
  · dsimp only
    split
    · exact comma_notMem_groupChars a.groups
    · rw [List.mem_append, List.mem_append, not_or, not_or]
      exact ⟨⟨comma_notMem_groupChars _, hgap⟩, comma_notMem_groupChars _⟩

theorem IpAddress.comma_notMem_text (a : IpAddress) : ',' ∉ a.text.toList := by
  cases a with
  | v4 a =>
      rw [IpAddress.text, String.toList_ofList]
      exact a.comma_notMem_chars
  | v6 a =>
      rw [IpAddress.text, String.toList_ofList]
      exact a.comma_notMem_chars

theorem TtyName.comma_notMem_text (n : TtyName) : ',' ∉ n.text.toList := by
  cases n with
  | com1 => decide
  | com2 => decide
  | bootrom => decide

theorem SectorSizes.comma_notMem_text (s : SectorSizes) : ',' ∉ s.text.toList := by
  rw [SectorSizes.text]
  split
  · simp [comma_notMem_decimal]
  · exact comma_notMem_decimal _

theorem TtyName.ofText_text (n : TtyName) : TtyName.ofText n.text = .ok n := by
  cases n with
  | com1 => rfl
  | com2 => rfl
  | bootrom => rfl

theorem TtyName.text_injective : Function.Injective TtyName.text :=
  Except.injective_of_read ofText_text

/-! ## Options without commas -/

theorem NetworkBackend.comma_notMem_name {n : NetworkBackend} (h : n.validate = .ok ()) :
    ',' ∉ n.interface.name.toList :=
  (validate_eq_ok_iff.1 h).notMem rfl (by decide) _ List.mem_cons_self

theorem NetworkBackend.comma_notMem_arguments {n : NetworkBackend} (h : n.validate = .ok ())
    {argument : String}
    (hmem : argument ∈ [n.interface.name, "mac=" ++ n.interface.guestMac.text]) :
    ',' ∉ argument.toList := by
  have hmac : ',' ∉ "mac=".toList := by decide
  rcases List.mem_cons.1 hmem with rfl | hmem
  · exact comma_notMem_name h
  · rw [List.mem_singleton.1 hmem, String.toList_append, List.mem_append, not_or]
    exact ⟨hmac, MacAddress.comma_notMem_text _⟩

theorem Framebuffer.comma_notMem_arguments {f : Framebuffer} {argument : String}
    (hmem : argument ∈ f.arguments) : ',' ∉ argument.toList := by
  have hvga : ',' ∉ f.vga.text.toList := by
    cases f.vga with
    | on => decide
    | off => decide
    | io => decide
  have hendpoint : ',' ∉ f.endpoint.toList := by
    rw [Framebuffer.endpoint]
    split
    · simp [comma_notMem_decimal, IpAddress.comma_notMem_text]
    · simp [comma_notMem_decimal, IpAddress.comma_notMem_text]
  simp only [Framebuffer.arguments, List.mem_append, List.mem_cons, List.not_mem_nil,
    or_false] at hmem
  rcases hmem with (rfl | rfl | rfl | rfl) | hwait
  · simp [hendpoint]
  · simp [comma_notMem_decimal]
  · simp [comma_notMem_decimal]
  · simp [hvga]
  · split at hwait
    · rw [List.mem_singleton.1 hwait]
      decide
    · cases hwait

/-- The options of a valid device have no commas. -/
theorem DeviceKind.comma_notMem_arguments {k : DeviceKind} (h : k.validate = .ok ())
    {argument : String} (hmem : argument ∈ k.arguments) : ',' ∉ argument.toList := by
  cases k with
  | virtioNetwork backend => exact NetworkBackend.comma_notMem_arguments h hmem
  | e1000Network backend => exact NetworkBackend.comma_notMem_arguments h hmem
  | passthru address =>
      rw [List.mem_singleton.1 hmem]
      exact address.comma_notMem_text
  | framebuffer screen => exact Framebuffer.comma_notMem_arguments hmem
  | xhciUsbTablet =>
      rw [List.mem_singleton.1 hmem]
      decide
  | hostBridge vendor => cases hmem
  | virtioBlock backend => cases hmem
  | ahciDisk backend => cases hmem
  | ahciOpticalDisk backend => cases hmem
  | lpc bridge => cases hmem

/-- The backend of a valid network card is valid. -/
theorem DeviceKind.validate_of_network? {k : DeviceKind} {n : NetworkBackend}
    (hk : k.validate = .ok ()) (hn : k.network? = some n) : n.validate = .ok () := by
  cases k <;> cases hn <;> exact hk

/-- The options of a file have no commas. Nothing else has options of its storage. -/
theorem StorageBackend.comma_notMem_arguments {b : StorageBackend} {argument : String}
    (hmem : argument ∈ b.arguments) : ',' ∉ argument.toList := by
  cases b with
  | file path options sectors =>
      rcases List.mem_append.1 hmem with hoption | hsectors
      · obtain ⟨o, -, rfl⟩ := List.mem_map.1 hoption
        cases o with
        | noCache => decide
        | synchronous => decide
        | readOnly => decide
      · obtain ⟨s, -, rfl⟩ : ∃ s, sectors = some s ∧ "sectorsize=" ++ s.text = argument := by
          simpa using hsectors
        simp [s.comma_notMem_text]
  | volume size => cases hmem
  | scsi => cases hmem

theorem DeviceKind.arguments_of_storage? {k : DeviceKind} {b : StorageBackend}
    (h : k.storage? = some b) : k.arguments = [] := by
  cases k with
  | virtioBlock backend => rfl
  | ahciDisk backend => rfl
  | ahciOpticalDisk backend => rfl
  | hostBridge vendor => cases h
  | virtioNetwork backend => cases h
  | lpc bridge => cases h
  | passthru address => cases h
  | framebuffer screen => cases h
  | xhciUsbTablet => cases h
  | e1000Network backend => cases h

/-! ## The hypervisor's names for devices -/

theorem DeviceKind.comma_notMem_emulation (k : DeviceKind) : ',' ∉ k.emulation.toList := by
  have hmem : k.emulation ∈ ["hostbridge", "amd_hostbridge", "virtio-net", "virtio-blk",
      "ahci-hd", "ahci-cd", "lpc", "passthru", "fbuf", "xhci", "e1000"] := by
    cases k with
    | hostBridge vendor => cases vendor <;> simp [emulation]
    | _ => simp [emulation]
  have hall : ∀ name ∈ ["hostbridge", "amd_hostbridge", "virtio-net", "virtio-blk", "ahci-hd",
      "ahci-cd", "lpc", "passthru", "fbuf", "xhci", "e1000"], ',' ∉ name.toList := by decide
  exact hall _ hmem

/-- The hypervisor's name tells whether the device is a disk. -/
theorem DeviceKind.isSome_storage?_iff (k : DeviceKind) :
    k.storage?.isSome = true ↔ k.emulation ∈ ["virtio-blk", "ahci-hd", "ahci-cd"] := by
  cases k with
  | hostBridge vendor => cases vendor <;> simp [storage?, emulation]
  | _ => simp [storage?, emulation]

theorem DeviceKind.isSome_storage?_congr {k l : DeviceKind} (h : k.emulation = l.emulation) :
    k.storage?.isSome = l.storage?.isSome := by
  rw [Bool.eq_iff_iff, isSome_storage?_iff, isSome_storage?_iff, h]

end Guestkeeper
