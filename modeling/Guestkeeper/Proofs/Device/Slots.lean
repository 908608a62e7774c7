import Guestkeeper.Proofs.Device
import Guestkeeper.Proofs.Launch.Plan

set_option autoImplicit false

/-! # PCI addresses as they are written and ordered

The address of a guest's device is written as three numerals with colons between them, that of a
host's device with slashes. Nothing else is read, and the numbers that are read are the numerals'
own. Blanks are allowed around the first sort only, where the numbers also have bounds.

Slots are ordered by their numbers, the bus first. This is the order of the devices on the
hypervisor's command line.
-/

namespace Guestkeeper

open Guestkeeper.Text

namespace Slot

/-! ## Texts -/

/-- The text gives three numbers for a slot: numerals with colons between them and blanks around
them. -/
def Gives (text : String) (x y z : Nat) : Prop :=
  ∃ core, Pads text core ∧ IsTriple ':' core x y z

theorem Gives.unique {text : String} {x y z x' y' z' : Nat} (h : Gives text x y z)
    (h' : Gives text x' y' z') : x = x' ∧ y = y' ∧ z = z' := by
  obtain ⟨core, hpads, htriple⟩ := h
  obtain ⟨core', hpads', htriple'⟩ := h'
  obtain rfl : core = core' := by
    rw [← trim_of_isTriple hpads htriple, trim_of_isTriple hpads' htriple']
  exact htriple.unique htriple' rfl (by decide)

/-- A text is accepted when its numbers are within the bounds. -/
theorem exists_ofText_iff {text : String} : (∃ s, ofText text = .ok s) ↔
    ∃ x y z, Gives text x y z ∧ x ≤ 255 ∧ y ≤ 31 ∧ z ≤ 7 := by
  simp only [ofText_eq_ok_iff]
  constructor
  · rintro ⟨s, hs⟩
    exact ⟨s.bus, s.slot, s.function, hs, Nat.le_of_lt_succ s.bus.isLt,
      Nat.le_of_lt_succ s.slot.isLt, Nat.le_of_lt_succ s.function.isLt⟩
  · rintro ⟨x, y, z, h, hx, hy, hz⟩
    exact ⟨⟨⟨x, Nat.lt_succ_of_le hx⟩, ⟨y, Nat.lt_succ_of_le hy⟩, ⟨z, Nat.lt_succ_of_le hz⟩⟩, h⟩

/-- Two texts stand for one slot when they give the same numbers. -/
theorem eq_iff_of_gives {text text' : String} {s s' : Slot} {x y z x' y' z' : Nat}
    (hs : ofText text = .ok s) (hs' : ofText text' = .ok s') (h : Gives text x y z)
    (h' : Gives text' x' y' z') : s = s' ↔ x = x' ∧ y = y' ∧ z = z' := by
  obtain ⟨rfl, rfl, rfl⟩ := h.unique (ofText_eq_ok_iff.1 hs)
  obtain ⟨rfl, rfl, rfl⟩ := h'.unique (ofText_eq_ok_iff.1 hs')
  obtain ⟨bus, slot, function⟩ := s
  obtain ⟨bus', slot', function'⟩ := s'
  simp [Fin.ext_iff]

/-! ## The order -/

/-- The lexicographic order of the three numbers. -/
def Precedes (s t : Slot) : Prop :=
  s.bus < t.bus ∨ (s.bus = t.bus ∧
    (s.slot < t.slot ∨ (s.slot = t.slot ∧ s.function < t.function)))

theorem compare_eq_lt_iff {s t : Slot} : compare s t = .lt ↔ s.Precedes t := by
  show compareLex (compareOn bus) (compareLex (compareOn slot) (compareOn function)) s t = .lt ↔ _
  simp only [compareLex, compareOn, Ordering.then_eq_lt, compare_lt_iff_lt, compare_eq_iff_eq,
    Precedes]

/-- The slots in ascending order. -/
def inOrder (slots : List Slot) : List Slot := slots.mergeSort fun s t => (compare s t).isLE

theorem perm_inOrder (slots : List Slot) : (inOrder slots).Perm slots := List.mergeSort_perm slots _

theorem pairwise_inOrder (slots : List Slot) :
    (inOrder slots).Pairwise fun s t => s.Precedes t ∨ s = t := by
  refine (Table.pairwise_mergeSort_isLE slots).imp fun {s t} hle => ?_
  rw [Ordering.isLE_iff_eq_lt_or_eq_eq] at hle
  exact hle.imp compare_eq_lt_iff.1 Std.LawfulEqCmp.eq_of_compare

end Slot

namespace HostAddress

theorem exists_ofText_iff {text : String} : (∃ a, ofText text = .ok a) ↔
    ∃ x y z, IsTriple '/' text x y z ∧ x < 2 ^ 32 ∧ y < 2 ^ 32 ∧ z < 2 ^ 32 := by
  simp only [ofText_eq_ok_iff]
  constructor
  · rintro ⟨a, ha⟩
    exact ⟨_, _, _, ha, a.bus.toNat_lt, a.slot.toNat_lt, a.function.toNat_lt⟩
  · rintro ⟨x, y, z, h, hx, hy, hz⟩
    refine ⟨⟨.ofNat x, .ofNat y, .ofNat z⟩, ?_⟩
    rwa [UInt32.toNat_ofNat_of_lt' hx, UInt32.toNat_ofNat_of_lt' hy, UInt32.toNat_ofNat_of_lt' hz]

end HostAddress

namespace Launch

/-- The option for a device begins with its slot. -/
theorem head?_deviceArgument {root : String} {id : Uuid} {d : Device} {value : String}
    (h : deviceArgument root id d = .ok value) :
    (fields ',' value).head? = some d.slot.text := by
  obtain ⟨storage, -, h⟩ := Except.bind_eq_ok_iff.1 h
  rw [← Except.ok.inj h]
  have hfields := fields_intercalate ',' d.slot.text
    (d.kind.emulation :: storage ++ d.kind.arguments)
  rw [List.flatMap_cons, fields_of_notMem d.slot.comma_notMem_text] at hfields
  exact congrArg List.head? hfields

/-- The devices are on the command line in the order of their slots. -/
theorem slots_of_hypervisorArguments {c : Configuration} {m : Machine} {b : BootConfiguration}
    {arguments : List String} {slots : List Slot} (h : hypervisorArguments c m b = .ok arguments)
    (hslots : slots.Perm (m.devices.entries.map Device.slot)) :
    ∃ values, repeated "-s" values <:+: arguments ∧
      values.map (fun v => (fields ',' v).head?) =
        (Slot.inOrder slots).map fun s => some s.text := by
  obtain ⟨values, hvalues, hinfix⟩ := exists_infix_hypervisorArguments h
  refine ⟨values, hinfix, ?_⟩
  rw [Slot.inOrder, Table.mergeSort_eq_keys hslots, List.map_map]
  exact Except.map_eq_of_mapM_eq_ok hvalues fun d _ value hvalue => head?_deviceArgument hvalue

end Launch

/-- **Addresses are read exactly.** The address of a guest's device is read from three numerals with
colons between them and blanks around them, and just when their numbers are within the bounds; that
of a host's device from three numerals with slashes, and just when their numbers fit in 32 bits.
Every address is read back from its own text, and two texts stand for one slot when they give the
same numbers. The order of slots is the lexicographic one, and sorting the slots of a machine puts
them into the order in which its devices are on the command line. -/
theorem addresses_exact :
    (∀ text (s : Slot),
      Slot.ofText text = .ok s ↔ Slot.Gives text s.bus s.slot s.function) ∧
    (∀ text, (∃ s, Slot.ofText text = .ok s) ↔
      ∃ x y z, Slot.Gives text x y z ∧ x ≤ 255 ∧ y ≤ 31 ∧ z ≤ 7) ∧
    (∀ text (a : HostAddress), HostAddress.ofText text = .ok a ↔
      IsTriple '/' text a.bus.toNat a.slot.toNat a.function.toNat) ∧
    (∀ text, (∃ a, HostAddress.ofText text = .ok a) ↔
      ∃ x y z, IsTriple '/' text x y z ∧ x < 2 ^ 32 ∧ y < 2 ^ 32 ∧ z < 2 ^ 32) ∧
    (∀ s : Slot, Slot.ofText s.text = .ok s) ∧
    (∀ a : HostAddress, HostAddress.ofText a.text = .ok a) ∧
    (∀ text text' s s' x y z x' y' z', Slot.ofText text = .ok s → Slot.ofText text' = .ok s' →
      Slot.Gives text x y z → Slot.Gives text' x' y' z' →
        (s = s' ↔ x = x' ∧ y = y' ∧ z = z')) ∧
    (∀ s t : Slot, compare s t = .lt ↔ s.bus < t.bus ∨ (s.bus = t.bus ∧
      (s.slot < t.slot ∨ (s.slot = t.slot ∧ s.function < t.function)))) ∧
    (∀ slots, (Slot.inOrder slots).Perm slots ∧
      (Slot.inOrder slots).Pairwise fun s t => s.Precedes t ∨ s = t) ∧
    ∀ c m b arguments slots, Launch.hypervisorArguments c m b = .ok arguments →
      slots.Perm (m.devices.entries.map Device.slot) →
        ∃ values, Launch.repeated "-s" values <:+: arguments ∧
          values.map (fun v => (fields ',' v).head?) =
            (Slot.inOrder slots).map fun s => some s.text :=
  ⟨fun _ _ => Slot.ofText_eq_ok_iff, fun _ => Slot.exists_ofText_iff,
    fun _ _ => HostAddress.ofText_eq_ok_iff, fun _ => HostAddress.exists_ofText_iff,
    Slot.ofText_text, HostAddress.ofText_text,
    fun _ _ _ _ _ _ _ _ _ _ hs hs' h h' => Slot.eq_iff_of_gives hs hs' h h',
    fun _ _ => Slot.compare_eq_lt_iff,
    fun slots => ⟨Slot.perm_inOrder slots, Slot.pairwise_inOrder slots⟩,
    fun _ _ _ _ _ harguments hslots => Launch.slots_of_hypervisorArguments harguments hslots⟩

/-- One slot has texts with signs, zeros and blanks; and the slot 10 comes after the slot 2. -/
theorem addresses_exact_tablets :
    (∃ s s', Slot.ofText "\u2003+00:0031:7\n" = .ok s ∧ Slot.ofText "0:31:7" = .ok s' ∧ s = s') ∧
    ∃ m₀ m arguments values, Machine.define Machine.guest = .ok m₀ ∧
      m₀.performAll [.addDevice { kind := .xhciUsbTablet, slot := some ⟨0, 10, 0⟩ },
        .addDevice { kind := .xhciUsbTablet, slot := some ⟨0, 2, 0⟩ }] = .ok m ∧
      Launch.hypervisorArguments {} m ⟨"boot", "", .grub (.openBsd "/bsd" ⟨0, 2, 0⟩), []⟩ =
        .ok arguments ∧
      Launch.repeated "-s" values <:+: arguments ∧
      values.map (fun v => (fields ',' v).head?) =
        (Slot.inOrder [⟨0, 10, 0⟩, ⟨0, 0, 0⟩, ⟨0, 2, 0⟩]).map fun s => some s.text := by
  have hnumeral : ∀ text n, readNatural 256 text = .ok n → IsNumeral text n := fun _ _ h =>
    ((readNatural_eq_ok_iff (by decide)).1 h).1
  have hsigned : Slot.Gives "\u2003+00:0031:7\n" 0 31 7 :=
    ⟨"+00:0031:7", ⟨"\u2003", "\n", rfl, rfl, rfl⟩, "+00", "0031", "7", rfl,
      hnumeral _ _ rfl, hnumeral _ _ rfl, hnumeral _ _ rfl⟩
  have hplain : Slot.Gives "0:31:7" 0 31 7 :=
    ⟨"0:31:7", pads_self _, "0", "31", "7", rfl, hnumeral _ _ rfl, hnumeral _ _ rfl,
      hnumeral _ _ rfl⟩
  obtain ⟨hread, -, -, -, -, -, hsame, -, -, hline⟩ := addresses_exact
  have hs : Slot.ofText "\u2003+00:0031:7\n" = .ok ⟨0, 31, 7⟩ := (hread _ _).2 hsigned
  have hs' : Slot.ofText "0:31:7" = .ok ⟨0, 31, 7⟩ := (hread _ _).2 hplain
  refine ⟨⟨_, _, hs, hs', (hsame _ _ _ _ _ _ _ _ _ _ hs hs' hsigned hplain).2 ⟨rfl, rfl, rfl⟩⟩, ?_⟩
  obtain ⟨m₀, m, arguments, hm₀, hm, harguments, hslots⟩ : ∃ m₀ m arguments,
      Machine.define Machine.guest = .ok m₀ ∧
      m₀.performAll [.addDevice { kind := .xhciUsbTablet, slot := some ⟨0, 10, 0⟩ },
        .addDevice { kind := .xhciUsbTablet, slot := some ⟨0, 2, 0⟩ }] = .ok m ∧
      Launch.hypervisorArguments {} m ⟨"boot", "", .grub (.openBsd "/bsd" ⟨0, 2, 0⟩), []⟩ =
        .ok arguments ∧
      m.devices.entries.map Device.slot = [⟨0, 0, 0⟩, ⟨0, 2, 0⟩, ⟨0, 10, 0⟩] :=
    ⟨_, _, _, rfl, rfl, rfl, rfl⟩
  obtain ⟨values, hinfix, hvalues⟩ := hline _ _ _ _ [⟨0, 10, 0⟩, ⟨0, 0, 0⟩, ⟨0, 2, 0⟩] harguments
    (by rw [hslots]; decide)
  exact ⟨m₀, m, arguments, values, hm₀, hm, harguments, hinfix, hvalues⟩

end Guestkeeper
