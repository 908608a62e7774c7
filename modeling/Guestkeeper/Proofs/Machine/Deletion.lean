import Guestkeeper.Proofs.Machine.Soundness

set_option autoImplicit false

/-! # The contract of a deletion

A deletion looks at its slots three times before it removes anything: for free ones, for the host
bridge's, and for those that boot configurations name. The first of these that it finds is all
that it reports, and it reports every case of it (`Machine.Deletion`). Whether a slot may be
cleared depends on what is in that slot and on the boot configurations, neither of which changes
when another slot is cleared; so slots can as well be cleared one at a time, in any order.
-/

namespace Guestkeeper

/-- The four ways in which a boot configuration names a slot. -/
inductive BootConfiguration.Names (b : BootConfiguration) : Slot → Prop
  | disk {s : Slot} (attached : s ∈ b.disks) : b.Names s
  | bootDevice {path : String} {s : Slot} (loads : b.method = .grub (.openBsd path s)) : b.Names s
  | kernelDevice {path initrd : String} {arguments : List String} {s t : Slot}
      (loads : b.method = .grub (.linux path s arguments initrd t)) : b.Names s
  | initrdDevice {path initrd : String} {arguments : List String} {s t : Slot}
      (loads : b.method = .grub (.linux path s arguments initrd t)) : b.Names t

theorem BootConfiguration.refersTo_eq_true_iff_names {b : BootConfiguration} {s : Slot} :
    b.refersTo s = true ↔ b.Names s := by
  rw [refersTo_eq_true_iff]
  constructor
  · rintro (hs | hs)
    · exact .disk hs
    · rw [kernelSlots] at hs
      split at hs
      · next kernel hmethod =>
          cases kernel with
          | openBsd path disk =>
              obtain rfl := List.mem_singleton.1 hs
              exact .bootDevice hmethod
          | linux path disk arguments initrd initrdDisk =>
              rcases List.mem_pair.1 hs with rfl | rfl
              · exact .kernelDevice hmethod
              · exact .initrdDevice hmethod
      · cases hs
  · rintro (hs | hmethod | hmethod | hmethod)
    · exact .inl hs
    all_goals simp [kernelSlots, hmethod, Kernel.slots]

namespace Machine

/-! ## Reports -/

/-- The report on one slot: every boot configuration that names it, in the order of their
names. -/
structure ReportsSlot (m : Machine) (s : Slot) (rs : List SlotReference) : Prop where
  exact : ∀ r, r ∈ rs ↔ r.slot = s ∧ ∃ b, m.boot? r.configuration = some b ∧ b.Names s
  ordered : rs.Pairwise fun q r => q.configuration < r.configuration

/-- The report on a list of slots: the reports on each of them, one after another. -/
inductive Reports (m : Machine) : List Slot → List SlotReference → Prop
  | nil : m.Reports [] []
  | cons {s : Slot} {slots : List Slot} {rs rest : List SlotReference} (first : m.ReportsSlot s rs)
      (others : m.Reports slots rest) : m.Reports (s :: slots) (rs ++ rest)

theorem mem_referencesTo_iff {m : Machine} {s : Slot} {r : SlotReference} :
    r ∈ m.referencesTo s ↔ r.slot = s ∧ ∃ b, m.boot? r.configuration = some b ∧ b.Names s := by
  simp only [referencesTo, List.mem_map, List.mem_filter, boot?_eq_some_iff,
    BootConfiguration.refersTo_eq_true_iff_names]
  constructor
  · rintro ⟨b, ⟨hb, hnames⟩, rfl⟩
    exact ⟨rfl, b, ⟨hb, rfl⟩, hnames⟩
  · rintro ⟨rfl, b, ⟨hb, hname⟩, hnames⟩
    exact ⟨b, ⟨hb, hnames⟩, by rw [hname]⟩

theorem reportsSlot_iff {m : Machine} {s : Slot} {rs : List SlotReference} :
    m.ReportsSlot s rs ↔ rs = m.referencesTo s := by
  have hascending : (m.referencesTo s).Pairwise fun q r =>
      compare q.configuration r.configuration = .lt := by
    rw [referencesTo, List.pairwise_map]
    exact m.boots.ascending.filter _
  constructor
  · intro h
    -- two lists in ascending order with the same members
    have hrs : rs.Pairwise fun q r => compare q.configuration r.configuration = .lt :=
      h.ordered.imp compareOfLessAndEq_eq_lt.2
    exact Table.eq_of_mem_iff hrs hascending fun r => by rw [h.exact, mem_referencesTo_iff]
  · rintro rfl
    exact ⟨fun r => mem_referencesTo_iff, hascending.imp compareOfLessAndEq_eq_lt.1⟩

theorem reports_iff {m : Machine} {slots : List Slot} {rs : List SlotReference} :
    m.Reports slots rs ↔ rs = slots.flatMap m.referencesTo := by
  constructor
  · intro h
    induction h with
    | nil => rfl
    | cons first others ih => rw [List.flatMap_cons, reportsSlot_iff.1 first, ih]
  · rintro rfl
    induction slots with
    | nil => exact .nil
    | cons s slots ih => exact .cons (reportsSlot_iff.2 rfl) ih

theorem unreferenced_iff_names {m : Machine} {s : Slot} :
    m.Unreferenced s ↔ ∀ name b, m.boot? name = some b → ¬b.Names s := by
  simp only [Unreferenced, ← BootConfiguration.refersTo_eq_true_iff_names, Bool.not_eq_true]

/-! ## Outcomes -/

/-- How a deletion ends. -/
inductive Deletion (m : Machine) (slots : List Slot) : Except Error Machine → Prop
  | missing (free : ∃ s ∈ slots, m.device? s = none) :
      m.Deletion slots (.error (.nonexistent .device
        ((slots.filter fun s => (m.device? s).isNone).map Slot.text)))
  | bridge (occupied : ∀ s ∈ slots, m.device? s ≠ none) (listed : .hostBridge ∈ slots) :
      m.Deletion slots (.error (.invalid .hostBridgeDeletion))
  | referenced {rs : List SlotReference} (occupied : ∀ s ∈ slots, m.device? s ≠ none)
      (bridge : .hostBridge ∉ slots)
      (named : ∃ s ∈ slots, ∃ name b, m.boot? name = some b ∧ b.Names s)
      (reports : m.Reports slots rs) : m.Deletion slots (.error (.referencedByBoot rs))
  | done {m' : Machine} (occupied : ∀ s ∈ slots, m.device? s ≠ none)
      (bridge : .hostBridge ∉ slots)
      (unnamed : ∀ s ∈ slots, ∀ name b, m.boot? name = some b → ¬b.Names s)
      (devices : ∀ s, m'.device? s = if s ∈ slots then none else m.device? s)
      (rest : m' = { m with devices := m'.devices }) : m.Deletion slots (.ok m')

theorem eq_withoutDevices_iff {m m' : Machine} {slots : List Slot} :
    m' = m.withoutDevices slots ↔
      (∀ s, m'.device? s = if s ∈ slots then none else m.device? s) ∧
        m' = { m with devices := m'.devices } := by
  constructor
  · rintro rfl
    exact ⟨device?_withoutDevices m slots, rfl⟩
  · rintro ⟨hdevices, hrest⟩
    refine eq_of_device? (fun s => ?_) hrest rfl
    rw [hdevices, device?_withoutDevices]

theorem references_nonempty_iff_names {m : Machine} {slots : List Slot} :
    (!(slots.flatMap m.referencesTo).isEmpty) = true ↔
      ∃ s ∈ slots, ∃ name b, m.boot? name = some b ∧ b.Names s := by
  rw [references_nonempty_iff]
  simp only [unreferenced_iff_names]
  push Not
  rfl

/-- A deletion ends in one of the ways that its slots call for. -/
theorem deletion_deleteDevices (m : Machine) (slots : List Slot) :
    m.Deletion slots (m.deleteDevices slots) := by
  simp only [deleteDevices]
  split
  · next hfree => exact .missing (missing_nonempty_iff.1 hfree)
  · next hfree =>
      have occupied := mt missing_nonempty_iff.2 hfree
      push Not at occupied
      split
      · next hlisted => exact .bridge occupied (List.contains_iff_mem.1 hlisted)
      · next hlisted =>
          have bridge := mt List.contains_iff_mem.2 hlisted
          split
          · next hnamed =>
              exact .referenced occupied bridge (references_nonempty_iff_names.1 hnamed)
                (reports_iff.2 rfl)
          · next hnamed =>
              have unnamed := mt references_nonempty_iff_names.2 hnamed
              push Not at unnamed
              exact .done occupied bridge unnamed (device?_withoutDevices m slots) rfl

/-- The slots call for one way only. -/
theorem Deletion.eq {m : Machine} {slots : List Slot} {r : Except Error Machine}
    (h : m.Deletion slots r) : m.deleteDevices slots = r := by
  have hfree : (∀ s ∈ slots, m.device? s ≠ none) →
      ¬(!(slots.filter fun s => (m.device? s).isNone).isEmpty) = true := fun occupied hfree =>
    (missing_nonempty_iff.1 hfree).elim fun s hs => occupied s hs.1 hs.2
  simp only [deleteDevices]
  cases h with
  | missing free => rw [if_pos (missing_nonempty_iff.2 free)]
  | bridge occupied listed =>
      rw [if_neg (hfree occupied), if_pos (List.contains_iff_mem.2 listed)]
      rfl
  | referenced occupied bridge named reports =>
      rw [if_neg (hfree occupied), if_neg (mt List.contains_iff_mem.1 bridge),
        if_pos (references_nonempty_iff_names.2 named), reports_iff.1 reports]
  | done occupied bridge unnamed devices rest =>
      have hnamed : ¬(!(slots.flatMap m.referencesTo).isEmpty) = true := by
        rw [references_nonempty_iff_names]
        rintro ⟨s, hs, name, b, hb, hnames⟩
        exact unnamed s hs name b hb hnames
      rw [if_neg (hfree occupied), if_neg (mt List.contains_iff_mem.1 bridge), if_neg hnamed,
        eq_withoutDevices_iff.2 ⟨devices, rest⟩]

/-! ## One slot at a time -/

/-- The conditions for clearing a slot. -/
structure Clearable (m : Machine) (s : Slot) : Prop where
  occupied : (m.device? s).isSome = true
  bridge : s ≠ .hostBridge
  unreferenced : m.Unreferenced s

theorem deleteDevices_eq_ok_iff_clearable {m m' : Machine} {slots : List Slot} :
    m.deleteDevices slots = .ok m' ↔
      (∀ s ∈ slots, m.Clearable s) ∧ m' = m.withoutDevices slots := by
  rw [deleteDevices_eq_ok_iff]
  constructor
  · rintro ⟨hoccupied, hbridge, hunreferenced, hm'⟩
    refine ⟨fun s hs => ⟨hoccupied s hs, ?_, hunreferenced s hs⟩, hm'⟩
    rintro rfl
    exact hbridge hs
  · rintro ⟨h, hm'⟩
    exact ⟨fun s hs => (h s hs).occupied, fun hlisted => (h _ hlisted).bridge rfl,
      fun s hs => (h s hs).unreferenced, hm'⟩

/-- Clearing slots changes nothing about another one. -/
theorem clearable_withoutDevices_iff {m : Machine} {slots : List Slot} {t : Slot}
    (ht : t ∉ slots) : (m.withoutDevices slots).Clearable t ↔ m.Clearable t := by
  have hdevice : (m.withoutDevices slots).device? t = m.device? t := by
    rw [device?_withoutDevices, if_neg ht]
  constructor
  · intro h
    exact ⟨hdevice ▸ h.occupied, h.bridge, h.unreferenced⟩
  · intro h
    exact ⟨hdevice.symm ▸ h.occupied, h.bridge, h.unreferenced⟩

@[simp] theorem withoutDevices_nil (m : Machine) : m.withoutDevices [] = m :=
  eq_of_device? (m := m) (fun s => device?_withoutDevices m [] s) rfl rfl

/-- Slots are cleared the same whether at once or in two parts. -/
theorem withoutDevices_append (m : Machine) (slots others : List Slot) :
    m.withoutDevices (slots ++ others) = (m.withoutDevices slots).withoutDevices others := by
  refine eq_of_device? (m := m) (fun s => ?_) rfl rfl
  simp only [device?_withoutDevices, List.mem_append]
  by_cases hs : s ∈ slots <;> simp [hs]

/-- Which slots are cleared does not depend on their order. -/
theorem withoutDevices_congr (m : Machine) {slots order : List Slot}
    (h : ∀ s, s ∈ order ↔ s ∈ slots) : m.withoutDevices order = m.withoutDevices slots := by
  refine eq_of_device? (m := m) (fun s => ?_) rfl rfl
  simp only [device?_withoutDevices, h]

theorem deleteDevices_cons_eq_ok_iff {m m' : Machine} {s : Slot} {slots : List Slot}
    (hs : ∀ t ∈ slots, s ≠ t) : m.deleteDevices (s :: slots) = .ok m' ↔
      ∃ n, m.deleteDevices [s] = .ok n ∧ n.deleteDevices slots = .ok m' := by
  have hsplit : m.withoutDevices (s :: slots) = (m.withoutDevices [s]).withoutDevices slots :=
    withoutDevices_append m [s] slots
  -- that `s` is cleared first is nothing to the slots that follow
  have hrest : (∀ t ∈ slots, (m.withoutDevices [s]).Clearable t) ↔ ∀ t ∈ slots, m.Clearable t :=
    forall₂_congr fun t ht =>
      clearable_withoutDevices_iff fun hmem => hs t ht (List.mem_singleton.1 hmem).symm
  simp only [deleteDevices_eq_ok_iff_clearable, List.forall_mem_cons,
    List.not_mem_nil, false_imp_iff, implies_true, and_true]
  constructor
  · rintro ⟨⟨hfirst, hothers⟩, rfl⟩
    exact ⟨_, ⟨hfirst, rfl⟩, hrest.2 hothers, hsplit⟩
  · rintro ⟨n, ⟨hfirst, rfl⟩, hothers, rfl⟩
    exact ⟨⟨hfirst, hrest.1 hothers⟩, hsplit.symm⟩

theorem performAll_deleteDevices_eq_ok_iff {m m' : Machine} {slots order : List Slot}
    (hslots : slots.Nodup) (horder : order.Perm slots) :
    m.performAll (order.map fun s => .deleteDevices [s]) = .ok m' ↔
      m.deleteDevices slots = .ok m' := by
  have hsingles : m.performAll (order.map fun s => .deleteDevices [s]) = .ok m' ↔
      m.deleteDevices order = .ok m' := by
    rw [performAll, List.foldlM_map]
    exact Except.foldlM_singles_eq_ok_iff (f := deleteDevices)
      (fun n => deleteDevices_eq_ok_iff_clearable.2 ⟨by simp, by simp⟩)
      (fun n n' s rest hs => deleteDevices_cons_eq_ok_iff hs) (horder.nodup_iff.2 hslots)
  rw [hsingles, deleteDevices_eq_ok_iff_clearable, deleteDevices_eq_ok_iff_clearable,
    withoutDevices_congr m fun s => horder.mem_iff]
  simp only [horder.mem_iff]

/-- **The contract of a deletion.** It reports the slots that are free, all of them, in the order
of the list; or else that the host bridge's slot is listed; or else, slot by slot, every boot
configuration that names one of them. If there is nothing to report, exactly the listed slots are
cleared and nothing else has changed. A list without repetitions can be deleted exactly when each
of its slots can be deleted alone, and deleting them one at a time, in any order, comes to the same
machine. -/
theorem deleteDevices_contract (m : Machine) (slots : List Slot) :
    (∀ r, m.deleteDevices slots = r ↔ m.Deletion slots r) ∧
      (slots.Nodup →
        ((∃ m', m.deleteDevices slots = .ok m') ↔
          ∀ s ∈ slots, ∃ m', m.deleteDevices [s] = .ok m') ∧
        ∀ order : List Slot, order.Perm slots → ∀ m',
          m.performAll (order.map fun s => .deleteDevices [s]) = .ok m' ↔
            m.deleteDevices slots = .ok m') := by
  refine ⟨fun r => ⟨fun h => h ▸ deletion_deleteDevices m slots, Deletion.eq⟩,
    fun hslots => ⟨?_, fun order horder m' => ?_⟩⟩
  · simp [deleteDevices_eq_ok_iff_clearable]
  · exact performAll_deleteDevices_eq_ok_iff hslots horder

/-- Three disks, the first of which a boot configuration loads from. -/
def threeDisks (first second third : Slot) : List Operation :=
  [.addDevice { kind := .ahciDisk (.file "/tmp/disk" ∅ none), slot := some first },
   .addDevice { kind := .ahciDisk (.volume none), slot := some second },
   .addDevice { kind := .virtioBlock (.volume none), slot := some third },
   .mergeBoots [⟨"install", "", .grub (.openBsd "/bsd" first), [first]⟩] false]

/-- The disk that the boot configuration names stays, the others go in either order. -/
theorem deleteDevices_contract_disks : ∃ m₀ m m' : Machine, define guest = .ok m₀ ∧
    m₀.performAll (threeDisks ⟨0, 1, 0⟩ ⟨0, 2, 0⟩ ⟨1, 3, 0⟩) = .ok m ∧
    m.Deletion [⟨1, 3, 0⟩, ⟨0, 1, 0⟩]
      (.error (.referencedByBoot [⟨⟨0, 1, 0⟩, "install"⟩])) ∧
    m.deleteDevices [⟨1, 3, 0⟩, ⟨0, 2, 0⟩] = .ok m' ∧
    m.performAll [.deleteDevices [⟨0, 2, 0⟩], .deleteDevices [⟨1, 3, 0⟩]] = .ok m' :=
  ⟨_, _, _, rfl, rfl, ((deleteDevices_contract _ _).1 _).1 rfl, rfl,
    (((deleteDevices_contract _ [⟨1, 3, 0⟩, ⟨0, 2, 0⟩]).2 (by decide)).2
      [⟨0, 2, 0⟩, ⟨1, 3, 0⟩] (by decide) _).2 rfl⟩

end Machine

end Guestkeeper
