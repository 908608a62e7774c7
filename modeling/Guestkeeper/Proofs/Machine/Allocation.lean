import Guestkeeper.Proofs.Machine.Additions

set_option autoImplicit false

/-! # Slots handed out

An addition without a slot goes to the first of the free slots on bus 0 with function 0. Filling it
takes it off the list of free ones and leaves the list otherwise as it was, so one addition after
another goes down that list.

Which slot is handed out depends on what is free and on nothing else, and every rule for a device
but one holds in all free slots of the list or in none. The exception is the rule that keeps volumes
apart: it is about the number of the slot, which a volume on another bus or with another function
may have already.
-/

namespace Guestkeeper

/-- A disk whose data is a file. -/
def DeviceKind.OnFile (k : DeviceKind) : Prop :=
  ∃ path options sectors, k.storage? = some (.file path options sectors)

theorem DeviceKind.OnFile.validate {k : DeviceKind} (h : k.OnFile) : k.validate = .ok () := by
  obtain ⟨path, options, sectors, hstorage⟩ := h
  cases k <;> first | rfl | cases hstorage

theorem DeviceKind.OnFile.isVolume {k : DeviceKind} (h : k.OnFile) : k.isVolume = false := by
  obtain ⟨path, options, sectors, hstorage⟩ := h
  rw [DeviceKind.isVolume, hstorage]
  rfl

/-- A kind that is not accepted is refused as invalid. -/
theorem DeviceKind.invalid_of_validate {k : DeviceKind} {e : Error} (h : k.validate = .error e) :
    ∃ cause, e = .invalid cause := by
  have hnetwork : ∀ b : NetworkBackend, b.validate = .error e → ∃ cause, e = .invalid cause := by
    intro b hb
    rw [NetworkBackend.validate, Interface.check] at hb
    split at hb
    · split at hb <;> cases hb
      exact ⟨_, rfl⟩
    · cases hb
      exact ⟨_, rfl⟩
  cases k with
  | virtioNetwork b => exact hnetwork b h
  | e1000Network b => exact hnetwork b h
  | framebuffer screen =>
      rw [DeviceKind.validate, Framebuffer.validate] at h
      split at h
      · cases h
        exact ⟨_, rfl⟩
      · split at h <;> cases h
        exact ⟨_, rfl⟩
  | _ => cases h

/-- The addition to a slot that is named. -/
def Addition.into (a : Addition) (s : Slot) : Addition := { a with slot := some s }

/-- In the order of slots, none with the same number comes before one that is handed out. -/
theorem Slot.not_lt_automatic {s t : Slot} (hs : s ∈ automatic) (hid : t.deviceId = s.deviceId) :
    compare t s ≠ .lt := by
  obtain ⟨hbus, -, hfunction⟩ := mem_automatic_iff.1 hs
  have hslot : t.slot = s.slot := Fin.ext hid
  show compareLex (compareOn bus) (compareLex (compareOn slot) (compareOn function)) t s ≠ .lt
  simp [compareLex, compareOn, hslot, hbus, hfunction, Ordering.then_eq_lt, compare_lt_iff_lt]

theorem Slot.ne_hostBridge {s : Slot} (hs : s ∈ automatic) : s ≠ .hostBridge := by
  rintro rfl
  exact (mem_automatic_iff.1 hs).2.1 rfl

namespace Machine

/-! ## Free slots -/

/-- The free slots of those that are handed out. -/
def freeSlots (m : Machine) : List Slot := Slot.automatic.filter fun s => (m.device? s).isNone

theorem mem_freeSlots_iff {m : Machine} {s : Slot} :
    s ∈ m.freeSlots ↔ s ∈ Slot.automatic ∧ m.device? s = none := by
  simp [freeSlots]

theorem pairwise_freeSlots (m : Machine) : m.freeSlots.Pairwise fun s t => s.slot < t.slot :=
  Slot.pairwise_automatic.sublist List.filter_sublist

theorem nodup_freeSlots (m : Machine) : m.freeSlots.Nodup :=
  m.pairwise_freeSlots.imp fun hlt => ne_of_apply_ne Slot.slot hlt.ne

theorem freeSlot_eq (m : Machine) :
    m.freeSlot = m.freeSlots.head?.elim (.error .slotsExhausted) .ok := by
  rw [freeSlot, freeSlots, List.head?_filter]
  cases Slot.automatic.find? fun s => (m.device? s).isNone <;> rfl

/-- A slot that is filled is free no longer; the others are as they were. -/
theorem freeSlots_withDevice (m : Machine) (d : Device) :
    (m.withDevice d).freeSlots = m.freeSlots.filter (· ≠ d.slot) := by
  rw [freeSlots, freeSlots, List.filter_filter]
  refine List.filter_congr fun s _ => ?_
  rw [device?_withDevice]
  by_cases hs : d.slot = s
  · simp [hs]
  · simp [hs, Ne.symm hs]

theorem freeSlots_withDevice_of_cons {m : Machine} {d : Device} {rest : List Slot}
    (h : m.freeSlots = d.slot :: rest) : (m.withDevice d).freeSlots = rest := by
  have hnodup := h ▸ m.nodup_freeSlots
  rw [freeSlots_withDevice, h, List.filter_cons_of_neg (by simp), List.filter_eq_self]
  intro s hs
  have hne : s ≠ d.slot := fun heq => (List.nodup_cons.1 hnodup).1 (heq ▸ hs)
  simpa using hne

/-! ## Which rules depend on the slot -/

/-- The rules for putting a device of this kind into a slot, but for the one that keeps volumes
apart. -/
structure Suits (m : Machine) (s : Slot) (kind : DeviceKind) : Prop where
  valid : kind.validate = .ok ()
  bridge : s = .hostBridge ↔ kind.isHostBridge = true
  lpc_bus : kind.lpc?.isSome = true → s.bus.val = 0
  lpc_only : kind.lpc?.isSome = true → ∀ t e, m.device? t = some e →
    e.kind.lpc?.isSome = true → t = s
  disk : kind.storage?.isSome = true ∨ m.Unreferenced s

theorem accepts_iff_suits {m : Machine} {d : Device} :
    m.Accepts d ↔ m.Suits d.slot d.kind ∧ (m.withDevice d).VolumesDistinct :=
  ⟨fun h => ⟨⟨h.valid, h.bridge, h.lpc_bus, h.lpc_only, h.disk⟩, h.volumes⟩,
    fun ⟨h, hvolumes⟩ => ⟨h.valid, h.bridge, h.lpc_bus, h.lpc_only, h.disk, hvolumes⟩⟩

/-- When the other rules are kept, the volumes decide, and a refusal is theirs. -/
theorem addDevice_of_suits {m : Machine} {a : Addition} {s : Slot} (hplace : m.place a = .ok s)
    (h : m.Suits s a.kind) :
    m.addDevice a = (checkVolumes (m.withDevice ⟨s, a.comment, a.kind⟩).devices.entries).map
      fun _ => (m.withDevice ⟨s, a.comment, a.kind⟩, s) := by
  have hlpc : m.checkLpc s a.kind = .ok () :=
    checkLpc_eq_ok_iff.2 fun hk => ⟨h.lpc_bus hk, h.lpc_only hk⟩
  simp only [addDevice, bind, Except.bind, h.valid, hplace, checkBridge_eq_ok_iff.2 h.bridge, hlpc,
    checkReferences_eq_ok_iff.2 h.disk]
  rfl

/-- What suits one free slot of those that are handed out suits every other. -/
theorem Suits.moved {m : Machine} (hm : m.Sound) {s t : Slot} {kind : DeviceKind}
    (h : m.Suits t kind) (ht : t ∈ m.freeSlots) (hs : s ∈ m.freeSlots) : m.Suits s kind := by
  obtain ⟨hsa, hsfree⟩ := mem_freeSlots_iff.1 hs
  obtain ⟨hta, htfree⟩ := mem_freeSlots_iff.1 ht
  refine {
    valid := h.valid
    bridge := ?_
    lpc_bus := fun _ => congrArg Fin.val (Slot.mem_automatic_iff.1 hsa).1
    lpc_only := fun hk u e he hek => ?_
    disk := .inr (hm.boots.unreferenced hsfree) }
  · rw [← h.bridge]
    exact iff_of_false (Slot.ne_hostBridge hsa) (Slot.ne_hostBridge hta)
  · -- another LPC bridge would be in `t`, which is free
    rw [h.lpc_only hk u e he hek, htfree] at he
    cases he

theorem suits_of_onFile {m : Machine} {s : Slot} (hs : s ∈ Slot.automatic) {kind : DeviceKind}
    (h : kind.OnFile) : m.Suits s kind := by
  have hvalid := h.validate
  obtain ⟨path, options, sectors, hstorage⟩ := h
  have hbridge : kind.isHostBridge = false := by cases kind <;> first | rfl | cases hstorage
  have hlpc : kind.lpc? = none := by cases kind <;> first | rfl | cases hstorage
  refine {
    valid := hvalid
    bridge := iff_of_false (Slot.ne_hostBridge hs) (by simp [hbridge])
    lpc_bus := by simp [hlpc]
    lpc_only := by simp [hlpc]
    disk := .inl (by rw [hstorage]; rfl) }

/-! ## Volumes -/

/-- The slot holds a volume, and the volume has this number. -/
def HoldsVolume (m : Machine) (s : Slot) (n : Nat) : Prop :=
  ∃ x, m.device? s = some x ∧ x.kind.isVolume = true ∧ s.deviceId = n

/-- A volume in a slot that is handed out clashes with the one that has the number of the slot, and
it comes first of the two. -/
theorem checkVolumes_withDevice_of_clash {m : Machine} (hm : m.VolumesDistinct) {d : Device}
    (hslot : d.slot ∈ m.freeSlots) (hd : d.kind.isVolume = true) {u : Slot}
    (hu : m.HoldsVolume u d.slot.deviceId) :
    checkVolumes (m.withDevice d).devices.entries = invalid (.sharedVolume d.slot u) := by
  obtain ⟨hautomatic, hfree⟩ := mem_freeSlots_iff.1 hslot
  obtain ⟨x, hx, hxv, hid⟩ := hu
  cases hcheck : checkVolumes (m.withDevice d).devices.entries with
  | ok _ =>
      have hdistinct := checkVolumes_devices_iff.1 hcheck
      have hapart := ((volumesDistinct_withDevice_iff hfree).1 hdistinct).2 u x hx hxv hd
      exact absurd hid hapart
  | error e =>
      obtain ⟨s, t, y, z, rfl, hy, hz, hyv, hzv, hst, hlt⟩ := exists_of_checkVolumes_devices hcheck
      rcases device?_withDevice_cases hy with ⟨rfl, -⟩ | hyold
      · rcases device?_withDevice_cases hz with ⟨rfl, -⟩ | hzold
        · exact absurd rfl (Table.ne_of_compare_lt hlt)
        · rw [hm u t x z hx hzold hxv hzv (hid.trans hst)]
          rfl
      · -- the first is no old one: the new one would come before it, and two old ones are apart
        rcases device?_withDevice_cases hz with ⟨rfl, -⟩ | hzold
        · exact absurd hlt (Slot.not_lt_automatic hautomatic hst)
        · exact absurd (hm s t y z hyold hzold hyv hzv hst) (Table.ne_of_compare_lt hlt)

theorem checkVolumes_withDevice_of_apart {m : Machine} (hm : m.VolumesDistinct) {d : Device}
    (hfree : m.device? d.slot = none)
    (h : d.kind.isVolume = true → ¬∃ u, m.HoldsVolume u d.slot.deviceId) :
    checkVolumes (m.withDevice d).devices.entries = .ok () := by
  rw [checkVolumes_devices_iff, volumesDistinct_withDevice_iff hfree]
  exact ⟨hm, fun u x hx hxv hd hid => h hd ⟨u, x, hx, hxv, hid⟩⟩

/-! ## One addition -/

theorem place_of_automatic (m : Machine) {a : Addition} (ha : a.slot = none) :
    m.place a = m.freeSlot := by
  rw [place, ha]

/-- The refusals of an addition without a slot. That something is there already is said of the LPC
bridge alone. -/
inductive AutomaticRefusal (a : Addition) : Error → Prop
  | exhausted : AutomaticRefusal a .slotsExhausted
  | invalid (cause : Invalid) : AutomaticRefusal a (.invalid cause)
  | referenced (references : List SlotReference) :
      AutomaticRefusal a (.referencedByBoot references)
  | secondBridge (bridge : a.kind.lpc? ≠ none) (name : String) :
      AutomaticRefusal a (.duplicate .lpcDevice name)

theorem automaticRefusal_of_addDevice {m : Machine} {a : Addition} (ha : a.slot = none)
    {e : Error} (h : m.addDevice a = .error e) : AutomaticRefusal a e := by
  simp only [addDevice, Except.bind_eq_error_iff, place_of_automatic m ha] at h
  rcases h with hvalid | ⟨_, -, hplace | ⟨s, -, hbridge | ⟨_, -, hlpc | ⟨_, -, hreferences |
    ⟨_, -, hvolumes | ⟨_, -, hend⟩⟩⟩⟩⟩⟩
  · obtain ⟨cause, rfl⟩ := DeviceKind.invalid_of_validate hvalid
    exact .invalid cause
  · rw [freeSlot] at hplace
    split at hplace <;> cases hplace
    exact .exhausted
  · rw [checkBridge] at hbridge
    split at hbridge <;> cases hbridge <;> exact .invalid _
  · rw [checkLpc] at hlpc
    split at hlpc
    · cases hlpc
    next hbridge =>
    split at hlpc
    · cases hlpc
      exact .invalid _
    split at hlpc <;> cases hlpc
    exact .secondBridge (by simpa using hbridge) _
  · rw [checkReferences] at hreferences
    split at hreferences <;> cases hreferences
    exact .referenced _
  · obtain ⟨s, t, -, -, rfl, -⟩ := exists_of_checkVolumes_devices hvolumes
    exact .invalid _
  · cases hend

/-- A disk whose data is a file goes to the first free slot. -/
theorem addDevice_onFile {m : Machine} (hm : m.VolumesDistinct) {a : Addition} (ha : a.slot = none)
    (hk : a.kind.OnFile) {s : Slot} {rest : List Slot} (h : m.freeSlots = s :: rest) :
    m.addDevice a = .ok (m.withDevice ⟨s, a.comment, a.kind⟩, s) := by
  obtain ⟨hautomatic, hfree⟩ := mem_freeSlots_iff.1 (h ▸ List.mem_cons_self : s ∈ m.freeSlots)
  have hplace : m.place a = .ok s := by
    rw [place_of_automatic m ha, freeSlot_eq, h]
    rfl
  have hvolumes := checkVolumes_withDevice_of_apart hm (d := ⟨s, a.comment, a.kind⟩) hfree
    fun hvolume => absurd hvolume (by simp [hk.isVolume])
  rw [addDevice_of_suits hplace (suits_of_onFile hautomatic hk), hvolumes]
  rfl

/-- When no slot is free, a disk whose data is a file is refused for that. -/
theorem addDevice_onFile_of_nil {m : Machine} {a : Addition} (ha : a.slot = none)
    (hk : a.kind.OnFile) (h : m.freeSlots = []) : m.addDevice a = .error .slotsExhausted := by
  rw [addDevice, hk.validate, place_of_automatic m ha, freeSlot_eq, h]
  rfl

/-! ## One addition after another -/

/-- Makes additions in order, until one is refused, and gives the slots in which the devices
landed. -/
def addDevices (m : Machine) : List Addition → Except Error (Machine × List Slot)
  | [] => .ok (m, [])
  | a :: as => do
    let (first, s) ← m.addDevice a
    let (last, slots) ← first.addDevices as
    return (last, s :: slots)

theorem addDevices_cons_of_ok {m n m' : Machine} {a : Addition} {as : List Addition} {s : Slot}
    {slots : List Slot} (h : m.addDevice a = .ok (n, s))
    (hrest : n.addDevices as = .ok (m', slots)) :
    m.addDevices (a :: as) = .ok (m', s :: slots) := by
  rw [addDevices, h]
  show (n.addDevices as >>= _) = _
  rw [hrest]
  rfl

/-- Additions one after another are operations one after another. -/
theorem performAll_of_addDevices {m m' : Machine} {as : List Addition} {slots : List Slot}
    (h : m.addDevices as = .ok (m', slots)) : m.performAll (as.map .addDevice) = .ok m' := by
  induction as generalizing m slots with
  | nil =>
      cases h
      rfl
  | cons a as ih =>
      simp only [addDevices, Except.bind_eq_ok_iff] at h
      obtain ⟨⟨n, s⟩, hfirst, ⟨n', slots'⟩, hrest, hend⟩ := h
      cases hend
      rw [List.map_cons, performAll, List.foldlM_cons, Except.bind_eq_ok_iff]
      exact ⟨n, Except.map_eq_ok_iff.2 ⟨_, hfirst, rfl⟩, ih hrest⟩

/-- Disks whose data are files, one after another, fill the free slots in order. -/
theorem addDevices_onFile {as : List Addition}
    (has : ∀ a ∈ as, a.slot = none ∧ a.kind.OnFile) {m : Machine} (hm : m.VolumesDistinct)
    (hlength : as.length ≤ m.freeSlots.length) :
    ∃ m', m.addDevices as = .ok (m', m.freeSlots.take as.length) ∧
      m'.freeSlots = m.freeSlots.drop as.length ∧ m'.VolumesDistinct := by
  induction as generalizing m with
  | nil => exact ⟨m, rfl, rfl, hm⟩
  | cons a as ih =>
      obtain ⟨⟨ha, hk⟩, hrest⟩ := List.forall_mem_cons.1 has
      cases hfree : m.freeSlots with
      | nil =>
          rw [hfree] at hlength
          cases hlength
      | cons s slots =>
          have hadd := addDevice_onFile hm ha hk hfree
          have hleft : (m.withDevice ⟨s, a.comment, a.kind⟩).freeSlots = slots :=
            freeSlots_withDevice_of_cons hfree
          have hdistinct := (addDevice_eq_ok_iff.1 hadd).2.1.volumes
          rw [hfree] at hlength
          obtain ⟨m', hrun, hslots, hm'⟩ :=
            ih hrest hdistinct (by rw [hleft]; exact Nat.le_of_succ_le_succ hlength)
          rw [hleft] at hrun hslots
          exact ⟨m', addDevices_cons_of_ok hadd hrun, hslots, hm'⟩

/-- **Slots are handed out in order.** On every machine that operations build, take the free slots
of bus 0 with function 0, but for the host bridge's, in ascending order. Disks whose data are
files, added without slots one after another, land in these slots in this order, each leaving
everything else as it is, until none is left; the next one is refused for that. No addition without
a slot lands anywhere else, and none is refused because of a device that is there already, but for
an LPC bridge where there is another. -/
theorem automatic_in_order (d : Definition) (ops : List Operation) {m₀ m : Machine}
    (hd : define d = .ok m₀) (h : m₀.performAll ops = .ok m) :
    (∀ s, s ∈ m.freeSlots ↔ (s.bus = 0 ∧ s.slot ≠ 0 ∧ s.function = 0) ∧ m.device? s = none) ∧
    (m.freeSlots.Pairwise fun s t => s.slot < t.slot) ∧
    (∀ as : List Addition, (∀ a ∈ as, a.slot = none ∧ a.kind.OnFile) →
      as.length ≤ m.freeSlots.length →
        ∃ m', m.addDevices as = .ok (m', m.freeSlots.take as.length) ∧
          m.performAll (as.map .addDevice) = .ok m' ∧
          ∀ a, a.slot = none → a.kind.OnFile →
            (∀ s, m.freeSlots[as.length]? = some s → ∃ m'', m'.addDevice a = .ok (m'', s) ∧
              m''.device? = Function.update m'.device? s (some ⟨s, a.comment, a.kind⟩) ∧
                m'' = { m' with devices := m''.devices }) ∧
            (as.length = m.freeSlots.length → m'.addDevice a = .error .slotsExhausted)) ∧
    (∀ a m' s, a.slot = none → m.addDevice a = .ok (m', s) →
      s.bus = 0 ∧ s.slot ≠ 0 ∧ s.function = 0) ∧
    ∀ a kind name, a.slot = none → m.addDevice a = .error (.duplicate kind name) →
      kind = .lpcDevice ∧ a.kind.lpc? ≠ none := by
  have hm : m.Sound := (sound_of_define hd).performAll h
  refine ⟨fun s => ?_, m.pairwise_freeSlots, fun as has hlength => ?_, fun a m' s ha hadd => ?_,
    fun a kind name ha herror => ?_⟩
  · rw [mem_freeSlots_iff, Slot.mem_automatic_iff]
  · obtain ⟨m', hrun, hslots, hm'⟩ := addDevices_onFile has hm.volumes hlength
    have hperformed := performAll_of_addDevices hrun
    refine ⟨m', hrun, hperformed, fun a ha hk => ⟨fun s hs => ?_, fun hall => ?_⟩⟩
    · obtain ⟨hlt, hget⟩ := List.getElem?_eq_some_iff.1 hs
      rw [List.drop_eq_getElem_cons hlt, hget] at hslots
      exact ⟨_, addDevice_onFile hm' ha hk hslots, eq_withDevice_iff.1 rfl⟩
    · rw [List.drop_of_length_le hall.ge] at hslots
      exact addDevice_onFile_of_nil ha hk hslots
  · have hplace := (addDevice_eq_ok_iff.1 hadd).1
    rw [place_of_automatic m ha, freeSlot_eq_ok_iff] at hplace
    exact Slot.mem_automatic_iff.1 hplace.automatic
  · cases automaticRefusal_of_addDevice ha herror with
    | secondBridge bridge name => exact ⟨rfl, bridge⟩

/-- Two disks come to the first two free slots, beside the disks that are there. -/
theorem automatic_in_order_disks : ∃ m₀ m m' : Machine, define guest = .ok m₀ ∧
    m₀.performAll (threeDisks ⟨0, 1, 0⟩ ⟨0, 2, 0⟩ ⟨1, 3, 0⟩) = .ok m ∧
    m.addDevices [{ kind := .ahciDisk (.file "/tmp/disk" ∅ none) },
      { kind := .virtioBlock (.file "/tmp/disk" ∅ none) }] =
        .ok (m', [⟨0, 3, 0⟩, ⟨0, 4, 0⟩]) := by
  obtain ⟨m', hrun, -⟩ :=
    (automatic_in_order guest (threeDisks ⟨0, 1, 0⟩ ⟨0, 2, 0⟩ ⟨1, 3, 0⟩) rfl rfl).2.2.1
      [{ kind := .ahciDisk (.file "/tmp/disk" ∅ none) },
        { kind := .virtioBlock (.file "/tmp/disk" ∅ none) }]
      (by simp [DeviceKind.OnFile, DeviceKind.storage?]) (by decide)
  exact ⟨_, _, m', rfl, rfl, hrun⟩

/-! ## One slot for another -/

theorem place_into {m : Machine} (a : Addition) {s : Slot} (hfree : m.device? s = none) :
    m.place (a.into s) = .ok s :=
  place_eq_ok_iff.2 (.inl ⟨rfl, .inl hfree⟩)

/-- A free slot that an addition is made to suits its kind. -/
theorem suits_of_addDevice_into {m m' : Machine} {a : Addition} {s t : Slot}
    (hfree : m.device? t = none) (h : m.addDevice (a.into t) = .ok (m', s)) :
    m.Suits t a.kind := by
  obtain ⟨hplace, haccepts, -⟩ := addDevice_eq_ok_iff.1 h
  obtain rfl : t = s := Except.ok.inj ((place_into a hfree).symm.trans hplace)
  exact (accepts_iff_suits.1 haccepts).1

/-- **The first free slot will do if any will.** On every machine that operations build, suppose
that an addition could be made to one of the free slots that are handed out, if it named it. Made
without a slot it gets the first of these slots. It succeeds and lands there, as it would if it
named that slot, unless its device is a volume and another volume, elsewhere in the machine, has the
number of that slot; then it is refused, and the refusal names the two. -/
theorem automatic_placement (d : Definition) (ops : List Operation) {m₀ m : Machine}
    (hd : define d = .ok m₀) (h : m₀.performAll ops = .ok m) (a : Addition) (ha : a.slot = none)
    {t : Slot} (ht : t ∈ m.freeSlots) {result : Machine × Slot}
    (hnamed : m.addDevice (a.into t) = .ok result) :
    ∃ s, m.freeSlot = .ok s ∧ m.FirstFree s ∧
      ((a.kind.isVolume = true → ¬∃ u, m.HoldsVolume u s.deviceId) →
        ∃ m', m.addDevice a = .ok (m', s) ∧ m.addDevice (a.into s) = .ok (m', s)) ∧
      ∀ u, a.kind.isVolume = true → m.HoldsVolume u s.deviceId →
        m.addDevice a = .error (.invalid (.sharedVolume s u)) ∧
          m.addDevice (a.into s) = .error (.invalid (.sharedVolume s u)) := by
  have hm : m.Sound := (sound_of_define hd).performAll h
  obtain ⟨htautomatic, htfree⟩ := mem_freeSlots_iff.1 ht
  obtain ⟨s, hs⟩ := exists_firstFree_iff.2 ⟨t, htautomatic, htfree⟩
  have hslot : m.freeSlot = .ok s := freeSlot_eq_ok_iff.2 hs
  have hmem : s ∈ m.freeSlots := mem_freeSlots_iff.2 ⟨hs.automatic, hs.free⟩
  have hsuits : m.Suits s a.kind := (suits_of_addDevice_into htfree hnamed).moved hm ht hmem
  -- without a slot and with this one the same is left to be checked
  have hplaced := addDevice_of_suits ((place_of_automatic m ha).trans hslot) hsuits
  have hinto := addDevice_of_suits (place_into a hs.free) hsuits
  refine ⟨s, hslot, hs, fun hapart => ?_, fun u hvolume hu => ?_⟩
  · have hvolumes := checkVolumes_withDevice_of_apart hm.volumes (d := ⟨s, a.comment, a.kind⟩)
      hs.free hapart
    refine ⟨m.withDevice ⟨s, a.comment, a.kind⟩, ?_, ?_⟩
    · rw [hplaced, hvolumes]
      rfl
    · rw [hinto]
      exact congrArg (Except.map _) hvolumes
  · have hvolumes := checkVolumes_withDevice_of_clash hm.volumes (d := ⟨s, a.comment, a.kind⟩)
      hmem hvolume hu
    constructor
    · rw [hplaced, hvolumes]
      rfl
    · rw [hinto]
      exact congrArg (Except.map _) hvolumes

/-- A tablet lands in the first free slot; a volume is refused there, because another one has the
number of that slot. -/
theorem automatic_placement_tablet : ∃ m₀ m m' : Machine, define guest = .ok m₀ ∧
    m₀.performAll (threeDisks ⟨0, 1, 0⟩ ⟨0, 2, 0⟩ ⟨1, 3, 0⟩) = .ok m ∧
    m.addDevice { kind := .xhciUsbTablet } = .ok (m', ⟨0, 3, 0⟩) ∧
    m.addDevice { kind := .ahciDisk (.volume none) } =
      .error (.invalid (.sharedVolume ⟨0, 3, 0⟩ ⟨1, 3, 0⟩)) := by
  obtain ⟨s, hs, -, hlands, -⟩ :=
    automatic_placement guest (threeDisks ⟨0, 1, 0⟩ ⟨0, 2, 0⟩ ⟨1, 3, 0⟩) rfl rfl
      { kind := .xhciUsbTablet } rfl (t := ⟨0, 5, 0⟩) (by decide) rfl
  obtain ⟨t, ht, -, -, hrefused⟩ :=
    automatic_placement guest (threeDisks ⟨0, 1, 0⟩ ⟨0, 2, 0⟩ ⟨1, 3, 0⟩) rfl rfl
      { kind := .ahciDisk (.volume none) } rfl (t := ⟨0, 5, 0⟩) (by decide) rfl
  obtain ⟨m', hadd, -⟩ := hlands fun hvolume => absurd hvolume (by decide)
  obtain rfl : s = ⟨0, 3, 0⟩ := Except.ok.inj (hs.symm.trans rfl)
  obtain rfl : t = ⟨0, 3, 0⟩ := Except.ok.inj (ht.symm.trans rfl)
  exact ⟨_, _, m', rfl, rfl, hadd, (hrefused ⟨1, 3, 0⟩ rfl ⟨_, rfl, rfl, rfl⟩).1⟩

/-- A volume could be put into the slot `0:2:0`, if it named it, and gets the slot `0:1:0`, whose
number another volume has. -/
theorem exists_unplaced_volume : ∃ m₀ m m' : Machine, define guest = .ok m₀ ∧
    m₀.performAll [.addDevice { kind := .virtioBlock (.volume none), slot := some ⟨1, 1, 0⟩ }] =
      .ok m ∧
    m.device? ⟨0, 2, 0⟩ = none ∧
    m.addDevice { kind := .virtioBlock (.volume none), slot := some ⟨0, 2, 0⟩ } =
      .ok (m', ⟨0, 2, 0⟩) ∧
    m.addDevice { kind := .virtioBlock (.volume none) } =
      .error (.invalid (.sharedVolume ⟨0, 1, 0⟩ ⟨1, 1, 0⟩)) :=
  ⟨_, _, _, rfl, rfl, rfl, rfl, rfl⟩

end Machine

end Guestkeeper
