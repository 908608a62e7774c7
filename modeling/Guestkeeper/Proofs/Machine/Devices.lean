import Mathlib.Data.List.Pairwise
import Mathlib.Tactic
import Guestkeeper.Machine.Devices
import Guestkeeper.Proofs.Table

set_option autoImplicit false

/-! # What adding and deleting devices does

An addition succeeds exactly when a slot is found for it and the device that results is accepted
there (`Machine.Accepts`); the machine is then the old one with that device in its slot. A
deletion succeeds exactly when every slot is occupied, none is the host bridge's and no boot
configuration refers to one. Nothing else about a machine decides, so the rules are stated once
here and every invariant is derived from them.
-/

namespace Guestkeeper

/-! ## Reports -/

/-- Something is reported as missing exactly when something is. -/
theorem missing_nonempty_iff {α β : Type} {find : α → Option β} {xs : List α} :
    (!(xs.filter fun x => (find x).isNone).isEmpty) = true ↔ ∃ x ∈ xs, find x = none := by
  simp [List.filter_eq_nil_iff]

theorem nothing_missing_iff {α β : Type} {find : α → Option β} {xs : List α} :
    ¬(!(xs.filter fun x => (find x).isNone).isEmpty) = true ↔
      ∀ x ∈ xs, (find x).isSome = true := by
  rw [missing_nonempty_iff]
  push Not
  simp only [Option.isSome_iff_ne_none]

/-! ## Volumes -/

/-- No two volumes among these devices are kept under one path. -/
def VolumesApart (ds : List Device) : Prop :=
  ds.Pairwise fun d e => d.kind.isVolume = true → e.kind.isVolume = true →
    d.slot.deviceId ≠ e.slot.deviceId

theorem sharedVolume?_eq_none_iff {seen : List Slot} {ds : List Device} :
    sharedVolume? seen ds = none ↔
      (∀ d ∈ ds, d.kind.isVolume = true → ∀ s ∈ seen, s.deviceId ≠ d.slot.deviceId) ∧
        VolumesApart ds := by
  induction ds generalizing seen with
  | nil => simp [sharedVolume?, VolumesApart]
  | cons d ds ih =>
      rw [sharedVolume?, VolumesApart, List.pairwise_cons, List.forall_mem_cons]
      by_cases hd : d.kind.isVolume = true
      · rw [if_pos hd]
        cases hfind : seen.find? fun s => s.deviceId = d.slot.deviceId with
        | some s =>
            have hs : s.deviceId = d.slot.deviceId := by simpa using List.find?_some hfind
            constructor
            · intro h
              cases h
            · rintro ⟨⟨hseen, -⟩, -⟩
              exact absurd hs (hseen hd s (List.mem_of_find?_eq_some hfind))
        | none =>
            have hseen : ∀ s ∈ seen, s.deviceId ≠ d.slot.deviceId := by
              simpa using List.find?_eq_none.1 hfind
            simp only
            rw [ih]
            constructor
            · rintro ⟨hrest, hapart⟩
              refine ⟨⟨fun _ => hseen, fun e he hev s hs => ?_⟩, fun e he _ hev => ?_, hapart⟩
              · exact hrest e he hev s (List.mem_cons_of_mem _ hs)
              · exact hrest e he hev d.slot List.mem_cons_self
            · rintro ⟨⟨-, hrest⟩, hhead, hapart⟩
              refine ⟨fun e he hev s hs => ?_, hapart⟩
              rcases List.mem_cons.1 hs with rfl | hs
              · exact hhead e he hd hev
              · exact hrest e he hev s hs
      -- no volume: the device does not count
      · rw [if_neg hd, ih]
        constructor
        · rintro ⟨hrest, hapart⟩
          exact ⟨⟨fun h => absurd h hd, hrest⟩, fun _ _ h => absurd h hd, hapart⟩
        · rintro ⟨⟨-, hrest⟩, -, hapart⟩
          exact ⟨hrest, hapart⟩

theorem checkVolumes_eq_ok_iff {ds : List Device} : checkVolumes ds = .ok () ↔ VolumesApart ds := by
  have h : sharedVolume? [] ds = none ↔ _ := sharedVolume?_eq_none_iff
  rw [checkVolumes]
  cases hshared : sharedVolume? [] ds with
  | none =>
      rw [hshared] at h
      simp only [true_iff]
      exact (h.1 rfl).2
  | some pair =>
      rw [hshared] at h
      constructor
      · intro hok
        cases hok
      · intro hapart
        cases h.2 ⟨by simp, hapart⟩

/-- What is reported as shared is a pair of volumes, in the order of the devices; the first may be
one that was seen before. -/
theorem slots_of_sharedVolume? {seen : List Slot} {ds : List Device}
    (hds : ds.Pairwise fun d e => compare d.slot e.slot = .lt) {s t : Slot}
    (h : sharedVolume? seen ds = some (s, t)) :
    s.deviceId = t.deviceId ∧ (∃ e ∈ ds, e.slot = t ∧ e.kind.isVolume = true) ∧
      (s ∈ seen ∨ (∃ d ∈ ds, d.slot = s ∧ d.kind.isVolume = true) ∧ compare s t = .lt) := by
  induction ds generalizing seen with
  | nil => cases h
  | cons d ds ih =>
      obtain ⟨hhead, hrest⟩ := List.pairwise_cons.1 hds
      rw [sharedVolume?] at h
      split at h
      · next hd =>
          split at h
          · next hfound =>
              cases h
              have hid : s.deviceId = d.slot.deviceId := by simpa using List.find?_some hfound
              have hseen : s ∈ seen := List.mem_of_find?_eq_some hfound
              exact ⟨hid, ⟨d, List.mem_cons_self, rfl, hd⟩, .inl hseen⟩
          · obtain ⟨hid, ⟨e, he, rfl, hev⟩, hs⟩ := ih hrest h
            refine ⟨hid, ⟨e, List.mem_cons_of_mem d he, rfl, hev⟩, ?_⟩
            rcases hs with hs | ⟨⟨x, hx, hxs, hxv⟩, hlt⟩
            · rcases List.mem_cons.1 hs with rfl | hs
              · exact .inr ⟨⟨d, List.mem_cons_self, rfl, hd⟩, hhead e he⟩
              · exact .inl hs
            · exact .inr ⟨⟨x, List.mem_cons_of_mem d hx, hxs, hxv⟩, hlt⟩
      · obtain ⟨hid, ⟨e, he, hes, hev⟩, hs⟩ := ih hrest h
        refine ⟨hid, ⟨e, List.mem_cons_of_mem d he, hes, hev⟩, hs.imp_right ?_⟩
        rintro ⟨⟨x, hx, hxs, hxv⟩, hlt⟩
        exact ⟨⟨x, List.mem_cons_of_mem d hx, hxs, hxv⟩, hlt⟩

namespace Machine

/-- No two volumes of the machine have the same number. -/
def VolumesDistinct (m : Machine) : Prop :=
  ∀ s t d e, m.device? s = some d → m.device? t = some e → d.kind.isVolume = true →
    e.kind.isVolume = true → s.deviceId = t.deviceId → s = t

theorem device?_eq_some_iff {m : Machine} {s : Slot} {d : Device} :
    m.device? s = some d ↔ d ∈ m.devices.entries ∧ d.slot = s := Table.find?_eq_some_iff

theorem slot_of_device? {m : Machine} {s : Slot} {d : Device} (h : m.device? s = some d) :
    d.slot = s := Table.key_of_find? h

theorem device?_slot {m : Machine} {d : Device} (h : d ∈ m.devices.entries) :
    m.device? d.slot = some d := Table.find?_of_mem h

theorem checkVolumes_devices_iff {m : Machine} :
    checkVolumes m.devices.entries = .ok () ↔ m.VolumesDistinct := by
  rw [checkVolumes_eq_ok_iff, VolumesApart]
  constructor
  · intro h s t d e hs ht hd he hid
    obtain ⟨hdm, rfl⟩ := device?_eq_some_iff.1 hs
    obtain ⟨hem, rfl⟩ := device?_eq_some_iff.1 ht
    -- The check looks at each pair in one order only; the rule is symmetric.
    have symm : Std.Symm fun a b : Device => a.kind.isVolume = true → b.kind.isVolume = true →
        a.slot.deviceId ≠ b.slot.deviceId := ⟨fun _ _ hab hb ha hba => hab ha hb hba.symm⟩
    by_contra hne
    have hde : d ≠ e := fun heq => hne (congrArg Device.slot heq)
    exact h.forall hdm hem hde hd he hid
  · intro h
    refine m.devices.ascending.imp_of_mem fun {d e} hd he hlt hdv hev hid => ?_
    have heq := h d.slot e.slot d e (device?_slot hd) (device?_slot he) hdv hev hid
    exact Table.ne_of_compare_lt hlt heq

/-- The volumes that a refusal names are two of the machine's with one number, in their order. -/
theorem exists_of_checkVolumes_devices {m : Machine} {e : Error}
    (h : checkVolumes m.devices.entries = .error e) :
    ∃ s t x y, e = .invalid (.sharedVolume s t) ∧ m.device? s = some x ∧ m.device? t = some y ∧
      x.kind.isVolume = true ∧ y.kind.isVolume = true ∧ s.deviceId = t.deviceId ∧
        compare s t = .lt := by
  rw [checkVolumes] at h
  split at h
  · next s t hshared =>
      cases h
      obtain ⟨hid, ⟨y, hy, rfl, hyv⟩, hseen | ⟨⟨x, hx, rfl, hxv⟩, hlt⟩⟩ :=
        slots_of_sharedVolume? m.devices.ascending hshared
      · cases hseen
      · exact ⟨_, _, x, y, rfl, device?_slot hx, device?_slot hy, hxv, hyv, hid, hlt⟩
  · cases h

/-! ## Look-ups -/

theorem boot?_eq_some_iff {m : Machine} {name : String} {b : BootConfiguration} :
    m.boot? name = some b ↔ b ∈ m.boots.entries ∧ b.name = name := Table.find?_eq_some_iff

theorem device?_withDevice (m : Machine) (d : Device) (s : Slot) :
    (m.withDevice d).device? s = if d.slot = s then some d else m.device? s :=
  Table.find?_insert m.devices d s

theorem device?_withDevice_cases {m : Machine} {d x : Device} {s : Slot}
    (h : (m.withDevice d).device? s = some x) : s = d.slot ∧ x = d ∨ m.device? s = some x := by
  rw [device?_withDevice] at h
  split at h
  · next hs => exact .inl ⟨hs.symm, (Option.some.inj h).symm⟩
  · exact .inr h

theorem device?_withDevice_of_free {m : Machine} {d x : Device} {s : Slot}
    (hfree : m.device? d.slot = none) (hx : m.device? s = some x) :
    (m.withDevice d).device? s = some x := by
  rw [device?_withDevice, if_neg, hx]
  rintro rfl
  rw [hfree] at hx
  cases hx

theorem device?_withoutDevices (m : Machine) (slots : List Slot) (s : Slot) :
    (m.withoutDevices slots).device? s = if s ∈ slots then none else m.device? s :=
  Table.find?_filter_keys m.devices slots s

/-- A machine is told by what is in its slots and by its other parts. -/
theorem eq_of_device? {m m' n : Machine} (hdevices : ∀ s, m'.device? s = n.device? s)
    (hm' : m' = { m with devices := m'.devices }) (hn : n = { m with devices := n.devices }) :
    m' = n := by
  have htable : m'.devices = n.devices := Table.ext_find? hdevices
  rw [hm', hn, htable]

/-- A machine is told by its boot configurations and by its other parts. -/
theorem eq_of_boot? {m m' n : Machine} (hboots : ∀ name, m'.boot? name = n.boot? name)
    (hm' : m' = { m with boots := m'.boots }) (hn : n = { m with boots := n.boots }) :
    m' = n := by
  have htable : m'.boots = n.boots := Table.ext_find? hboots
  rw [hm', hn, htable]

/-- No boot configuration of the machine refers to the slot. -/
def Unreferenced (m : Machine) (s : Slot) : Prop :=
  ∀ name b, m.boot? name = some b → b.refersTo s = false

theorem referencesTo_eq_nil_iff {m : Machine} {s : Slot} :
    m.referencesTo s = [] ↔ m.Unreferenced s := by
  rw [referencesTo, List.map_eq_nil_iff, List.filter_eq_nil_iff]
  constructor
  · intro h name b hb
    simpa using h b (boot?_eq_some_iff.1 hb).1
  · intro h b hb
    simp [h b.name b (boot?_eq_some_iff.2 ⟨hb, rfl⟩)]

theorem references_nonempty_iff {m : Machine} {slots : List Slot} :
    (!(slots.flatMap m.referencesTo).isEmpty) = true ↔ ∃ s ∈ slots, ¬m.Unreferenced s := by
  simp [List.flatMap_eq_nil_iff, referencesTo_eq_nil_iff]

/-! ## Adding -/

/-- The rules for putting a device into its slot. -/
structure Accepts (m : Machine) (d : Device) : Prop where
  valid : d.kind.validate = .ok ()
  bridge : d.slot = .hostBridge ↔ d.kind.isHostBridge = true
  lpc_bus : d.kind.lpc?.isSome = true → d.slot.bus.val = 0
  lpc_only : d.kind.lpc?.isSome = true → ∀ s e, m.device? s = some e →
    e.kind.lpc?.isSome = true → s = d.slot
  disk : d.kind.storage?.isSome = true ∨ m.Unreferenced d.slot
  volumes : (m.withDevice d).VolumesDistinct

theorem checkBridge_eq_ok_iff {s : Slot} {kind : DeviceKind} :
    checkBridge s kind = .ok () ↔ (s = .hostBridge ↔ kind.isHostBridge = true) := by
  rw [checkBridge]
  by_cases hs : s = .hostBridge <;> cases hk : kind.isHostBridge <;> simp [hs, invalid]

theorem checkLpc_eq_ok_iff {m : Machine} {s : Slot} {kind : DeviceKind} :
    m.checkLpc s kind = .ok () ↔ (kind.lpc?.isSome = true → s.bus.val = 0 ∧
      ∀ t e, m.device? t = some e → e.kind.lpc?.isSome = true → t = s) := by
  rw [checkLpc]
  by_cases hk : kind.lpc?.isSome = true
  swap
  · have hnone : kind.lpc?.isNone = true := by simpa using hk
    simp [hk, hnone]
  rw [if_neg (by simpa [Option.isSome_iff_ne_none] using hk)]
  by_cases hb : s.bus.val = 0
  swap
  · simp [hk, hb, invalid]
  rw [if_neg (not_not_intro hb)]
  simp only [hk, hb, true_and, forall_const]
  cases hfind : m.devices.entries.find? fun e => e.kind.lpc?.isSome && decide (e.slot ≠ s) with
  | some e =>
      have he : e.kind.lpc?.isSome = true ∧ e.slot ≠ s := by simpa using List.find?_some hfind
      have hmem := device?_slot (List.mem_of_find?_eq_some hfind)
      constructor
      · intro h
        cases h
      · intro h
        exact absurd (h e.slot e hmem he.1) he.2
  | none =>
      refine ⟨fun _ t e ht he => ?_, fun _ => rfl⟩
      obtain ⟨hmem, rfl⟩ := device?_eq_some_iff.1 ht
      have hpass := List.find?_eq_none.1 hfind e hmem
      by_contra hne
      exact hpass (by simp [he, hne])

theorem checkReferences_eq_ok_iff {m : Machine} {s : Slot} {kind : DeviceKind} :
    m.checkReferences s kind = .ok () ↔ kind.storage?.isSome = true ∨ m.Unreferenced s := by
  rw [checkReferences, ← referencesTo_eq_nil_iff, ← List.isEmpty_iff]
  by_cases hk : kind.storage?.isSome = true
  · simp [hk]
  · by_cases hr : (m.referencesTo s).isEmpty = true <;> simp [hk, hr]

/-- An addition succeeds exactly when it finds a slot and the device is accepted there. -/
theorem addDevice_eq_ok_iff {m m' : Machine} {a : Addition} {s : Slot} :
    m.addDevice a = .ok (m', s) ↔
      m.place a = .ok s ∧ m.Accepts ⟨s, a.comment, a.kind⟩ ∧
        m' = m.withDevice ⟨s, a.comment, a.kind⟩ := by
  simp only [addDevice, Except.bind_eq_ok_iff]
  constructor
  · rintro ⟨_, hvalid, t, hplace, _, hbridge, _, hlpc, _, hrefs, _, hvol, hend⟩
    cases hend
    have hl := checkLpc_eq_ok_iff.1 hlpc
    exact ⟨hplace, ⟨hvalid, checkBridge_eq_ok_iff.1 hbridge, fun h => (hl h).1,
      fun h => (hl h).2, checkReferences_eq_ok_iff.1 hrefs, checkVolumes_devices_iff.1 hvol⟩, rfl⟩
  · rintro ⟨hplace, h, rfl⟩
    exact ⟨(), h.valid, s, hplace, (), checkBridge_eq_ok_iff.2 h.bridge,
      (), checkLpc_eq_ok_iff.2 fun hk => ⟨h.lpc_bus hk, h.lpc_only hk⟩,
      (), checkReferences_eq_ok_iff.2 h.disk, (), checkVolumes_devices_iff.2 h.volumes, rfl⟩

/-! ## Deleting -/

/-- A deletion succeeds exactly when every slot is occupied and free to go. -/
theorem deleteDevices_eq_ok_iff {m m' : Machine} {slots : List Slot} :
    m.deleteDevices slots = .ok m' ↔
      (∀ s ∈ slots, (m.device? s).isSome = true) ∧ .hostBridge ∉ slots ∧
        (∀ s ∈ slots, m.Unreferenced s) ∧ m' = m.withoutDevices slots := by
  have hbridge : ¬slots.contains .hostBridge = true ↔ .hostBridge ∉ slots := by
    simp
  have hrefs : ¬(!(slots.flatMap m.referencesTo).isEmpty) = true ↔
      ∀ s ∈ slots, m.Unreferenced s := by
    rw [references_nonempty_iff]
    push Not
    rfl
  have hend : Except.ok (m.withoutDevices slots) = (.ok m' : Except Error Machine) ↔
      m' = m.withoutDevices slots := by
    rw [Except.ok.injEq, eq_comm]
  simp only [deleteDevices, invalid, Except.ite_error_eq_ok_iff]
  rw [nothing_missing_iff, hbridge, hrefs, hend]

end Machine

end Guestkeeper
