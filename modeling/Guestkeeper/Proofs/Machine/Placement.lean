import Guestkeeper.Proofs.Machine.Devices

set_option autoImplicit false

/-! # The contract of an addition

An addition names a slot, which must be free unless it replaces, or it takes the first free one of
those that are handed out. Whether the device is then accepted depends on the devices as they are
afterwards: a device that is replaced counts neither as a second LPC bridge nor as a volume. An
addition that succeeds changes what is in that slot and nothing else about the machine.
-/

namespace Guestkeeper

/-- The slots that are handed out are those on bus 0 with function 0, but for the host
bridge's. -/
theorem Slot.mem_automatic_iff {s : Slot} :
    s ∈ Slot.automatic ↔ s.bus = 0 ∧ s.slot ≠ 0 ∧ s.function = 0 := by
  obtain ⟨bus, slot, function⟩ := s
  simp only [Slot.automatic, List.mem_map, List.mem_finRange, true_and, Slot.mk.injEq]
  constructor
  · rintro ⟨i, rfl, rfl, rfl⟩
    exact ⟨rfl, Fin.succ_ne_zero i, rfl⟩
  · rintro ⟨rfl, hslot, rfl⟩
    obtain ⟨i, rfl⟩ := Fin.exists_succ_eq.2 hslot
    exact ⟨i, rfl, rfl, rfl⟩

/-- Slots are handed out in ascending order. -/
theorem Slot.pairwise_automatic : Slot.automatic.Pairwise fun s t => s.slot < t.slot := by
  decide

/-- The first of a list in ascending order that passes a test is the least that does. -/
theorem Slot.find?_eq_some_iff_of_pairwise {p : Slot → Bool} {slots : List Slot}
    (hascending : slots.Pairwise fun s t => s.slot < t.slot) {s : Slot} :
    slots.find? p = some s ↔
      s ∈ slots ∧ p s = true ∧ ∀ t ∈ slots, p t = true → s.slot ≤ t.slot := by
  induction slots with
  | nil => simp
  | cons x slots ih =>
      obtain ⟨hfirst, hrest⟩ := List.pairwise_cons.1 hascending
      by_cases hx : p x = true
      · rw [List.find?_cons_of_pos hx, Option.some.injEq]
        constructor
        · rintro rfl
          refine ⟨List.mem_cons_self, hx, fun t ht _ => ?_⟩
          rcases List.mem_cons.1 ht with rfl | ht
          · exact le_refl _
          · exact (hfirst t ht).le
        · rintro ⟨hs, -, hleast⟩
          rcases List.mem_cons.1 hs with rfl | hs
          · rfl
          · exact absurd (hleast x List.mem_cons_self hx) (not_le.2 (hfirst s hs))
      · rw [List.find?_cons_of_neg hx, ih hrest, List.forall_mem_cons, List.mem_cons]
        constructor
        · rintro ⟨hs, hp, hleast⟩
          exact ⟨.inr hs, hp, fun h => absurd h hx, hleast⟩
        · rintro ⟨rfl | hs, hp, -, hleast⟩
          · exact absurd hp hx
          · exact ⟨hs, hp, hleast⟩

namespace Machine

/-! ## The slot of an addition -/

/-- The first free slot of those that are handed out. -/
structure FirstFree (m : Machine) (s : Slot) : Prop where
  automatic : s ∈ Slot.automatic
  free : m.device? s = none
  first : ∀ t ∈ Slot.automatic, m.device? t = none → s.slot ≤ t.slot

theorem freeSlot_eq_ok_iff {m : Machine} {s : Slot} : m.freeSlot = .ok s ↔ m.FirstFree s := by
  have hfind : m.freeSlot = .ok s ↔
      (Slot.automatic.find? fun t => (m.device? t).isNone) = some s := by
    rw [freeSlot]
    split
    · next hfound => rw [hfound, Except.ok.injEq, Option.some.injEq]
    · next hnone => simp [hnone]
  rw [hfind, Slot.find?_eq_some_iff_of_pairwise Slot.pairwise_automatic]
  simp only [Option.isNone_iff_eq_none]
  exact ⟨fun ⟨hautomatic, hfree, hfirst⟩ => ⟨hautomatic, hfree, hfirst⟩,
    fun h => ⟨h.automatic, h.free, h.first⟩⟩

/-- There is a slot to hand out as long as one of them is free. -/
theorem exists_firstFree_iff {m : Machine} :
    (∃ s, m.FirstFree s) ↔ ∃ s ∈ Slot.automatic, m.device? s = none := by
  constructor
  · rintro ⟨s, h⟩
    exact ⟨s, h.automatic, h.free⟩
  · rintro ⟨s, hs, hfree⟩
    cases hfound : Slot.automatic.find? fun t => (m.device? t).isNone with
    | none => simpa [hfree] using List.find?_eq_none.1 hfound s hs
    | some t => exact ⟨t, freeSlot_eq_ok_iff.1 (by rw [freeSlot, hfound])⟩

/-- An addition may go into a slot: the one that it names, if that is free or it replaces, or else
the one that is handed out. -/
def Offers (m : Machine) (a : Addition) (s : Slot) : Prop :=
  (a.slot = some s ∧ (m.device? s = none ∨ a.replace = true)) ∨
    (a.slot = none ∧ m.freeSlot = .ok s)

theorem place_eq_ok_iff {m : Machine} {a : Addition} {s : Slot} :
    m.place a = .ok s ↔ m.Offers a s := by
  rw [place, Offers]
  cases a.slot with
  | none => simp
  | some t =>
      rw [Except.ite_error_eq_ok_iff, Except.ok.injEq]
      by_cases hts : t = s
      · subst hts
        simp [Option.isSome_iff_ne_none, or_iff_not_imp_left]
      · simp [hts]

/-! ## The contract -/

/-- What a machine has in its slots after a device was put into one of them. -/
def devicesWith (m : Machine) (d : Device) : Slot → Option Device :=
  Function.update m.device? d.slot (some d)

theorem device?_withDevice_eq (m : Machine) (d : Device) :
    (m.withDevice d).device? = m.devicesWith d := by
  funext s
  rw [device?_withDevice, devicesWith, Function.update_apply]
  simp only [eq_comm]

/-- The conditions for an addition to put its device into the slot `s`. -/
structure Admits (m : Machine) (a : Addition) (s : Slot) : Prop where
  valid : a.kind.validate = .ok ()
  offered : m.Offers a s
  bridge : s = .hostBridge ↔ a.kind.isHostBridge = true
  lpc : a.kind.lpc?.isSome = true → s.bus = 0 ∧
    ∀ t d, t ≠ s → m.device? t = some d → d.kind.lpc? = none
  references : a.kind.storage? = none → ∀ name b, m.boot? name = some b → b.refersTo s = false
  volumes : ∀ t u d e, m.devicesWith ⟨s, a.comment, a.kind⟩ t = some d →
    m.devicesWith ⟨s, a.comment, a.kind⟩ u = some e → d.kind.isVolume = true →
      e.kind.isVolume = true → t.deviceId = u.deviceId → t = u

theorem admits_iff {m : Machine} {a : Addition} {s : Slot} :
    m.Admits a s ↔ m.place a = .ok s ∧ m.Accepts ⟨s, a.comment, a.kind⟩ := by
  rw [place_eq_ok_iff]
  constructor
  · intro h
    refine ⟨h.offered, h.valid, h.bridge, fun hlpc => ?_, fun hlpc t e he helpc => ?_, ?_, ?_⟩
    · exact congrArg Fin.val (h.lpc hlpc).1
    · by_contra hts
      rw [(h.lpc hlpc).2 t e hts he] at helpc
      cases helpc
    · cases hstorage : a.kind.storage? with
      | none => exact .inr (h.references hstorage)
      | some b => exact .inl rfl
    · rw [VolumesDistinct, device?_withDevice_eq]
      exact h.volumes
  · rintro ⟨hoffered, h⟩
    refine ⟨h.valid, hoffered, h.bridge, fun hlpc => ⟨Fin.ext (h.lpc_bus hlpc), ?_⟩, ?_, ?_⟩
    · intro t d hts hd
      by_contra hdlpc
      exact hts (h.lpc_only hlpc t d hd (Option.isSome_iff_ne_none.2 hdlpc))
    · intro hstorage
      rcases h.disk with hdisk | hfree
      · rw [hstorage] at hdisk
        cases hdisk
      · exact hfree
    · rw [← device?_withDevice_eq]
      exact h.volumes

/-- A machine with a device more is told by what is in its slots. -/
theorem eq_withDevice_iff {m m' : Machine} {d : Device} :
    m' = m.withDevice d ↔ m'.device? = m.devicesWith d ∧ m' = { m with devices := m'.devices } := by
  rw [← device?_withDevice_eq]
  constructor
  · rintro rfl
    exact ⟨rfl, rfl⟩
  · rintro ⟨hdevices, hrest⟩
    exact eq_of_device? (congrFun hdevices) hrest rfl

/-- **The contract of an addition.** It succeeds exactly when some slot is offered to it and the
device is admitted there. The machine is then told by the old one: in that slot is the device of
the addition, in every other slot is what was there before, and nothing else has changed. The slot
that is offered to an addition without one is the first free one on bus 0 with function 0, beside
the host bridge's, if there is one. -/
theorem addDevice_contract (m : Machine) (a : Addition) :
    ((∃ result, m.addDevice a = .ok result) ↔ ∃ s, m.Admits a s) ∧
      (∀ m' s, m.addDevice a = .ok (m', s) ↔ m.Admits a s ∧
        m'.device? = Function.update m.device? s (some ⟨s, a.comment, a.kind⟩) ∧
        m' = { m with devices := m'.devices }) ∧
      (∀ s, m.freeSlot = .ok s ↔ m.FirstFree s) ∧
      ((∃ s, m.FirstFree s) ↔ ∃ n : Fin 32, n ≠ 0 ∧ m.device? ⟨0, n, 0⟩ = none) := by
  have hexact : ∀ m' s, m.addDevice a = .ok (m', s) ↔ m.Admits a s ∧
      m' = m.withDevice ⟨s, a.comment, a.kind⟩ := by
    intro m' s
    rw [addDevice_eq_ok_iff, admits_iff, and_assoc]
  refine ⟨⟨?_, ?_⟩, fun m' s => ?_, fun s => freeSlot_eq_ok_iff, ?_⟩
  · rintro ⟨⟨m', s⟩, h⟩
    exact ⟨s, ((hexact m' s).1 h).1⟩
  · rintro ⟨s, hs⟩
    exact ⟨(_, s), (hexact _ s).2 ⟨hs, rfl⟩⟩
  · rw [hexact, eq_withDevice_iff]
    rfl
  · rw [exists_firstFree_iff]
    constructor
    · rintro ⟨⟨bus, n, function⟩, hs, hfree⟩
      obtain ⟨rfl, hn, rfl⟩ := Slot.mem_automatic_iff.1 hs
      exact ⟨n, hn, hfree⟩
    · rintro ⟨n, hn, hfree⟩
      exact ⟨⟨0, n, 0⟩, Slot.mem_automatic_iff.2 ⟨rfl, hn, rfl⟩, hfree⟩

end Machine

end Guestkeeper
