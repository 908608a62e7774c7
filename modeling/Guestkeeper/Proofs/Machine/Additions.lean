import Guestkeeper.Proofs.Machine.Deletion
import Guestkeeper.Proofs.Machine.Merging
import Guestkeeper.Proofs.Machine.Placement

set_option autoImplicit false

/-! # Additions undone and exchanged

What was added where nothing was can be taken away again, and the machine is the one from before.
For a device this rests on the rules of sound machines: a boot configuration refers to occupied
slots only, so none refers to the slot that was free, and the host bridge's slot never was.

Two devices that go into different free slots can be added in either order. The second is held to
the first one by two rules only, one LPC bridge and volumes apart, and neither rule tells the two
devices apart (`Compatible`).
-/

namespace Guestkeeper

/-- Two devices that a machine can have at once, if it can have each of them: they are not both
LPC bridges, and not two volumes with one number. -/
structure Compatible (d e : Device) : Prop where
  lpc : ¬(d.kind.lpc?.isSome = true ∧ e.kind.lpc?.isSome = true)
  volumes : d.kind.isVolume = true → e.kind.isVolume = true → d.slot.deviceId ≠ e.slot.deviceId

theorem Compatible.symm {d e : Device} (h : Compatible d e) : Compatible e d :=
  ⟨fun hlpc => h.lpc hlpc.symm, fun he hd heq => h.volumes hd he heq.symm⟩

namespace Machine

/-! ## Undoing -/

/-- A slot that holds nothing is one that nothing refers to. -/
theorem BootsFit.unreferenced {m : Machine} (hm : m.BootsFit) {s : Slot}
    (hs : m.device? s = none) : m.Unreferenced s := by
  intro name b hb
  rw [← Bool.not_eq_true]
  intro hrefers
  have hoccupied := (hm name b hb).occupied s hrefers
  rw [hs] at hoccupied
  cases hoccupied

theorem withoutDevices_withDevice {m : Machine} {d : Device} (hfree : m.device? d.slot = none) :
    (m.withDevice d).withoutDevices [d.slot] = m := by
  refine eq_of_device? (m := m) (fun s => ?_) rfl rfl
  rw [device?_withoutDevices, device?_withDevice]
  by_cases hs : d.slot = s
  · subst hs
    simp [hfree]
  · simp [hs, Ne.symm hs]

/-- A device that was added to a free slot can be deleted. -/
theorem deleteDevices_addDevice {m m' : Machine} (hm : m.Sound) {a : Addition} {s : Slot}
    (h : m.addDevice a = .ok (m', s)) (hfree : m.device? s = none) :
    m'.deleteDevices [s] = .ok m := by
  obtain ⟨-, -, rfl⟩ := addDevice_eq_ok_iff.1 h
  have hbridge : s ≠ .hostBridge := by
    rintro rfl
    obtain ⟨d, hd, -⟩ := hm.bridge.1
    rw [hfree] at hd
    cases hd
  refine deleteDevices_eq_ok_iff_clearable.2 ⟨fun t ht => ?_, ?_⟩
  · obtain rfl := List.mem_singleton.1 ht
    refine ⟨?_, hbridge, hm.boots.unreferenced hfree⟩
    rw [device?_withDevice, if_pos rfl]
    rfl
  · exact (withoutDevices_withDevice (d := ⟨s, a.comment, a.kind⟩) hfree).symm

/-- What was merged under free names and what was there before are told apart by the names. -/
theorem Merged.boot?_eq {m m' : Machine} {batch : List BootConfiguration} (h : m.Merged batch m')
    (hfree : ∀ b ∈ batch, m.boot? b.name = none) (name : String) :
    m.boot? name = if name ∈ batch.map BootConfiguration.name then none else m'.boot? name := by
  split
  · next hname =>
      obtain ⟨b, hb, rfl⟩ := List.mem_map.1 hname
      exact hfree b hb
  · next hname =>
      refine Option.ext fun b => ?_
      rw [h.boots, and_iff_left hname, or_iff_right]
      rintro ⟨hb, rfl⟩
      exact hname (List.mem_map_of_mem hb)

/-- Boot configurations that were merged under free names can be removed. -/
theorem removeBoots_mergeBoots {m m' : Machine} {batch : List BootConfiguration} {update : Bool}
    {names : List String} (h : m.mergeBoots batch update = .ok m')
    (hfree : ∀ b ∈ batch, m.boot? b.name = none)
    (hnames : names.Perm (batch.map BootConfiguration.name)) :
    m'.removeBoots names = .ok m := by
  obtain ⟨-, hmerged⟩ := mergeBoots_eq_ok_iff_merged.1 h
  refine removeBoots_eq_ok_iff.2 ⟨fun name hname => ?_, ?_⟩
  · obtain ⟨b, hb, rfl⟩ := List.mem_map.1 (hnames.mem_iff.1 hname)
    exact Option.isSome_iff_exists.2 ⟨b, (hmerged.boots _ b).2 (.inl ⟨hb, rfl⟩)⟩
  · refine eq_of_boot? (m := m') (fun name => ?_) (by rw [hmerged.rest]) rfl
    rw [hmerged.boot?_eq hfree]
    simp only [← hnames.mem_iff]
    exact (Table.find?_filter_keys m'.boots names name).symm

/-! ## Exchanging -/

theorem withDevice_comm {m : Machine} {d e : Device} (h : d.slot ≠ e.slot) :
    (m.withDevice d).withDevice e = (m.withDevice e).withDevice d := by
  refine eq_of_device? (m := m) (fun s => ?_) rfl rfl
  simp only [device?_withDevice]
  by_cases hd : d.slot = s
  · subst hd
    simp [h.symm]
  · simp [hd]

/-- What holds of every device still does when a free slot is filled, if it holds of the device
that fills it. -/
theorem forall_device?_withDevice_iff {m : Machine} {d : Device}
    (hfree : m.device? d.slot = none) {p : Slot → Device → Prop} :
    (∀ s x, (m.withDevice d).device? s = some x → p s x) ↔
      p d.slot d ∧ ∀ s x, m.device? s = some x → p s x := by
  constructor
  · intro h
    refine ⟨h d.slot d ?_, fun s x hx => h s x (device?_withDevice_of_free hfree hx)⟩
    rw [device?_withDevice, if_pos rfl]
  · rintro ⟨hd, hm⟩ s x hx
    rcases device?_withDevice_cases hx with ⟨rfl, rfl⟩ | hx
    · exact hd
    · exact hm s x hx

/-- Volumes are apart when a free slot is filled exactly when they were before and the new device,
if it is a volume, has a number of its own. -/
theorem volumesDistinct_withDevice_iff {m : Machine} {d : Device}
    (hfree : m.device? d.slot = none) :
    (m.withDevice d).VolumesDistinct ↔ m.VolumesDistinct ∧
      ∀ s x, m.device? s = some x → x.kind.isVolume = true → d.kind.isVolume = true →
        s.deviceId ≠ d.slot.deviceId := by
  have hkept : ∀ {s x}, m.device? s = some x → (m.withDevice d).device? s = some x :=
    device?_withDevice_of_free hfree
  constructor
  · intro h
    refine ⟨fun s t x y hx hy => h s t x y (hkept hx) (hkept hy), fun s x hx hxv hdv hid => ?_⟩
    have hnew : (m.withDevice d).device? d.slot = some d := by
      rw [device?_withDevice, if_pos rfl]
    -- with one number the two would be in one slot, which was free
    rw [h s d.slot x d (hkept hx) hnew hxv hdv hid, hfree] at hx
    cases hx
  · rintro ⟨hm, hd⟩ s t x y hx hy hxv hyv hid
    rcases device?_withDevice_cases hx with ⟨rfl, rfl⟩ | hold
    · rcases device?_withDevice_cases hy with ⟨rfl, -⟩ | hold'
      · rfl
      · exact absurd hid.symm (hd t y hold' hyv hxv)
    · rcases device?_withDevice_cases hy with ⟨rfl, rfl⟩ | hold'
      · exact absurd hid (hd s x hold hxv hyv)
      · exact hm s t x y hold hold' hxv hyv hid

/-- After another device, a device is accepted exactly when it is accepted alone and the two are
compatible. -/
theorem accepts_withDevice_iff {m : Machine} {d e : Device} (hd : m.device? d.slot = none)
    (he : m.device? e.slot = none) (hslots : d.slot ≠ e.slot) (haccepts : m.Accepts d) :
    (m.withDevice d).Accepts e ↔ m.Accepts e ∧ Compatible d e := by
  have he' : (m.withDevice d).device? e.slot = none := by
    rw [device?_withDevice, if_neg hslots, he]
  -- only two of the rules look at other devices: LPC bridges and volumes
  have hlpc : (∀ s x, (m.withDevice d).device? s = some x → x.kind.lpc?.isSome = true →
      s = e.slot) ↔ ¬d.kind.lpc?.isSome = true ∧
        ∀ s x, m.device? s = some x → x.kind.lpc?.isSome = true → s = e.slot := by
    rw [forall_device?_withDevice_iff hd, imp_iff_not hslots]
  have hvolumes : ((m.withDevice d).withDevice e).VolumesDistinct ↔
      (d.kind.isVolume = true → e.kind.isVolume = true → d.slot.deviceId ≠ e.slot.deviceId) ∧
        (m.withDevice e).VolumesDistinct := by
    have hbefore : m.VolumesDistinct := ((volumesDistinct_withDevice_iff hd).1 haccepts.volumes).1
    rw [volumesDistinct_withDevice_iff he', volumesDistinct_withDevice_iff he,
      forall_device?_withDevice_iff hd, and_iff_right haccepts.volumes, and_iff_right hbefore]
  constructor
  · intro h
    have halone : m.Accepts e := {
      valid := h.valid
      bridge := h.bridge
      lpc_bus := h.lpc_bus
      lpc_only := fun hk => (hlpc.1 (h.lpc_only hk)).2
      disk := h.disk
      volumes := (hvolumes.1 h.volumes).2 }
    have hcompatible : Compatible d e := {
      lpc := fun hboth => (hlpc.1 (h.lpc_only hboth.2)).1 hboth.1
      volumes := (hvolumes.1 h.volumes).1 }
    exact ⟨halone, hcompatible⟩
  · rintro ⟨halone, hcompatible⟩
    exact {
      valid := halone.valid
      bridge := halone.bridge
      lpc_bus := halone.lpc_bus
      lpc_only := fun hk =>
        hlpc.2 ⟨fun hdk => hcompatible.lpc ⟨hdk, hk⟩, halone.lpc_only hk⟩
      disk := halone.disk
      volumes := hvolumes.2 ⟨hcompatible.volumes, halone.volumes⟩ }

/-- An addition that names a free slot succeeds exactly when its device is accepted there. -/
theorem perform_addDevice_eq_ok_iff {m m' : Machine} {a : Addition} {s : Slot}
    (ha : a.slot = some s) (hs : m.device? s = none) :
    m.perform (.addDevice a) = .ok m' ↔
      m.Accepts ⟨s, a.comment, a.kind⟩ ∧ m' = m.withDevice ⟨s, a.comment, a.kind⟩ := by
  have hplace : ∀ t, m.place a = .ok t ↔ t = s := by
    intro t
    simp only [place_eq_ok_iff, Offers, ha, Option.some.injEq, reduceCtorEq, false_and, or_false]
    exact ⟨fun h => h.1.symm, fun h => ⟨h.symm, .inl (h ▸ hs)⟩⟩
  rw [perform, Except.map_eq_ok_iff]
  constructor
  · rintro ⟨⟨n, t⟩, hadd, rfl⟩
    obtain ⟨ht, haccepts, rfl⟩ := addDevice_eq_ok_iff.1 hadd
    obtain rfl := (hplace t).1 ht
    exact ⟨haccepts, rfl⟩
  · rintro ⟨haccepts, rfl⟩
    exact ⟨(_, s), addDevice_eq_ok_iff.2 ⟨(hplace s).2 rfl, haccepts, rfl⟩, rfl⟩

/-- Two additions to different free slots succeed exactly when each device is accepted alone and
the two are compatible. -/
theorem performAll_additions_eq_ok_iff {m m' : Machine} {a b : Addition} {s t : Slot}
    (ha : a.slot = some s) (hb : b.slot = some t) (hst : s ≠ t) (hs : m.device? s = none)
    (ht : m.device? t = none) :
    m.performAll [.addDevice a, .addDevice b] = .ok m' ↔
      m.Accepts ⟨s, a.comment, a.kind⟩ ∧ m.Accepts ⟨t, b.comment, b.kind⟩ ∧
        Compatible ⟨s, a.comment, a.kind⟩ ⟨t, b.comment, b.kind⟩ ∧
        m' = (m.withDevice ⟨s, a.comment, a.kind⟩).withDevice ⟨t, b.comment, b.kind⟩ := by
  have ht' : (m.withDevice ⟨s, a.comment, a.kind⟩).device? t = none := by
    rw [device?_withDevice, if_neg hst, ht]
  have hsecond : m.Accepts ⟨s, a.comment, a.kind⟩ →
      ((m.withDevice ⟨s, a.comment, a.kind⟩).Accepts ⟨t, b.comment, b.kind⟩ ↔
        m.Accepts ⟨t, b.comment, b.kind⟩ ∧
          Compatible ⟨s, a.comment, a.kind⟩ ⟨t, b.comment, b.kind⟩) :=
    accepts_withDevice_iff (d := ⟨s, a.comment, a.kind⟩) (e := ⟨t, b.comment, b.kind⟩) hs ht hst
  rw [performAll, List.foldlM_cons, Except.bind_eq_ok_iff]
  simp only [List.foldlM_cons, List.foldlM_nil, Except.bind_eq_ok_iff,
    perform_addDevice_eq_ok_iff ha hs]
  constructor
  · rintro ⟨_, ⟨hfirst, rfl⟩, n, hn, hm'⟩
    obtain ⟨haccepts, rfl⟩ := (perform_addDevice_eq_ok_iff hb ht').1 hn
    obtain rfl := Except.ok.inj hm'
    exact ⟨hfirst, ((hsecond hfirst).1 haccepts).1, ((hsecond hfirst).1 haccepts).2, rfl⟩
  · rintro ⟨hfirst, haccepts, hcompatible, rfl⟩
    refine ⟨_, ⟨hfirst, rfl⟩, _, (perform_addDevice_eq_ok_iff hb ht').2 ⟨?_, rfl⟩, rfl⟩
    exact (hsecond hfirst).2 ⟨haccepts, hcompatible⟩

/-! ## The laws -/

/-- **Additions can be undone.** On every machine that operations build, a device that was added
to a free slot can be deleted, and boot configurations that were merged under free names can be
removed, in any order; what results is the machine from before. -/
theorem additions_undone (d : Definition) (ops : List Operation) {m₀ m : Machine}
    (hd : define d = .ok m₀) (h : m₀.performAll ops = .ok m) :
    (∀ a m' s, m.addDevice a = .ok (m', s) → m.device? s = none →
      m'.deleteDevices [s] = .ok m) ∧
    ∀ batch update m', m.mergeBoots batch update = .ok m' →
      (∀ b ∈ batch, m.boot? b.name = none) →
        ∀ names : List String, names.Perm (batch.map BootConfiguration.name) →
          m'.removeBoots names = .ok m := by
  have hm : m.Sound := (sound_of_define hd).performAll h
  exact ⟨fun a m' s hadd hfree => deleteDevices_addDevice hm hadd hfree,
    fun batch update m' hmerge hfree names hnames => removeBoots_mergeBoots hmerge hfree hnames⟩

/-- A tablet comes to a slot that is handed out and goes; two ways to boot come and go. -/
theorem additions_undone_tablet : ∃ m₀ m m' m'' : Machine, define guest = .ok m₀ ∧
    m₀.performAll (threeDisks ⟨0, 1, 0⟩ ⟨0, 2, 0⟩ ⟨1, 3, 0⟩) = .ok m ∧
    m.addDevice { kind := .xhciUsbTablet } = .ok (m', ⟨0, 3, 0⟩) ∧
    m.device? ⟨0, 3, 0⟩ = none ∧ m'.deleteDevices [⟨0, 3, 0⟩] = .ok m ∧
    m.mergeBoots (bootsFrom ⟨0, 1, 0⟩ [("rescue", ""), ("single", "")]) false = .ok m'' ∧
    m''.removeBoots ["single", "rescue"] = .ok m := by
  refine ⟨_, _, _, _, rfl, rfl, rfl, rfl, ?_, rfl, ?_⟩
  · exact (additions_undone guest (threeDisks ⟨0, 1, 0⟩ ⟨0, 2, 0⟩ ⟨1, 3, 0⟩) rfl rfl).1
      { kind := .xhciUsbTablet } _ _ rfl rfl
  · exact (additions_undone guest (threeDisks ⟨0, 1, 0⟩ ⟨0, 2, 0⟩ ⟨1, 3, 0⟩) rfl rfl).2
      (bootsFrom ⟨0, 1, 0⟩ [("rescue", ""), ("single", "")]) false _ rfl (by decide) _
      (.swap _ _ [])

/-- **Independent additions commute.** Two additions that name different free slots can be made one
after the other exactly when each can be made alone and their devices are compatible. So they can be
made in either order or in neither, and both orders come to the same machine. -/
theorem additions_commute (m : Machine) (a b : Addition) {s t : Slot} (ha : a.slot = some s)
    (hb : b.slot = some t) (hst : s ≠ t) (hs : m.device? s = none) (ht : m.device? t = none) :
    ((∃ m', m.performAll [.addDevice a, .addDevice b] = .ok m') ↔
      (∃ n, m.perform (.addDevice a) = .ok n) ∧ (∃ n, m.perform (.addDevice b) = .ok n) ∧
        Compatible ⟨s, a.comment, a.kind⟩ ⟨t, b.comment, b.kind⟩) ∧
      ∀ m', m.performAll [.addDevice a, .addDevice b] = .ok m' ↔
        m.performAll [.addDevice b, .addDevice a] = .ok m' := by
  have hsame : (m.withDevice ⟨s, a.comment, a.kind⟩).withDevice ⟨t, b.comment, b.kind⟩
      = (m.withDevice ⟨t, b.comment, b.kind⟩).withDevice ⟨s, a.comment, a.kind⟩ :=
    withDevice_comm hst
  constructor
  · simp only [performAll_additions_eq_ok_iff ha hb hst hs ht, perform_addDevice_eq_ok_iff ha hs,
      perform_addDevice_eq_ok_iff hb ht, exists_and_left, exists_eq, and_true]
  · intro m'
    rw [performAll_additions_eq_ok_iff ha hb hst hs ht,
      performAll_additions_eq_ok_iff hb ha hst.symm ht hs, hsame]
    constructor
    · rintro ⟨hfirst, hsecond, hcompatible, hm'⟩
      exact ⟨hsecond, hfirst, hcompatible.symm, hm'⟩
    · rintro ⟨hsecond, hfirst, hcompatible, hm'⟩
      exact ⟨hfirst, hsecond, hcompatible.symm, hm'⟩

/-- An LPC bridge and a volume are added in either order. -/
theorem additions_commute_bridge : ∃ m₀ m m' : Machine, define guest = .ok m₀ ∧
    m₀.performAll (threeDisks ⟨0, 1, 0⟩ ⟨0, 2, 0⟩ ⟨1, 3, 0⟩) = .ok m ∧
    m.performAll [.addDevice { kind := .lpc ⟨∅, rfl, by decide⟩, slot := some ⟨0, 31, 0⟩ },
      .addDevice { kind := .ahciDisk (.volume none), slot := some ⟨2, 4, 0⟩ }] = .ok m' ∧
    m.performAll [.addDevice { kind := .ahciDisk (.volume none), slot := some ⟨2, 4, 0⟩ },
      .addDevice { kind := .lpc ⟨∅, rfl, by decide⟩, slot := some ⟨0, 31, 0⟩ }] = .ok m' :=
  ⟨_, _, _, rfl, rfl, rfl, ((additions_commute _ _ _ rfl rfl (by decide) rfl rfl).2 _).1 rfl⟩

end Machine

end Guestkeeper
