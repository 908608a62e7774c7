import Guestkeeper.Proofs.Machine.History

set_option autoImplicit false

/-! # Sound machines

The rules that hold of every machine that operations can build. Some concern the devices alone:
where the host bridge and the LPC bridge are, that each kind is valid, that volumes are kept
apart. The rule for boot configurations ties them to the devices they refer to, and it survives
a change of devices only because a device that is referred to is neither deleted nor replaced by
anything but a disk. A machine that only keeps the rules a record is read by is `Recordable`.
-/

namespace Guestkeeper.Machine

/-- Slot `0:0:0` holds a host bridge, and no other slot does. -/
def BridgeAlone (m : Machine) : Prop :=
  (∃ d, m.device? .hostBridge = some d ∧ d.kind.isHostBridge = true) ∧
    ∀ s d, m.device? s = some d → d.kind.isHostBridge = true → s = .hostBridge

/-- At most one device is an LPC bridge, and it is on bus 0. -/
def LpcAlone (m : Machine) : Prop :=
  (∀ s d, m.device? s = some d → d.kind.lpc?.isSome = true → s.bus.val = 0) ∧
    ∀ s t d e, m.device? s = some d → m.device? t = some e → d.kind.lpc?.isSome = true →
      e.kind.lpc?.isSome = true → s = t

def KindsValid (m : Machine) : Prop := ∀ s d, m.device? s = some d → d.kind.validate = .ok ()

/-- Every boot configuration fits the devices. -/
def BootsFit (m : Machine) : Prop := ∀ name b, m.boot? name = some b → m.Fits b

/-- The rules that are checked when a record is read. -/
structure Recordable (m : Machine) : Prop where
  name : checkName m.name = .ok ()
  kinds : m.KindsValid
  volumes : m.VolumesDistinct

/-- The rules that operations keep. -/
structure Sound (m : Machine) : Prop extends m.Recordable where
  bridge : m.BridgeAlone
  lpc : m.LpcAlone
  boots : m.BootsFit

/-! ## Devices after a step -/

theorem device?_congr {m m' : Machine} (h : m'.devices = m.devices) (s : Slot) :
    m'.device? s = m.device? s := by
  rw [device?, device?, h]

theorem boot?_congr {m m' : Machine} (h : m'.boots = m.boots) (name : String) :
    m'.boot? name = m.boot? name := by
  rw [boot?, boot?, h]

theorem device?_of_withoutDevices {m : Machine} {slots : List Slot} {s : Slot} {d : Device}
    (h : (m.withoutDevices slots).device? s = some d) : s ∉ slots ∧ m.device? s = some d := by
  rw [device?_withoutDevices] at h
  split at h
  · cases h
  · next hs => exact ⟨hs, h⟩

/-- A device that is there after a step was there before, or has just been accepted. -/
theorem Step.device?_cases {m m' : Machine} (h : m.Step m') {s : Slot} {d : Device}
    (hd : m'.device? s = some d) : m.device? s = some d ∨ (m.Accepts d ∧ d.slot = s) := by
  cases h with
  | described m' devices boots name =>
      rw [device?_congr devices] at hd
      exact .inl hd
  | placed e accepted =>
      rcases device?_withDevice_cases hd with ⟨rfl, rfl⟩ | hold
      · exact .inr ⟨accepted, rfl⟩
      · exact .inl hold
  | cleared slots bridge free => exact .inl (device?_of_withoutDevices hd).2
  | rebooted boots fit => exact .inl hd

/-! ## Steps keep the rules -/

theorem Step.name {m m' : Machine} (h : m.Step m') (hm : checkName m.name = .ok ()) :
    checkName m'.name = .ok () := by
  cases h with
  | described m' devices boots name =>
      rcases name with hname | hname
      · rw [hname]
        exact hm
      · exact hname
  | placed d accepted => exact hm
  | cleared slots bridge free => exact hm
  | rebooted boots fit => exact hm

theorem Step.kindsValid {m m' : Machine} (h : m.Step m') (hm : m.KindsValid) :
    m'.KindsValid := by
  intro s d hd
  rcases h.device?_cases hd with hd | ⟨accepted, -⟩
  · exact hm s d hd
  · exact accepted.valid

theorem Step.volumesDistinct {m m' : Machine} (h : m.Step m') (hm : m.VolumesDistinct) :
    m'.VolumesDistinct := by
  cases h with
  | described m' devices boots name =>
      intro s t d e hd he
      rw [device?_congr devices] at hd he
      exact hm s t d e hd he
  | placed d accepted => exact accepted.volumes
  | cleared slots bridge free =>
      intro s t d e hd he
      exact hm s t d e (device?_of_withoutDevices hd).2 (device?_of_withoutDevices he).2
  | rebooted boots fit => exact hm

theorem Step.lpcAlone {m m' : Machine} (h : m.Step m') (hm : m.LpcAlone) : m'.LpcAlone := by
  constructor
  · intro s d hd hlpc
    rcases h.device?_cases hd with hd | ⟨accepted, hs⟩
    · exact hm.1 s d hd hlpc
    · rw [← hs]
      exact accepted.lpc_bus hlpc
  · intro s t d e hd he hdl hel
    cases h with
    | described m' devices boots name =>
        rw [device?_congr devices] at hd he
        exact hm.2 s t d e hd he hdl hel
    | placed f accepted =>
        by_cases hf : f.kind.lpc?.isSome = true
        · -- the new bridge is in the slot of every bridge
          have hslot : ∀ u g, (m.withDevice f).device? u = some g → g.kind.lpc?.isSome = true →
              u = f.slot := by
            intro u g hg hgl
            rcases device?_withDevice_cases hg with ⟨hu, -⟩ | hold
            · exact hu
            · exact accepted.lpc_only hf u g hold hgl
          rw [hslot s d hd hdl, hslot t e he hel]
        · have hold : ∀ u g, (m.withDevice f).device? u = some g → g.kind.lpc?.isSome = true →
              m.device? u = some g := by
            intro u g hg hgl
            rcases device?_withDevice_cases hg with ⟨-, rfl⟩ | hold
            · exact absurd hgl hf
            · exact hold
          exact hm.2 s t d e (hold s d hd hdl) (hold t e he hel) hdl hel
    | cleared slots bridge free =>
        exact hm.2 s t d e (device?_of_withoutDevices hd).2 (device?_of_withoutDevices he).2
          hdl hel
    | rebooted boots fit => exact hm.2 s t d e hd he hdl hel

theorem Step.bridgeAlone {m m' : Machine} (h : m.Step m') (hm : m.BridgeAlone) :
    m'.BridgeAlone := by
  refine ⟨?_, fun s d hd hbridge => ?_⟩
  · obtain ⟨d, hd, hbridge⟩ := hm.1
    cases h with
    | described m' devices boots name => exact ⟨d, (device?_congr devices _).trans hd, hbridge⟩
    | placed e accepted =>
        by_cases hs : e.slot = .hostBridge
        · refine ⟨e, ?_, accepted.bridge.1 hs⟩
          rw [device?_withDevice, if_pos hs]
        · refine ⟨d, ?_, hbridge⟩
          rw [device?_withDevice, if_neg hs]
          exact hd
    | cleared slots bridge free =>
        refine ⟨d, ?_, hbridge⟩
        rw [device?_withoutDevices, if_neg bridge]
        exact hd
    | rebooted boots fit => exact ⟨d, hd, hbridge⟩
  · rcases h.device?_cases hd with hd | ⟨accepted, hs⟩
    · exact hm.2 s d hd hbridge
    · rw [← hs]
      exact accepted.bridge.2 hbridge

/-- A boot configuration still fits when a device was accepted: what replaces a disk that it
refers to is a disk. -/
theorem Fits.withDevice {m : Machine} {d : Device} (accepted : m.Accepts d) {name : String}
    {b : BootConfiguration} (hb : m.boot? name = some b) (h : m.Fits b) :
    (m.withDevice d).Fits b := by
  have hdisk : b.refersTo d.slot = true → d.kind.storage?.isSome = true := by
    intro hs
    rcases accepted.disk with hd | hd
    · exact hd
    · rw [hd name b hb] at hs
      cases hs
  refine h.of_devices (fun s hs hsome => ?_) fun s e hs he hk => ?_
  · rw [device?_withDevice]
    split
    · rfl
    · exact hsome
  · rw [device?_withDevice]
    split
    · next hds =>
        subst hds
        exact ⟨d, rfl, hdisk hs⟩
    · exact ⟨e, he, hk⟩

/-- A boot configuration still fits when slots were cleared that it does not refer to. -/
theorem Fits.withoutDevices {m : Machine} {slots : List Slot}
    (free : ∀ s ∈ slots, m.Unreferenced s) {name : String} {b : BootConfiguration}
    (hb : m.boot? name = some b) (h : m.Fits b) : (m.withoutDevices slots).Fits b := by
  have hkept : ∀ s, b.refersTo s = true → s ∉ slots := by
    intro s hs hmem
    rw [free s hmem name b hb] at hs
    cases hs
  refine h.of_devices (fun s hs hsome => ?_) fun s e hs he hk => ?_
  · rw [device?_withoutDevices, if_neg (hkept s hs)]
    exact hsome
  · rw [device?_withoutDevices, if_neg (hkept s hs)]
    exact ⟨e, he, hk⟩

theorem Fits.congr {m m' : Machine} {b : BootConfiguration} (h : m.Fits b)
    (hdevices : m'.devices = m.devices) : m'.Fits b := by
  refine h.of_devices (fun s _ hsome => ?_) fun s d _ hd hk => ⟨d, ?_, hk⟩
  · rw [device?_congr hdevices]
    exact hsome
  · rw [device?_congr hdevices]
    exact hd

theorem Step.bootsFit {m m' : Machine} (h : m.Step m') (hm : m.BootsFit) : m'.BootsFit := by
  intro name b hb
  cases h with
  | described m' devices boots _ =>
      rw [boot?_congr boots] at hb
      exact (hm name b hb).congr devices
  | placed d accepted => exact (hm name b hb).withDevice accepted hb
  | cleared slots bridge free => exact (hm name b hb).withoutDevices free hb
  | rebooted boots fit =>
      obtain ⟨hmem, rfl⟩ := boot?_eq_some_iff.1 hb
      rcases fit b hmem with hold | hnew
      · exact (hm b.name b (boot?_eq_some_iff.2 ⟨hold, rfl⟩)).congr rfl
      · exact hnew.congr rfl

theorem Step.recordable {m m' : Machine} (hm : m.Recordable) (h : m.Step m') : m'.Recordable :=
  ⟨h.name hm.name, h.kindsValid hm.kinds, h.volumesDistinct hm.volumes⟩

theorem Step.sound {m m' : Machine} (hm : m.Sound) (h : m.Step m') : m'.Sound :=
  ⟨h.recordable hm.toRecordable, h.bridgeAlone hm.bridge, h.lpcAlone hm.lpc, h.bootsFit hm.boots⟩

/-! ## Histories keep the rules -/

theorem Recordable.performAll {m m' : Machine} {ops : List Operation} (hm : m.Recordable)
    (h : m.performAll ops = .ok m') : m'.Recordable :=
  performAll_invariant Recordable (fun _ _ => Step.recordable) hm h

theorem Sound.performAll {m m' : Machine} {ops : List Operation} (hm : m.Sound)
    (h : m.performAll ops = .ok m') : m'.Sound :=
  performAll_invariant Sound (fun _ _ => Step.sound) hm h

theorem sound_of_define {d : Definition} {m : Machine} (h : define d = .ok m) : m.Sound := by
  obtain ⟨hname, hm⟩ := define_eq_ok_iff.1 h
  -- the only device is the first bridge
  have hdevice : ∀ s, m.device? s = if firstBridge.slot = s then some firstBridge else none := by
    intro s
    rw [hm]
    exact Table.find?_insert (∅ : Table Device.slot) firstBridge s
  have honly : ∀ s d, m.device? s = some d → d = firstBridge ∧ s = .hostBridge := by
    intro s d hd
    rw [hdevice] at hd
    split at hd
    · next hs => exact ⟨(Option.some.inj hd).symm, hs.symm⟩
    · cases hd
  refine { name := hm ▸ hname, kinds := ?_, volumes := ?_,
           bridge := ⟨⟨firstBridge, ?_, rfl⟩, ?_⟩, lpc := ⟨?_, ?_⟩, boots := ?_ }
  · intro s d hd
    rw [(honly s d hd).1]
    rfl
  · intro s t d e hd he _ _ _
    rw [(honly s d hd).2, (honly t e he).2]
  · rw [hdevice]
    rfl
  · intro s d hd _
    exact (honly s d hd).2
  · intro s d hd _
    rw [(honly s d hd).2]
    rfl
  · intro s t d e hd he _ _
    rw [(honly s d hd).2, (honly t e he).2]
  · intro name b hb
    rw [hm] at hb
    cases hb

/-- **Every machine that operations build is sound**, whatever operations came in whatever
order, and keeps each device in its slot and each boot configuration under its name. -/
theorem sound_of_performAll (d : Definition) (ops : List Operation) {m₀ m : Machine}
    (hd : define d = .ok m₀) (h : m₀.performAll ops = .ok m) :
    m.Sound ∧ (∀ s e, m.device? s = some e → e.slot = s) ∧
      ∀ name b, m.boot? name = some b → b.name = name ∧ m.validateBoot b = .ok () := by
  have hsound : m.Sound := (sound_of_define hd).performAll h
  refine ⟨hsound, fun s e => slot_of_device?, fun name b hb => ⟨?_, ?_⟩⟩
  · exact (boot?_eq_some_iff.1 hb).2
  · exact validateBoot_eq_ok_iff.2 (hsound.boots name b hb)

/-- The disk that a boot configuration loads from is replaced by a volume, and an LPC bridge
comes and goes. -/
def replacement (disk bridge : Slot) (lines : Lpc) : List Operation :=
  [.addDevice { kind := .ahciDisk (.file "/tmp/disk" ∅ none), slot := some disk },
   .addDevice { kind := .lpc lines, slot := some bridge },
   .mergeBoots [⟨"install", "", .grub (.openBsd "/bsd" disk), [disk]⟩] false,
   .addDevice { kind := .virtioBlock (.volume none), slot := some disk, replace := true },
   .apply { name := some "server" },
   .deleteDevices [bridge],
   .withSource "/var/db/server.json"]

def guest : Definition := { id := ⟨1, by decide⟩, name := "guest" }

/-- Another machine beside the guest. -/
def neighbor : Definition := { id := ⟨3, by decide⟩, name := "neighbor" }

theorem sound_replacement : ∃ m₀ m : Machine,
    define guest = .ok m₀ ∧
      m₀.performAll (replacement ⟨0, 1, 0⟩ ⟨0, 2, 0⟩ ⟨∅, rfl, by decide⟩) = .ok m ∧ m.Sound ∧
      (∀ s e, m.device? s = some e → e.slot = s) ∧
      ∀ name b, m.boot? name = some b → b.name = name ∧ m.validateBoot b = .ok () :=
  ⟨_, _, rfl, rfl,
    sound_of_performAll guest (replacement ⟨0, 1, 0⟩ ⟨0, 2, 0⟩ ⟨∅, rfl, by decide⟩) rfl rfl⟩

end Guestkeeper.Machine
