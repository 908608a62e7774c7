import Guestkeeper.Proofs.Launch.Drives
import Guestkeeper.Proofs.Machine.Soundness

set_option autoImplicit false

/-! # When a machine can be started

A boot configuration that fits its machine can be launched unless one of four obstacles is in
the way, each with its own failure (`Launch.Obstacle`). The loader's other failures, for a
device that is missing, is no disk or is not attached, belong to configurations that do not fit,
so a stored configuration of a machine that operations built never meets them.
-/

namespace Guestkeeper.Launch

open Guestkeeper.Text

/-- What keeps a machine from being started with a boot configuration, and the failure that it
leads to. -/
inductive Obstacle (m : Machine) (b : BootConfiguration) : Error → Prop
  | scsi (s : Slot) (d : Device) (there : m.device? s = some d)
      (backend : d.kind.storage? = some .scsi) : Obstacle m b .scsiUnimplemented
  | control (path : String) (disk : Slot) (arguments : List String) (initrd : String)
      (initrdDisk : Slot) (method : b.method = .grub (.linux path disk arguments initrd initrdDisk))
      (argument : String) (mem : argument ∈ arguments) (control : hasControl argument = true) :
      Obstacle m b (.invalid (.controlInArgument argument))
  | noLpc (firmware : String) (method : b.method = .uefi firmware)
      (none : ∀ s d, m.device? s = some d → d.kind.lpc? = none) :
      Obstacle m b (.invalid (.firmwareWithoutLpc b.name))
  | bootrom (firmware : String) (method : b.method = .uefi firmware) (s : Slot) (d : Device)
      (lpc : Lpc) (there : m.device? s = some d) (bridge : d.kind.lpc? = some lpc)
      (taken : (lpc.get? .bootrom).isSome = true) :
      Obstacle m b (.invalid (.secondBootrom b.name))

/-! ## Devices -/

theorem target_eq_error_iff {backend : StorageBackend} {root : String} {id : Uuid} {n : Nat}
    {e : Error} :
    backend.target root id n = .error e ↔ backend = .scsi ∧ e = .scsiUnimplemented := by
  cases backend with
  | file path options sectors => simp [StorageBackend.target]
  | volume size => simp [StorageBackend.target]
  | scsi => simp [StorageBackend.target, eq_comm]

theorem deviceArgument_eq_error_iff {root : String} {id : Uuid} {d : Device} {e : Error} :
    deviceArgument root id d = .error e ↔
      d.kind.storage? = some .scsi ∧ e = .scsiUnimplemented := by
  rw [deviceArgument, Except.bind_eq_error_iff, storageArguments]
  cases hstorage : d.kind.storage? with
  | none =>
      constructor
      · rintro (h | ⟨_, -, h⟩)
        · cases h
        · cases h
      · rintro ⟨h, -⟩
        cases h
  | some backend =>
      simp only [Except.bind_eq_error_iff, target_eq_error_iff, Option.some.injEq]
      constructor
      · rintro ((h | ⟨_, -, h⟩) | ⟨_, -, h⟩)
        · exact h
        · cases h
        · cases h
      · intro h
        exact .inl (.inl h)

/-! ## The LPC bridge and the firmware -/

theorem lpc?_eq_none_iff {m : Machine} :
    m.lpc? = none ↔ ∀ s d, m.device? s = some d → d.kind.lpc? = none := by
  rw [Machine.lpc?, List.findSome?_eq_none_iff]
  constructor
  · intro h s d hd
    exact h d (Machine.device?_eq_some_iff.1 hd).1
  · intro h d hd
    exact h d.slot d (Machine.device?_slot hd)

theorem exists_of_lpc?_eq_some {m : Machine} {lpc : Lpc} (h : m.lpc? = some lpc) :
    ∃ s d, m.device? s = some d ∧ d.kind.lpc? = some lpc := by
  obtain ⟨d, hd, hlpc⟩ := List.exists_of_findSome?_eq_some h
  exact ⟨d.slot, d, Machine.device?_slot hd, hlpc⟩

/-- Where there is one LPC bridge at most, it is the machine's, whichever slot it is in. -/
theorem lpc?_eq_some_of_device {m : Machine} (hm : m.LpcAlone) {s : Slot} {d : Device}
    {lpc : Lpc} (hd : m.device? s = some d) (hlpc : d.kind.lpc? = some lpc) :
    m.lpc? = some lpc := by
  cases h : m.lpc? with
  | none =>
      rw [lpc?_eq_none_iff.1 h s d hd] at hlpc
      cases hlpc
  | some other =>
      obtain ⟨t, e, he, hother⟩ := exists_of_lpc?_eq_some h
      have hst : s = t := hm.2 s t d e hd he (by rw [hlpc]; rfl) (by rw [hother]; rfl)
      rw [hst, he] at hd
      rw [← hother, ← hlpc, Option.some.inj hd]

theorem firmwareArguments_eq_error {lpc? : Option Lpc} {b : BootConfiguration} {e : Error}
    (h : firmwareArguments lpc? b = .error e) : ∃ firmware, b.method = .uefi firmware ∧
      ((lpc? = none ∧ e = .invalid (.firmwareWithoutLpc b.name)) ∨
        ∃ lpc, lpc? = some lpc ∧ (lpc.get? .bootrom).isSome = true ∧
          e = .invalid (.secondBootrom b.name)) := by
  rw [firmwareArguments] at h
  split at h
  · cases h
  · next firmware hmethod =>
      refine ⟨firmware, hmethod, ?_⟩
      split at h
      · exact .inl ⟨rfl, (Except.error.inj h).symm⟩
      · next lpc =>
          split at h
          · next htaken => exact .inr ⟨lpc, rfl, htaken, (Except.error.inj h).symm⟩
          · cases h

theorem hypervisorArguments_eq_error {c : Configuration} {m : Machine} {b : BootConfiguration}
    {e : Error} (h : hypervisorArguments c m b = .error e) : Obstacle m b e := by
  rw [hypervisorArguments] at h
  rcases Except.bind_eq_error_iff.1 h with h | ⟨_, -, h⟩
  · obtain ⟨d, hd, hfail⟩ := Except.exists_of_mapM_eq_error h
    obtain ⟨hscsi, rfl⟩ := deviceArgument_eq_error_iff.1 hfail
    exact .scsi d.slot d (Machine.device?_slot hd) hscsi
  · rcases Except.bind_eq_error_iff.1 h with h | ⟨_, -, h⟩
    · obtain ⟨firmware, hmethod, ⟨hnone, rfl⟩ | ⟨lpc, hsome, htaken, rfl⟩⟩ :=
        firmwareArguments_eq_error h
      · exact .noLpc firmware hmethod (lpc?_eq_none_iff.1 hnone)
      · obtain ⟨s, d, hd, hlpc⟩ := exists_of_lpc?_eq_some hsome
        exact .bootrom firmware hmethod s d lpc hd hlpc htaken
    · cases h

/-- The options for the devices stand behind those for the pins and before those for the serial
lines, and there is one for each device. -/
theorem exists_infix_hypervisorArguments {c : Configuration} {m : Machine} {b : BootConfiguration}
    {arguments : List String} (h : hypervisorArguments c m b = .ok arguments) :
    ∃ values, m.devices.entries.mapM (deviceArgument c.volumeRoot m.id) = .ok values ∧
      repeated "-s" values <:+: arguments := by
  obtain ⟨values, hvalues, h⟩ := Except.bind_eq_ok_iff.1 h
  obtain ⟨firmware, -, h⟩ := Except.bind_eq_ok_iff.1 h
  obtain rfl := Except.ok.inj h
  exact ⟨values, hvalues, List.infix_append_of_infix_left (List.infix_append_of_infix_left
    (List.infix_append_of_infix_left List.infix_append_right))⟩

/-! ## The loader -/

/-- Attached disks become drives, each in its slot, unless one of them is a SCSI device. -/
theorem drivesFrom_eq_error {c : Configuration} {m : Machine} {b : BootConfiguration}
    {slots : List Slot} {i j : Nat} {e : Error}
    (hdisks : ∀ s ∈ slots, ∃ d, m.device? s = some d ∧ d.kind.storage?.isSome = true)
    (h : drivesFrom c m b i j slots = .error e) :
    e = .scsiUnimplemented ∧
      ∃ s d, m.device? s = some d ∧ d.kind.storage? = some .scsi := by
  induction slots generalizing i j with
  | nil => cases h
  | cons s rest ih =>
      obtain ⟨d, hd, hstorage⟩ := hdisks s List.mem_cons_self
      obtain ⟨backend, hbackend⟩ := Option.isSome_iff_exists.1 hstorage
      have hrest : ∀ t ∈ rest, ∃ d, m.device? t = some d ∧ d.kind.storage?.isSome = true :=
        fun t ht => hdisks t (List.mem_cons_of_mem s ht)
      rw [drivesFrom, hd] at h
      simp only [hbackend] at h
      rcases Except.bind_eq_error_iff.1 h with h | ⟨path, -, h⟩
      · obtain ⟨rfl, rfl⟩ := target_eq_error_iff.1 h
        exact ⟨rfl, s, d, hd, hbackend⟩
      -- optical or not, the rest of the drives is what may fail
      · split at h
        · rcases Except.bind_eq_error_iff.1 h with h | ⟨_, -, h⟩
          · exact ih hrest h
          · cases h
        · rcases Except.bind_eq_error_iff.1 h with h | ⟨_, -, h⟩
          · exact ih hrest h
          · cases h

/-- A path can be located on every drive that is attached. -/
theorem exists_locate {ds : List Drive} {s : Slot} (hs : s ∈ ds.map Drive.slot)
    (partition path : String) : ∃ text, locate ds s partition path = .ok text := by
  rw [locate]
  cases hfind : ds.find? fun d => d.slot = s with
  | none =>
      obtain ⟨d, hd, rfl⟩ := List.mem_map.1 hs
      exact absurd (List.find?_eq_none.1 hfind d hd) (by simp)
  | some d =>
      dsimp only
      split
      · exact ⟨_, rfl⟩
      · exact ⟨_, rfl⟩

theorem kernelArgument_eq_error {argument : String} {e : Error}
    (h : kernelArgument argument = .error e) :
    hasControl argument = true ∧ e = .invalid (.controlInArgument argument) := by
  rw [kernelArgument] at h
  split at h
  · next hc => exact ⟨hc, (Except.error.inj h).symm⟩
  · cases h

/-- With every kernel's disk attached, only a kernel argument can spoil the script. -/
theorem scriptLines_eq_error {ds : List Drive} {k : Kernel} {e : Error}
    (hattached : ∀ s ∈ k.slots, s ∈ ds.map Drive.slot) (h : scriptLines ds k = .error e) :
    ∃ path disk arguments initrd initrdDisk argument,
      k = .linux path disk arguments initrd initrdDisk ∧ argument ∈ arguments ∧
        hasControl argument = true ∧ e = .invalid (.controlInArgument argument) := by
  cases k with
  | openBsd path disk =>
      obtain ⟨text, htext⟩ := exists_locate (hattached disk List.mem_cons_self) "openbsd1" path
      rw [scriptLines, htext] at h
      cases h
  | linux path disk arguments initrd initrdDisk =>
      obtain ⟨text, htext⟩ := exists_locate (hattached disk List.mem_cons_self) "msdos1" path
      obtain ⟨text', htext'⟩ := exists_locate
        (hattached initrdDisk (List.mem_cons_of_mem _ List.mem_cons_self)) "msdos1" initrd
      rw [scriptLines, htext, htext'] at h
      rcases Except.bind_eq_error_iff.1 h with h | ⟨_, -, h⟩
      · cases h
      · rcases Except.bind_eq_error_iff.1 h with h | ⟨_, -, h⟩
        · obtain ⟨argument, hmem, hfail⟩ := Except.exists_of_mapM_eq_error h
          obtain ⟨hcontrol, rfl⟩ := kernelArgument_eq_error hfail
          exact ⟨path, disk, arguments, initrd, initrdDisk, argument, rfl, hmem, hcontrol, rfl⟩
        · cases h

theorem loader_eq_error {c : Configuration} {m : Machine} {b : BootConfiguration} {k : Kernel}
    {e : Error} (hfits : m.Fits b) (hmethod : b.method = .grub k)
    (h : loader c m b = .error e) : Obstacle m b e := by
  rw [loader, hmethod] at h
  rcases Except.bind_eq_error_iff.1 h with h | ⟨ds, hds, h⟩
  · obtain ⟨rfl, s, d, hd, hscsi⟩ := drivesFrom_eq_error hfits.storage h
    exact .scsi s d hd hscsi
  · rcases Except.bind_eq_error_iff.1 h with h | ⟨_, -, h⟩
    · have hattached : ∀ s ∈ k.slots, s ∈ ds.map Drive.slot := by
        intro s hs
        rw [slots_of_drivesFrom hds]
        refine hfits.attached s ?_
        rw [BootConfiguration.kernelSlots, hmethod]
        exact hs
      obtain ⟨path, disk, arguments, initrd, initrdDisk, argument, rfl, hmem, hcontrol, rfl⟩ :=
        scriptLines_eq_error hattached h
      exact .control path disk arguments initrd initrdDisk hmethod argument hmem hcontrol
    · cases h

/-! ## The plan -/

theorem obstacle_of_plan_eq_error {c : Configuration} {m : Machine} {b : BootConfiguration}
    {e : Error} (hfits : m.Fits b) (h : plan c m b = .error e) : Obstacle m b e := by
  -- what comes after the loader is the same with and without one
  have hlast : ∀ first : Option Loader, (do
      let arguments ← hypervisorArguments c m b
      return (⟨first, ⟨c.hypervisor, arguments⟩⟩ : Plan)) = .error e → Obstacle m b e := by
    intro first h
    rcases Except.bind_eq_error_iff.1 h with h | ⟨_, -, h⟩
    · exact hypervisorArguments_eq_error h
    · cases h
  rw [plan] at h
  cases hmethod : b.method with
  | grub k =>
      rw [hmethod] at h
      rcases Except.bind_eq_error_iff.1 h with h | ⟨first, -, h⟩
      · exact loader_eq_error hfits hmethod (Except.map_eq_error_iff.1 h)
      · exact hlast first h
  | uefi firmware =>
      rw [hmethod] at h
      exact hlast none h

/-- The parts of a plan have been made where the plan has. -/
theorem parts_of_plan_eq_ok {c : Configuration} {m : Machine} {b : BootConfiguration}
    {p : Plan} (h : plan c m b = .ok p) :
    (∃ arguments, hypervisorArguments c m b = .ok arguments) ∧
      ∀ k, b.method = .grub k → ∃ l, loader c m b = .ok l := by
  rw [plan] at h
  cases hmethod : b.method with
  | grub k =>
      rw [hmethod] at h
      obtain ⟨first, hfirst, h⟩ := Except.bind_eq_ok_iff.1 h
      obtain ⟨l, hl, -⟩ := Except.map_eq_ok_iff.1 hfirst
      obtain ⟨arguments, harguments, -⟩ := Except.bind_eq_ok_iff.1 h
      exact ⟨⟨arguments, harguments⟩, fun _ _ => ⟨l, hl⟩⟩
  | uefi firmware =>
      rw [hmethod] at h
      obtain ⟨first, -, h⟩ := Except.bind_eq_ok_iff.1 h
      obtain ⟨arguments, harguments, -⟩ := Except.bind_eq_ok_iff.1 h
      exact ⟨⟨arguments, harguments⟩, fun _ hk => nomatch hk⟩

/-- Where a plan is made, nothing stood in the way. -/
theorem not_obstacle_of_plan_eq_ok {c : Configuration} {m : Machine} {b : BootConfiguration}
    {p : Plan} {e : Error} (hlpc : m.LpcAlone) (h : plan c m b = .ok p) : ¬ Obstacle m b e := by
  obtain ⟨⟨_, harguments⟩, hloader⟩ := parts_of_plan_eq_ok h
  rw [hypervisorArguments] at harguments
  obtain ⟨_, hdevices, harguments⟩ := Except.bind_eq_ok_iff.1 harguments
  obtain ⟨_, hfirmware, -⟩ := Except.bind_eq_ok_iff.1 harguments
  -- each obstacle stops a part that was made
  intro hobstacle
  cases hobstacle with
  | scsi s d there backend =>
      obtain ⟨_, hok⟩ := Except.ok_of_mapM_eq_ok hdevices d (Machine.device?_eq_some_iff.1 there).1
      rw [deviceArgument_eq_error_iff.2 ⟨backend, rfl⟩] at hok
      cases hok
  | control path disk arguments initrd initrdDisk method argument mem control =>
      obtain ⟨l, hloader⟩ := hloader _ method
      rw [loader, method] at hloader
      obtain ⟨ds, -, hloader⟩ := Except.bind_eq_ok_iff.1 hloader
      obtain ⟨_, hscript, -⟩ := Except.bind_eq_ok_iff.1 hloader
      rw [scriptLines] at hscript
      obtain ⟨_, -, hscript⟩ := Except.bind_eq_ok_iff.1 hscript
      obtain ⟨_, hwords, -⟩ := Except.bind_eq_ok_iff.1 hscript
      obtain ⟨_, hok⟩ := Except.ok_of_mapM_eq_ok hwords argument mem
      rw [kernelArgument, if_pos control] at hok
      cases hok
  | noLpc firmware method none =>
      rw [firmwareArguments, method, lpc?_eq_none_iff.2 none] at hfirmware
      cases hfirmware
  | bootrom firmware method s d lpc there bridge taken =>
      rw [firmwareArguments, method, lpc?_eq_some_of_device hlpc there bridge] at hfirmware
      simp only [taken] at hfirmware
      cases hfirmware

theorem plan_eq_error_iff {c : Configuration} {m : Machine} {b : BootConfiguration}
    (hfits : m.Fits b) (hlpc : m.LpcAlone) :
    (∃ e, plan c m b = .error e) ↔ ∃ e, Obstacle m b e := by
  constructor
  · rintro ⟨e, h⟩
    exact ⟨e, obstacle_of_plan_eq_error hfits h⟩
  · rintro ⟨e, hobstacle⟩
    cases h : plan c m b with
    | error e => exact ⟨e, rfl⟩
    | ok p => exact absurd hobstacle (not_obstacle_of_plan_eq_ok hlpc h)

theorem exists_obstacle_iff {m : Machine} {b : BootConfiguration} :
    (∃ e, Obstacle m b e) ↔
      (∃ s d, m.device? s = some d ∧ d.kind.storage? = some .scsi) ∨
      (∃ path disk arguments initrd initrdDisk,
        b.method = .grub (.linux path disk arguments initrd initrdDisk) ∧
          ∃ argument ∈ arguments, hasControl argument = true) ∨
      ∃ firmware, b.method = .uefi firmware ∧
        ((∀ s d, m.device? s = some d → d.kind.lpc? = none) ∨
          ∃ s d lpc, m.device? s = some d ∧ d.kind.lpc? = some lpc ∧
            (lpc.get? .bootrom).isSome = true) := by
  constructor
  · rintro ⟨e, h⟩
    cases h with
    | scsi s d there backend => exact .inl ⟨s, d, there, backend⟩
    | control path disk arguments initrd initrdDisk method argument mem control =>
        exact .inr (.inl ⟨path, disk, arguments, initrd, initrdDisk, method, argument, mem,
          control⟩)
    | noLpc firmware method none => exact .inr (.inr ⟨firmware, method, .inl none⟩)
    | bootrom firmware method s d lpc there bridge taken =>
        exact .inr (.inr ⟨firmware, method, .inr ⟨s, d, lpc, there, bridge, taken⟩⟩)
  · rintro (⟨s, d, there, backend⟩ |
      ⟨path, disk, arguments, initrd, initrdDisk, method, argument, mem, control⟩ |
      ⟨firmware, method, none | ⟨s, d, lpc, there, bridge, taken⟩⟩)
    · exact ⟨_, .scsi s d there backend⟩
    · exact ⟨_, .control path disk arguments initrd initrdDisk method argument mem control⟩
    · exact ⟨_, .noLpc firmware method none⟩
    · exact ⟨_, .bootrom firmware method s d lpc there bridge taken⟩

/-- **When a stored boot configuration cannot be launched.** Whatever operations built the
machine, a plan fails exactly for a SCSI disk, for a control character in a kernel argument, or
for firmware without a free place on an LPC bridge. No plan fails because a disk is missing, is
no disk or is not attached. -/
theorem plan_of_performAll_fails_iff (d : Definition) (ops : List Operation) (c : Configuration)
    {m₀ m : Machine} {b : BootConfiguration} (hd : Machine.define d = .ok m₀)
    (h : m₀.performAll ops = .ok m) (hb : b ∈ m.boots) :
    ((∃ e, plan c m b = .error e) ↔
      (∃ s d, m.device? s = some d ∧ d.kind.storage? = some .scsi) ∨
      (∃ path disk arguments initrd initrdDisk,
        b.method = .grub (.linux path disk arguments initrd initrdDisk) ∧
          ∃ argument ∈ arguments, hasControl argument = true) ∨
      ∃ firmware, b.method = .uefi firmware ∧
        ((∀ s d, m.device? s = some d → d.kind.lpc? = none) ∨
          ∃ s d lpc, m.device? s = some d ∧ d.kind.lpc? = some lpc ∧
            (lpc.get? .bootrom).isSome = true)) ∧
      (∀ e, plan c m b = .error e → Obstacle m b e) ∧
      ∀ s, plan c m b ≠ .error (.nonexistent .device [s.text]) ∧
        plan c m b ≠ invalid (.attachedNotStorage s b.name) ∧
        plan c m b ≠ invalid (.notAttached s) := by
  have hsound : m.Sound := (Machine.sound_of_define hd).performAll h
  have hfits : m.Fits b := hsound.boots b.name b (Machine.boot?_eq_some_iff.2 ⟨hb, rfl⟩)
  have hobstacle : ∀ e, plan c m b = .error e → Obstacle m b e :=
    fun e => obstacle_of_plan_eq_error hfits
  refine ⟨?_, hobstacle, fun s => ⟨fun hfail => ?_, fun hfail => ?_, fun hfail => ?_⟩⟩
  · rw [plan_eq_error_iff hfits hsound.lpc, exists_obstacle_iff]
  · cases hobstacle _ hfail
  · cases hobstacle _ hfail
  · cases hobstacle _ hfail

theorem plan_of_replacement : ∃ m₀ m b,
    Machine.define Machine.guest = .ok m₀ ∧
      m₀.performAll (Machine.replacement ⟨0, 1, 0⟩ ⟨0, 2, 0⟩ ⟨∅, rfl, by decide⟩) = .ok m ∧
      b ∈ m.boots ∧ ∀ e, plan {} m b = .error e → Obstacle m b e :=
  ⟨_, _, _, rfl, rfl, List.mem_cons_self,
    (plan_of_performAll_fails_iff Machine.guest
      (Machine.replacement ⟨0, 1, 0⟩ ⟨0, 2, 0⟩ ⟨∅, rfl, by decide⟩) {} rfl rfl
      List.mem_cons_self).2.1⟩

end Guestkeeper.Launch
