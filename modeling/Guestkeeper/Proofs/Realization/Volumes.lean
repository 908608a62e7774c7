import Guestkeeper.Proofs.Device
import Guestkeeper.Proofs.Host.FileTree
import Guestkeeper.Proofs.Record.RoundTrip

set_option autoImplicit false

/-! # Volumes are kept apart

A volume's path ends in its machine's identifier and the number of its device, whatever the root
of the volumes is. Both can be read off it, so different machines have different volumes, and so
have different devices of a machine: the number leaves out the bus and the function of the slot,
but no two volumes of a machine that comes about share it.
-/

namespace Guestkeeper

open Guestkeeper.Host Guestkeeper.Text

/-! ## The names in the path of a volume -/

/-- What a volume is called in the directory of its machine. -/
def volumeName (n : Nat) : String := "disk-" ++ decimal n

theorem volumePath_eq (root : String) (id : Uuid) (n : Nat) :
    volumePath root id n = Path.join (Path.join root id.text) (volumeName n) := rfl

theorem notMem_volumeName (n : Nat) : '/' ∉ (volumeName n).toList := by
  rw [volumeName, String.toList_append, toList_decimal, List.mem_append]
  rintro (h | h)
  · exact absurd h (by decide)
  · have hdigit := isDigit_of_mem_decimal h
    exact absurd hdigit (by decide)

theorem volumeName_injective : Function.Injective volumeName := by
  intro n k h
  rw [← String.toList_inj, volumeName, volumeName, String.toList_append, String.toList_append] at h
  exact decimal_injective (String.toList_inj.1 (List.append_cancel_left h))

/-- Volumes are called `disk-…`, interfaces `tap…` or `vmnet…`. -/
theorem volumePath_ne_deviceNode {n : NetworkBackend} (h : n.validate = .ok ()) (root : String)
    (id : Uuid) (k : Nat) : volumePath root id k ≠ n.deviceNode := by
  have hwell := NetworkBackend.validate_eq_ok_iff.1 h
  obtain ⟨unit, hname, -⟩ := hwell.name
  have hplain : '/' ∉ n.interface.name.toList :=
    hwell.notMem rfl (by decide) _ List.mem_cons_self
  intro hpath
  -- the last names of the two paths differ in their first letter
  have hsame := Path.name_of_join_eq (notMem_volumeName k) hplain hpath
  have hfirst : (volumeName k).toList.head? = some 'd' := by
    rw [volumeName, String.toList_append]
    rfl
  rw [hsame, hname, String.toList_append] at hfirst
  cases hkind : n.kind with
  | tap =>
      rw [hkind] at hfirst
      exact absurd (show some 't' = some 'd' from hfirst) (by decide)
  | vmnet =>
      rw [hkind] at hfirst
      exact absurd (show some 'v' = some 'd' from hfirst) (by decide)

/-- The path of a machine's directory begins as the root's does and has one name more. -/
theorem exists_namesOf_machine (root : String) : ∃ names, ∀ id : Uuid,
    FileTree.namesOf (Path.join root id.text) = names ++ [id.text] ∧
      ∀ current, FileTree.startOf current (Path.join root id.text)
        = FileTree.startOf current root := by
  by_cases hroot : root = ""
  · refine ⟨[], fun id => ?_⟩
    have hrelative := Path.isAbsolute_of_notMem id.notMem_slash
    have hjoin : Path.join root id.text = id.text := by
      rw [hroot, Path.join_eq "" hrelative]
      exact String.empty_append
    rw [hjoin]
    refine ⟨FileTree.namesOf_of_notMem id.notMem_slash, fun current => ?_⟩
    rw [FileTree.startOf, hrelative, hroot]
    rfl
  · obtain ⟨names, -, -, -, hnames⟩ := FileTree.exists_namesOf_join hroot
    exact ⟨names, fun id =>
      ⟨hnames id.text id.notMem_slash, fun _ => FileTree.startOf_join hroot id.notMem_slash⟩⟩

/-- The path of a volume begins as the root's does and ends in the names of its machine and
itself. -/
theorem exists_namesOf_volumePath (root : String) : ∃ names, ∀ id n,
    FileTree.namesOf (volumePath root id n) = names ++ [id.text, volumeName n] ∧
      ∀ current, FileTree.startOf current (volumePath root id n)
        = FileTree.startOf current root := by
  obtain ⟨names, hmachine⟩ := exists_namesOf_machine root
  refine ⟨names, fun id n => ?_⟩
  obtain ⟨hnames, hstart⟩ := hmachine id
  have hne : Path.join root id.text ≠ "" := by
    intro h
    rw [Path.join_eq root (Path.isAbsolute_of_notMem id.notMem_slash),
      String.append_eq_empty_iff] at h
    exact id.text_ne (by decide) h.2
  obtain ⟨above, ending, hending, habove, hjoin⟩ := FileTree.exists_namesOf_join hne
  -- a machine's directory is not written with a slash at its end
  have hsame : above = names ++ [id.text] := by
    rcases hending with rfl | rfl
    · rw [← hnames, habove, List.append_nil]
    · rw [hnames] at habove
      have hlast := congrArg List.getLast? habove
      rw [List.getLast?_concat, List.getLast?_concat, Option.some.injEq] at hlast
      exact absurd hlast (id.text_ne (by decide))
  refine ⟨?_, fun current => ?_⟩
  · rw [volumePath_eq, hjoin _ (notMem_volumeName n), hsame, List.append_assoc]
    rfl
  · rw [volumePath_eq, FileTree.startOf_join hne (notMem_volumeName n), hstart current]

/-! ## Separate paths -/

theorem notMem_idle_volumeName (n : Nat) : volumeName n ∉ ["", ".", ".."] := by
  intro hmem
  have hall : ∀ name ∈ ["", ".", ".."], name.toList.head? ≠ some 'd' := by decide
  refine hall _ hmem ?_
  rw [volumeName, String.toList_append]
  rfl

theorem notMem_idle_text (id : Uuid) : id.text ∉ ["", ".", ".."] := by
  intro hmem
  have hall : ∀ name ∈ ["", ".", ".."], name.toList.length < 36 := by decide
  exact id.text_ne (hall _ hmem) rfl

/-- The last two names in the path of a volume lead on. -/
theorem notMem_idle {id : Uuid} {n : Nat} :
    ∀ name ∈ [id.text, volumeName n], name ∉ ["", ".", ".."] := by
  intro name hname
  rcases List.mem_pair.1 hname with rfl | rfl
  · exact notMem_idle_text id
  · exact notMem_idle_volumeName n

theorem exists_stepsOf_volumePath (root : String) : ∃ steps, ∀ id n,
    FileTree.stepsOf (volumePath root id n) = steps ++ [id.text, volumeName n] := by
  obtain ⟨names, hvolume⟩ := exists_namesOf_volumePath root
  refine ⟨names.filter (· ∉ ["", "."]), fun id n => ?_⟩
  have hkept : [id.text, volumeName n].filter (· ∉ ["", "."]) = [id.text, volumeName n] := by
    refine List.filter_eq_self.2 fun name hname => decide_eq_true fun hmem => ?_
    exact notMem_idle name hname (List.mem_append_left [".."] hmem)
  rw [FileTree.stepsOf, (hvolume id n).1, List.filter_append, hkept]

/-- In a directory tree, volumes are two names below the place that their root leads to. -/
theorem exists_place_volumePath (root : String) (t : FileTree) (current : List String) :
    ∃ found : Except Cause (List String), ∀ id n place,
      t.resolve current (volumePath root id n) = .ok place →
        ∃ above, found = .ok above ∧ place = above ++ [id.text, volumeName n] := by
  obtain ⟨names, hvolume⟩ := exists_namesOf_volumePath root
  refine ⟨t.walk (FileTree.startOf current root) names, fun id n place hresolve => ?_⟩
  obtain ⟨_, -, hwalk⟩ := Except.bind_eq_ok_iff.1 hresolve
  rw [(hvolume id n).1, (hvolume id n).2 current] at hwalk
  obtain ⟨above, hnames, hlast⟩ := FileTree.walk_append hwalk
  exact ⟨above, hnames, FileTree.eq_append_of_walk notMem_idle hlast⟩

/-- **Volumes of different machines are separate, and so are volumes with different numbers.** -/
theorem separate_volumePath (root : String) {id id' : Uuid} {n n' : Nat}
    (h : ¬(id = id' ∧ n = n')) :
    FileTree.Separate (volumePath root id n) (volumePath root id' n') := by
  have hends : [id.text, volumeName n] ≠ [id'.text, volumeName n'] := by
    intro hsame
    obtain ⟨hid, hrest⟩ := List.cons.inj hsame
    exact h ⟨Uuid.text_injective hid, volumeName_injective (List.singleton_inj.1 hrest)⟩
  constructor
  · obtain ⟨steps, hsteps⟩ := exists_stepsOf_volumePath root
    rw [hsteps, hsteps]
    exact fun hsame => hends (List.append_cancel_left hsame)
  · intro t current place hplace hplace'
    obtain ⟨found, hfound⟩ := exists_place_volumePath root t current
    obtain ⟨above, habove, hend⟩ := hfound id n place hplace
    obtain ⟨above', habove', hend'⟩ := hfound id' n' place hplace'
    obtain rfl : above = above' := Except.ok.inj (habove.symm.trans habove')
    exact hends (List.append_cancel_left (hend.symm.trans hend'))

theorem volumePath_eq_iff {root : String} {id id' : Uuid} {n n' : Nat} :
    volumePath root id n = volumePath root id' n' ↔ id = id' ∧ n = n' := by
  constructor
  · intro hsame
    by_contra h
    exact (separate_volumePath root h).ne hsame
  · rintro ⟨rfl, rfl⟩
    rfl

/-! ## The volumes of machines -/

namespace Machine

/-- The machine has a device in the slot, and the device's data is a volume. -/
structure HasVolume (m : Machine) (s : Slot) (b : StorageBackend) : Prop where
  device : ∃ d, m.device? s = some d ∧ d.kind.storage? = some b
  volume : b.isVolume = true

theorem HasVolume.target {m : Machine} {s : Slot} {b : StorageBackend} (h : m.HasVolume s b)
    (root : String) (id : Uuid) (n : Nat) : b.target root id n = .ok (volumePath root id n) := by
  cases b with
  | volume size => rfl
  | file path options sectors => cases h.volume
  | scsi => cases h.volume

theorem HasVolume.deviceId_ne {m : Machine} (hm : m.VolumesDistinct) {s t : Slot}
    {b c : StorageBackend} (hs : m.HasVolume s b) (ht : m.HasVolume t c) (hst : s ≠ t) :
    s.deviceId ≠ t.deviceId := by
  obtain ⟨d, hd, hdb⟩ := hs.device
  obtain ⟨e, he, hec⟩ := ht.device
  have hdv : d.kind.isVolume = true := by
    rw [DeviceKind.isVolume, hdb]
    exact hs.volume
  have hev : e.kind.isVolume = true := by
    rw [DeviceKind.isVolume, hec]
    exact ht.volume
  exact fun hsame => hst (hm s t d e hd he hdv hev hsame)

/-- **Volumes are isolated.** Machine and number can be read off the path of a volume, and no two
volumes of a machine that comes about have the same number. So any two volumes, of two machines or
in two slots of one, have separate paths, below whatever root. -/
theorem volumes_isolated (root : String) :
    (∀ id id' n n', volumePath root id n = volumePath root id' n' ↔ id = id' ∧ n = n') ∧
      (∀ m, Record.Arises m → ∀ s s' b b', m.HasVolume s b → m.HasVolume s' b' → s ≠ s' →
        s.deviceId ≠ s'.deviceId) ∧
      ∀ (m m' : Machine) s s' b b', m.HasVolume s b → m'.HasVolume s' b' →
        m.id ≠ m'.id ∨ (m = m' ∧ Record.Arises m ∧ s ≠ s') →
          ∃ path path', b.target root m.id s.deviceId = .ok path ∧
            b'.target root m'.id s'.deviceId = .ok path' ∧ path ≠ path' ∧
              FileTree.Separate path path' := by
  have hnumbers : ∀ m, Record.Arises m → ∀ s s' b b', m.HasVolume s b → m.HasVolume s' b' →
      s ≠ s' → s.deviceId ≠ s'.deviceId := fun m hm s s' b b' hs hs' =>
    HasVolume.deviceId_ne (Record.recordable_of_arises hm).volumes hs hs'
  refine ⟨fun id id' n n' => volumePath_eq_iff, hnumbers, ?_⟩
  intro m m' s s' b b' hs hs' hdiffer
  have hapart : ¬(m.id = m'.id ∧ s.deviceId = s'.deviceId) := by
    rintro ⟨hid, hnumber⟩
    rcases hdiffer with hne | ⟨rfl, hm, hslots⟩
    · exact hne hid
    · exact hnumbers m hm s s' b b' hs hs' hslots hnumber
  have hseparate := separate_volumePath root hapart
  exact ⟨_, _, hs.target root m.id _, hs'.target root m'.id _, hseparate.ne, hseparate⟩

/-- Two disks that are volumes. -/
def disks (first second : Slot) : List Operation :=
  [.addDevice { kind := .virtioBlock (.volume none), slot := some first },
   .addDevice { kind := .ahciDisk (.volume (some 512)), slot := some second }]

/-- Below the root `/volumes`. The same disks in one slot of two busses are refused. -/
theorem volumes_isolated_disks : ∃ m₀ m : Machine, define guest = .ok m₀ ∧
    m₀.performAll (disks ⟨0, 1, 0⟩ ⟨0, 2, 0⟩) = .ok m ∧ Record.Arises m ∧
    m.HasVolume ⟨0, 1, 0⟩ (.volume none) ∧ m.HasVolume ⟨0, 2, 0⟩ (.volume (some 512)) ∧
    (∃ e, m₀.performAll (disks ⟨0, 1, 0⟩ ⟨1, 1, 0⟩) = .error e) ∧
    ∃ path path', (StorageBackend.volume none).target "/volumes" m.id 1 = .ok path ∧
      (StorageBackend.volume (some 512)).target "/volumes" m.id 2 = .ok path' ∧ path ≠ path' ∧
        FileTree.Separate path path' := by
  have harises : ∀ m₀ m, define guest = .ok m₀ →
      m₀.performAll (disks ⟨0, 1, 0⟩ ⟨0, 2, 0⟩) = .ok m → Record.Arises m := fun m₀ _ hd h =>
    ⟨m₀, _, .inl ⟨guest, hd⟩, h⟩
  refine ⟨_, _, rfl, rfl, harises _ _ rfl rfl, ⟨⟨_, rfl, rfl⟩, rfl⟩, ⟨⟨_, rfl, rfl⟩, rfl⟩,
    ⟨_, rfl⟩, ?_⟩
  exact (volumes_isolated "/volumes").2.2 _ _ ⟨0, 1, 0⟩ ⟨0, 2, 0⟩ _ _ ⟨⟨_, rfl, rfl⟩, rfl⟩
    ⟨⟨_, rfl, rfl⟩, rfl⟩ (.inr ⟨rfl, harises _ _ rfl rfl, by decide⟩)

end Machine

end Guestkeeper
