import Guestkeeper.Launch.Loader
import Guestkeeper.Proofs.Machine.Devices
import Guestkeeper.Proofs.Outcome
import Guestkeeper.Proofs.Text.Numeral

set_option autoImplicit false

/-! # Drives

The loader has one drive for each attached disk, in the order of attachment. Its names for them
count the disks and the optical disks apart, so no two drives have the same name.

The drives are made by a recursion with two counters. What a step of it does to them is said once,
in `drivesFrom_cons_eq_ok`; everything else is by induction from there.
-/

namespace Guestkeeper.Launch

open Guestkeeper.Text

variable {c : Configuration} {m : Machine} {b : BootConfiguration}

/-! ## Names -/

/-- How the names of drives begin. -/
def Drive.start (optical : Bool) : String := if optical then "cd" else "hd"

theorem Drive.name_eq (d : Drive) : d.name = Drive.start d.optical ++ decimal d.index := rfl

theorem Drive.name_injective {d e : Drive} (h : d.name = e.name) :
    d.optical = e.optical ∧ d.index = e.index := by
  rw [Drive.name_eq, Drive.name_eq] at h
  have hchars := congrArg String.toList h
  rw [String.toList_append, String.toList_append] at hchars
  -- the first letter tells the sort
  have hoptical : d.optical = e.optical := by
    have hfirst := congrArg List.head? hchars
    cases hd : d.optical with
    | false =>
        cases he : e.optical with
        | false => rfl
        | true =>
            rw [hd, he] at hfirst
            exact absurd (show some 'h' = some 'c' from hfirst) (by decide)
    | true =>
        cases he : e.optical with
        | false =>
            rw [hd, he] at hfirst
            exact absurd (show some 'c' = some 'h' from hfirst) (by decide)
        | true => rfl
  rw [hoptical] at hchars
  -- what is left of the names are the numbers
  exact ⟨hoptical, decimal_injective (String.toList_inj.1 (List.append_cancel_left hchars))⟩

/-! ## One drive for each attached disk -/

/-- The drive shows the data of a disk, the device in its slot. -/
structure Drive.Shows (c : Configuration) (m : Machine) (d : Drive) (device : Device)
    (backend : StorageBackend) : Prop where
  there : m.device? d.slot = some device
  storage : device.kind.storage? = some backend
  sort : d.optical = device.kind.isOptical
  target : backend.target c.volumeRoot m.id d.slot.deviceId = .ok d.path

theorem Drive.Shows.slot {d : Drive} {device : Device} {backend : StorageBackend}
    (h : d.Shows c m device backend) : device.slot = d.slot := Machine.slot_of_device? h.there

/-- The number of the next drive of a sort, where `disks` and `opticals` come before. -/
def counter (disks opticals : Nat) (optical : Bool) : Nat := if optical then opticals else disks

theorem counter_optical (i j : Nat) (optical : Bool) :
    counter i (j + 1) optical = counter i j optical + if true = optical then 1 else 0 := by
  cases optical
  · rfl
  · rfl

theorem counter_disk (i j : Nat) (optical : Bool) :
    counter (i + 1) j optical = counter i j optical + if false = optical then 1 else 0 := by
  cases optical
  · rfl
  · rfl

/-- The first attached disk becomes the first drive. It has the next number of its sort, and it
counts for the drives of its sort that come behind it. -/
theorem drivesFrom_cons_eq_ok {s : Slot} {slots : List Slot} {i j : Nat} {ds : List Drive}
    (h : drivesFrom c m b i j (s :: slots) = .ok ds) :
    ∃ d more, ds = d :: more ∧ d.slot = s ∧ d.index = counter i j d.optical ∧
      (∃ device backend, d.Shows c m device backend) ∧
      ∃ i' j', drivesFrom c m b i' j' slots = .ok more ∧ ∀ optical,
        counter i' j' optical = counter i j optical + if d.optical = optical then 1 else 0 := by
  rw [drivesFrom] at h
  split at h
  · cases h
  · next device hdevice =>
      split at h
      · cases h
      · next backend hbackend =>
          obtain ⟨path, hpath, h⟩ := Except.bind_eq_ok_iff.1 h
          split at h
          · next hoptical =>
              obtain ⟨more, hmore, h⟩ := Except.bind_eq_ok_iff.1 h
              exact ⟨⟨s, true, j, path⟩, more, (Except.ok.inj h).symm, rfl, rfl,
                ⟨device, backend, hdevice, hbackend, hoptical.symm, hpath⟩,
                i, j + 1, hmore, counter_optical i j⟩
          · next hdisk =>
              rw [Bool.not_eq_true] at hdisk
              obtain ⟨more, hmore, h⟩ := Except.bind_eq_ok_iff.1 h
              exact ⟨⟨s, false, i, path⟩, more, (Except.ok.inj h).symm, rfl, rfl,
                ⟨device, backend, hdevice, hbackend, hdisk.symm, hpath⟩,
                i + 1, j, hmore, counter_disk i j⟩

theorem slots_of_drivesFrom {slots : List Slot} {i j : Nat} {ds : List Drive}
    (h : drivesFrom c m b i j slots = .ok ds) : ds.map Drive.slot = slots := by
  induction slots generalizing i j ds with
  | nil =>
      cases h
      rfl
  | cons s slots ih =>
      obtain ⟨d, more, rfl, hslot, -, -, i', j', hmore, -⟩ := drivesFrom_cons_eq_ok h
      rw [List.map_cons, hslot, ih hmore]

theorem exists_shows {slots : List Slot} {i j : Nat} {ds : List Drive}
    (h : drivesFrom c m b i j slots = .ok ds) {d : Drive} (hd : d ∈ ds) :
    ∃ device backend, d.Shows c m device backend := by
  induction slots generalizing i j ds with
  | nil =>
      cases h
      cases hd
  | cons s slots ih =>
      obtain ⟨first, more, rfl, -, -, hshows, i', j', hmore, -⟩ := drivesFrom_cons_eq_ok h
      rcases List.mem_cons.1 hd with rfl | hd
      · exact hshows
      · exact ih hmore hd

/-! ## Numbers -/

/-- The drives of one sort have consecutive numbers. -/
theorem indices_of_drivesFrom {slots : List Slot} {i j : Nat} {ds : List Drive}
    (h : drivesFrom c m b i j slots = .ok ds) (optical : Bool) :
    (ds.filter fun d => d.optical = optical).map Drive.index =
      List.range' (counter i j optical) (ds.countP fun d => d.optical = optical) := by
  induction slots generalizing i j ds with
  | nil =>
      cases h
      rfl
  | cons s slots ih =>
      obtain ⟨d, more, rfl, -, hindex, -, i', j', hmore, hcounter⟩ := drivesFrom_cons_eq_ok h
      have hrest := ih hmore
      rw [hcounter optical] at hrest
      -- the first drive takes the number at the counter of its sort, and only that one moves on
      by_cases hsort : d.optical = optical
      · subst hsort
        rw [if_pos rfl] at hrest
        rw [List.filter_cons_of_pos (by simp), List.countP_cons_of_pos (by simp), List.map_cons,
          hrest, hindex, List.range'_succ]
      · rw [if_neg hsort, Nat.add_zero] at hrest
        rw [List.filter_cons_of_neg (by simpa using hsort),
          List.countP_cons_of_neg (by simpa using hsort), hrest]

theorem le_index_of_drivesFrom {slots : List Slot} {i j : Nat} {ds : List Drive}
    (h : drivesFrom c m b i j slots = .ok ds) {d : Drive} (hd : d ∈ ds) :
    counter i j d.optical ≤ d.index := by
  have hmem : d.index ∈ (ds.filter fun e => e.optical = d.optical).map Drive.index :=
    List.mem_map_of_mem (List.mem_filter.2 ⟨hd, by simp⟩)
  rw [indices_of_drivesFrom h, List.mem_range'] at hmem
  omega

/-- No two drives have the same name. -/
theorem nodup_names {slots : List Slot} {i j : Nat} {ds : List Drive}
    (h : drivesFrom c m b i j slots = .ok ds) : (ds.map Drive.name).Nodup := by
  induction slots generalizing i j ds with
  | nil =>
      cases h
      exact List.nodup_nil
  | cons s slots ih =>
      obtain ⟨d, more, rfl, -, hindex, -, i', j', hmore, hcounter⟩ := drivesFrom_cons_eq_ok h
      rw [List.map_cons, List.nodup_cons]
      refine ⟨fun hmem => ?_, ih hmore⟩
      obtain ⟨e, he, hname⟩ := List.mem_map.1 hmem
      obtain ⟨hsort, hnumber⟩ := Drive.name_injective hname
      -- the drives of this sort that come behind have higher numbers
      have hle := le_index_of_drivesFrom hmore he
      rw [hcounter, hsort, if_pos rfl, ← hindex, hnumber] at hle
      exact absurd hle (Nat.not_succ_le_self _)

/-- The drives of one sort are named in the order of their attachment. -/
theorem names_of_drives {ds : List Drive} (h : drives c m b = .ok ds) (optical : Bool) :
    (ds.filter fun d => d.optical = optical).map Drive.name =
      (List.range (ds.countP fun d => d.optical = optical)).map fun k =>
        Drive.start optical ++ decimal k := by
  have hindices := indices_of_drivesFrom h optical
  have hzero : counter 0 0 optical = 0 := by
    cases optical
    · rfl
    · rfl
  rw [hzero, ← List.range_eq_range'] at hindices
  rw [← hindices, List.map_map]
  refine List.map_congr_left fun d hd => ?_
  have hsort : d.optical = optical := by simpa using (List.mem_filter.1 hd).2
  rw [Drive.name_eq, hsort]
  rfl

end Guestkeeper.Launch
