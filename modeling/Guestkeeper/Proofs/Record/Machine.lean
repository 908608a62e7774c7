import Guestkeeper.Proofs.Machine.Soundness
import Guestkeeper.Proofs.Record.Devices
import Guestkeeper.Record.Machine

set_option autoImplicit false

/-! # Machines read back

A machine that keeps the rules of records is read back from its written form, but for the path
it came from. These rules are also all that reading makes sure of: a machine that was read keeps
them, whatever it was read from.
-/

namespace Guestkeeper.Machine

open Guestkeeper.Record

/-! ## The written form -/

theorem written_ofJson (m : Machine) : Written.ofJson m.toJson.canonical = .ok
    ⟨m.id, m.name, m.comment, m.cpu, m.memory, m.flags, m.devices.entries, m.boots.entries⟩ := by
  refine part_canonical_eq_ok (by simp) fun members h => seq_eq_ok (seq_eq_ok (seq_eq_ok
    (seq_eq_ok (seq_eq_ok (seq_eq_ok (seq_eq_ok (map_eq_ok ?_) ?_) ?_) ?_) ?_) ?_) ?_) ?_
  · exact h.field rfl m.id.ofJson_toJson
  · exact h.field rfl (text_eq_ok m.name)
  · exact h.fieldWith rfl (text_eq_ok m.comment) ""
  · exact h.field rfl m.cpu.ofJson_toJson
  · exact h.field rfl m.memory.ofJson_toJson
  · exact h.fieldWith rfl m.flags.ofJson_toJson {}
  · exact h.fieldWith rfl (list_eq_ok fun d _ => d.ofJson_toJson) []
  · exact h.fieldWith rfl (list_eq_ok fun b _ => b.ofJson_toJson) []

theorem fits_toJson (depth : Nat) (m : Machine) : m.toJson.Fits (depth + 5) := by
  have hcpu := Topology.fits_toJson (depth + 1) m.cpu
  have hmemory := Memory.fits_toJson (depth + 3) m.memory
  have hflags := Flags.fits_toJson (depth + 3) m.flags
  have hdevice := Device.fits_toJson depth
  have hboot := BootConfiguration.fits_toJson depth
  simp [toJson, hcpu, hmemory, hflags, hdevice, hboot]

/-! ## Checks while reading -/

theorem storeDevice_eq_ok_iff {t t' : Table Device.slot} {d : Device} :
    storeDevice t d = .ok t' ↔
      d.kind.validate = .ok () ∧ (∀ e ∈ t.entries, e.slot ≠ d.slot) ∧ t' = t.insert d := by
  have hfree : ¬t.contains d.slot = true ↔ ∀ e ∈ t.entries, e.slot ≠ d.slot := by
    rw [Bool.not_eq_true, Table.contains_eq_false_iff]
  rw [storeDevice, Except.bind_eq_ok_iff]
  constructor
  · rintro ⟨_, hvalid, h⟩
    obtain ⟨hnew, hend⟩ := Except.ite_error_eq_ok_iff.1 h
    exact ⟨hvalid, hfree.1 hnew, (Except.ok.inj hend).symm⟩
  · rintro ⟨hvalid, hnew, rfl⟩
    exact ⟨(), hvalid, Except.ite_error_eq_ok_iff.2 ⟨hfree.2 hnew, rfl⟩⟩

/-- The devices of a machine with valid kinds are stored again. -/
theorem foldlM_storeDevice {m : Machine} (h : m.KindsValid) :
    m.devices.entries.foldlM storeDevice ∅ = .ok m.devices := by
  refine Table.foldlM_store_entries m.devices fun t d hd hfree => ?_
  exact storeDevice_eq_ok_iff.2 ⟨h d.slot d (device?_eq_some_iff.2 ⟨hd, rfl⟩), hfree, rfl⟩

theorem foldlM_storeBoot (m : Machine) : m.boots.entries.foldlM storeBoot ∅ = .ok m.boots := by
  refine Table.foldlM_store_entries m.boots fun t b _ hfree => ?_
  rw [storeBoot, Table.contains_eq_false_iff.2 hfree]
  rfl

/-- Devices that were stored one by one have valid kinds. -/
theorem validate_of_foldlM_storeDevice {ds : List Device} {t : Table Device.slot}
    (h : ds.foldlM storeDevice ∅ = .ok t) : ∀ d ∈ t.entries, d.kind.validate = .ok () := by
  refine Except.foldlM_invariant (fun t => ∀ d ∈ t.entries, d.kind.validate = .ok ()) ?_
    (fun d hd => absurd hd List.not_mem_nil) h
  intro t t' d _ ht hstore e he
  obtain ⟨hvalid, -, rfl⟩ := storeDevice_eq_ok_iff.1 hstore
  rcases Table.mem_insert_iff.1 he with rfl | ⟨he, -⟩
  · exact hvalid
  · exact ht e he

/-- A machine that was read keeps the rules of records and comes from nowhere. -/
theorem recordable_of_build {w : Written} {m : Machine} (h : w.build = .ok m) :
    m.source = none ∧ m.Recordable := by
  obtain ⟨_, hname, h⟩ := Except.bind_eq_ok_iff.1 h
  obtain ⟨devices, hdevices, h⟩ := Except.bind_eq_ok_iff.1 h
  obtain ⟨_, hvolumes, h⟩ := Except.bind_eq_ok_iff.1 h
  obtain ⟨boots, -, h⟩ := Except.bind_eq_ok_iff.1 h
  cases h
  refine ⟨rfl, hname, fun s d hd => ?_, checkVolumes_devices_iff.1 hvolumes⟩
  exact validate_of_foldlM_storeDevice hdevices d (device?_eq_some_iff.1 hd).1

theorem recordable_of_ofJson {j : Json} {m : Machine} (h : ofJson j = .ok m) :
    m.source = none ∧ m.Recordable := by
  obtain ⟨w, -, h⟩ := Except.bind_eq_ok_iff.1 h
  exact recordable_of_build (Except.mapError_eq_ok_iff.1 h)

/-- A machine that keeps the rules of records passes the checks again. -/
theorem ofJson_toJson {m : Machine} (h : m.Recordable) :
    ofJson m.toJson.canonical = .ok { m with source := none } := by
  refine Except.bind_eq_ok_iff.2 ⟨_, m.written_ofJson, checked_eq_ok ?_⟩
  refine Except.bind_eq_ok_iff.2 ⟨(), h.name, ?_⟩
  refine Except.bind_eq_ok_iff.2 ⟨m.devices, foldlM_storeDevice h.kinds, ?_⟩
  refine Except.bind_eq_ok_iff.2 ⟨(), checkVolumes_devices_iff.2 h.volumes, ?_⟩
  exact Except.bind_eq_ok_iff.2 ⟨m.boots, m.foldlM_storeBoot, rfl⟩

end Guestkeeper.Machine
