import Guestkeeper.Proofs.Machine.Topology
import Guestkeeper.Proofs.Record.Reading
import Guestkeeper.Proofs.Table
import Guestkeeper.Proofs.Text.Addresses
import Guestkeeper.Record.Scalars

set_option autoImplicit false

/-! # Addresses, processors, memory and flags read back

For each type two statements: what is written fits, and it is read back from the value that the
members in order make up. The checks that reading makes again are the invariants that the types
carry.
-/

namespace Guestkeeper

open Guestkeeper.Record

/-! ## Slots and identifiers -/

theorem Slot.ofJson_toJson (s : Slot) : Slot.ofJson s.toJson.canonical = .ok s :=
  parsed_eq_ok s.ofText_text

@[simp] theorem Slot.fits_toJson (depth : Nat) (s : Slot) : s.toJson.Fits depth :=
  Json.fits_text depth s.text

theorem Uuid.ofJson_toJson (id : Uuid) : Uuid.ofJson id.toJson.canonical = .ok id := by
  refine Except.bind_eq_ok_iff.2 ⟨id.text, rfl, ?_⟩
  simp only [id.ofText?_text]
  rfl

@[simp] theorem Uuid.fits_toJson (depth : Nat) (id : Uuid) : id.toJson.Fits depth :=
  Json.fits_text depth id.text

/-! ## Processors -/

theorem CpuPin.ofJson_toJson (p : CpuPin) : CpuPin.ofJson p.toJson.canonical = .ok p := by
  refine part_canonical_eq_ok (by simp) fun members h => seq_eq_ok (map_eq_ok ?_) ?_
  · exact h.field rfl (word32_eq_ok p.host)
  · exact h.field rfl (word32_eq_ok p.guest)

theorem CpuPin.fits_toJson (depth : Nat) (p : CpuPin) : p.toJson.Fits (depth + 1) := by
  simp [CpuPin.toJson]

namespace Topology

/-- What is written down of a topology is read as it is, whether or not it makes one. -/
theorem Written.ofJson_toJson (w : Written) : Written.ofJson w.toJson.canonical = .ok w := by
  refine part_canonical_eq_ok (by simp) fun members h =>
    seq_eq_ok (seq_eq_ok (seq_eq_ok (seq_eq_ok (map_eq_ok ?_) ?_) ?_) ?_) ?_
  · exact h.field rfl (word32_eq_ok w.sockets)
  · exact h.field rfl (word32_eq_ok w.cores)
  · exact h.field rfl (word32_eq_ok w.threads)
  · exact h.field rfl (word32_eq_ok w.cpus)
  · exact h.fieldWith rfl (list_eq_ok fun p _ => p.ofJson_toJson) []

/-- The factors and the pins of a topology pass their checks again. -/
theorem build_written (t : Topology) : t.written.build = .ok t := by
  have hadmissible : Admissible t.sockets t.cores t.threads (some t.count) t.pins.entries := {
    positive := t.positive
    fits := t.cpus_lt
    given := fun cpus hcpus => Option.some.inj hcpus ▸ t.count_eq
    pinned := fun p hp => t.count_eq ▸ UInt32.lt_iff_toNat_lt.1 (t.guest_lt p hp) }
  exact pinned_eq_ok_iff.2 ⟨hadmissible, ⟨rfl, rfl, rfl, fun _ => Iff.rfl⟩⟩

theorem ofJson_toJson (t : Topology) : ofJson t.toJson.canonical = .ok t :=
  Except.bind_eq_ok_iff.2 ⟨_, t.written.ofJson_toJson, checked_eq_ok t.build_written⟩

theorem fits_toJson (depth : Nat) (t : Topology) : t.toJson.Fits (depth + 3) := by
  have hpins : ∀ p : CpuPin, p.toJson.Fits (depth + 1) := CpuPin.fits_toJson depth
  simp [toJson, Written.toJson, hpins]

end Topology

/-! ## Memory -/

namespace Memory

theorem Written.ofJson_toJson (w : Written) : Written.ofJson w.toJson.canonical = .ok w := by
  refine part_canonical_eq_ok (by simp) fun members h => seq_eq_ok (map_eq_ok ?_) ?_
  · exact h.field rfl (word64_eq_ok w.gigabytes)
  · exact h.field rfl (word64_eq_ok w.megabytes)

theorem ofJson_toJson (m : Memory) : ofJson m.toJson.canonical = .ok m :=
  Except.bind_eq_ok_iff.2
    ⟨_, Written.ofJson_toJson ⟨m.gigabytes, m.megabytes⟩,
      checked_eq_ok (ofSizes_eq_ok_iff.2 ⟨rfl, rfl⟩)⟩

theorem fits_toJson (depth : Nat) (m : Memory) : m.toJson.Fits (depth + 1) := by
  simp [toJson, Written.toJson]

end Memory

/-! ## Flags -/

namespace Flags

theorem flagField_eq_ok {members : List (String × Json)} {f : Flags}
    (h : Holds members (Flag.all.map fun flag => (flag.recordName, .bool (f.get flag))))
    (flag : Flag) : flagField flag ⟨members, false⟩ = .ok (f.get flag) := by
  have hbool : bool (Json.bool (f.get flag)).canonical = .ok (f.get flag) := rfl
  have hlookup : (Flag.all.map fun flag => (flag.recordName, Json.bool (f.get flag))).lookup
      flag.recordName = some (.bool (f.get flag)) := by
    cases flag <;> rfl
  exact h.fieldWith hlookup hbool (Flags.get {} flag)

theorem ofJson_toJson (f : Flags) : ofJson f.toJson.canonical = .ok f := by
  have hnames : ((Flag.all.map fun flag => (flag.recordName, Json.bool (f.get flag))).map
      Prod.fst).Nodup := by
    rw [List.map_map]
    exact (by decide : (Flag.all.map Flag.recordName).Nodup)
  refine part_canonical_eq_ok hnames fun members h => ?_
  exact seq_eq_ok (seq_eq_ok (seq_eq_ok (seq_eq_ok (seq_eq_ok (seq_eq_ok (seq_eq_ok (map_eq_ok
    (flagField_eq_ok h _)) (flagField_eq_ok h _)) (flagField_eq_ok h _)) (flagField_eq_ok h _))
    (flagField_eq_ok h _)) (flagField_eq_ok h _)) (flagField_eq_ok h _)) (flagField_eq_ok h _)

theorem fits_toJson (depth : Nat) (f : Flags) : f.toJson.Fits (depth + 1) := by
  simp [toJson]

end Flags

/-! ## Exactness -/

theorem Topology.ofJson_eq_ok_iff {j : Json} {t : Topology} :
    ofJson j = .ok t ↔ ∃ w, Written.ofJson j = .ok w ∧
      (ofFactors w.sockets w.cores w.threads (some w.cpus) >>= fun u => u.withPins w.pins) =
        .ok t := by
  rw [ofJson, Except.bind_eq_ok_iff]
  simp only [checked_eq_ok_iff]
  rfl

theorem Memory.ofJson_eq_ok_iff {j : Json} {m : Memory} :
    ofJson j = .ok m ↔ ∃ w, Written.ofJson j = .ok w ∧
      ofSizes w.gigabytes w.megabytes = .ok m := by
  rw [ofJson, Except.bind_eq_ok_iff]
  simp only [checked_eq_ok_iff]

/-- **Processors and memory are exact at the limits.** Factors, a number of processors and pins are
accepted exactly when the exact numbers allow it, and a size exactly when it fits in 64 bits. Of
every topology, wherever it comes from, the number of processors is the exact product of the
factors and every pin is below it; of every memory the combined size is the exact sum, and no step
of its computation leaves the 64 bits. What is read from a record is what the same numbers make
when an operator gives them, and all such numbers can be written and read. -/
theorem sizes_exact :
    (∀ sockets cores threads cpus? pins,
      ((∃ t, (Topology.ofFactors sockets cores threads cpus? >>= fun u => u.withPins pins) =
          .ok t) ↔ Topology.Admissible sockets cores threads cpus? pins) ∧
      ∀ t, (Topology.ofFactors sockets cores threads cpus? >>= fun u => u.withPins pins) = .ok t →
        t.Consists sockets cores threads pins) ∧
    (∀ gigabytes megabytes,
      ((∃ m, Memory.ofSizes gigabytes megabytes = .ok m) ↔
        1024 * gigabytes.toNat + megabytes.toNat < 2 ^ 64) ∧
      ∀ m, Memory.ofSizes gigabytes megabytes = .ok m →
        m.gigabytes = gigabytes ∧ m.megabytes = megabytes) ∧
    (∀ t : Topology, t.count.toNat = t.sockets.toNat * t.cores.toNat * t.threads.toNat ∧
      ∀ p ∈ t.pins.entries,
        p.guest.toNat < t.sockets.toNat * t.cores.toNat * t.threads.toNat) ∧
    (∀ m : Memory, Memory.size? m.gigabytes m.megabytes = some m.size ∧
      m.size.toNat = 1024 * m.gigabytes.toNat + m.megabytes.toNat) ∧
    (∀ w : Topology.Written, Topology.Written.ofJson w.toJson.canonical = .ok w) ∧
    (∀ j t, Topology.ofJson j = .ok t ↔ ∃ w, Topology.Written.ofJson j = .ok w ∧
      (Topology.ofFactors w.sockets w.cores w.threads (some w.cpus) >>= fun u =>
        u.withPins w.pins) = .ok t) ∧
    (∀ w : Memory.Written, Memory.Written.ofJson w.toJson.canonical = .ok w) ∧
    ∀ j m, Memory.ofJson j = .ok m ↔ ∃ w, Memory.Written.ofJson j = .ok w ∧
      Memory.ofSizes w.gigabytes w.megabytes = .ok m := by
  refine ⟨fun sockets cores threads cpus? pins => ⟨Topology.exists_pinned_iff, fun t ht => ?_⟩,
    fun gigabytes megabytes => ⟨Memory.exists_ofSizes_iff, fun m => Memory.ofSizes_eq_ok_iff.1⟩,
    fun t => ⟨t.count_eq, fun p hp => ?_⟩,
    fun m => ⟨Memory.size?_eq_some_iff.2 m.toNat_size, m.toNat_size⟩,
    Topology.Written.ofJson_toJson, fun j t => Topology.ofJson_eq_ok_iff,
    Memory.Written.ofJson_toJson, fun j m => Memory.ofJson_eq_ok_iff⟩
  · exact (Topology.pinned_eq_ok_iff.1 ht).2
  · rw [← t.count_eq]
    exact UInt32.lt_iff_toNat_lt.1 (t.guest_lt p hp)

/-- As many processors as a word can count are accepted, with the last of them pinned, and one more
is not; likewise for the last megabyte. -/
theorem sizes_exact_largest :
    (∃ t, (Topology.ofFactors 65535 65537 1 (some 4294967295) >>= fun u =>
      u.withPins [⟨0, 4294967294⟩]) = .ok t) ∧
    (¬∃ t, (Topology.ofFactors 65536 32768 2 none >>= fun u => u.withPins []) = .ok t) ∧
    (∃ m, Memory.ofSizes 18014398509481983 1023 = .ok m) ∧
    ¬∃ m, Memory.ofSizes 18014398509481983 1024 = .ok m := by
  have hproduct : (65535 : UInt32).toNat * (65537 : UInt32).toNat * (1 : UInt32).toNat =
      4294967295 := by decide
  refine ⟨(sizes_exact.1 _ _ _ _ _).1.2 ⟨by decide, by decide, ?_, ?_⟩, fun h => ?_,
    (sizes_exact.2.1 _ _).1.2 (by decide), fun h => ?_⟩
  · rintro cpus ⟨⟩
    decide
  · decide
  · exact absurd ((sizes_exact.1 _ _ _ _ _).1.1 h).fits (by decide)
  · exact absurd ((sizes_exact.2.1 _ _).1.1 h) (by decide)

end Guestkeeper
