import Guestkeeper.Machine.Topology
import Guestkeeper.Proofs.Table
import Mathlib.Tactic

set_option autoImplicit false

/-! # What makes a topology and a size of memory

Factors, pins and sizes are accepted exactly when the exact numbers fit, although products and
sums are formed step by step in words. No step stands in the way of what fits: with positive
factors the product of the first two is at most the whole, and a part of a sum is at most the sum.
So the number of processors is the exact product of the factors and the combined size of the memory
the exact sum.
-/

namespace Guestkeeper

open Guestkeeper.Word

namespace Topology

/-! ## Processors -/

theorem count_eq_cpus (t : Topology) : t.count.toNat = t.cpus := t.count_eq

theorem cpus_lt (t : Topology) : t.cpus < UInt32.size := t.count_eq_cpus ▸ t.count.toNat_lt

/-- The first product is no larger than the whole one, so only the whole one has to fit. -/
theorem processors?_eq_some_iff {sockets cores threads n : UInt32} (h : 0 < threads.toNat) :
    processors? sockets cores threads = some n ↔
      n.toNat = sockets.toNat * cores.toNat * threads.toNat := by
  refine ⟨eq_of_processors?, fun hn => ?_⟩
  have hle : sockets.toNat * cores.toNat ≤ n.toNat := hn ▸ Nat.le_mul_of_pos_right _ h
  have hlt : sockets.toNat * cores.toNat < UInt32.size := Nat.lt_of_le_of_lt hle n.toNat_lt
  have hfirst : (UInt32.ofNat (sockets.toNat * cores.toNat)).toNat = sockets.toNat * cores.toNat :=
    UInt32.toNat_ofNat_of_lt' hlt
  refine Option.bind_eq_some_iff.2 ⟨_, product32?_eq_some_iff.2 hfirst.symm, ?_⟩
  rw [product32?_eq_some_iff, hfirst, hn]

theorem processors?_eq_none_iff {sockets cores threads : UInt32} (h : 0 < threads.toNat) :
    processors? sockets cores threads = none ↔
      UInt32.size ≤ sockets.toNat * cores.toNat * threads.toNat := by
  rw [← not_iff_not, ← ne_eq, Option.ne_none_iff_exists', not_le]
  simp only [processors?_eq_some_iff h]
  constructor
  · rintro ⟨n, hn⟩
    rw [← hn]
    exact n.toNat_lt
  · intro hlt
    exact ⟨.ofNat _, UInt32.toNat_ofNat_of_lt' hlt⟩

/-- A topology is told by its factors and its pins. -/
theorem eq_of_parts {t u : Topology} (hsockets : t.sockets = u.sockets)
    (hcores : t.cores = u.cores) (hthreads : t.threads = u.threads)
    (hpins : ∀ p, p ∈ t.pins.entries ↔ p ∈ u.pins.entries) : t = u := by
  have hcount : t.count = u.count := by
    rw [← UInt32.toNat_inj, t.count_eq, u.count_eq, hsockets, hcores, hthreads]
  have htable : t.pins = u.pins := Table.eq_iff_mem.2 hpins
  cases t
  cases u
  simp_all

/-- The conditions, in exact numbers, for factors to make a topology of so many processors, if a
number is given, with these pins. -/
structure Admissible (sockets cores threads : UInt32) (cpus? : Option UInt32)
    (pins : List CpuPin) : Prop where
  positive : 1 ≤ sockets.toNat ∧ 1 ≤ cores.toNat ∧ 1 ≤ threads.toNat
  fits : sockets.toNat * cores.toNat * threads.toNat < 2 ^ 32
  given : ∀ cpus, cpus? = some cpus →
    cpus.toNat = sockets.toNat * cores.toNat * threads.toNat
  pinned : ∀ p ∈ pins, p.guest.toNat < sockets.toNat * cores.toNat * threads.toNat

/-- The topology has these factors, and these pins in whatever order. -/
structure Consists (t : Topology) (sockets cores threads : UInt32) (pins : List CpuPin) : Prop where
  sockets : t.sockets = sockets
  cores : t.cores = cores
  threads : t.threads = threads
  pins : ∀ p, p ∈ t.pins.entries ↔ p ∈ pins

theorem Consists.cpus_eq {t : Topology} {sockets cores threads : UInt32} {pins : List CpuPin}
    (h : t.Consists sockets cores threads pins) :
    t.cpus = sockets.toNat * cores.toNat * threads.toNat := by
  rw [cpus, h.sockets, h.cores, h.threads]

theorem Admissible.exists_consists {sockets cores threads : UInt32} {cpus? : Option UInt32}
    {pins : List CpuPin} (h : Admissible sockets cores threads cpus? pins) :
    ∃ t : Topology, t.Consists sockets cores threads pins := by
  have hcount : (UInt32.ofNat (sockets.toNat * cores.toNat * threads.toNat)).toNat =
      sockets.toNat * cores.toNat * threads.toNat := UInt32.toNat_ofNat_of_lt' h.fits
  have hmem : ∀ p, p ∈ (Table.ofList pins : Table CpuPin.place).entries ↔ p ∈ pins :=
    fun p => Table.mem_ofList_iff fun _ _ => CpuPin.place_injective
  refine ⟨⟨sockets, cores, threads, _, Table.ofList pins, h.positive, hcount, fun p hp => ?_⟩,
    ⟨rfl, rfl, rfl, hmem⟩⟩
  rw [UInt32.lt_iff_toNat_lt, hcount]
  exact h.pinned p ((hmem p).1 hp)

/-- The topology without its pins. -/
def unpinned (t : Topology) : Topology :=
  { t with pins := ∅, guest_lt := fun _ h => nomatch h }

theorem Consists.unpinned {t : Topology} {sockets cores threads : UInt32} {pins : List CpuPin}
    (h : t.Consists sockets cores threads pins) :
    t.unpinned.Consists sockets cores threads [] :=
  ⟨h.sockets, h.cores, h.threads, fun _ => Iff.rfl⟩

theorem ofFactors_eq_ok_iff {sockets cores threads : UInt32} {cpus? : Option UInt32}
    {t : Topology} : ofFactors sockets cores threads cpus? = .ok t ↔
      Admissible sockets cores threads cpus? [] ∧ t.Consists sockets cores threads [] := by
  constructor
  · intro h
    rw [ofFactors] at h
    split at h
    swap
    · cases h
    next hpositive =>
    split at h
    · cases h
    next product hproduct =>
    dsimp only at h
    split at h
    swap
    · cases h
    next hcpus =>
    cases h
    have hexact := eq_of_processors? hproduct
    refine ⟨⟨hpositive, hexact ▸ product.toNat_lt, ?_, by simp⟩, ⟨rfl, rfl, rfl, fun p => Iff.rfl⟩⟩
    rintro cpus rfl
    rw [← hexact, ← hcpus]
    rfl
  · rintro ⟨h, ht⟩
    have hpositive : 0 < sockets.toNat ∧ 0 < cores.toNat ∧ 0 < threads.toNat := h.positive
    rw [ofFactors, dif_pos hpositive]
    split
    · next hnone =>
        exact absurd h.fits (not_lt.2 ((processors?_eq_none_iff hpositive.2.2).1 hnone))
    · next product hproduct =>
        have hcpus : cpus?.getD product = product := by
          cases cpus? with
          | none => rfl
          | some cpus =>
              rw [Option.getD_some, ← UInt32.toNat_inj, h.given cpus rfl,
                eq_of_processors? hproduct]
        dsimp only
        rw [dif_pos hcpus]
        refine congrArg Except.ok (eq_of_parts ht.sockets.symm ht.cores.symm ht.threads.symm ?_)
        exact fun p => (ht.pins p).symm

theorem withPins_eq_ok_iff {t u : Topology} {pins : List CpuPin} :
    t.withPins pins = .ok u ↔
      (∀ p ∈ pins, p.guest.toNat < t.cpus) ∧ u.Consists t.sockets t.cores t.threads pins := by
  have hmem : ∀ p, p ∈ (Table.ofList pins : Table CpuPin.place).entries ↔ p ∈ pins :=
    fun p => Table.mem_ofList_iff fun _ _ => CpuPin.place_injective
  have hlt : ∀ p : CpuPin, t.count ≤ p.guest ↔ ¬p.guest.toNat < t.cpus := fun p => by
    rw [UInt32.le_iff_toNat_le, t.count_eq_cpus, not_lt]
  unfold withPins
  dsimp only
  split
  · next p hp =>
      have hpin : p ∈ pins := (hmem p).1 (List.mem_of_find?_eq_some hp)
      have houtside : t.count ≤ p.guest := by simpa using List.find?_some hp
      constructor
      · intro h
        cases h
      · rintro ⟨hall, -⟩
        exact absurd (hall p hpin) ((hlt p).1 houtside)
  · next hnone =>
      have hall : ∀ p ∈ pins, p.guest.toNat < t.cpus := by
        intro p hp
        have hinside : ¬t.count ≤ p.guest := by
          simpa using List.find?_eq_none.1 hnone p ((hmem p).2 hp)
        exact not_not.1 (mt (hlt p).2 hinside)
      rw [Except.ok.injEq]
      constructor
      · rintro rfl
        exact ⟨hall, ⟨rfl, rfl, rfl, hmem⟩⟩
      · rintro ⟨-, hu⟩
        refine eq_of_parts hu.sockets.symm hu.cores.symm hu.threads.symm fun p => ?_
        rw [hu.pins]
        exact hmem p

/-- Factors and pins are accepted exactly when the exact numbers allow it. -/
theorem pinned_eq_ok_iff {sockets cores threads : UInt32} {cpus? : Option UInt32}
    {pins : List CpuPin} {t : Topology} :
    (ofFactors sockets cores threads cpus? >>= fun u => u.withPins pins) = .ok t ↔
      Admissible sockets cores threads cpus? pins ∧ t.Consists sockets cores threads pins := by
  rw [Except.bind_eq_ok_iff]
  constructor
  · rintro ⟨u, hu, ht⟩
    obtain ⟨hadmissible, hconsists⟩ := ofFactors_eq_ok_iff.1 hu
    obtain ⟨hpins, hresult⟩ := withPins_eq_ok_iff.1 ht
    rw [hconsists.cpus_eq] at hpins
    refine ⟨{ hadmissible with pinned := hpins }, ?_⟩
    rwa [hconsists.sockets, hconsists.cores, hconsists.threads] at hresult
  · rintro ⟨h, ht⟩
    have hfactors : Admissible sockets cores threads cpus? [] := { h with pinned := by simp }
    have hpins : ∀ p ∈ pins, p.guest.toNat < t.unpinned.cpus := by
      rw [ht.unpinned.cpus_eq]
      exact h.pinned
    refine ⟨t.unpinned, ofFactors_eq_ok_iff.2 ⟨hfactors, ht.unpinned⟩, ?_⟩
    exact withPins_eq_ok_iff.2 ⟨hpins, ⟨rfl, rfl, rfl, ht.pins⟩⟩

theorem exists_pinned_iff {sockets cores threads : UInt32} {cpus? : Option UInt32}
    {pins : List CpuPin} :
    (∃ t, (ofFactors sockets cores threads cpus? >>= fun u => u.withPins pins) = .ok t) ↔
      Admissible sockets cores threads cpus? pins := by
  simp only [pinned_eq_ok_iff, exists_and_left, and_iff_left_iff_imp]
  exact Admissible.exists_consists

end Topology

/-! ## Memory -/

namespace Memory

theorem size?_eq_some_iff {gigabytes megabytes n : UInt64} :
    size? gigabytes megabytes = some n ↔
      n.toNat = 1024 * gigabytes.toNat + megabytes.toNat := by
  have hfactor : (1024 : UInt64).toNat = 1024 := rfl
  rw [size?, Option.bind_eq_some_iff]
  simp only [product64?_eq_some_iff, sum64?_eq_some_iff, hfactor]
  constructor
  · rintro ⟨product, hproduct, hn⟩
    omega
  · intro hn
    -- the first step fits because the product is a part of the sum
    have hlt : gigabytes.toNat * 1024 < UInt64.size := by
      have := n.toNat_lt
      have hsize : UInt64.size = 2 ^ 64 := rfl
      omega
    have hproduct : (UInt64.ofNat (gigabytes.toNat * 1024)).toNat = gigabytes.toNat * 1024 :=
      UInt64.toNat_ofNat_of_lt' hlt
    exact ⟨_, hproduct.symm, by omega⟩

theorem exists_size?_iff {gigabytes megabytes : UInt64} :
    (∃ n, size? gigabytes megabytes = some n) ↔
      1024 * gigabytes.toNat + megabytes.toNat < UInt64.size := by
  constructor
  · rintro ⟨n, hn⟩
    exact total_lt_of_size? hn
  · intro h
    exact ⟨_, size?_eq_some_iff.2 (UInt64.toNat_ofNat_of_lt' h)⟩

theorem ofSizes_eq_ok_iff {gigabytes megabytes : UInt64} {m : Memory} :
    ofSizes gigabytes megabytes = .ok m ↔ m.gigabytes = gigabytes ∧ m.megabytes = megabytes := by
  constructor
  · intro h
    rw [ofSizes] at h
    split at h
    · cases h
      exact ⟨rfl, rfl⟩
    · cases h
  · rintro ⟨rfl, rfl⟩
    obtain ⟨n, hn⟩ := exists_size?_iff.2 m.total_lt
    rw [ofSizes]
    split
    · rfl
    · next hnone =>
        rw [hn] at hnone
        cases hnone

theorem exists_ofSizes_iff {gigabytes megabytes : UInt64} :
    (∃ m, ofSizes gigabytes megabytes = .ok m) ↔
      1024 * gigabytes.toNat + megabytes.toNat < 2 ^ 64 := by
  simp only [ofSizes_eq_ok_iff]
  constructor
  · rintro ⟨m, rfl, rfl⟩
    exact m.total_lt
  · intro h
    exact ⟨⟨gigabytes, megabytes, h⟩, rfl, rfl⟩

/-- The combined size of a memory is computed without wrapping around. -/
theorem toNat_size (m : Memory) : m.size.toNat = m.total := by
  have hlt := m.total_lt
  have hfactor : (1024 : UInt64).toNat = 1024 := rfl
  have hsize : UInt64.size = 2 ^ 64 := rfl
  rw [size, UInt64.toNat_add, UInt64.toNat_mul, hfactor, total]
  omega

end Memory

end Guestkeeper
