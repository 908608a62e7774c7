import Guestkeeper.Error
import Guestkeeper.Word

set_option autoImplicit false

/-! # Processors and memory

A guest's processors are described by sockets, cores per socket and threads per core, with
pins that bind guest processors to host processors. The number of processors is the product
of the three factors. Memory is a number of gigabytes and a number of megabytes. Both are
bounded so that the numbers on the hypervisor's command line, which are computed in words of 32
and of 64 bits, are exact. -/

namespace Guestkeeper

open Guestkeeper.Word

/-- Binds a guest processor to a host processor. -/
structure CpuPin where
  host : UInt32
  guest : UInt32
  deriving DecidableEq, Repr

/-- The place of a pin among others: by host processor, then by guest processor. -/
def CpuPin.place (p : CpuPin) : Nat := UInt32.size * p.host.toNat + p.guest.toNat

theorem CpuPin.place_injective {p q : CpuPin} (h : p.place = q.place) : p = q := by
  have hp := p.guest.toNat_lt
  have hq := q.guest.toNat_lt
  simp only [place, UInt32.size] at h
  cases p; cases q
  simp only [CpuPin.mk.injEq, ← UInt32.toNat_inj] at *
  omega

structure Topology where
  sockets : UInt32
  cores : UInt32
  threads : UInt32
  /-- The number of guest processors. -/
  count : UInt32
  pins : Table CpuPin.place
  positive : 0 < sockets.toNat ∧ 0 < cores.toNat ∧ 0 < threads.toNat
  count_eq : count.toNat = sockets.toNat * cores.toNat * threads.toNat
  guest_lt : ∀ p ∈ pins.entries, p.guest < count
  deriving DecidableEq

namespace Topology

/-- The product of the factors, as an exact number. -/
def cpus (t : Topology) : Nat := t.sockets.toNat * t.cores.toNat * t.threads.toNat

/-- The product of the factors, multiplied one after another. -/
def processors? (sockets cores threads : UInt32) : Option UInt32 :=
  (product32? sockets cores).bind fun n => product32? n threads

theorem eq_of_processors? {sockets cores threads count : UInt32}
    (h : processors? sockets cores threads = some count) :
    count.toNat = sockets.toNat * cores.toNat * threads.toNat := by
  obtain ⟨n, hn, hcount⟩ := Option.bind_eq_some_iff.1 h
  rw [← product32?_eq_some_iff.1 hcount, product32?_eq_some_iff.1 hn]

/-- A topology without pins. The number of processors may be given too; it must then be the
product of the factors. -/
def ofFactors (sockets cores threads : UInt32) (cpus? : Option UInt32) : Except Error Topology :=
  if hp : 0 < sockets.toNat ∧ 0 < cores.toNat ∧ 0 < threads.toNat then
    match h : processors? sockets cores threads with
    | none => invalid .topologyOverflow
    | some product =>
      let cpus := cpus?.getD product
      if hc : cpus = product then
        .ok ⟨sockets, cores, threads, cpus, ∅, hp, hc ▸ eq_of_processors? h,
          fun _ h => nomatch h⟩
      else invalid (.cpuCount cpus sockets cores threads)
  else invalid (.zeroFactor sockets cores threads)

/-- One socket with `count` cores of one thread each. -/
def ofCount (count : UInt32) : Except Error Topology := ofFactors 1 count 1 none

/-- The topology with these pins instead of its own. The first pin, in their order, whose
guest processor does not exist is reported. -/
def withPins (t : Topology) (pins : List CpuPin) : Except Error Topology :=
  let table : Table CpuPin.place := Table.ofList pins
  match h : table.entries.find? fun p => t.count ≤ p.guest with
  | some p => invalid (.pinOutside p.guest t.count.toNat)
  | none =>
    .ok { t with
      pins := table
      guest_lt := fun p hp => by
        have := List.find?_eq_none.1 h p hp
        have hlt : ¬ t.count ≤ p.guest := by simpa using this
        exact UInt32.not_le.1 hlt }

/-- One processor. -/
def single : Topology :=
  ⟨1, 1, 1, 1, ∅, by decide, by decide, fun _ h => nomatch h⟩

instance : Inhabited Topology := ⟨single⟩

end Topology

structure Memory where
  gigabytes : UInt64
  megabytes : UInt64
  total_lt : 1024 * gigabytes.toNat + megabytes.toNat < UInt64.size
  deriving DecidableEq

namespace Memory

/-- The combined size in megabytes, as an exact number. -/
def total (m : Memory) : Nat := 1024 * m.gigabytes.toNat + m.megabytes.toNat

/-- The combined size in megabytes, computed in 64 bits. -/
def size (m : Memory) : UInt64 := m.gigabytes * 1024 + m.megabytes

/-- The combined size of so much memory, if it fits in 64 bits. -/
def size? (gigabytes megabytes : UInt64) : Option UInt64 :=
  (product64? gigabytes 1024).bind fun n => sum64? n megabytes

theorem total_lt_of_size? {gigabytes megabytes size : UInt64}
    (h : size? gigabytes megabytes = some size) :
    1024 * gigabytes.toNat + megabytes.toNat < UInt64.size := by
  obtain ⟨n, hn, hsize⟩ := Option.bind_eq_some_iff.1 h
  have hfactor : (1024 : UInt64).toNat = 1024 := rfl
  have hlt := size.toNat_lt
  have htotal : 1024 * gigabytes.toNat + megabytes.toNat = size.toNat := by
    rw [← sum64?_eq_some_iff.1 hsize, ← product64?_eq_some_iff.1 hn, hfactor, Nat.mul_comm]
  rw [htotal]
  exact hlt

def ofSizes (gigabytes megabytes : UInt64) : Except Error Memory :=
  match h : size? gigabytes megabytes with
  | some _ => .ok ⟨gigabytes, megabytes, total_lt_of_size? h⟩
  | none => invalid (.memoryTooLarge gigabytes megabytes)

def none : Memory := ⟨0, 0, by decide⟩

instance : Inhabited Memory := ⟨none⟩

end Memory

end Guestkeeper
