import Guestkeeper.Launch.Loader
import Guestkeeper.Proofs.Device.Storage
import Guestkeeper.Proofs.Machine.Topology
import Guestkeeper.Proofs.Record.Alike
import Guestkeeper.Proofs.Record.RoundTrip

set_option autoImplicit false

/-! # The order of lists in records

Devices, boot configurations, pins, the lines of an LPC bridge and the options of a file stand in
lists in a record and in tables in a machine. So their order in the record means nothing: a record
in which such lists are in another order, at any of the five places, is accepted as this one is,
and describes the same machine.
-/

namespace Guestkeeper

open Guestkeeper.Record
open scoped Relator

/-! ## Which lists may be in another order -/

namespace Record

/-- The relations that are given for some fields. All other fields are the same. -/
def among (rels : List (String × Relation)) (name : String) : Relation :=
  (rels.lookup name).getD Eq

theorem among_cons (n : String) (r : Relation) (rels : List (String × Relation)) (name : String) :
    among ((n, r) :: rels) name = if name = n then r else among rels name := by
  rw [among, Json.lookup_cons_eq_ite, among]
  split <;> rfl

theorem among_refl {rels : List (String × Relation)} (h : ∀ p ∈ rels, ∀ j, p.2 j j) (name : String)
    (j : Json) : among rels name j j := by
  induction rels with
  | nil => rfl
  | cons p rels ih =>
      obtain ⟨n, r⟩ := p
      obtain ⟨hp, hrels⟩ := List.forall_mem_cons.1 h
      rw [among_cons]
      split
      · exact hp j
      · exact ih hrels

/-- A list in another order is the only difference. -/
theorem among_reordered_refl (n name : String) (j : Json) : among [(n, Reordered Eq)] name j j :=
  among_refl (by simp [Reordered.same]) name j

end Record

/-- Topologies with the pins in another order. -/
def Topology.Reordered : Relation :=
  PartAlike ["sockets", "cores", "threads", "cpus", "pins"]
    (among [("pins", Record.Reordered Eq)])

/-- Storage backends with the options in another order. -/
def StorageBackend.Reordered : Relation :=
  PartAlike ["type", "path", "options", "sector_sizes"]
    (among [("options", Record.Reordered Eq)])

/-- Devices with the lines or the options in another order. -/
def Device.Reordered : Relation :=
  PartAlike [] (among [("lpc", Record.Reordered Eq), ("backend", StorageBackend.Reordered)])

/-- Machines with the lists that are tables of the machine in another order. -/
def Machine.Reordered : Relation :=
  PartAlike ["id", "name", "comment", "cpu", "memory", "flags", "devices", "boot_configurations"]
    (among [("cpu", Topology.Reordered), ("devices", Record.Reordered Device.Reordered),
      ("boot_configurations", Record.Reordered Eq)])

/-! ## Topologies -/

namespace Topology

/-- Pins are taken in any order. -/
theorem withPins_perm {t u : Topology} {pins pins' : List CpuPin} (h : pins.Perm pins') :
    t.withPins pins = .ok u ↔ t.withPins pins' = .ok u := by
  have hconsists : u.Consists t.sockets t.cores t.threads pins ↔
      u.Consists t.sockets t.cores t.threads pins' :=
    ⟨fun hu => ⟨hu.sockets, hu.cores, hu.threads, fun p => (hu.pins p).trans h.mem_iff⟩,
      fun hu => ⟨hu.sockets, hu.cores, hu.threads, fun p => (hu.pins p).trans h.mem_iff.symm⟩⟩
  rw [withPins_eq_ok_iff, withPins_eq_ok_iff, hconsists]
  simp only [h.mem_iff]

/-- The same but for the order of the pins. -/
def Written.Alike (w w' : Written) : Prop :=
  ∃ pins, w.pins.Perm pins ∧ w' = { w with pins := pins }

theorem respects_written : Respects Topology.Reordered Written.Alike Written.ofJson := by
  have hmk : (Eq ⇒ Eq ⇒ Eq ⇒ Eq ⇒ List.Perm ⇒ Written.Alike) Written.mk Written.mk := by
    rintro sockets _ rfl cores _ rfl threads _ rfl cpus _ rfl pins pins' h
    exact ⟨pins', h, rfl⟩
  have hpins : Respects (Record.Reordered Eq) List.Perm (list CpuPin.ofJson) :=
    Respects.list (respects_eq fun _ => rfl)
  refine RespectsFields.part (.seq (.seq (.seq (.seq (.map hmk ?_) ?_) ?_) ?_) ?_)
    (fun w => ⟨w.pins, .refl _, rfl⟩) (among_reordered_refl _)
  · exact respectsFields_field_eq rfl
  · exact respectsFields_field_eq rfl
  · exact respectsFields_field_eq rfl
  · exact respectsFields_field_eq rfl
  · exact respectsFields_fieldWith hpins List.Perm.refl []

theorem respects_ofJson : Respects Topology.Reordered Eq ofJson := by
  intro j j' h
  refine (respects_written j j' h).bind ?_
  rintro w _ ⟨pins, hpins, rfl⟩
  refine Alike.mapError (Alike.bind (Alike.refl (fun _ => rfl) _) ?_) _ _
  rintro t _ rfl
  exact alike_eq_iff.2 fun u => withPins_perm hpins

end Topology

/-! ## Serial lines -/

namespace Lpc

theorem addLine_eq_ok_iff {t t' : Table TtyBackend.name} {line : TtyBackend} :
    addLine t line = .ok t' ↔
      True ∧ (∀ l ∈ t.entries, l.name ≠ line.name) ∧ t' = t.insert line := by
  rw [addLine, Except.ite_error_eq_ok_iff, Bool.not_eq_true, Table.contains_eq_false_iff,
    Except.ok.injEq, true_and, eq_comm (a := t')]

/-- Lines are taken in any order. -/
theorem alike_ofLines {lines lines' : List TtyBackend} (h : lines.Perm lines') :
    Alike Eq (ofLines lines) (ofLines lines') := by
  have hstored : Alike Eq (lines.foldlM addLine ∅) (lines'.foldlM addLine ∅) :=
    alike_eq_iff.2 fun _ => Table.foldlM_store_perm (fun _ _ _ => addLine_eq_ok_iff) h
  refine hstored.bind ?_
  rintro table _ rfl
  exact Alike.refl (fun _ => rfl) _

theorem respects_ofJson (setting : Record.Setting) :
    Respects (Record.Reordered Eq) Eq (ofJson setting) := by
  have hlines : Respects (Record.Reordered Eq) List.Perm (list (TtyBackend.ofJson setting)) :=
    Respects.list (respects_eq fun _ => rfl)
  intro j j' h
  exact (hlines j j' h).bind fun _ _ hperm => (alike_ofLines hperm).mapError _ _

end Lpc

/-! ## Backends -/

namespace StorageBackend

theorem respects_ofJson (setting : Record.Setting) :
    Respects StorageBackend.Reordered Eq (ofJson setting) := by
  have hmake : (Eq ⇒ List.Perm ⇒ Eq ⇒ Eq) ofFileFields ofFileFields := by
    rintro path _ rfl options options' h sectors _ rfl
    rw [ofFileFields, ofFileFields,
      Table.ofList_perm (fun _ _ => OpenOption.index_injective) h]
  have hoptions : Respects (Record.Reordered Eq) List.Perm (list OpenOption.ofJson) :=
    Respects.list (respects_eq fun _ => rfl)
  have hrefl : ∀ name j, among [("options", Record.Reordered Eq)] name j j :=
    among_reordered_refl "options"
  refine respects_tagged rfl ?_
  simp only [List.forall_mem_cons, List.not_mem_nil, false_imp_iff, implies_true, and_true]
  refine ⟨?_, ?_, ?_⟩
  · refine RespectsFields.part (.seq (.seq (.map hmake ?_) ?_) ?_) (fun _ => rfl) hrefl
    · exact respectsFields_field_eq rfl
    · exact respectsFields_fieldWith hoptions List.Perm.refl []
    · exact respectsFields_fieldWith_eq rfl none
  · -- read as a volume, the first element is the size
    refine RespectsFields.part_of (.map ?_ (respectsFields_fieldWith_eq rfl none)) (fun _ => rfl)
      hrefl (fun _ _ _ hj => hj) ?_
    · rintro size _ rfl
      rfl
    · intro p hp
      rw [List.mem_singleton.1 hp]
      exact fun _ _ hj => hj
  · exact RespectsFields.part_of (respectsFields_pure rfl) (fun _ => rfl) hrefl
      (fun _ _ _ hj => hj) fun _ hp => absurd hp List.not_mem_nil

end StorageBackend

/-- No list is read as an address. -/
theorem MacAddress.respects_ofJson : Respects (Record.Reordered Eq) Eq MacAddress.ofJson := by
  rintro _ _ (⟨j⟩ | _)
  · exact Alike.refl (fun _ => rfl) _
  · exact .error _ _

namespace NetworkBackend

/-- Where a file has its options, an interface has an address. -/
theorem respects_interfacePart :
    Respects (PartAlike ["path", "options", "sector_sizes"]
      (among [("options", Record.Reordered Eq)])) Eq interfacePart := by
  have hmk : (Eq ⇒ Eq ⇒ Eq ⇒ Eq ⇒ Eq) Interface.mk Interface.mk := by
    rintro name _ rfl host _ rfl guest _ rfl groups _ rfl
    rfl
  have hfields : RespectsFields
      (among [("options", Record.Reordered Eq), ("host_mac", Record.Reordered Eq)]) Eq
      (Interface.mk <$> field "name" text <*> field "host_mac" MacAddress.ofJson <*>
        field "guest_mac" MacAddress.ofJson <*> fieldWith "groups" (list text) []) := by
    refine .seq (.seq (.seq (.map hmk ?_) ?_) ?_) ?_
    · exact respectsFields_field_eq rfl
    · exact respectsFields_field MacAddress.respects_ofJson fun _ => rfl
    · exact respectsFields_field_eq rfl
    · exact respectsFields_fieldWith_eq rfl []
  refine hfields.part_of (fun _ => rfl) (among_refl ?_) ?_ ?_
  · simp [Record.Reordered.same]
  · intro name j j' hj
    by_cases h : name = "options"
    · rw [among_cons, if_pos h] at hj ⊢
      exact hj
    · rw [among_cons, if_neg h] at hj
      obtain rfl : j = j' := hj
      exact among_refl (by simp [Record.Reordered.same]) name j
  · simp only [List.zip_cons_cons, List.zip_nil_left, List.forall_mem_cons]
    exact ⟨fun _ _ hj => hj, fun _ _ hj => hj, fun _ _ hj => hj,
      fun _ hp => absurd hp List.not_mem_nil⟩

theorem respects_ofJson (setting : Record.Setting) :
    Respects StorageBackend.Reordered Eq (ofJson setting) := by
  refine respects_tagged rfl ?_
  simp only [List.forall_mem_cons, List.not_mem_nil, false_imp_iff, implies_true, and_true]
  constructor
  · exact fun j j' h => (respects_interfacePart j j' h).map fun _ _ hi => congrArg _ hi
  · exact fun j j' h => (respects_interfacePart j j' h).map fun _ _ hi => congrArg _ hi

end NetworkBackend

/-! ## Devices -/

namespace DeviceKind

/-- The relations of the members that may differ. -/
abbrev rels : String → Relation :=
  among [("lpc", Record.Reordered Eq), ("backend", StorageBackend.Reordered)]

theorem rels_refl (name : String) (j : Json) : rels name j j :=
  among_refl (by simp [Record.Reordered.same, StorageBackend.Reordered, PartAlike.same]) name j

/-- A kind with one field. -/
theorem respects_single {α : Type} {name : String} {read : Json → Read α} (make : α → DeviceKind)
    (h : Respects (rels name) Eq read) :
    Respects (PartAlike [] rels) Eq (part [name] (make <$> field name read)) := by
  refine RespectsFields.part_object (.map ?_ (respectsFields_field h fun _ => rfl)) (fun _ => rfl)
    rels_refl
  rintro a _ rfl
  rfl

theorem respects_ofJson : Respects (PartAlike ["kind"] rels) Eq ofJson := by
  have hstorage : ∀ make, Respects (PartAlike [] rels) Eq (storagePart make) := fun make =>
    respects_single make (StorageBackend.respects_ofJson .copied)
  have hnetwork : ∀ make, Respects (PartAlike [] rels) Eq (networkPart make) := fun make =>
    respects_single make (NetworkBackend.respects_ofJson .copied)
  have hsame : ∀ {α : Type} {read : Json → Read α}, Respects Eq Eq read :=
    respects_eq fun _ => rfl
  refine respects_tagged rfl ?_
  simp only [List.forall_mem_cons, List.not_mem_nil, false_imp_iff, implies_true, and_true]
  refine ⟨?_, ?_, ?_, ?_, ?_, ?_, ?_, ?_, ?_, ?_⟩
  · exact respects_single .hostBridge hsame
  · exact hnetwork .virtioNetwork
  · exact hstorage .virtioBlock
  · exact hstorage .ahciDisk
  · exact hstorage .ahciOpticalDisk
  · exact respects_single .lpc (Lpc.respects_ofJson .copied)
  · exact respects_single .passthru hsame
  · exact respects_single .framebuffer hsame
  · exact RespectsFields.part_object (respectsFields_pure rfl) (fun _ => rfl) rels_refl
  · exact hnetwork .e1000Network

end DeviceKind

theorem Device.respects_ofJson : Respects Device.Reordered Eq Device.ofJson := by
  have hmk : (Eq ⇒ Eq ⇒ Eq) (Prod.mk : Slot → String → Slot × String) Prod.mk := by
    rintro slot _ rfl comment _ rfl
    rfl
  have hplaced : Respects (PartAlike [] DeviceKind.rels) Eq (part ["slot", "comment"]
      (Prod.mk <$> field "slot" Slot.ofJson <*> fieldWith "comment" text "")) := by
    refine RespectsFields.part_object (.seq (.map hmk ?_) ?_) (fun _ => rfl) DeviceKind.rels_refl
    · exact respectsFields_field_eq rfl
    · exact respectsFields_fieldWith_eq rfl ""
  rintro _ _ (⟨j⟩ | ⟨members⟩ | _)
  · exact Alike.refl (fun _ => rfl) _
  · refine (hplaced _ _ (.object members)).bind ?_
    rintro placed _ rfl
    -- the kind is read without the two fields
    have hothers := members.filter fun name => name ≠ "slot" && name ≠ "comment"
    refine (DeviceKind.respects_ofJson _ _ (.object hothers)).bind ?_
    rintro kind _ rfl
    exact .ok rfl
  · exact .error _ _

/-! ## Machines -/

namespace Machine

/-- The same but for the order of the devices and of the boot configurations. -/
def Written.Alike (w w' : Written) : Prop :=
  ∃ devices boots, w.devices.Perm devices ∧ w.boots.Perm boots ∧
    w' = { w with devices := devices, boots := boots }

theorem respects_written : Respects Machine.Reordered Written.Alike Written.ofJson := by
  have hmk : (Eq ⇒ Eq ⇒ Eq ⇒ Eq ⇒ Eq ⇒ Eq ⇒ List.Perm ⇒ List.Perm ⇒ Written.Alike) Written.mk
      Written.mk := by
    rintro id _ rfl name _ rfl comment _ rfl cpu _ rfl memory _ rfl flags _ rfl devices devices'
      hdevices boots boots' hboots
    exact ⟨devices', boots', hdevices, hboots, rfl⟩
  have hdevices : Respects (Record.Reordered Device.Reordered) List.Perm (list Device.ofJson) :=
    Device.respects_ofJson.list
  have hboots : Respects (Record.Reordered Eq) List.Perm (list BootConfiguration.ofJson) :=
    Respects.list (respects_eq fun _ => rfl)
  refine RespectsFields.part
    (.seq (.seq (.seq (.seq (.seq (.seq (.seq (.map hmk ?_) ?_) ?_) ?_) ?_) ?_) ?_) ?_)
    (fun w => ⟨w.devices, w.boots, .refl _, .refl _, rfl⟩) (among_refl ?_)
  · exact respectsFields_field_eq rfl
  · exact respectsFields_field_eq rfl
  · exact respectsFields_fieldWith_eq rfl ""
  · exact respectsFields_field Topology.respects_ofJson fun _ => rfl
  · exact respectsFields_field_eq rfl
  · exact respectsFields_fieldWith_eq rfl _
  · exact respectsFields_fieldWith hdevices List.Perm.refl []
  · exact respectsFields_fieldWith hboots List.Perm.refl []
  · simp [Record.Reordered.same, Topology.Reordered, PartAlike.same]

theorem storeBoot_eq_ok_iff {t t' : Table BootConfiguration.name} {b : BootConfiguration} :
    storeBoot t b = .ok t' ↔
      True ∧ (∀ c ∈ t.entries, c.name ≠ b.name) ∧ t' = t.insert b := by
  rw [storeBoot, Except.ite_error_eq_ok_iff, Bool.not_eq_true, Table.contains_eq_false_iff,
    Except.ok.injEq, true_and, eq_comm (a := t')]

/-- The checks of a machine that was written down come out alike. -/
theorem Written.Alike.build {w w' : Written} (h : w.Alike w') :
    Record.Alike Eq w.build w'.build := by
  obtain ⟨devices, boots, hdevices, hboots, rfl⟩ := h
  have hstored : Record.Alike Eq (w.devices.foldlM storeDevice ∅)
      (devices.foldlM storeDevice ∅) :=
    alike_eq_iff.2 fun _ => Table.foldlM_store_perm (fun _ _ _ => storeDevice_eq_ok_iff) hdevices
  have hnamed : Record.Alike Eq (w.boots.foldlM storeBoot ∅) (boots.foldlM storeBoot ∅) :=
    alike_eq_iff.2 fun _ => Table.foldlM_store_perm (fun _ _ _ => storeBoot_eq_ok_iff) hboots
  refine (Alike.refl (fun _ => rfl) (checkName w.name)).bind fun _ _ _ => ?_
  refine hstored.bind ?_
  rintro table _ rfl
  refine (Alike.refl (fun _ => rfl) (checkVolumes table.entries)).bind fun _ _ _ => ?_
  refine hnamed.bind ?_
  rintro named _ rfl
  exact .ok rfl

theorem respects_ofJson : Respects Machine.Reordered Eq ofJson := fun j j' h =>
  (respects_written j j' h).bind fun _ _ hw => hw.build.mapError _ _

end Machine

/-! ## Records -/

namespace Record

/-- **The order of devices, boot configurations, pins, lines and options in a record means
nothing.** Two records that differ in no more are both accepted or both refused, and they give the
same machine, with the same record and the same commands. -/
theorem decode_eq_decode_of_reordered {bytes bytes' : ByteArray} {s : String} {j j' : Json}
    (hopen : open? bytes = some (s, j)) (hopen' : open? bytes' = some (s, j'))
    (h : Machine.Reordered j j') :
    ((∃ m, decode bytes = .ok m) ↔ ∃ m, decode bytes' = .ok m) ∧
      ∀ m m', decode bytes = .ok m → decode bytes' = .ok m' →
        m' = m ∧ encode m' = encode m ∧ ∀ c b, Launch.plan c m' b = Launch.plan c m b := by
  have hread : ∀ m, decode bytes = .ok m ↔ decode bytes' = .ok m := by
    intro m
    have hmachine := alike_eq_iff.1 (Machine.respects_ofJson j j' h) m
    simp only [decode_eq_ok_iff, hopen, hopen', Option.some.injEq, Prod.mk.injEq, and_assoc,
      exists_and_left, exists_eq_left', hmachine]
  refine ⟨exists_congr hread, fun m m' hm hm' => ?_⟩
  obtain rfl : m' = m := Except.ok.inj (hm'.symm.trans ((hread m).1 hm))
  exact ⟨rfl, rfl, fun _ _ => rfl⟩

/-- The record of a machine with two of everything, in the given order. -/
def pairs (order : List Json → List Json) : Json :=
  .object [
    ("boot_configurations", .array (order [
      .object [("firmware", .text "/firmware"), ("name", .text "first"), ("type", .text "uefi")],
      .object [("firmware", .text "/firmware"), ("name", .text "last"), ("type", .text "uefi")]])),
    ("cpu", .object [("cores", .natural 2), ("cpus", .natural 2), ("pins", .array (order [
      .object [("guest_cpu", .natural 0), ("host_cpu", .natural 6)],
      .object [("guest_cpu", .natural 1), ("host_cpu", .natural 3)]])),
      ("sockets", .natural 1), ("threads", .natural 1)]),
    ("devices", .array (order [
      .object [("kind", .text "lpc"), ("lpc", .array (order [
        .object [("name", .text "com1"), ("type", .text "stdio")],
        .object [("name", .text "com2"), ("type", .text "nmdm")]])), ("slot", .text "0:31:0")],
      .object [("backend", .object [("options", .array (order [
        .text "no-cache", .text "read-only"])), ("path", .text "/disk"), ("type", .text "file")]),
        ("kind", .text "virtio-block"), ("slot", .text "0:4:0")]])),
    ("id", .text "11111111-2222-3333-4444-555555555555"),
    ("memory", .object [("gigabytes", .natural 1), ("megabytes", .natural 0)]),
    ("name", .text "pairs")]

section Pairs

variable {order : List Json → List Json}

theorem fits_pairs (h : ∀ xs : List Json, xs.Perm (order xs)) :
    (pairs order).Fits machineDepth := by
  simp [pairs, machineDepth, Json.depthLimit, Json.fits_natural_iff, UInt64.size, ← (h _).mem_iff]

theorem reordered_pairs (h : ∀ xs : List Json, xs.Perm (order xs)) :
    Machine.Reordered (pairs id) (pairs order) := by
  -- lists of elements that are the same
  have hsame : ∀ xs, Reordered Eq (.array xs) (.array (order xs)) := fun xs =>
    .list (List.forall₂_same.2 fun _ _ => rfl) (h xs)
  refine .object (.cons (hsame _) (.cons (.object ?_) (.cons (.list ?_ (h _)) (.refl ?_ _))))
  · exact .cons rfl (.cons rfl (.cons (hsame _) (.refl (among_reordered_refl _) _)))
  · refine .cons (.object ?_) (.cons (.object ?_) .nil)
    · exact .cons rfl (.cons (hsame _) (.refl DeviceKind.rels_refl _))
    · refine .cons (.object (.cons (hsame _) (.refl ?_ _))) (.refl DeviceKind.rels_refl _)
      exact among_reordered_refl _
  · exact among_refl (by simp [Reordered.same, Topology.Reordered, PartAlike.same])

end Pairs

theorem decode_pairs_reverse : ∃ m,
    decode (record (pairs id)) = .ok m ∧ decode (record (pairs List.reverse)) = .ok m := by
  have hperm : ∀ xs : List Json, xs.Perm xs.reverse := fun xs => xs.reverse_perm.symm
  have hopen : open? (record (pairs id)) = some (schema, pairs id) :=
    open?_record (fits_pairs List.Perm.refl)
  have hopen' : open? (record (pairs List.reverse)) = some (schema, pairs List.reverse) :=
    open?_record (fits_pairs hperm)
  obtain ⟨haccepted, hsame⟩ := decode_eq_decode_of_reordered hopen hopen' (reordered_pairs hperm)
  have hm : ∃ m, decode (record (pairs id)) = .ok m := ⟨_, decode_eq_ok_iff.2 ⟨_, hopen, rfl⟩⟩
  obtain ⟨m, hm⟩ := hm
  obtain ⟨m', hm'⟩ := haccepted.1 ⟨m, hm⟩
  exact ⟨m, hm, (hsame m m' hm hm').1 ▸ hm'⟩

end Record

end Guestkeeper
