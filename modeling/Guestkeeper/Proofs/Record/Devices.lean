import Guestkeeper.Proofs.Record.Backends
import Guestkeeper.Record.Devices

set_option autoImplicit false

/-! # Devices and boot configurations read back

The fields of a device's kind stand among the slot and the comment. Whoever reads the kind gets
the members without these two, and the kind's own fields without the kind's name.
-/

namespace Guestkeeper

open Guestkeeper.Record

/-! ## Kinds of devices -/

theorem HostBridgeVendor.ofJson_text (vendor : HostBridgeVendor) :
    HostBridgeVendor.ofJson (Json.text vendor.text).canonical = .ok vendor := by
  have hword : HostBridgeVendor.words.lookup vendor.text = some vendor := by
    cases vendor <;> rfl
  exact word_eq_ok hword

namespace DeviceKind

theorem storagePart_eq_ok {rest : List (String × Json)} {backend : StorageBackend}
    (h : Holds rest [("backend", backend.toJson)]) (make : StorageBackend → DeviceKind) :
    storagePart make (.object rest) = .ok (make backend) :=
  part_eq_ok (map_eq_ok (h.field rfl (backend.ofJson_toJson .copied)))

theorem networkPart_eq_ok {rest : List (String × Json)} {backend : NetworkBackend}
    (h : Holds rest [("backend", backend.toJson)]) (make : NetworkBackend → DeviceKind) :
    networkPart make (.object rest) = .ok (make backend) :=
  part_eq_ok (map_eq_ok (h.field rfl (backend.ofJson_toJson .copied)))

/-- A kind is read from whatever members hold its own. -/
theorem ofJson_of_holds {members : List (String × Json)} {k : DeviceKind}
    (h : Holds members k.toMembers) : ofJson (.object members) = .ok k := by
  cases k with
  | hostBridge vendor =>
      refine h.tagged rfl rfl fun rest hrest => part_eq_ok (map_eq_ok ?_)
      exact hrest.field rfl vendor.ofJson_text
  | virtioNetwork backend =>
      exact h.tagged rfl rfl fun rest hrest => networkPart_eq_ok hrest .virtioNetwork
  | virtioBlock backend =>
      exact h.tagged rfl rfl fun rest hrest => storagePart_eq_ok hrest .virtioBlock
  | ahciDisk backend =>
      exact h.tagged rfl rfl fun rest hrest => storagePart_eq_ok hrest .ahciDisk
  | ahciOpticalDisk backend =>
      exact h.tagged rfl rfl fun rest hrest => storagePart_eq_ok hrest .ahciOpticalDisk
  | lpc bridge =>
      refine h.tagged rfl rfl fun rest hrest => part_eq_ok (map_eq_ok ?_)
      exact hrest.field rfl (bridge.ofJson_toJson .copied)
  | passthru address =>
      refine h.tagged rfl rfl fun rest hrest => part_eq_ok (map_eq_ok ?_)
      exact hrest.field rfl address.ofJson_toJson
  | framebuffer screen =>
      refine h.tagged rfl rfl fun rest hrest => part_eq_ok (map_eq_ok ?_)
      exact hrest.field rfl (screen.ofJson_toJson .copied)
  | xhciUsbTablet =>
      exact h.tagged rfl rfl fun rest _ => emptyPart_eq_ok DeviceKind.xhciUsbTablet
  | e1000Network backend =>
      exact h.tagged rfl rfl fun rest hrest => networkPart_eq_ok hrest .e1000Network

theorem fits_of_mem_members (depth : Nat) {k : DeviceKind} {m : String × Json}
    (h : m ∈ k.members) : m.2.Fits (depth + 2) := by
  cases k <;>
    simp only [members, List.mem_singleton, List.not_mem_nil] at h <;>
    subst h
  · exact Json.fits_text _ _
  · exact NetworkBackend.fits_toJson depth _
  · exact StorageBackend.fits_toJson depth _
  · exact StorageBackend.fits_toJson depth _
  · exact StorageBackend.fits_toJson depth _
  · exact Lpc.fits_toJson depth _
  · exact Json.fits_text _ _
  · exact Framebuffer.fits_toJson (depth + 1) _
  · exact NetworkBackend.fits_toJson depth _

end DeviceKind

/-! ## Devices -/

namespace Device

/-- The kind's members are those besides the slot and the comment. -/
theorem filter_members (d : Device) :
    (("slot", d.slot.toJson) :: ("comment", .text d.comment) :: d.kind.toMembers).filter
      (fun m => m.1 ≠ "slot" && m.1 ≠ "comment") = d.kind.toMembers := by
  cases d.kind <;> rfl

theorem nodup_names (d : Device) :
    ((("slot", d.slot.toJson) :: ("comment", Json.text d.comment) :: d.kind.toMembers).map
      Prod.fst).Nodup := by
  cases d.kind <;> simp [DeviceKind.toMembers, DeviceKind.members]

theorem ofJson_toJson (d : Device) : ofJson d.toJson.canonical = .ok d := by
  have h := holds_canonicalMembers d.nodup_names
  have hplaced : part ["slot", "comment"]
      (Prod.mk <$> field "slot" Slot.ofJson <*> fieldWith "comment" text "")
      d.toJson.canonical = .ok (d.slot, d.comment) := by
    refine part_eq_ok (seq_eq_ok (map_eq_ok ?_) ?_)
    · exact h.field rfl d.slot.ofJson_toJson
    · exact h.fieldWith rfl (text_eq_ok d.comment) ""
  -- the kind is read from a copy that lacks the two
  have hkind := h.filter fun n => n ≠ "slot" && n ≠ "comment"
  rw [filter_members] at hkind
  exact Except.bind_eq_ok_iff.2 ⟨_, hplaced,
    Except.bind_eq_ok_iff.2 ⟨_, DeviceKind.ofJson_of_holds hkind, rfl⟩⟩

theorem fits_toJson (depth : Nat) (d : Device) : d.toJson.Fits (depth + 3) := by
  -- the members of the kind depend on the kind, so they are taken one by one
  rw [toJson, Json.fits_object_iff]
  intro m hm
  simp only [DeviceKind.toMembers, List.mem_cons] at hm
  rcases hm with rfl | rfl | rfl | hm
  · exact Slot.fits_toJson _ _
  · exact Json.fits_text _ _
  · exact Json.fits_text _ _
  · exact DeviceKind.fits_of_mem_members depth hm

end Device

/-! ## Boot configurations -/

namespace Kernel

theorem ofJson_toJson (k : Kernel) : ofJson k.toJson.canonical = .ok k := by
  cases k with
  | openBsd path disk =>
      refine tagged_canonical_eq_ok (by simp) rfl rfl fun rest h => part_eq_ok ?_
      refine seq_eq_ok (map_eq_ok ?_) ?_
      · exact h.field rfl (text_eq_ok path)
      · exact h.field rfl disk.ofJson_toJson
  | linux path disk arguments initrd initrdDisk =>
      have harguments : list text (Json.array (arguments.map .text)).canonical = .ok arguments :=
        list_eq_ok fun _ _ => rfl
      refine tagged_canonical_eq_ok (by simp) rfl rfl fun rest h => part_eq_ok ?_
      refine seq_eq_ok (seq_eq_ok (seq_eq_ok (seq_eq_ok (map_eq_ok ?_) ?_) ?_) ?_) ?_
      · exact h.field rfl (text_eq_ok path)
      · exact h.field rfl disk.ofJson_toJson
      · exact h.fieldWith rfl harguments []
      · exact h.field rfl (text_eq_ok initrd)
      · exact h.field rfl initrdDisk.ofJson_toJson

theorem fits_toJson (depth : Nat) (k : Kernel) : k.toJson.Fits (depth + 2) := by
  cases k <;> simp [toJson]

end Kernel

namespace BootConfiguration

theorem diskOfJson_diskToJson (s : Slot) : diskOfJson (diskToJson s).canonical = .ok s :=
  part_canonical_eq_ok (by simp) fun _ h => map_eq_ok (h.field rfl s.ofJson_toJson)

/-- Besides the member of its method a configuration is read the same way for every method. -/
theorem methodPart_eq_ok {members written : List (String × Json)} {b : BootConfiguration}
    {name : String} {j : Json} {method : Json → Read BootMethod} (h : Holds members written)
    (hname : written.lookup "name" = some (.text b.name))
    (hcomment : written.lookup "comment" = some (.text b.comment))
    (hj : written.lookup name = some j) (hmethod : method j.canonical = .ok b.method)
    (hdisks : written.lookup "disks" = some (.array (b.disks.map diskToJson))) :
    methodPart name method (.object members) = .ok b := by
  have hlist : list diskOfJson (Json.array (b.disks.map diskToJson)).canonical = .ok b.disks :=
    list_eq_ok fun s _ => diskOfJson_diskToJson s
  refine part_eq_ok (seq_eq_ok (seq_eq_ok (seq_eq_ok (map_eq_ok ?_) ?_) ?_) ?_)
  · exact h.field hname (text_eq_ok b.name)
  · exact h.fieldWith hcomment (text_eq_ok b.comment) ""
  · exact h.field hj hmethod
  · exact h.fieldWith hdisks hlist []

theorem ofJson_toJson (b : BootConfiguration) : ofJson b.toJson.canonical = .ok b := by
  obtain ⟨name, comment, method, disks⟩ := b
  cases method with
  | grub kernel =>
      have hmethod : (Kernel.ofJson kernel.toJson.canonical).map BootMethod.grub
          = .ok (.grub kernel) := Except.map_eq_ok_iff.2 ⟨kernel, kernel.ofJson_toJson, rfl⟩
      exact tagged_canonical_eq_ok (by simp [methodMember]) rfl rfl fun rest h =>
        methodPart_eq_ok h rfl rfl rfl hmethod rfl
  | uefi firmware =>
      have hmethod : (text (Json.text firmware).canonical).map BootMethod.uefi
          = .ok (.uefi firmware) := rfl
      exact tagged_canonical_eq_ok (by simp [methodMember]) rfl rfl fun rest h =>
        methodPart_eq_ok h rfl rfl rfl hmethod rfl

theorem fits_toJson (depth : Nat) (b : BootConfiguration) : b.toJson.Fits (depth + 3) := by
  have hdisk : ∀ s, (diskToJson s).Fits (depth + 1) := by
    intro s
    simp [diskToJson]
  cases hmethod : b.method with
  | grub kernel => simp [toJson, methodMember, hmethod, kernel.fits_toJson, hdisk]
  | uefi firmware => simp [toJson, methodMember, hmethod, hdisk]

end BootConfiguration

end Guestkeeper
