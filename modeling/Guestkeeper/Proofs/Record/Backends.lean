import Guestkeeper.Proofs.Record.Scalars
import Guestkeeper.Proofs.Text.IpAddress
import Guestkeeper.Record.Backends

set_option autoImplicit false

/-! # Backends read back

Serial lines, storage, network interfaces and framebuffers are read back from their written
forms, on their own as well as from a copy of the part they stand in.
-/

namespace Guestkeeper

open Guestkeeper.Record

/-! ## Serial lines -/

theorem TtyName.ofJson_toJson (setting : Record.Setting) (n : TtyName) :
    TtyName.ofJson setting n.toJson.canonical = .ok n := by
  have hword : TtyName.words.lookup n.text = some n := by
    cases n <;> rfl
  exact word_eq_ok hword

namespace TtyBackend

theorem ofJson_toJson (setting : Record.Setting) (b : TtyBackend) :
    ofJson setting b.toJson.canonical = .ok b := by
  cases b with
  | file name path =>
      refine tagged_canonical_eq_ok (by simp) rfl rfl fun rest h => part_eq_ok ?_
      refine seq_eq_ok (map_eq_ok ?_) ?_
      · exact h.field rfl (name.ofJson_toJson .copied)
      · exact h.field rfl (text_eq_ok path)
  | nmdm name =>
      refine tagged_canonical_eq_ok (by simp) rfl rfl fun rest h => part_eq_ok ?_
      exact map_eq_ok (h.field rfl (name.ofJson_toJson .copied))
  | stdio name =>
      refine tagged_canonical_eq_ok (by simp) rfl rfl fun rest h => part_eq_ok ?_
      exact map_eq_ok (h.field rfl (name.ofJson_toJson .copied))

theorem fits_toJson (depth : Nat) (b : TtyBackend) : b.toJson.Fits (depth + 1) := by
  cases b <;> simp [toJson, TtyName.toJson]

end TtyBackend

namespace Lpc

/-- The lines of a bridge pass their checks again. -/
theorem ofLines_backends (l : Lpc) : ofLines l.backends = .ok l := by
  have hlines : l.backends.foldlM addLine ∅ = .ok l.lines := by
    refine Table.foldlM_store_entries l.lines fun s x _ hfree => ?_
    rw [addLine, Table.contains_eq_false_iff.2 hfree]
    rfl
  refine Except.bind_eq_ok_iff.2 ⟨_, hlines, ?_⟩
  rw [dif_pos l.firmware_file, dif_pos l.nmdm_le_one]
  rfl

theorem ofJson_toJson (setting : Record.Setting) (l : Lpc) :
    ofJson setting l.toJson.canonical = .ok l := by
  refine Except.bind_eq_ok_iff.2 ⟨_, ?_, checked_eq_ok l.ofLines_backends⟩
  exact list_eq_ok fun b _ => b.ofJson_toJson setting

theorem fits_toJson (depth : Nat) (l : Lpc) : l.toJson.Fits (depth + 2) := by
  simp [toJson, TtyBackend.fits_toJson]

end Lpc

/-! ## Storage -/

theorem OpenOption.ofJson_toJson (o : OpenOption) :
    OpenOption.ofJson (Json.text o.recordName).canonical = .ok o := by
  have hword : OpenOption.words.lookup o.recordName = some o := by
    cases o <;> rfl
  exact word_eq_ok hword

theorem optional_word32_eq_ok (n : Option UInt32) :
    optional word32 (optionalNatural (n.map UInt32.toNat)).canonical = .ok n := by
  cases n with
  | none => rfl
  | some n => exact optional_eq_ok (fun h => nomatch h) (word32_eq_ok n)

theorem optional_word64_eq_ok (n : Option UInt64) :
    optional word64 (optionalNatural (n.map UInt64.toNat)).canonical = .ok n := by
  cases n with
  | none => rfl
  | some n => exact optional_eq_ok (fun h => nomatch h) (word64_eq_ok n)

namespace SectorSizes

theorem ofJson_toJson (s : SectorSizes) : ofJson s.toJson.canonical = .ok s := by
  refine part_canonical_eq_ok (by simp) fun members h => seq_eq_ok (map_eq_ok ?_) ?_
  · exact h.field rfl (word32_eq_ok s.logical)
  · exact h.fieldIfNamed rfl (optional_word32_eq_ok s.physical)

theorem fits_toJson (depth : Nat) (s : SectorSizes) : s.toJson.Fits (depth + 1) := by
  cases hphysical : s.physical with
  | none => simp [toJson, optionalNatural, hphysical]
  | some physical => simp [toJson, optionalNatural, hphysical]

end SectorSizes

namespace StorageBackend

theorem ofJson_toJson (setting : Record.Setting) (b : StorageBackend) :
    ofJson setting b.toJson.canonical = .ok b := by
  cases b with
  | file path options sectors =>
      have hoptions : list OpenOption.ofJson
          (Json.array (options.entries.map fun o => .text o.recordName)).canonical
          = .ok options.entries := list_eq_ok fun o _ => o.ofJson_toJson
      have hsectors : optional SectorSizes.ofJson
          ((sectors.map SectorSizes.toJson).getD Json.null).canonical
          = .ok sectors := by
        cases sectors with
        | none => rfl
        | some s => exact optional_eq_ok (fun h => nomatch h) s.ofJson_toJson
      -- the options come back as a list and make up their table again
      have hfile : ofFileFields path options.entries sectors = .file path options sectors := by
        rw [ofFileFields, Table.ofList_entries]
      refine Eq.trans ?_ (congrArg Except.ok hfile)
      refine tagged_canonical_eq_ok (by simp) rfl rfl fun rest h => part_eq_ok ?_
      refine seq_eq_ok (seq_eq_ok (map_eq_ok ?_) ?_) ?_
      · exact h.field rfl (text_eq_ok path)
      · exact h.fieldWith rfl hoptions []
      · exact h.fieldWith rfl hsectors none
  | volume expected =>
      refine tagged_canonical_eq_ok (by simp) rfl rfl fun rest h => part_eq_ok ?_
      exact map_eq_ok (h.fieldWith rfl (optional_word64_eq_ok expected) none)
  | scsi =>
      exact tagged_canonical_eq_ok (by simp) rfl rfl fun rest _ => emptyPart_eq_ok _

theorem fits_toJson (depth : Nat) (b : StorageBackend) : b.toJson.Fits (depth + 2) := by
  cases b with
  | file path options sectors =>
      cases sectors with
      | none => simp [toJson]
      | some s => simp [toJson, s.fits_toJson]
  | volume expected =>
      cases expected with
      | none => simp [toJson, optionalNatural]
      | some n => simp [toJson, optionalNatural]
  | scsi => simp [toJson]

end StorageBackend

/-! ## Network interfaces -/

theorem MacAddress.ofJson_toJson (a : MacAddress) :
    MacAddress.ofJson a.toJson.canonical = .ok a := parsed_eq_ok a.ofText_text

namespace NetworkBackend

/-- What stands besides the kind is read the same way for both kinds. -/
theorem interfacePart_eq_ok {rest : List (String × Json)} {i : Interface}
    (h : Holds rest [("name", .text i.name), ("host_mac", i.hostMac.toJson),
      ("guest_mac", i.guestMac.toJson), ("groups", .array (i.groups.map .text))]) :
    interfacePart (.object rest) = .ok i := by
  have hgroups : list text (Json.array (i.groups.map .text)).canonical = .ok i.groups :=
    list_eq_ok fun _ _ => rfl
  refine part_eq_ok (seq_eq_ok (seq_eq_ok (seq_eq_ok (map_eq_ok ?_) ?_) ?_) ?_)
  · exact h.field rfl (text_eq_ok i.name)
  · exact h.field rfl i.hostMac.ofJson_toJson
  · exact h.field rfl i.guestMac.ofJson_toJson
  · exact h.fieldWith rfl hgroups []

theorem ofJson_toJson (setting : Record.Setting) (b : NetworkBackend) :
    ofJson setting b.toJson.canonical = .ok b := by
  obtain ⟨kind, i⟩ := b
  cases kind with
  | tap =>
      exact tagged_canonical_eq_ok (by simp) rfl rfl fun rest h =>
        Except.map_eq_ok_iff.2 ⟨i, interfacePart_eq_ok h, rfl⟩
  | vmnet =>
      exact tagged_canonical_eq_ok (by simp) rfl rfl fun rest h =>
        Except.map_eq_ok_iff.2 ⟨i, interfacePart_eq_ok h, rfl⟩

theorem fits_toJson (depth : Nat) (b : NetworkBackend) : b.toJson.Fits (depth + 2) := by
  simp [toJson, MacAddress.toJson]

end NetworkBackend

/-! ## Framebuffers and devices of the host -/

theorem IpAddress.ofJson_toJson (a : IpAddress) :
    IpAddress.ofJson a.toJson.canonical = .ok a := by
  refine Except.bind_eq_ok_iff.2 ⟨a.text, rfl, ?_⟩
  simp only [a.ofText?_text]
  rfl

theorem VgaMode.ofJson_text (setting : Record.Setting) (mode : VgaMode) :
    VgaMode.ofJson setting (Json.text mode.text).canonical = .ok mode := by
  have hword : VgaMode.words.lookup mode.text = some mode := by
    cases mode <;> rfl
  exact word_eq_ok hword

namespace Framebuffer

theorem ofJson_toJson (setting : Record.Setting) (f : Framebuffer) :
    ofJson setting f.toJson.canonical = .ok f := by
  refine part_canonical_eq_ok (by simp) fun members h =>
    seq_eq_ok (seq_eq_ok (seq_eq_ok (seq_eq_ok (seq_eq_ok (map_eq_ok ?_) ?_) ?_) ?_) ?_) ?_
  · exact h.field rfl (word32_eq_ok f.width)
  · exact h.field rfl (word32_eq_ok f.height)
  · exact h.field rfl f.address.ofJson_toJson
  · exact h.field rfl (word16_eq_ok f.port)
  · exact h.field rfl (f.vga.ofJson_text setting)
  · exact h.field rfl (bool_eq_ok f.wait)

theorem fits_toJson (depth : Nat) (f : Framebuffer) : f.toJson.Fits (depth + 1) := by
  simp [toJson, IpAddress.toJson]

end Framebuffer

theorem HostAddress.ofJson_toJson (a : HostAddress) :
    HostAddress.ofJson a.toJson.canonical = .ok a := parsed_eq_ok a.ofText_text

end Guestkeeper
