import Guestkeeper.Device.Storage
import Guestkeeper.Proofs.Outcome
import Guestkeeper.Proofs.Table
import Guestkeeper.Proofs.Text.Fields

set_option autoImplicit false

/-! # Storage backends as they are read

A backend is written as fields with semicolons between them, the first of which tells its kind. The
fields after the path of a file may come in any order and more than once: the options that are named
are taken together, and of the sector sizes the last ones count. The grammar is the relation
`Written` between the fields and the backend. All that it describes is read as it says, and one kind
of text besides: whatever follows the kind `scsi` is passed over.
-/

namespace Guestkeeper

open Guestkeeper.Text

/-! ## Options -/

namespace OpenOption

/-- The operator's word for the option. -/
def spelling : OpenOption → String
  | .noCache => "nocache"
  | .synchronous => "sync"
  | .readOnly => "ro"

theorem ofText?_eq_some_iff {text : String} {o : OpenOption} :
    ofText? text = some o ↔ text = o.spelling := by
  constructor
  · intro h
    unfold ofText? at h
    split at h <;> cases h <;> rfl
  · rintro rfl
    cases o <;> rfl

theorem spelling_inj {o o' : OpenOption} : o.spelling = o'.spelling ↔ o = o' := by
  cases o <;> cases o' <;> simp [spelling]

theorem index_injective {o o' : OpenOption} (h : o.index = o'.index) : o = o' := by
  cases o <;> cases o' <;> simp [index] at h ⊢

theorem mem_insert_iff {t : Table index} {o o' : OpenOption} :
    o' ∈ (t.insert o).entries ↔ o' = o ∨ o' ∈ t.entries :=
  Table.mem_insert_iff_of_injective fun _ _ => index_injective

end OpenOption

/-! ## Sector sizes -/

namespace SectorSizes

/-- How sizes are written: the logical one alone, or both with a slash between them. -/
inductive Written : String → SectorSizes → Prop
  | logical {text : String} {l : UInt32} (h : IsNumeral text l.toNat) : Written text ⟨l, none⟩
  | both {first second : String} {l p : UInt32} (hl : IsNumeral first l.toNat)
      (hp : IsNumeral second p.toNat) : Written (first ++ "/" ++ second) ⟨l, some p⟩

theorem size_eq_ok_iff {text : String} {n : UInt32} :
    size text = .ok n ↔ IsNumeral text n.toNat := by
  rw [← readWord32_eq_ok_iff, size]
  cases readWord32 text <;> simp [invalid]

theorem ofText_eq_ok_iff {text : String} {z : SectorSizes} :
    ofText text = .ok z ↔ Written text z := by
  constructor
  · intro h
    unfold ofText at h
    split at h
    · obtain ⟨l, hl, h⟩ := Except.bind_eq_ok_iff.1 h
      obtain rfl := Except.ok.inj h
      exact .logical (size_eq_ok_iff.1 hl)
    · next first second hcut =>
        obtain ⟨rfl, -⟩ := cut_eq_some_iff.1 hcut
        obtain ⟨l, hl, h⟩ := Except.bind_eq_ok_iff.1 h
        obtain ⟨p, hp, h⟩ := Except.bind_eq_ok_iff.1 h
        obtain rfl := Except.ok.inj h
        exact .both (size_eq_ok_iff.1 hl) (size_eq_ok_iff.1 hp)
  · rintro (hl | ⟨hl, hp⟩)
    · rw [ofText, cut_eq_none_iff.2 (hl.notMem rfl (by decide))]
      exact Except.bind_eq_ok_iff.2 ⟨_, size_eq_ok_iff.2 hl, rfl⟩
    · rw [ofText, cut_eq_some_iff.2 ⟨rfl, hl.notMem rfl (by decide)⟩]
      exact Except.bind_eq_ok_iff.2 ⟨_, size_eq_ok_iff.2 hl,
        Except.bind_eq_ok_iff.2 ⟨_, size_eq_ok_iff.2 hp, rfl⟩⟩

theorem Written.unique {text : String} {z z' : SectorSizes} (h : Written text z)
    (h' : Written text z') : z = z' := by
  rw [← ofText_eq_ok_iff] at h h'
  rw [h] at h'
  exact Except.ok.inj h'

end SectorSizes

namespace StorageBackend

/-! ## The fields after a file's path -/

/-- The field gives sector sizes. -/
def GivesSectors (field : String) (z : SectorSizes) : Prop :=
  ∃ sizes, field = "sectorsize=" ++ sizes ∧ SectorSizes.Written sizes z

/-- The field may follow the path of a file: it names an option or gives sector sizes. -/
def IsSetting (field : String) : Prop :=
  (∃ o : OpenOption, field = o.spelling) ∨ ∃ z, GivesSectors field z

/-- The sector sizes after the fields: the last that are given or, where none are, those from
before. -/
def SectorsAfter (start : Option SectorSizes) (settings : List String)
    (sectors : Option SectorSizes) : Prop :=
  (∃ before field after z, settings = before ++ field :: after ∧ GivesSectors field z ∧
    (∀ other ∈ after, ∀ z', ¬GivesSectors other z') ∧ sectors = some z) ∨
  ((∀ field ∈ settings, ∀ z, ¬GivesSectors field z) ∧ sectors = start)

/-- The word for an option gives no sector sizes. -/
theorem GivesSectors.ne_spelling {field : String} {z : SectorSizes} (h : GivesSectors field z)
    (o : OpenOption) : o.spelling ≠ field := by
  rintro rfl
  obtain ⟨sizes, hsizes, -⟩ := h
  have hnone : after? "sectorsize=" o.spelling = none := by
    cases o <;> rfl
  rw [after?_eq_some_iff.2 hsizes] at hnone
  cases hnone

theorem GivesSectors.unique {field : String} {z z' : SectorSizes} (h : GivesSectors field z)
    (h' : GivesSectors field z') : z = z' := by
  obtain ⟨sizes, hfield, h⟩ := h
  obtain ⟨sizes', hfield', h'⟩ := h'
  obtain rfl : sizes = sizes' :=
    Option.some.inj ((after?_eq_some_iff.2 hfield).symm.trans (after?_eq_some_iff.2 hfield'))
  exact h.unique h'

theorem sectorsAfter_cons_of_not {start sectors : Option SectorSizes} {field : String}
    {settings : List String} (h : ∀ z, ¬GivesSectors field z) :
    SectorsAfter start (field :: settings) sectors ↔ SectorsAfter start settings sectors := by
  constructor
  · rintro (⟨before, last, after, z, hsettings, hlast, hafter, rfl⟩ | ⟨hnone, rfl⟩)
    · cases before with
      | nil =>
          cases hsettings
          exact absurd hlast (h z)
      | cons first before =>
          cases hsettings
          exact .inl ⟨before, last, after, z, rfl, hlast, hafter, rfl⟩
    · exact .inr ⟨fun other hother => hnone other (List.mem_cons_of_mem field hother), rfl⟩
  · rintro (⟨before, last, after, z, rfl, hlast, hafter, rfl⟩ | ⟨hnone, rfl⟩)
    · exact .inl ⟨field :: before, last, after, z, rfl, hlast, hafter, rfl⟩
    · exact .inr ⟨List.forall_mem_cons.2 ⟨h, hnone⟩, rfl⟩

theorem sectorsAfter_cons {start sectors : Option SectorSizes} {field : String}
    {settings : List String} {z : SectorSizes} (h : GivesSectors field z) :
    SectorsAfter start (field :: settings) sectors ↔ SectorsAfter (some z) settings sectors := by
  constructor
  · rintro (⟨before, last, after, z', hsettings, hlast, hafter, rfl⟩ | ⟨hnone, rfl⟩)
    · -- the last field with sizes is this one or one of the others
      cases before with
      | nil =>
          cases hsettings
          exact .inr ⟨hafter, congrArg some (hlast.unique h)⟩
      | cons first before =>
          cases hsettings
          exact .inl ⟨before, last, after, z', rfl, hlast, hafter, rfl⟩
    · exact absurd h (hnone field List.mem_cons_self z)
  · rintro (⟨before, last, after, z', rfl, hlast, hafter, rfl⟩ | ⟨hnone, rfl⟩)
    · exact .inl ⟨field :: before, last, after, z', rfl, hlast, hafter, rfl⟩
    · exact .inl ⟨[], field, settings, z, rfl, h, hnone, rfl⟩

/-! ## Reading them -/

/-- One field adds an option or replaces the sector sizes. -/
theorem FileSettings.add_eq_ok_iff {s s' : FileSettings} {field : String} :
    s.add field = .ok s' ↔
      (∃ o : OpenOption, field = o.spelling ∧ s' = { s with options := s.options.insert o }) ∨
      ∃ z, GivesSectors field z ∧ s' = { s with sectors := some z } := by
  rw [add]
  constructor
  · intro h
    split at h
    · next o ho => exact .inl ⟨o, OpenOption.ofText?_eq_some_iff.1 ho, (Except.ok.inj h).symm⟩
    · split at h
      · next sizes hsizes =>
          obtain ⟨z, hz, rfl⟩ := Except.map_eq_ok_iff.1 h
          exact .inr ⟨z, ⟨sizes, after?_eq_some_iff.1 hsizes, SectorSizes.ofText_eq_ok_iff.1 hz⟩,
            rfl⟩
      · cases h
  · rintro (⟨o, hfield, rfl⟩ | ⟨z, hgives, rfl⟩)
    · rw [OpenOption.ofText?_eq_some_iff.2 hfield]
    · have hnone : OpenOption.ofText? field = none := by
        rw [Option.eq_none_iff_forall_ne_some]
        intro o ho
        exact hgives.ne_spelling o (OpenOption.ofText?_eq_some_iff.1 ho).symm
      obtain ⟨sizes, hfield, hsizes⟩ := hgives
      rw [hnone, after?_eq_some_iff.2 hfield]
      exact Except.map_eq_ok_iff.2 ⟨z, SectorSizes.ofText_eq_ok_iff.2 hsizes, rfl⟩

/-- The fields are read to the end when each of them is a setting. The options are then those that
were named, besides those from before. -/
theorem foldlM_add_eq_ok_iff {settings : List String} {s s' : FileSettings} :
    settings.foldlM FileSettings.add s = .ok s' ↔
      (∀ field ∈ settings, IsSetting field) ∧
      (∀ o, o ∈ s'.options.entries ↔ o ∈ s.options.entries ∨ o.spelling ∈ settings) ∧
      SectorsAfter s.sectors settings s'.sectors := by
  induction settings generalizing s with
  | nil =>
      obtain ⟨options, sectors⟩ := s
      obtain ⟨options', sectors'⟩ := s'
      simp [pure, Except.pure, SectorsAfter, Table.eq_iff_mem, eq_comm, iff_comm]
  | cons field settings ih =>
      -- a field is a word for one option or gives sector sizes, and never does both
      have hnamed : ∀ o o' : OpenOption,
          (o' ∈ (s.options.insert o).entries ∨ o'.spelling ∈ settings) ↔
            (o' ∈ s.options.entries ∨ o'.spelling ∈ o.spelling :: settings) := by
        intro o o'
        rw [OpenOption.mem_insert_iff, List.mem_cons, OpenOption.spelling_inj, or_assoc,
          or_left_comm]
      have hother : ∀ z, GivesSectors field z → ∀ o : OpenOption,
          o.spelling ∈ field :: settings ↔ o.spelling ∈ settings := by
        intro z hgives o
        rw [List.mem_cons, or_iff_right (hgives.ne_spelling o)]
      rw [List.foldlM_cons, Except.bind_eq_ok_iff]
      simp only [FileSettings.add_eq_ok_iff, ih, List.forall_mem_cons]
      constructor
      · rintro ⟨_, ⟨o, rfl, rfl⟩ | ⟨z, hgives, rfl⟩, hsettings, hoptions, hsectors⟩
        · exact ⟨⟨.inl ⟨o, rfl⟩, hsettings⟩, fun o' => (hoptions o').trans (hnamed o o'),
            (sectorsAfter_cons_of_not fun _ h => h.ne_spelling o rfl).2 hsectors⟩
        · refine ⟨⟨.inr ⟨z, hgives⟩, hsettings⟩, fun o => ?_, (sectorsAfter_cons hgives).2 hsectors⟩
          rw [hother z hgives, hoptions]
      · rintro ⟨⟨⟨o, rfl⟩ | ⟨z, hgives⟩, hsettings⟩, hoptions, hsectors⟩
        · exact ⟨_, .inl ⟨o, rfl, rfl⟩, hsettings, fun o' => (hoptions o').trans (hnamed o o').symm,
            (sectorsAfter_cons_of_not fun _ h => h.ne_spelling o rfl).1 hsectors⟩
        · refine ⟨_, .inr ⟨z, hgives, rfl⟩, hsettings, fun o => ?_,
            (sectorsAfter_cons hgives).1 hsectors⟩
          rw [hoptions, hother z hgives]

theorem settings_eq_ok_iff {settings : List String} {s : FileSettings} :
    settings.foldlM FileSettings.add {} = .ok s ↔
      (∀ field ∈ settings, IsSetting field) ∧
      (∀ o, o ∈ s.options.entries ↔ o.spelling ∈ settings) ∧
      SectorsAfter none settings s.sectors := by
  rw [foldlM_add_eq_ok_iff]
  simp

/-- Settings are read from wherever the reading has got to. -/
theorem exists_foldlM_add_iff {settings : List String} (s : FileSettings) :
    (∃ s', settings.foldlM FileSettings.add s = .ok s') ↔ ∀ field ∈ settings, IsSetting field := by
  refine Except.exists_foldlM_eq_ok_iff (fun t field => ?_) s
  simp only [FileSettings.add_eq_ok_iff, exists_or, IsSetting]
  constructor
  · rintro (⟨_, o, ho, -⟩ | ⟨_, z, hz, -⟩)
    · exact .inl ⟨o, ho⟩
    · exact .inr ⟨z, hz⟩
  · rintro (⟨o, ho⟩ | ⟨z, hz⟩)
    · exact .inl ⟨_, o, ho, rfl⟩
    · exact .inr ⟨_, z, hz, rfl⟩

/-! ## Backends -/

/-- How backends are written, in fields. -/
inductive Written : List String → StorageBackend → Prop
  | file {path : String} {settings : List String} {options : Table OpenOption.index}
      {sectors : Option SectorSizes} (hpath : path ≠ "")
      (hsettings : ∀ field ∈ settings, IsSetting field)
      (hoptions : ∀ o, o ∈ options.entries ↔ o.spelling ∈ settings)
      (hsectors : SectorsAfter none settings sectors) :
      Written ("file" :: path :: settings) (.file path options sectors)
  | volume : Written ["zfs-volume"] (.volume none)
  | openVolume : Written ["zfs-volume", ""] (.volume none)
  | sizedVolume {size : String} {n : UInt64} (h : IsNumeral size n.toNat) :
      Written ["zfs-volume", size] (.volume (some n))
  | scsi : Written ["scsi"] .scsi

/-- The forms that the fields of a backend have. -/
def IsForm (parts : List String) : Prop :=
  (∃ path settings, parts = "file" :: path :: settings ∧ path ≠ "" ∧
    ∀ field ∈ settings, IsSetting field) ∨
  parts = ["zfs-volume"] ∨
  (∃ size, parts = ["zfs-volume", size] ∧ (size = "" ∨ ∃ n < UInt64.size, IsNumeral size n)) ∨
  parts = ["scsi"]

/-- Fields of these forms stand for some backend, and no others do. -/
theorem exists_written_iff {parts : List String} : (∃ b, Written parts b) ↔ IsForm parts := by
  constructor
  · rintro ⟨b, h⟩
    cases h with
    | file hpath hsettings => exact .inl ⟨_, _, rfl, hpath, hsettings⟩
    | volume => exact .inr (.inl rfl)
    | openVolume => exact .inr (.inr (.inl ⟨"", rfl, .inl rfl⟩))
    | @sizedVolume size n h => exact .inr (.inr (.inl ⟨size, rfl, .inr ⟨_, n.toNat_lt, h⟩⟩))
    | scsi => exact .inr (.inr (.inr rfl))
  · rintro (⟨path, settings, rfl, hpath, hsettings⟩ | rfl | ⟨size, rfl, rfl | ⟨n, hn, h⟩⟩ | rfl)
    · obtain ⟨s, hs⟩ := (exists_foldlM_add_iff {}).2 hsettings
      obtain ⟨-, hoptions, hsectors⟩ := settings_eq_ok_iff.1 hs
      exact ⟨_, .file hpath hsettings hoptions hsectors⟩
    · exact ⟨_, .volume⟩
    · exact ⟨_, .openVolume⟩
    · refine ⟨.volume (some (.ofNat n)), .sizedVolume ?_⟩
      rwa [UInt64.toNat_ofNat_of_lt' hn]
    · exact ⟨_, .scsi⟩

theorem volumeSize_eq_ok_iff {text : String} {size : Option UInt64} :
    volumeSize text = .ok size ↔
      (text = "" ∧ size = none) ∨ ∃ n, IsNumeral text n.toNat ∧ size = some n := by
  unfold volumeSize
  constructor
  · intro h
    split at h
    · next hempty => exact .inl ⟨String.isEmpty_iff.1 hempty, (Except.ok.inj h).symm⟩
    · split at h
      · next n hn => exact .inr ⟨n, readWord64_eq_ok_iff.1 hn, (Except.ok.inj h).symm⟩
      · cases h
  · rintro (⟨rfl, rfl⟩ | ⟨n, hn, rfl⟩)
    · rfl
    · rw [if_neg (by simpa using hn.ne_empty), readWord64_eq_ok_iff.2 hn]

/-- The text is of the kind `scsi`, with fields behind it. -/
def HasIgnoredField (text : String) : Prop :=
  ∃ field more, fields ';' text = "scsi" :: field :: more

theorem ofText_of_written {text : String} {b : StorageBackend}
    (h : Written (fields ';' text) b) : ofText text = .ok b := by
  rw [ofText]
  generalize fields ';' text = parts at h
  cases h with
  | @file path settings options sectors hpath hsettings hoptions hsectors =>
      show (if path.isEmpty then _ else _) = _
      rw [if_neg (by simpa using hpath)]
      exact Except.bind_eq_ok_iff.2 ⟨⟨options, sectors⟩,
        settings_eq_ok_iff.2 ⟨hsettings, hoptions, hsectors⟩, rfl⟩
  | volume => rfl
  | openVolume => rfl
  | sizedVolume h =>
      exact Except.bind_eq_ok_iff.2 ⟨_, volumeSize_eq_ok_iff.2 (.inr ⟨_, h, rfl⟩), rfl⟩
  | scsi => rfl

theorem ofText_eq_ok_iff {text : String} {b : StorageBackend} : ofText text = .ok b ↔
    Written (fields ';' text) b ∨ (b = .scsi ∧ HasIgnoredField text) := by
  constructor
  · intro h
    unfold ofText at h
    split at h
    · next path settings hfields =>
        rw [hfields]
        split at h
        · cases h
        next hpath =>
        obtain ⟨s, hs, h⟩ := Except.bind_eq_ok_iff.1 h
        obtain rfl := Except.ok.inj h
        obtain ⟨hsettings, hoptions, hsectors⟩ := settings_eq_ok_iff.1 hs
        exact .inl (.file (by simpa using hpath) hsettings hoptions hsectors)
    · cases h
    · next hfields =>
        rw [hfields]
        obtain rfl := Except.ok.inj h
        exact .inl .volume
    · next size surplus hfields =>
        rw [hfields]
        obtain ⟨expected, hexpected, h⟩ := Except.bind_eq_ok_iff.1 h
        split at h
        · next hsurplus =>
            obtain rfl := Except.ok.inj h
            obtain rfl := List.isEmpty_iff.1 hsurplus
            rcases volumeSize_eq_ok_iff.1 hexpected with ⟨rfl, rfl⟩ | ⟨n, hn, rfl⟩
            · exact .inl .openVolume
            · exact .inl (.sizedVolume hn)
        · cases h
    · next more hfields =>
        obtain rfl := Except.ok.inj h
        cases more with
        | nil =>
            rw [hfields]
            exact .inl .scsi
        -- nothing looks at what follows
        | cons field more => exact .inr ⟨rfl, field, more, hfields⟩
    · cases h
    · cases h
  · rintro (h | ⟨rfl, field, more, hfields⟩)
    · exact ofText_of_written h
    · rw [ofText, hfields]
      rfl

theorem not_written_of_hasIgnoredField {text : String} (h : HasIgnoredField text)
    (b : StorageBackend) : ¬Written (fields ';' text) b := by
  obtain ⟨field, more, hfields⟩ := h
  rw [hfields]
  intro hwritten
  simpa [IsForm] using exists_written_iff.1 ⟨b, hwritten⟩

/-- A text is read as it is written but for the further fields of the kind `scsi`. -/
theorem ofText_iff_written_iff {text : String} :
    (∀ b, ofText text = .ok b ↔ Written (fields ';' text) b) ↔ ¬HasIgnoredField text := by
  constructor
  · intro h hignored
    have hread : ofText text = .ok .scsi := ofText_eq_ok_iff.2 (.inr ⟨rfl, hignored⟩)
    exact not_written_of_hasIgnoredField hignored .scsi ((h .scsi).1 hread)
  · intro hnone b
    exact ofText_eq_ok_iff.trans (or_iff_left fun h => hnone h.2)

theorem exists_ofText_iff {text : String} :
    (∃ b, ofText text = .ok b) ↔ IsForm (fields ';' text) ∨ HasIgnoredField text := by
  rw [← exists_written_iff]
  simp [ofText_eq_ok_iff, exists_or]

/-- **How backends are read.** A text is accepted when its fields are of the documented form, and
then the backend has the path, exactly the options that are named, the sector sizes that are given
last and the expected size. It is also accepted when it names the kind `scsi` and goes on after it.
The further fields, whatever they are, are then passed over, and these texts are the only ones that
are not read as the form says. -/
theorem texts_read (text : String) :
    (∀ b, ofText text = .ok b ↔
      Written (fields ';' text) b ∨ (b = .scsi ∧ HasIgnoredField text)) ∧
    ((∃ b, ofText text = .ok b) ↔ IsForm (fields ';' text) ∨ HasIgnoredField text) ∧
    ((∀ b, ofText text = .ok b ↔ Written (fields ';' text) b) ↔ ¬HasIgnoredField text) :=
  ⟨fun _ => ofText_eq_ok_iff, exists_ofText_iff, ofText_iff_written_iff⟩

/-- A file with options and with sector sizes that are given twice, and a text whose last field is
passed over. -/
theorem texts_read_cases :
    (∃ b, ofText "file;/disk;ro;sectorsize=512;nocache;ro;sectorsize=+0512/4096" = .ok b ∧
      Written ["file", "/disk", "ro", "sectorsize=512", "nocache", "ro", "sectorsize=+0512/4096"]
        b ∧ b.arguments = ["nocache", "ro", "sectorsize=512/4096"]) ∧
    ofText "scsi;nocache" = .ok .scsi := by
  obtain ⟨b, hb, harguments⟩ : ∃ b, ofText
      "file;/disk;ro;sectorsize=512;nocache;ro;sectorsize=+0512/4096" = .ok b ∧
      b.arguments = ["nocache", "ro", "sectorsize=512/4096"] := ⟨_, rfl, rfl⟩
  have hfields : fields ';' "file;/disk;ro;sectorsize=512;nocache;ro;sectorsize=+0512/4096" =
      ["file", "/disk", "ro", "sectorsize=512", "nocache", "ro", "sectorsize=+0512/4096"] := rfl
  have hnone : ¬HasIgnoredField
      "file;/disk;ro;sectorsize=512;nocache;ro;sectorsize=+0512/4096" := by
    rintro ⟨field, more, h⟩
    rw [hfields] at h
    simp at h
  have hwritten := ((texts_read _).2.2.2 hnone b).1 hb
  rw [hfields] at hwritten
  exact ⟨⟨b, hb, hwritten, harguments⟩,
    ((texts_read "scsi;nocache").1 .scsi).2 (.inr ⟨rfl, "nocache", [], rfl⟩)⟩

/-- A field may be passed over. -/
theorem exists_ignored_field :
    ofText "scsi;junk" = .ok .scsi ∧ ¬∃ b, Written (fields ';' "scsi;junk") b :=
  ⟨rfl, fun ⟨b, h⟩ => not_written_of_hasIgnoredField ⟨"junk", [], rfl⟩ b h⟩

end StorageBackend

end Guestkeeper
