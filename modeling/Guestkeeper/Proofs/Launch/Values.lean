import Guestkeeper.Launch.Hypervisor
import Guestkeeper.Proofs.Device
import Guestkeeper.Proofs.Machine.Soundness

set_option autoImplicit false

/-! # Values of options told apart

The hypervisor is given one text for each device and one for each serial line. The fields of such a
text stand between commas, and the path of a disk's data is the only one that may hold commas of its
own. So two devices get the same text in one way only: they agree in everything but their storage,
and there the path of one has options of the other at its end. Two serial lines get the same text
where one is a file with the name of what the other is connected to.

Where no path holds a comma, the text of a device says everything about it.
-/

namespace Guestkeeper

open Guestkeeper.Text

/-- The device was put into its slot by an addition. -/
def Device.IsAdded (d : Device) : Prop :=
  ∃ (m m' : Machine) (a : Addition), m.addDevice a = .ok (m', d.slot) ∧
    m'.device? d.slot = some d

theorem Device.IsAdded.valid {d : Device} (h : d.IsAdded) : d.kind.validate = .ok () := by
  obtain ⟨m, m', a, hadd, hd⟩ := h
  obtain ⟨-, haccepts, rfl⟩ := Machine.addDevice_eq_ok_iff.1 hadd
  rw [Machine.device?_withDevice, if_pos rfl] at hd
  rw [← Option.some.inj hd]
  exact haccepts.valid

namespace Launch

/-! ## The fields of a device -/

section Fields

variable {root : String} {id : Uuid} {d : Device}

/-- A disk has a path and options; nothing else has storage. -/
theorem storageArguments_cases {storage : List String}
    (h : storageArguments root id d = .ok storage) :
    (d.kind.storage? = none ∧ storage = []) ∨ ∃ backend path, d.kind.storage? = some backend ∧
      storage = path :: backend.arguments := by
  rw [storageArguments] at h
  split at h
  · next hnone => exact .inl ⟨hnone, (Except.ok.inj h).symm⟩
  · next backend hsome =>
      obtain ⟨path, -, h⟩ := Except.bind_eq_ok_iff.1 h
      exact .inr ⟨backend, path, hsome, (Except.ok.inj h).symm⟩

theorem fields_deviceArgument {value : String} (hvalid : d.kind.validate = .ok ())
    (h : deviceArgument root id d = .ok value) :
    ∃ storage, storageArguments root id d = .ok storage ∧ fields ',' value =
      d.slot.text :: d.kind.emulation :: (storage.flatMap (fields ',') ++ d.kind.arguments) := by
  obtain ⟨storage, hstorage, h⟩ := Except.bind_eq_ok_iff.1 h
  refine ⟨storage, hstorage, ?_⟩
  have hvalue : fields ',' value = (d.slot.text :: d.kind.emulation :: storage ++
      d.kind.arguments).flatMap (fields ',') := by
    rw [← Except.ok.inj h]
    exact fields_intercalate ',' _ _
  have harguments : d.kind.arguments.flatMap (fields ',') = d.kind.arguments :=
    flatMap_fields_of_notMem fun _ hmem => DeviceKind.comma_notMem_arguments hvalid hmem
  rw [hvalue, List.flatMap_append, harguments, List.flatMap_cons, List.flatMap_cons,
    fields_of_notMem d.slot.comma_notMem_text, fields_of_notMem d.kind.comma_notMem_emulation]
  rfl

end Fields

/-! ## Paths that hold options -/

/-- The path of the first storage is that of the second with options of the second behind it. -/
inductive Swallows : List String → List String → Prop
  | options (path option : String) (more rest : List String) :
      Swallows (String.intercalate "," (path :: option :: more) :: rest)
        (path :: option :: (more ++ rest))

/-- A path that has swallowed options holds a comma. -/
theorem Swallows.comma_mem {path : String} {options other : List String}
    (h : Swallows (path :: options) other) : ',' ∈ path.toList := by
  cases h with
  | options path option more rest =>
      rw [String.intercalate_cons_cons]
      simp

/-- The fields of a path with options behind it. -/
theorem fields_path_append {options : List String} (path : String)
    (h : ∀ option ∈ options, ',' ∉ option.toList) :
    fields ',' (String.intercalate "," (path :: options)) = fields ',' path ++ options := by
  have hfields : fields ',' (String.intercalate "," (path :: options)) =
      (path :: options).flatMap (fields ',') := fields_intercalate ',' path options
  rw [hfields, List.flatMap_cons, flatMap_fields_of_notMem h]

section Storage

variable {path other : String} {options others : List String}

theorem Swallows.fields_eq (hothers : ∀ o ∈ others, ',' ∉ o.toList)
    (h : Swallows (path :: options) (other :: others)) :
    fields ',' path ++ options = fields ',' other ++ others := by
  cases h with
  | options _ option more =>
      have hmoved : ∀ o ∈ option :: more, ',' ∉ o.toList :=
        fun o ho => hothers o (List.mem_append_left options ho)
      rw [fields_path_append other hmoved, List.append_assoc]
      rfl

/-- Fields that one path has in excess of the other are options of the other. -/
theorem swallows_of_append {extra : List String} (hothers : ∀ o ∈ others, ',' ∉ o.toList)
    (hpath : fields ',' path = fields ',' other ++ extra) (hextra : others = extra ++ options) :
    path :: options = other :: others ∨ Swallows (path :: options) (other :: others) := by
  cases extra with
  | nil =>
      rw [List.append_nil] at hpath
      rw [fields_injective hpath, hextra, List.nil_append]
      exact .inl rfl
  | cons option more =>
      have hmoved : ∀ o ∈ option :: more, ',' ∉ o.toList := by
        intro o ho
        rw [hextra] at hothers
        exact hothers o (List.mem_append_left options ho)
      rw [← fields_path_append other hmoved] at hpath
      rw [fields_injective hpath, hextra]
      exact .inr (.options other option more options)

theorem fields_append_eq_iff (hoptions : ∀ o ∈ options, ',' ∉ o.toList)
    (hothers : ∀ o ∈ others, ',' ∉ o.toList) :
    fields ',' path ++ options = fields ',' other ++ others ↔
      path :: options = other :: others ∨ Swallows (path :: options) (other :: others) ∨
        Swallows (other :: others) (path :: options) := by
  constructor
  · intro h
    -- one of the paths has at least the fields of the other
    rcases List.append_eq_append_iff.1 h with ⟨extra, hpath, hextra⟩ | ⟨extra, hpath, hextra⟩
    · rcases swallows_of_append hoptions hpath hextra with heq | hswallows
      · exact .inl heq.symm
      · exact .inr (.inr hswallows)
    · rcases swallows_of_append hothers hpath hextra with heq | hswallows
      · exact .inl heq
      · exact .inr (.inl hswallows)
  · rintro (heq | hswallows | hswallows)
    · obtain ⟨rfl, rfl⟩ := List.cons.inj heq
      rfl
    · exact hswallows.fields_eq hothers
    · exact (hswallows.fields_eq hoptions).symm

end Storage

section Pairs

variable {root : String} {id : Uuid} {d e : Device} {x y : List String}

/-- Of two devices with one name for the hypervisor, both are disks or neither is. -/
theorem storageArguments_both (hx : storageArguments root id d = .ok x)
    (hy : storageArguments root id e = .ok y) (h : d.kind.emulation = e.kind.emulation) :
    (x = [] ∧ y = []) ∨ ∃ b c path other, d.kind.storage? = some b ∧ e.kind.storage? = some c ∧
      x = path :: b.arguments ∧ y = other :: c.arguments := by
  have hdisk := DeviceKind.isSome_storage?_congr h
  rcases storageArguments_cases hx with ⟨hd, hnil⟩ | ⟨b, path, hd, hpath⟩
  · rcases storageArguments_cases hy with ⟨-, hnil'⟩ | ⟨c, other, he, -⟩
    · exact .inl ⟨hnil, hnil'⟩
    · rw [hd, he] at hdisk
      cases hdisk
  · rcases storageArguments_cases hy with ⟨he, -⟩ | ⟨c, other, he, hother⟩
    · rw [hd, he] at hdisk
      cases hdisk
    · exact .inr ⟨b, c, path, other, hd, he, hpath, hother⟩

/-- What the storage of two devices is, where the fields of both are the same. -/
theorem storage_fields_eq_iff (hx : storageArguments root id d = .ok x)
    (hy : storageArguments root id e = .ok y) (h : d.kind.emulation = e.kind.emulation) :
    x.flatMap (fields ',') = y.flatMap (fields ',') ↔ x = y ∨ Swallows x y ∨ Swallows y x := by
  rcases storageArguments_both hx hy h with ⟨rfl, rfl⟩ | ⟨b, c, path, other, -, -, rfl, rfl⟩
  · simp
  · have hb : ∀ o ∈ b.arguments, ',' ∉ o.toList :=
      fun _ ho => StorageBackend.comma_notMem_arguments ho
    have hc : ∀ o ∈ c.arguments, ',' ∉ o.toList :=
      fun _ ho => StorageBackend.comma_notMem_arguments ho
    rw [List.flatMap_cons, List.flatMap_cons, flatMap_fields_of_notMem hb,
      flatMap_fields_of_notMem hc]
    exact fields_append_eq_iff hb hc

/-- A disk has no options of its kind, and what is no disk has no storage. -/
theorem arguments_eq_of_append (hx : storageArguments root id d = .ok x)
    (hy : storageArguments root id e = .ok y) (hemulation : d.kind.emulation = e.kind.emulation)
    (h : x.flatMap (fields ',') ++ d.kind.arguments =
      y.flatMap (fields ',') ++ e.kind.arguments) :
    d.kind.arguments = e.kind.arguments ∧ x.flatMap (fields ',') = y.flatMap (fields ',') := by
  rcases storageArguments_both hx hy hemulation with ⟨rfl, rfl⟩ | ⟨b, c, -, -, hd, he, -, -⟩
  · exact ⟨h, rfl⟩
  · rw [DeviceKind.arguments_of_storage? hd, DeviceKind.arguments_of_storage? he] at h ⊢
    rw [List.append_nil, List.append_nil] at h
    exact ⟨rfl, h⟩

end Pairs

theorem not_swallows {x y : List String} (h : ∀ path ∈ x.head?, ',' ∉ path.toList) :
    ¬ Swallows x y := by
  intro hswallows
  cases x with
  | nil => cases hswallows
  | cons path options => exact h path rfl hswallows.comma_mem

/-- Two devices have the same text exactly if they agree in all but their storage, and there one
path may hold options of the other. -/
theorem deviceArgument_eq_iff {root : String} {id : Uuid} {d e : Device} {v w : String}
    (hd : d.IsAdded) (he : e.IsAdded) (hv : deviceArgument root id d = .ok v)
    (hw : deviceArgument root id e = .ok w) :
    ∃ x y, storageArguments root id d = .ok x ∧ storageArguments root id e = .ok y ∧
      (v = w ↔ d.slot = e.slot ∧ d.kind.emulation = e.kind.emulation ∧
        d.kind.arguments = e.kind.arguments ∧ (x = y ∨ Swallows x y ∨ Swallows y x)) := by
  obtain ⟨x, hx, hfieldsv⟩ := fields_deviceArgument hd.valid hv
  obtain ⟨y, hy, hfieldsw⟩ := fields_deviceArgument he.valid hw
  refine ⟨x, y, hx, hy, ?_⟩
  constructor
  · rintro rfl
    rw [hfieldsv] at hfieldsw
    obtain ⟨hslot, hrest⟩ := List.cons.inj hfieldsw
    obtain ⟨hemulation, hrest⟩ := List.cons.inj hrest
    obtain ⟨harguments, hstorage⟩ := arguments_eq_of_append hx hy hemulation hrest
    exact ⟨Slot.text_injective hslot, hemulation, harguments,
      (storage_fields_eq_iff hx hy hemulation).1 hstorage⟩
  · rintro ⟨hslot, hemulation, harguments, hstorage⟩
    rw [← storage_fields_eq_iff hx hy hemulation] at hstorage
    have htexts : fields ',' v = fields ',' w := by
      rw [hfieldsv, hfieldsw, hslot, hemulation, hstorage, harguments]
    exact fields_injective htexts

end Launch

/-! ## Serial lines -/

namespace TtyBackend

/-- What a serial line is connected to. -/
def connection (id : Uuid) : TtyBackend → String
  | .file _ path => path
  | .nmdm _ => guestLine id
  | .stdio _ => "stdio"

/-- The first line is a file with the name of what the second is connected to. -/
inductive Imitates (id : Uuid) : TtyBackend → TtyBackend → Prop
  | nmdm (name : TtyName) : Imitates id (.file name (guestLine id)) (.nmdm name)
  | stdio (name : TtyName) : Imitates id (.file name "stdio") (.stdio name)

theorem argument_eq (id : Uuid) (b : TtyBackend) :
    b.argument id = b.name.text ++ "," ++ b.connection id := by
  cases b with
  | file name path => rfl
  | nmdm name => rfl
  | stdio name =>
      rw [String.append_assoc]
      rfl

/-- The text of a line is cut into its name and what it is connected to. -/
theorem cut_argument (id : Uuid) (b : TtyBackend) :
    cut ',' (b.argument id) = some (b.name.text, b.connection id) := by
  rw [argument_eq]
  exact cut_append b.name.comma_notMem_text (b.connection id)

theorem argument_eq_iff_parts {id : Uuid} {a b : TtyBackend} :
    a.argument id = b.argument id ↔ a.name = b.name ∧ a.connection id = b.connection id := by
  constructor
  · intro h
    have hparts : some (a.name.text, a.connection id) = some (b.name.text, b.connection id) := by
      rw [← cut_argument id a, ← cut_argument id b, h]
    obtain ⟨hname, hconnection⟩ := Prod.mk.inj (Option.some.inj hparts)
    exact ⟨TtyName.text_injective hname, hconnection⟩
  · rintro ⟨hname, hconnection⟩
    rw [argument_eq, argument_eq, hname, hconnection]

/-- The null-modem pair is no stream of the hypervisor. -/
theorem guestLine_ne_stdio (id : Uuid) : guestLine id ≠ "stdio" := by
  intro h
  have hfirst := congrArg (fun text => text.toList.head?) h
  simp [guestLine] at hfirst

theorem Imitates.argument_eq {id : Uuid} {a b : TtyBackend} (h : a.Imitates id b) :
    a.argument id = b.argument id := by
  rw [argument_eq_iff_parts]
  cases h with
  | nmdm name => exact ⟨rfl, rfl⟩
  | stdio name => exact ⟨rfl, rfl⟩

/-- Two lines have the same text exactly if they are the same line or one imitates the other. -/
theorem argument_eq_iff {id : Uuid} {a b : TtyBackend} :
    a.argument id = b.argument id ↔ a = b ∨ a.Imitates id b ∨ b.Imitates id a := by
  constructor
  · rw [argument_eq_iff_parts]
    rintro ⟨hname, hconnection⟩
    -- with the names equal, a file can stand for a line of another kind
    cases a with
    | file name path =>
        cases b with
        | file other path' =>
            rw [show name = other from hname, show path = path' from hconnection]
            exact .inl rfl
        | nmdm other =>
            rw [show name = other from hname, show path = guestLine id from hconnection]
            exact .inr (.inl (.nmdm other))
        | stdio other =>
            rw [show name = other from hname, show path = "stdio" from hconnection]
            exact .inr (.inl (.stdio other))
    | nmdm name =>
        cases b with
        | file other path =>
            rw [show name = other from hname, show path = guestLine id from hconnection.symm]
            exact .inr (.inr (.nmdm other))
        | nmdm other => exact .inl (congrArg nmdm hname)
        | stdio other => exact absurd hconnection (guestLine_ne_stdio id)
    | stdio name =>
        cases b with
        | file other path =>
            rw [show name = other from hname, show path = "stdio" from hconnection.symm]
            exact .inr (.inr (.stdio other))
        | nmdm other => exact absurd hconnection.symm (guestLine_ne_stdio id)
        | stdio other => exact .inl (congrArg stdio hname)
  · rintro (rfl | h | h)
    · rfl
    · exact h.argument_eq
    · exact h.argument_eq.symm

end TtyBackend

/-! ## Texts told apart -/

namespace Launch

/-- **What the texts of devices and serial lines tell.** Two devices with the same text agree in
their slots, the hypervisor's names for them and the options of their kinds; their storage is the
same too, unless one path holds options of the other. Where the paths have no commas, the text
tells everything. Two serial lines with the same text are the same line, unless one is a file with
the name of what the other is connected to. -/
theorem values_told_apart (root : String) (id : Uuid) :
    (∀ d e v w, d.IsAdded → e.IsAdded → deviceArgument root id d = .ok v →
      deviceArgument root id e = .ok w →
        ∃ x y, storageArguments root id d = .ok x ∧ storageArguments root id e = .ok y ∧
          (v = w ↔ d.slot = e.slot ∧ d.kind.emulation = e.kind.emulation ∧
            d.kind.arguments = e.kind.arguments ∧ (x = y ∨ Swallows x y ∨ Swallows y x)) ∧
          ((∀ path ∈ x.head?, ',' ∉ path.toList) → (∀ path ∈ y.head?, ',' ∉ path.toList) →
            (v = w ↔ d.slot = e.slot ∧ d.kind.emulation = e.kind.emulation ∧
              d.kind.arguments = e.kind.arguments ∧ x = y))) ∧
      ∀ a b : TtyBackend,
        a.argument id = b.argument id ↔ a = b ∨ a.Imitates id b ∨ b.Imitates id a := by
  refine ⟨fun d e v w hd he hv hw => ?_, fun a b => TtyBackend.argument_eq_iff⟩
  obtain ⟨x, y, hx, hy, hiff⟩ := deviceArgument_eq_iff hd he hv hw
  refine ⟨x, y, hx, hy, hiff, fun hxcomma hycomma => ?_⟩
  rw [hiff, or_iff_left (not_or.2 ⟨not_swallows hxcomma, not_swallows hycomma⟩)]

/-- A disk whose data is in a file. -/
def disk (s : Slot) (path : String) (options : List OpenOption) : Device :=
  ⟨s, "", .ahciDisk (.file path (Table.ofList options) none)⟩

/-- The slot is free in a new machine. -/
theorem isAdded_disk (path : String) (options : List OpenOption) :
    (disk ⟨0, 1, 0⟩ path options).IsAdded := by
  have hadded : ∃ m m', Machine.define Machine.guest = .ok m ∧
      m.addDevice { kind := (disk ⟨0, 1, 0⟩ path options).kind, slot := some ⟨0, 1, 0⟩ } =
        .ok (m', ⟨0, 1, 0⟩) ∧ m'.device? ⟨0, 1, 0⟩ = some (disk ⟨0, 1, 0⟩ path options) :=
    ⟨_, _, rfl, rfl, rfl⟩
  obtain ⟨m, m', -, hadd, hdevice⟩ := hadded
  exact ⟨m, m', _, hadd, hdevice⟩

theorem values_told_apart_disks : ∃ d e v w x y, d = disk ⟨0, 1, 0⟩ "/a" [.readOnly] ∧
    e = disk ⟨0, 1, 0⟩ "/b" [] ∧ d.IsAdded ∧ e.IsAdded ∧
    deviceArgument "/dev/zvol" Machine.guest.id d = .ok v ∧
    deviceArgument "/dev/zvol" Machine.guest.id e = .ok w ∧
    storageArguments "/dev/zvol" Machine.guest.id d = .ok x ∧
    storageArguments "/dev/zvol" Machine.guest.id e = .ok y ∧ x ≠ y ∧ v ≠ w := by
  have happart := (values_told_apart "/dev/zvol" Machine.guest.id).1 _ _ _ _
    (isAdded_disk "/a" [.readOnly]) (isAdded_disk "/b" []) rfl rfl
  obtain ⟨x, y, hx, hy, -, hplain⟩ := happart
  cases hx
  cases hy
  have hpaths : ["/a", "ro"] ≠ ["/b"] := by decide
  refine ⟨_, _, _, _, _, _, rfl, rfl, isAdded_disk _ _, isAdded_disk _ _, rfl, rfl, rfl, rfl,
    hpaths, fun h => hpaths ?_⟩
  exact ((hplain (by decide) (by decide)).1 h).2.2.2

/-- A path can hold an option, and a file can have the name of the hypervisor's own streams. -/
theorem exists_smuggled_option :
    (∃ d e, d = disk ⟨0, 1, 0⟩ "/disk,ro" [] ∧ e = disk ⟨0, 1, 0⟩ "/disk" [.readOnly] ∧
      d.IsAdded ∧ e.IsAdded ∧ ∀ root id,
        deviceArgument root id d = .ok "0:1:0,ahci-hd,/disk,ro" ∧
        deviceArgument root id e = .ok "0:1:0,ahci-hd,/disk,ro" ∧
        storageArguments root id d = .ok ["/disk,ro"] ∧
        storageArguments root id e = .ok ["/disk", "ro"]) ∧
    ∃ a b, TtyBackend.ofText "file;com1;stdio" = .ok a ∧ TtyBackend.ofText "stdio;com1" = .ok b ∧
      a ≠ b ∧ ∀ id, a.argument id = b.argument id :=
  ⟨⟨_, _, rfl, rfl, isAdded_disk _ _, isAdded_disk _ _, fun _ _ => ⟨rfl, rfl, rfl, rfl⟩⟩,
    _, _, rfl, rfl, by decide, fun _ => rfl⟩

end Launch

end Guestkeeper
