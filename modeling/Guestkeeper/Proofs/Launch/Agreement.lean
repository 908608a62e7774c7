import Guestkeeper.Proofs.Launch.Lines
import Guestkeeper.Proofs.Launch.Plan
import Guestkeeper.Realization.Machine

set_option autoImplicit false

/-! # Agreement on disks

Three parts of the program find out where the data of a disk is: the loader, which writes it into
the device map, the hypervisor's command line, and realization, which creates it where it is
missing. They find the same path for a slot, and the loader's script refers to the drive that has
the path of the configured slot.

The loader gets the paths as lines of a file, and nothing keeps a newline out of a path. So what is
read there is what the others have only under a condition: that every path stays on its line.
-/

namespace Guestkeeper.Launch

open Guestkeeper.Text

variable {c : Configuration} {m : Machine} {b : BootConfiguration}

/-! ## The loader's files -/

/-- A path on the drive, as the script has it. -/
def Drive.location (d : Drive) (partition path : String) : String :=
  "(" ++ d.name ++ (if d.optical then "" else "," ++ partition) ++ ")" ++ path

/-- The drive's line of the device map. -/
def Drive.mapLine (d : Drive) : String := "(" ++ d.name ++ ") " ++ d.path

theorem locate_eq_ok {ds : List Drive} {s : Slot} {partition path text : String}
    (h : locate ds s partition path = .ok text) :
    ∃ d ∈ ds, d.slot = s ∧ text = d.location partition path := by
  rw [locate] at h
  split at h
  · cases h
  · next d hfind =>
      -- the first drive in the slot; another one there has the same path
      have hslot : d.slot = s := by simpa using List.find?_some hfind
      refine ⟨d, List.mem_of_find?_eq_some hfind, hslot, ?_⟩
      rw [Drive.location]
      split at h
      · next hoptical =>
          rw [if_pos hoptical, String.append_empty]
          exact (Except.ok.inj h).symm
      · next hoptical =>
          rw [if_neg hoptical, ← String.append_assoc]
          exact (Except.ok.inj h).symm

/-- The lines of a script that loads the kernel from the drives, and the commands that they are
meant to be. -/
inductive Script (ds : List Drive) : Kernel → List String → List (List String) → Prop
  | openBsd (path : String) (d : Drive) (drive : d ∈ ds) :
      Script ds (.openBsd path d.slot)
        ["kopenbsd -h com0 " ++ d.location "openbsd1" path, "boot"]
        [["kopenbsd", "-h", "com0", d.location "openbsd1" path], ["boot"]]
  | linux (path : String) (d : Drive) (drive : d ∈ ds) (arguments : List String)
      (plain : ∀ a ∈ arguments, hasControl a = false) (initrd : String) (e : Drive)
      (initrdDrive : e ∈ ds) :
      Script ds (.linux path d.slot arguments initrd e.slot)
        [String.intercalate " " ("linux" :: d.location "msdos1" path :: arguments.map quote),
          "initrd " ++ e.location "msdos1" initrd, "boot"]
        ["linux" :: d.location "msdos1" path :: arguments,
          ["initrd", e.location "msdos1" initrd], ["boot"]]

theorem kernelArguments_eq_ok {arguments words : List String}
    (h : arguments.mapM kernelArgument = .ok words) :
    words = arguments.map quote ∧ ∀ a ∈ arguments, hasControl a = false := by
  induction arguments generalizing words with
  | nil =>
      cases h
      exact ⟨rfl, nofun⟩
  | cons a arguments ih =>
      rw [List.mapM_cons] at h
      obtain ⟨word, hword, h⟩ := Except.bind_eq_ok_iff.1 h
      obtain ⟨more, hmore, h⟩ := Except.bind_eq_ok_iff.1 h
      obtain ⟨rfl, hplain⟩ := ih hmore
      rw [kernelArgument, invalid, Except.ite_error_eq_ok_iff] at hword
      obtain ⟨ha, hword⟩ := hword
      cases hword
      cases h
      exact ⟨rfl, List.forall_mem_cons.2 ⟨Bool.not_eq_true _ ▸ ha, hplain⟩⟩

theorem script_of_scriptLines {ds : List Drive} {k : Kernel} {ls : List String}
    (h : scriptLines ds k = .ok ls) : ∃ commands, Script ds k ls commands := by
  cases k with
  | openBsd path disk =>
      obtain ⟨text, htext, h⟩ := Except.bind_eq_ok_iff.1 h
      obtain ⟨d, hd, rfl, rfl⟩ := locate_eq_ok htext
      cases h
      exact ⟨_, .openBsd path d hd⟩
  | linux path disk arguments initrd initrdDisk =>
      obtain ⟨kernel, hkernel, h⟩ := Except.bind_eq_ok_iff.1 h
      obtain ⟨words, hwords, h⟩ := Except.bind_eq_ok_iff.1 h
      obtain ⟨ramdisk, hramdisk, h⟩ := Except.bind_eq_ok_iff.1 h
      obtain ⟨d, hd, rfl, rfl⟩ := locate_eq_ok hkernel
      obtain ⟨e, he, rfl, rfl⟩ := locate_eq_ok hramdisk
      obtain ⟨rfl, hplain⟩ := kernelArguments_eq_ok hwords
      cases h
      exact ⟨_, .linux path d hd arguments hplain initrd e he⟩

/-- What a loader is made of. -/
theorem files_of_loader {k : Kernel} {l : Loader} (hmethod : b.method = .grub k)
    (h : loader c m b = .ok l) : ∃ ds ls commands, drives c m b = .ok ds ∧
      Script ds k ls commands ∧
      l.files.map LoaderFile.contents = [lineText (ds.map Drive.mapLine), lineText ls] := by
  rw [loader, hmethod] at h
  obtain ⟨ds, hds, h⟩ := Except.bind_eq_ok_iff.1 h
  obtain ⟨ls, hls, h⟩ := Except.bind_eq_ok_iff.1 h
  obtain ⟨commands, hscript⟩ := script_of_scriptLines hls
  cases h
  exact ⟨ds, ls, commands, hds, hscript, rfl⟩

/-! ## The hypervisor and realization -/

/-- The options that the hypervisor is given for a disk that a drive shows. -/
theorem deviceArgument_of_shows {d : Drive} {device : Device} {backend : StorageBackend}
    (h : d.Shows c m device backend) : deviceArgument c.volumeRoot m.id device =
      .ok (String.intercalate "," (d.slot.text :: device.kind.emulation :: d.path ::
        (backend.arguments ++ device.kind.arguments))) := by
  rw [deviceArgument, storageArguments, h.storage, h.slot]
  simp only [h.target]
  rfl

theorem infix_repeated (option : String) {v : String} {values : List String} (hv : v ∈ values) :
    [option, v] <:+: repeated option values := by
  obtain ⟨front, behind, rfl⟩ := List.append_of_mem hv
  refine ⟨repeated option front, repeated option behind, ?_⟩
  simp [repeated]

theorem infix_hypervisorArguments {arguments : List String} {device : Device} {value : String}
    (h : hypervisorArguments c m b = .ok arguments) (hdevice : device ∈ m.devices.entries)
    (hvalue : deviceArgument c.volumeRoot m.id device = .ok value) :
    ["-s", value] <:+: arguments := by
  obtain ⟨values, hvalues, hinfix⟩ := exists_infix_hypervisorArguments h
  have hmem : value ∈ values :=
    (Except.mem_iff_of_mapM_eq_ok hvalues value).2 ⟨device, hdevice, hvalue⟩
  exact (infix_repeated "-s" hmem).trans hinfix

open Realization in
/-- Realization looks for the disk at the drive's path. -/
theorem storageStep_of_shows {M : Type → Type} [Monad M] [LawfulMonad M] (tool : StorageTool M)
    (dryRun : Bool) {d : Drive} {device : Device} {backend : StorageBackend}
    (h : d.Shows c m device backend) :
    storageStep c tool m.id dryRun device = (do
      let outcome ← realizeStorage tool backend d.path (backend.expectedSize.map UInt64.toNat)
        dryRun
      return [Realization.Step.storage d.slot outcome]) := by
  simp only [storageStep, h.storage, h.slot, h.target]
  exact pure_bind d.path fun path => do
    let outcome ← realizeStorage tool backend path (backend.expectedSize.map UInt64.toNat) dryRun
    return [Step.storage d.slot outcome]

/-! ## Agreement -/

theorem loader_of_plan {k : Kernel} {p : Plan} (hmethod : b.method = .grub k)
    (h : plan c m b = .ok p) : ∃ l, p.loader = some l ∧ loader c m b = .ok l ∧
      hypervisorArguments c m b = .ok p.hypervisor.arguments := by
  rw [plan, hmethod] at h
  obtain ⟨first, hfirst, h⟩ := Except.bind_eq_ok_iff.1 h
  obtain ⟨l, hl, rfl⟩ := Except.map_eq_ok_iff.1 hfirst
  obtain ⟨arguments, harguments, h⟩ := Except.bind_eq_ok_iff.1 h
  cases h
  exact ⟨l, rfl, hl, harguments⟩

theorem notMem_name (d : Drive) : '\n' ∉ d.name.toList := by
  rw [Drive.name_eq, String.toList_append, toList_decimal, List.mem_append]
  rintro (h | h)
  · cases hd : d.optical <;> rw [hd] at h <;> exact absurd h (by decide)
  · exact absurd (isDigit_of_mem_decimal h) (by decide)

theorem notMem_mapLine_iff {d : Drive} : '\n' ∉ d.mapLine.toList ↔ '\n' ∉ d.path.toList := by
  have hname := notMem_name d
  have hstart : '\n' ∉ "(".toList := by decide
  have hmiddle : '\n' ∉ ") ".toList := by decide
  simp only [Drive.mapLine, String.toList_append, List.mem_append]
  tauto

/-- Every drive's path stays on its line of the device map. -/
def PathsOnLines (ds : List Drive) : Prop := ∀ d ∈ ds, '\n' ∉ d.path.toList

/-- A name has no newline, so the path alone can break an entry. -/
theorem lines_deviceMap_iff {ds : List Drive} :
    lines (lineText (ds.map Drive.mapLine)) = ds.map Drive.mapLine ↔ PathsOnLines ds := by
  rw [lines_lineText_eq_iff, List.forall_mem_map]
  exact forall₂_congr fun d _ => notMem_mapLine_iff

open Realization in
/-- What the three parts make of the attached disks, where a plan is made for a kernel. -/
structure Agreement (c : Configuration) (m : Machine) (b : BootConfiguration) (k : Kernel)
    (p : Plan) (l : Loader) (ds : List Drive) (written : List String)
    (commands : List (List String)) : Prop where
  loader : p.loader = some l
  /-- The device map has an entry for each drive, in their order. -/
  files : l.files.map LoaderFile.contents = [lineText (ds.map Drive.mapLine), lineText written]
  /-- There is one drive for each attachment. -/
  slots : ds.map Drive.slot = b.disks
  distinct : (ds.map Drive.name).Nodup
  /-- Disks and optical disks are counted apart. -/
  names : ∀ optical, (ds.filter fun d => d.optical = optical).map Drive.name =
    (List.range (ds.countP fun d => d.optical = optical)).map fun n =>
      (if optical then "cd" else "hd") ++ decimal n
  /-- The hypervisor and realization have the drive's path for the device in its slot. -/
  paths : ∀ d ∈ ds, ∃ device backend, m.device? d.slot = some device ∧
    device.kind.storage? = some backend ∧ d.optical = device.kind.isOptical ∧
    ["-s", String.intercalate "," (d.slot.text :: device.kind.emulation :: d.path ::
      (backend.arguments ++ device.kind.arguments))] <:+: p.hypervisor.arguments ∧
    ∀ (M : Type → Type) [Monad M] [LawfulMonad M] (tool : StorageTool M) (dryRun : Bool),
      storageStep c tool m.id dryRun device = (do
        let outcome ← realizeStorage tool backend d.path (backend.expectedSize.map UInt64.toNat)
          dryRun
        return [Realization.Step.storage d.slot outcome])
  /-- The script loads from the drives in the configured slots. -/
  script : Script ds k written commands
  /-- The lines that the loader reads are the entries exactly under this condition. -/
  entries : lines (lineText (ds.map Drive.mapLine)) = ds.map Drive.mapLine ↔ PathsOnLines ds

/-- **What loader, hypervisor and realization are given for disks.** The hypervisor and realization
have the same path for each attached disk, and the device map has an entry with that path. The
loader agrees with them as far as it reads these entries, and it does so if and only if every path
stays on its line: a path with a newline is cut there, and its rest is a line of its own. -/
theorem drives_agree {k : Kernel} {p : Plan} (hmethod : b.method = .grub k)
    (hplan : plan c m b = .ok p) :
    ∃ l ds written commands, Agreement c m b k p l ds written commands := by
  obtain ⟨l, hl, hloader, harguments⟩ := loader_of_plan hmethod hplan
  obtain ⟨ds, ls, commands, hds, hscript, hfiles⟩ := files_of_loader hmethod hloader
  refine ⟨l, ds, ls, commands, ⟨hl, hfiles, slots_of_drivesFrom hds, nodup_names hds,
    names_of_drives hds, fun d hd => ?_, hscript, lines_deviceMap_iff⟩⟩
  -- each of the three parts asks the backend of the same device for its target
  obtain ⟨device, backend, hshows⟩ := exists_shows hds hd
  refine ⟨device, backend, hshows.there, hshows.storage, hshows.sort, ?_, ?_⟩
  · have hdevice : device ∈ m.devices.entries :=
      (Machine.device?_eq_some_iff.1 hshows.there).1
    exact infix_hypervisorArguments harguments hdevice (deviceArgument_of_shows hshows)
  · intro M _ _ tool dryRun
    exact storageStep_of_shows tool dryRun hshows

/-- A machine gets a disk and an optical disk, and a kernel is loaded from the disk. -/
def installation (disk optical : Slot) (file kernel : String) : List Operation :=
  [.addDevice { kind := .ahciDisk (.file file ∅ none), slot := some disk },
   .addDevice { kind := .ahciOpticalDisk (.file "/iso" ∅ none), slot := some optical },
   .mergeBoots [⟨"install", "", .grub (.openBsd kernel disk), [optical, disk]⟩] false]

/-- A kernel is loaded from a disk that is attached behind an optical disk. -/
theorem drives_agree_installation : ∃ m₀ m b k p, Machine.define Machine.guest = .ok m₀ ∧
    m₀.performAll (installation ⟨0, 1, 0⟩ ⟨0, 2, 0⟩ "/disk" "/bsd") = .ok m ∧
    m.boot? "install" = some b ∧ b.method = .grub k ∧ plan {} m b = .ok p ∧
    b.disks = [⟨0, 2, 0⟩, ⟨0, 1, 0⟩] ∧
    ∃ l ds written commands, Agreement {} m b k p l ds written commands :=
  ⟨_, _, _, _, _, rfl, rfl, rfl, rfl, rfl, rfl, drives_agree rfl rfl⟩

/-- A path with a newline makes two lines for one disk. -/
theorem exists_broken_mapLine : ∃ m₀ m b p l, Machine.define Machine.guest = .ok m₀ ∧
    m₀.performAll (installation ⟨0, 1, 0⟩ ⟨0, 2, 0⟩ "/a\nb" "/bsd") = .ok m ∧
    m.boot? "install" = some b ∧ plan {} m b = .ok p ∧ p.loader = some l ∧ b.disks.length = 2 ∧
    (l.files.map fun f => (lines f.contents).length) = [3, 2] :=
  ⟨_, _, _, _, _, rfl, rfl, rfl, rfl, rfl, rfl, rfl⟩

end Guestkeeper.Launch
