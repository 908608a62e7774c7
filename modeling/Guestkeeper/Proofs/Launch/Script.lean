import Guestkeeper.Proofs.Launch.Agreement
import Guestkeeper.Proofs.Text.ShellWord

set_option autoImplicit false

/-! # The loader's script read back

The script is read line by line, and each line as words, by the rules that quoting is made for.
Kernel arguments are quoted and may not have control characters, so they are read as they were
configured. The paths of the kernel and of the initial ramdisk are written as they are. So the
script holds the configured commands exactly if these paths need no quotes.
-/

namespace Guestkeeper

open Guestkeeper.Text

/-- The paths of what is loaded. -/
def Kernel.paths : Kernel → List String
  | .openBsd path _ => [path]
  | .linux path _ _ initrd _ => [path, initrd]

namespace Launch

/-- The commands that a script is read as, each as its words. -/
def readScript (text : String) : Option (List (List String)) := (lines text).mapM words

/-! ## Locations -/

theorem isSafe_append (s t : String) : isSafe (s ++ t) = (isSafe s && isSafe t) := by
  rw [isSafe, String.toList_append, List.all_append]
  rfl

theorem isSafe_name (d : Drive) : isSafe d.name = true := by
  have hstart : isSafe (Drive.start d.optical) = true := by
    cases d.optical
    · decide
    · decide
  rw [Drive.name_eq, isSafe_append, hstart, Bool.true_and, isSafe, toList_decimal,
    List.all_eq_true]
  intro c hc
  -- digits are plain, so the splitter takes them as they are
  have hdigit : c.isDigit = true := isDigit_of_mem_decimal hc
  refine isSafeChar_of_isPlainChar ?_
  rw [isPlainChar, Char.isAlphanum, hdigit, Bool.or_true, Bool.true_or]

/-- What stands before the path needs no quotes. -/
theorem isSafe_location (d : Drive) {partition : String} (hpartition : isSafe partition = true)
    (path : String) : isSafe (d.location partition path) = isSafe path := by
  have hpart : isSafe (if d.optical then "" else "," ++ partition) = true := by
    split
    · rfl
    · rw [isSafe_append, hpartition]
      decide
  have hopen : isSafe "(" = true := by decide
  have hclose : isSafe ")" = true := by decide
  rw [Drive.location, isSafe_append, isSafe_append, isSafe_append, isSafe_append, hopen,
    isSafe_name, hpart, hclose]
  rfl

theorem count_newline_location (d : Drive) {partition : String}
    (hpartition : isSafe partition = true) (path : String) :
    (d.location partition path).toList.count '\n' = path.toList.count '\n' := by
  -- with an empty path, the location is what stands before the path
  have hbefore : '\n' ∉ (d.location partition "").toList :=
    notMem_of_isSafe (isSafe_location d hpartition "")
  have happend : (d.location partition path).toList =
      (d.location partition "").toList ++ path.toList := by
    simp [Drive.location]
  rw [happend, List.count_append, List.count_eq_zero.2 hbefore, Nat.zero_add]

/-- Only the path can bring newlines into a line with a location. -/
theorem count_newline_line {front args : List String} {partition : String} (d : Drive)
    (hfront : ∀ w ∈ front, isSafe w = true) (hargs : ∀ a ∈ args, '\n' ∉ a.toList)
    (hpartition : isSafe partition = true) (path : String) :
    (mixedLine front (d.location partition path) args).toList.count '\n' =
      path.toList.count '\n' := by
  rw [count_newline_mixedLine _ hfront hargs, count_newline_location d hpartition]

theorem toList_location (d : Drive) (partition path : String) :
    ∃ cs, (d.location partition path).toList = '(' :: cs := by
  rw [Drive.location]
  simp only [String.toList_append]
  exact ⟨_, rfl⟩

/-- A line with a location is read back exactly if the path needs no quotes. -/
theorem words_location_iff {front args : List String} {partition path : String} (d : Drive)
    (hfront : ∀ w ∈ front, w ≠ "" ∧ isSafe w = true) (hpartition : isSafe partition = true) :
    words (mixedLine front (d.location partition path) args) =
      some (front ++ d.location partition path :: args) ↔ isSafe path = true := by
  obtain ⟨cs, hcs⟩ := toList_location d partition path
  rw [words_mixedLine_iff hfront ⟨'(', cs, hcs, rfl⟩, isSafe_location d hpartition]

/-! ## Lines -/

section Lines

variable {ds : List Drive} {k : Kernel} {written : List String} {commands : List (List String)}

theorem notMem_of_hasControl {a : String} (h : hasControl a = false) : '\n' ∉ a.toList := by
  intro hmem
  have hcontrol : hasControl a = true := List.any_eq_true.2 ⟨'\n', hmem, rfl⟩
  rw [h] at hcontrol
  cases hcontrol

theorem openBsd_line (location : String) : "kopenbsd -h com0 " ++ location =
    mixedLine ["kopenbsd", "-h", "com0"] location [] := by
  rw [← String.toList_inj, toList_mixedLine, String.toList_append]
  simp [quotedTail]

theorem initrd_line (location : String) :
    "initrd " ++ location = mixedLine ["initrd"] location [] := by
  rw [← String.toList_inj, toList_mixedLine, String.toList_append]
  simp [quotedTail]

theorem linux_line (location : String) (arguments : List String) :
    String.intercalate " " ("linux" :: location :: arguments.map quote) =
      mixedLine ["linux"] location arguments := rfl

/-- The lines have the newlines of the paths and no others. -/
theorem Script.count_newline (h : Script ds k written commands) :
    (written.flatMap String.toList).count '\n' =
      (k.paths.flatMap String.toList).count '\n' := by
  have hboot : "boot".toList.count '\n' = 0 := by decide
  cases h with
  | openBsd path d drive =>
      have hkernel : ("kopenbsd -h com0 " ++ d.location "openbsd1" path).toList.count '\n' =
          path.toList.count '\n' := by
        rw [openBsd_line]
        exact count_newline_line d (by decide) (List.forall_mem_nil _) (by decide) path
      simp only [Kernel.paths, List.flatMap_cons, List.flatMap_nil, List.count_append,
        List.count_nil, hkernel, hboot]
  | linux path d drive arguments plain initrd e initrdDrive =>
      have harguments : ∀ a ∈ arguments, '\n' ∉ a.toList :=
        fun a ha => notMem_of_hasControl (plain a ha)
      have hkernel : (String.intercalate " " ("linux" :: d.location "msdos1" path ::
          arguments.map quote)).toList.count '\n' = path.toList.count '\n' := by
        rw [linux_line]
        exact count_newline_line d (by decide) harguments (by decide) path
      have hinitrd : ("initrd " ++ e.location "msdos1" initrd).toList.count '\n' =
          initrd.toList.count '\n' := by
        rw [initrd_line]
        exact count_newline_line e (by decide) (List.forall_mem_nil _) (by decide) initrd
      simp only [Kernel.paths, List.flatMap_cons, List.flatMap_nil, List.count_append,
        List.count_nil, hkernel, hinitrd, hboot]

theorem mapM_cons_eq_some_iff {α β : Type} {f : α → Option β} {x : α} {xs : List α} {y : β}
    {ys : List β} : (x :: xs).mapM f = some (y :: ys) ↔ f x = some y ∧ xs.mapM f = some ys := by
  rw [List.mapM_cons]
  simp [Option.bind_eq_some_iff]

theorem Script.mapM_words_iff (h : Script ds k written commands) :
    written.mapM words = some commands ↔ ∀ path ∈ k.paths, isSafe path = true := by
  have hboot : words "boot" = some ["boot"] := by decide
  cases h with
  | openBsd path d drive =>
      have hkernel : words (mixedLine ["kopenbsd", "-h", "com0"] (d.location "openbsd1" path) []) =
          some ["kopenbsd", "-h", "com0", d.location "openbsd1" path] ↔ isSafe path = true :=
        words_location_iff d (by decide) (by decide)
      rw [openBsd_line, mapM_cons_eq_some_iff, mapM_cons_eq_some_iff, hkernel]
      simp [Kernel.paths, hboot]
  | linux path d drive arguments plain initrd e initrdDrive =>
      have hkernel : words (mixedLine ["linux"] (d.location "msdos1" path) arguments) =
          some ("linux" :: d.location "msdos1" path :: arguments) ↔ isSafe path = true :=
        words_location_iff d (by decide) (by decide)
      have hinitrd : words (mixedLine ["initrd"] (e.location "msdos1" initrd) []) =
          some ["initrd", e.location "msdos1" initrd] ↔ isSafe initrd = true :=
        words_location_iff e (by decide) (by decide)
      rw [linux_line, initrd_line, mapM_cons_eq_some_iff, mapM_cons_eq_some_iff,
        mapM_cons_eq_some_iff, hkernel, hinitrd]
      simp [Kernel.paths, hboot]

theorem Script.length_eq (h : Script ds k written commands) :
    written.length = commands.length := by
  cases h with
  | openBsd path d drive => rfl
  | linux path d drive arguments plain initrd e initrdDrive => rfl

theorem length_of_mapM_eq_some {α β : Type} {f : α → Option β} {xs : List α} {ys : List β}
    (h : xs.mapM f = some ys) : ys.length = xs.length := by
  induction xs generalizing ys with
  | nil =>
      cases h
      rfl
  | cons x xs ih =>
      rw [List.mapM_cons] at h
      obtain ⟨y, -, h⟩ := Option.bind_eq_some_iff.1 h
      obtain ⟨more, hmore, h⟩ := Option.bind_eq_some_iff.1 h
      cases h
      rw [List.length_cons, List.length_cons, ih hmore]

/-- A script is read as its commands exactly if the paths need no quotes. -/
theorem Script.read_iff (h : Script ds k written commands) :
    readScript (lineText written) = some commands ↔ ∀ path ∈ k.paths, isSafe path = true := by
  constructor
  · intro hread
    -- with a newline in a path there would be more lines than commands
    have hlength := length_of_mapM_eq_some hread
    rw [length_lines_lineText, h.length_eq] at hlength
    have hlines : lines (lineText written) = written :=
      lines_lineText_eq_iff.2 (count_newline_eq_zero_iff.1 (by omega))
    rw [readScript, hlines] at hread
    exact h.mapM_words_iff.1 hread
  · intro hsafe
    -- a newline is a blank, so the lines that are read are the lines that were written
    have hplain : ∀ path ∈ k.paths, '\n' ∉ path.toList :=
      fun path hpath => notMem_of_isSafe (hsafe path hpath)
    have hsum := h.count_newline
    rw [count_newline_eq_zero_iff.2 hplain, count_newline_eq_zero_iff] at hsum
    rw [readScript, lines_lineText_eq_iff.2 hsum]
    exact h.mapM_words_iff.2 hsafe

end Lines

/-- **When the script holds the configured commands.** It has one line for each command, and one
more for each newline in a path. Read as words, it gives the commands exactly if no path has a
blank, a newline, a quote or a backslash; kernel arguments may have any characters but control
characters. -/
theorem script_reads {c : Configuration} {m : Machine} {b : BootConfiguration} {k : Kernel}
    {l : Loader} (hmethod : b.method = .grub k) (h : loader c m b = .ok l) :
    ∃ ds written commands, drives c m b = .ok ds ∧ Script ds k written commands ∧
      l.files.map LoaderFile.contents = [lineText (ds.map Drive.mapLine), lineText written] ∧
      (lines (lineText written)).length =
        commands.length + (k.paths.flatMap String.toList).count '\n' ∧
      (readScript (lineText written) = some commands ↔ ∀ path ∈ k.paths, isSafe path = true) := by
  obtain ⟨ds, written, commands, hds, hscript, hfiles⟩ := files_of_loader hmethod h
  refine ⟨ds, written, commands, hds, hscript, hfiles, ?_, hscript.read_iff⟩
  rw [length_lines_lineText, hscript.length_eq, hscript.count_newline]

/-- The kernel's path has brackets. An argument would be quoted for them, but a path that has them
is read back without quotes. -/
theorem script_reads_installation : ∃ m₀ m b k l, Machine.define Machine.guest = .ok m₀ ∧
    m₀.performAll (installation ⟨0, 1, 0⟩ ⟨0, 2, 0⟩ "/disk" "/bsd(rd)") = .ok m ∧
    m.boot? "install" = some b ∧ b.method = .grub k ∧ loader {} m b = .ok l ∧
    ∃ ds written commands, drives {} m b = .ok ds ∧ Script ds k written commands ∧
      l.files.map LoaderFile.contents = [lineText (ds.map Drive.mapLine), lineText written] ∧
      (lines (lineText written)).length =
        commands.length + (k.paths.flatMap String.toList).count '\n' ∧
      (readScript (lineText written) = some commands ↔ ∀ path ∈ k.paths, isSafe path = true) :=
  ⟨_, _, _, _, _, rfl, rfl, rfl, rfl, rfl, script_reads rfl rfl⟩

/-- A kernel path with a newline adds a command. -/
theorem exists_added_command : ∃ m₀ m b l, Machine.define Machine.guest = .ok m₀ ∧
    m₀.performAll (installation ⟨0, 1, 0⟩ ⟨0, 2, 0⟩ "/disk" "/bsd\nhalt") = .ok m ∧
    m.boot? "install" = some b ∧ loader {} m b = .ok l ∧
    (l.files.map fun f => readScript f.contents)[1]? =
      some (some [["kopenbsd", "-h", "com0", "(hd0,openbsd1)/bsd"], ["halt"], ["boot"]]) :=
  ⟨_, _, _, _, rfl, rfl, rfl, rfl, rfl⟩

end Launch

end Guestkeeper
