import Guestkeeper.Proofs.Host.Command
import Guestkeeper.Proofs.Realization.Creation
import Guestkeeper.Proofs.Realization.Volumes
import Guestkeeper.Realization.Machine

set_option autoImplicit false

/-! # What the preview of a volume shows

The directory of a machine's volumes is created as a dataset along with the first of them. Where
the settings are absolute paths, the dataset is named after the directory, the preview of a
creation shows the one command that the creation runs, if it runs one, and nothing that is shown
is a complaint. So no realization on a host fails for a reason that lies in what was configured.
-/

namespace Guestkeeper

theorem Configuration.validate_eq_ok_iff {c : Configuration} :
    c.validate = .ok () ↔ ∀ s, Path.isAbsolute (c.get s) = true := by
  have hall : ∀ s, s ∈ Setting.all := by
    intro s
    cases s <;> decide
  rw [validate]
  constructor
  · intro h s
    split at h
    · cases h
    · next hnone => simpa using List.find?_eq_none.1 hnone s (hall s)
  · intro h
    have hnone : Setting.all.find? (fun s => !Path.isAbsolute (c.get s)) = none := by
      simp [h]
    rw [hnone]

namespace Host.Simulation

variable {α β : Type} {s s' : Simulation} {run : Executor (StateM Simulation)} {P : Error → Prop}

/-! ## Commands that are run -/

/-- Every command that is run is added to the script's list. -/
def Logs (run : Executor (StateM Simulation)) : Prop :=
  ∀ (command : Command) (s : Simulation),
    (s.on (run command)).2.script.spawned = s.script.spawned ++ [command.text]

theorem logs_runScripted : Logs runScripted := by
  intro command s
  show (s.script.answer command).2.spawned = _
  rw [Script.answer]
  split <;> rfl

theorem logs_runMakingDirectories : Logs runMakingDirectories := by
  intro command s
  have hscripted := logs_runScripted command s
  rcases hran : s.on (runScripted command) with ⟨r, s₁⟩
  rw [hran] at hscripted
  rw [runMakingDirectories]
  cases r with
  | error e => rw [on_bind_of_error hran, hscripted]
  | ok status =>
      rw [on_bind_of_ok hran, ← hscripted]
      by_cases hstatus : status = 0
      · rw [if_pos hstatus]
        cases command.arguments.getLast? <;> rfl
      · rw [if_neg hstatus]
        rfl

/-! ## Failures -/

/-- All failures of the program are such. -/
def FailsOnly (P : Error → Prop) (program : ExceptT Error (StateM Simulation) α) : Prop :=
  ∀ (s : Simulation) (e : Error) (s' : Simulation), s.on program = (.error e, s') → P e

theorem failsOnly_mk {result : Except Error α} (h : ∀ e, result = .error e → P e) :
    FailsOnly P (ExceptT.mk (pure result)) := fun _ e _ hfails => h e (congrArg Prod.fst hfails)

theorem failsOnly_pure (a : α) : FailsOnly P (pure a) := failsOnly_mk fun _ h => by cases h

theorem failsOnly_throw {e : Error} (h : P e) :
    FailsOnly P (throw e : ExceptT Error (StateM Simulation) α) := by
  refine failsOnly_mk ?_
  rintro _ ⟨rfl⟩
  exact h

theorem failsOnly_lift (question : StateM Simulation α) :
    FailsOnly P (ExceptT.lift question) := by
  intro s e s' hfails
  rw [on_lift] at hfails
  cases hfails

theorem FailsOnly.bind {program : ExceptT Error (StateM Simulation) α}
    {next : α → ExceptT Error (StateM Simulation) β} (h : FailsOnly P program)
    (hnext : ∀ a, FailsOnly P (next a)) : FailsOnly P (program >>= next) := by
  intro s e s' hfails
  rcases hfirst : s.on program with ⟨r, s₁⟩
  cases r with
  | error e₁ =>
      rw [on_bind_of_error hfirst] at hfails
      cases hfails
      exact h s _ _ hfirst
  | ok a =>
      rw [on_bind_of_ok hfirst] at hfails
      exact hnext a s₁ e s' hfails

theorem FailsOnly.bind_ok {a : α} {next : α → ExceptT Error (StateM Simulation) β}
    (h : FailsOnly P (next a)) : FailsOnly P (ExceptT.mk (pure (.ok a)) >>= next) := h

end Host.Simulation

namespace Realization

open Guestkeeper.Host Guestkeeper.Host.Simulation Guestkeeper.Text

/-! ## The dataset of a directory -/

/-- A dataset is mounted at the path of its name below the root, and that path is a directory's
but for surplus slashes and dots. -/
structure Mounts (dataset directory : String) : Prop where
  steps : FileTree.stepsOf ("/" ++ dataset) = FileTree.stepsOf directory
  places : ∀ (t : FileTree) (current place : List String),
    t.resolve current directory = .ok place → t.resolve current ("/" ++ dataset) = .ok place

theorem isIdle_of_notMem {name : String} (h : name ∉ ["", ".", ".."]) :
    Path.isIdle name.toList = false := by
  cases hidle : Path.isIdle name.toList with
  | false => rfl
  | true =>
      have hmem := FileTree.ofList_mem_idle hidle
      rw [String.ofList_toList] at hmem
      exact absurd (List.mem_append_left [".."] hmem) h

/-- A volume's directory is its machine's, and that has a dataset. -/
theorem exists_dataset {root : String} (hroot : Path.isAbsolute root = true) (zfs : String)
    (id : Uuid) (n : Nat) :
    Path.parent? (volumePath root id n) = some (Path.join root id.text) ∧
      ∃ dataset, Mounts dataset (Path.join root id.text) ∧
        datasetCommand zfs (Path.join root id.text) = .ok ⟨zfs, ["create", "-p", dataset]⟩ := by
  obtain ⟨above, hmachine⟩ := Path.exists_hasComponents_join hroot id.notMem_slash
  have hid := isIdle_of_notMem (notMem_idle_text id)
  have hname := isIdle_of_notMem (notMem_idle_volumeName n)
  have hne : id.text.toList ≠ [] := by
    intro hnil
    rw [hnil] at hid
    cases hid
  constructor
  · rw [volumePath_eq]
    exact (hmachine.join hne (notMem_volumeName n)).parent? hid hname hmachine
  · obtain ⟨dataset, hbelow, hdataset, start, hstart⟩ := hmachine.belowRoot? hid
    refine ⟨dataset, ⟨FileTree.stepsOf_of_dropWhile hmachine hdataset, fun t current place h =>
      FileTree.resolve_of_dropWhile hstart hmachine hdataset h⟩, ?_⟩
    rw [datasetCommand, hbelow]

/-! ## One creation -/

section Creation

variable {run : Executor (StateM Simulation)} {zfs path directory : String} {command : Command}
  {size : Nat} {s s' : Simulation} {r : Except Error Unit}

/-- The texts of the commands that creating a volume begins with. -/
def datasetTexts (s : Simulation) (directory : String) (command : Command) : List String :=
  if (s.tree.size s.current directory).toBool then [] else [command.text]

theorem missingDirectory?_of_parent? (hparent : Path.parent? path = some directory) :
    s.missingDirectory? path =
      if (s.tree.size s.current directory).toBool then none else some directory := by
  rw [missingDirectory?, hparent]
  cases hthere : (s.tree.size s.current directory).toBool <;> simp [Option.filter, hthere]

theorem DatasetEnds.spawned (h : DatasetEnds run zfs path s r s') (hlogs : Logs run)
    (hparent : Path.parent? path = some directory)
    (hcommand : datasetCommand zfs directory = .ok command) :
    s'.script.spawned = s.script.spawned ++ datasetTexts s directory command := by
  have hmissing := missingDirectory?_of_parent? (s := s) hparent
  cases hthere : (s.tree.size s.current directory).toBool with
  | true =>
      rw [hthere, if_pos rfl] at hmissing
      rw [datasetTexts, hthere, if_pos rfl, List.append_nil]
      cases h with
      | there _ => rfl
      | nameless _ _ missing _ => cases hmissing.symm.trans missing
      | notRun _ _ _ _ missing _ _ => cases hmissing.symm.trans missing
      | failed _ _ _ _ missing _ _ _ => cases hmissing.symm.trans missing
      | made _ _ _ missing _ _ => cases hmissing.symm.trans missing
  | false =>
      rw [hthere, if_neg (by decide)] at hmissing
      rw [datasetTexts, hthere, if_neg (by decide)]
      -- whatever the command comes to, it was started and nothing else
      have hran : ∀ {command' r s'}, datasetCommand zfs directory = .ok command' →
          s.on (run command') = (r, s') →
            s'.script.spawned = s.script.spawned ++ [command.text] := by
        intro command' r s' hdataset hrun
        obtain rfl : command = command' := Except.ok.inj (hcommand.symm.trans hdataset)
        rw [← hlogs command s, hrun]
      cases h with
      | there present => cases hmissing.symm.trans present
      | nameless _ _ missing failing =>
          cases hmissing.symm.trans missing
          cases hcommand.symm.trans failing
      | notRun _ _ _ _ missing dataset ran =>
          cases hmissing.symm.trans missing
          exact hran dataset ran
      | failed _ _ _ _ missing dataset ran _ =>
          cases hmissing.symm.trans missing
          exact hran dataset ran
      | made _ _ _ missing dataset ran =>
          cases hmissing.symm.trans missing
          exact hran dataset ran

theorem FileEnds.script_eq (h : FileEnds path size s r s') : s'.script = s.script := by
  cases h <;> rfl

theorem spawned_create (hlogs : Logs run) (hparent : Path.parent? path = some directory)
    (hcommand : datasetCommand zfs directory = .ok command) (size : Nat) (s : Simulation) :
    (s.on ((hostStorage run zfs).create path size)).2.script.spawned =
      s.script.spawned ++ datasetTexts s directory command := by
  obtain ⟨r, s', hcreate, hends⟩ := create_ends run zfs path size s
  rw [hcreate]
  rcases hends with ⟨e, -, hdataset⟩ | ⟨s₁, hdataset, hfile⟩
  · exact hdataset.spawned hlogs hparent hcommand
  · rw [hfile.script_eq]
    exact hdataset.spawned hlogs hparent hcommand

theorem run_describeCreate (hparent : Path.parent? path = some directory)
    (hcommand : datasetCommand zfs directory = .ok command) (size : Nat) (s : Simulation) :
    Id.run (((hostStorage run zfs).describeCreate path size).run s) =
      (datasetTexts s directory command ++ ["allocate " ++ decimal size ++ " bytes at " ++ path],
        s) := by
  have hlook := run_missingDirectory s path
  rw [missingDirectory?_of_parent? hparent] at hlook
  show ((fun p : Option String × Simulation => ((p.1.map (datasetLines zfs)).getD [] ++
    ["allocate " ++ decimal size ++ " bytes at " ++ path], p.2))
      (Id.run (StateT.run (missingDirectory path : StateM Simulation (Option String)) s))) = _
  rw [hlook, datasetTexts]
  split
  · rfl
  · show (datasetLines zfs directory ++ _, s) = _
    rw [datasetLines, hcommand]

end Creation

/-! ## Failures of a realization -/

/-- The error is no complaint about what was given. -/
def NoComplaint (e : Error) : Prop := ∀ cause, e ≠ .invalid cause

/-- Commands fail as processes do. -/
def ProcessesFail (run : Executor (StateM Simulation)) : Prop :=
  ∀ command, FailsOnly (fun e => ∃ executable fault, e = .processFailed executable fault)
    (run command)

section Failures

variable {run : Executor (StateM Simulation)} {c : Configuration} {zfs path directory : String}
  {command : Command}

theorem failsOnly_run (hrun : ProcessesFail run) (command : Command) :
    FailsOnly NoComplaint (run command) := by
  intro s e s' hfails cause
  obtain ⟨executable, fault, rfl⟩ := hrun command s e s' hfails
  simp

theorem failsOnly_size (zfs path : String) :
    FailsOnly NoComplaint ((hostStorage run zfs).size path) := by
  intro s e s' hfails cause
  rw [on_size] at hfails
  split at hfails
  · cases hfails
  · cases hfails
  · cases hfails
    simp

theorem failsOnly_create (hrun : ProcessesFail run) (hparent : Path.parent? path = some directory)
    (hcommand : datasetCommand zfs directory = .ok command) (size : Nat) :
    FailsOnly NoComplaint ((hostStorage run zfs).create path size) := by
  intro s e s' hfails
  obtain ⟨r, s₂, hcreate, hends⟩ := create_ends run zfs path size s
  obtain ⟨rfl, rfl⟩ := Prod.mk.inj (hfails.symm.trans hcreate)
  rcases hends with ⟨e', he, hdataset⟩ | ⟨s₁, -, hfile⟩
  · obtain rfl : e = e' := Except.error.inj he
    cases hdataset with
    | nameless _ _ missing failing =>
        have hdirectory := (missingDirectory?_eq_some_iff.1 missing).1
        obtain rfl := Option.some.inj (hparent.symm.trans hdirectory)
        cases hcommand.symm.trans failing
    | notRun _ command _ _ _ _ ran => exact failsOnly_run hrun command s e s' ran
    | failed _ _ _ _ _ _ _ _ => exact fun _ h => by cases h
  · cases hfile with
    | refused _ _ => exact fun _ h => by cases h
    | tooLong _ _ _ _ => exact fun _ h => by cases h

theorem failsOnly_realizeStorage {backend : StorageBackend}
    (hcreate : backend.isVolume = true → ∀ size,
      FailsOnly NoComplaint ((hostStorage run zfs).create path size))
    (expected : Option Nat) (dryRun : Bool) :
    FailsOnly NoComplaint (realizeStorage (hostStorage run zfs) backend path expected dryRun) := by
  cases backend with
  | scsi => exact failsOnly_throw fun _ h => by cases h
  | file _ _ _ =>
      refine (failsOnly_size zfs path).bind fun found => ?_
      cases found <;> exact failsOnly_pure _
  | volume _ =>
      refine (failsOnly_size zfs path).bind fun found => ?_
      cases found with
      | some actual =>
          cases expected with
          | none => exact failsOnly_pure _
          | some size =>
              show FailsOnly _ (if size = actual then _ else _)
              split <;> exact failsOnly_pure _
      | none =>
          cases dryRun with
          | true => exact (failsOnly_lift _).bind fun _ => failsOnly_pure _
          | false => exact (hcreate rfl _).bind fun _ => failsOnly_pure _

theorem failsOnly_storageStep (hrun : ProcessesFail run)
    (hroot : Path.isAbsolute c.volumeRoot = true) (id : Uuid) (dryRun : Bool) (d : Device) :
    FailsOnly NoComplaint (storageStep c (hostStorage run c.zfs) id dryRun d) := by
  rw [storageStep]
  cases d.kind.storage? with
  | none => exact failsOnly_pure []
  | some backend =>
      cases backend with
      | scsi =>
          refine FailsOnly.bind (failsOnly_mk fun e h => ?_) fun path => ?_
          · cases h
            exact fun _ h => by cases h
          · exact (failsOnly_realizeStorage (fun h => by cases h) _ _).bind fun _ =>
              failsOnly_pure _
      | file path _ _ =>
          refine FailsOnly.bind_ok ?_
          exact (failsOnly_realizeStorage (fun h => by cases h) _ _).bind fun _ =>
            failsOnly_pure _
      | volume _ =>
          obtain ⟨hparent, dataset, -, hcommand⟩ :=
            exists_dataset hroot c.zfs id d.slot.deviceId
          refine FailsOnly.bind_ok ?_
          exact (failsOnly_realizeStorage (fun _ => failsOnly_create hrun hparent hcommand)
            _ _).bind fun _ => failsOnly_pure _

theorem failsOnly_runAll (hrun : ProcessesFail run) (commands : List Command) :
    FailsOnly NoComplaint (runAll run commands) := by
  induction commands with
  | nil => exact failsOnly_pure ()
  | cons command rest ih =>
      refine (failsOnly_run hrun command).bind fun status => ?_
      by_cases hstatus : status = 0
      · rw [if_neg (not_not_intro hstatus)]
        exact ih
      · rw [if_pos hstatus]
        exact (failsOnly_throw fun _ h => by cases h).bind fun _ => ih

theorem failsOnly_networkStep (hrun : ProcessesFail run) (dryRun : Bool) (d : Device) :
    FailsOnly NoComplaint (networkStep c (hostStorage run c.zfs) run dryRun d) := by
  rw [networkStep]
  cases d.kind.network? with
  | none => exact failsOnly_pure []
  | some backend =>
      refine (failsOnly_size c.zfs backend.deviceNode).bind fun present => ?_
      cases dryRun with
      | true => exact failsOnly_pure _
      | false => exact (failsOnly_runAll hrun _).bind fun _ => failsOnly_pure _

theorem failsOnly_realizeDevices (hrun : ProcessesFail run)
    (hroot : Path.isAbsolute c.volumeRoot = true) (id : Uuid) (dryRun : Bool) (ds : List Device) :
    FailsOnly NoComplaint (realizeDevices c (hostStorage run c.zfs) run id dryRun ds) := by
  induction ds with
  | nil => exact failsOnly_pure []
  | cons d rest ih =>
      refine (failsOnly_storageStep hrun hroot id dryRun d).bind fun _ => ?_
      refine (failsOnly_networkStep hrun dryRun d).bind fun _ => ?_
      exact ih.bind fun _ => failsOnly_pure _

end Failures

theorem processesFail_runScripted : ProcessesFail runScripted := by
  intro command s e s' hfails
  have hanswer : (s.script.answer command).1 = .error e := congrArg Prod.fst hfails
  rw [Script.answer] at hanswer
  split at hanswer
  · cases hanswer
  · cases hanswer
  · cases hanswer
    exact ⟨_, _, rfl⟩

theorem processesFail_runMakingDirectories : ProcessesFail runMakingDirectories := by
  intro command
  refine (processesFail_runScripted command).bind fun status => ?_
  by_cases hstatus : status = 0
  · rw [if_pos hstatus]
    cases command.arguments.getLast? with
    | none => exact failsOnly_pure _
    | some dataset => exact (failsOnly_lift _).bind fun _ => failsOnly_pure _
  · rw [if_neg hstatus]
    exact failsOnly_pure _

/-! ## What is shown and what is done -/

/-- A command of an absolute path is not shown as a remark. -/
theorem head?_text {command : Command} (h : Path.isAbsolute command.executable = true) :
    command.text.toList.head? ≠ some '#' := by
  rw [Path.isAbsolute, beq_iff_eq] at h
  rw [Command.toList_text, quoteList]
  split
  · rw [List.head?_append, h]
    simp
  · simp

/-- **The preview of a volume shows what is done.** With settings that pass their check, the first
volume of a machine is created with the one command that makes the dataset of the machine's
directory, and the others with none. The preview shows that command, if there is one, and the
allocation, and changes nothing. No realization ends with a complaint. -/
theorem creation_previewed {c : Configuration} (hc : c.validate = .ok ()) (m : Machine) :
    (∀ slot b, m.HasVolume slot b → ∃ target directory dataset command,
      b.target c.volumeRoot m.id slot.deviceId = .ok target ∧
      Path.parent? target = some directory ∧ directory = Path.join c.volumeRoot m.id.text ∧
      Mounts dataset directory ∧ command = ⟨c.zfs, ["create", "-p", dataset]⟩ ∧
      datasetCommand c.zfs directory = .ok command ∧
      ∀ run, Logs run → ∀ (size : Nat) (s : Simulation),
        (s.on ((hostStorage run c.zfs).create target size)).2.script.spawned =
          s.script.spawned ++ datasetTexts s directory command ∧
        Id.run (((hostStorage run c.zfs).describeCreate target size).run s) =
          (datasetTexts s directory command ++
            ["allocate " ++ decimal size ++ " bytes at " ++ target], s) ∧
        ∀ line ∈ datasetTexts s directory command ++
            ["allocate " ++ decimal size ++ " bytes at " ++ target],
          line.toList.head? ≠ some '#') ∧
    ∀ run, ProcessesFail run → ∀ dryRun (s : Simulation) e s',
      s.on (realize c (hostStorage run c.zfs) run m dryRun) = (.error e, s') →
        ∀ cause, e ≠ .invalid cause := by
  have hsettings := Configuration.validate_eq_ok_iff.1 hc
  have hroot : Path.isAbsolute c.volumeRoot = true := hsettings .volumeRoot
  have hzfs : Path.isAbsolute c.zfs = true := hsettings .zfs
  constructor
  · intro slot b hvolume
    obtain ⟨hparent, dataset, hmounts, hcommand⟩ :=
      exists_dataset hroot c.zfs m.id slot.deviceId
    refine ⟨_, _, dataset, _, hvolume.target c.volumeRoot m.id slot.deviceId, hparent, rfl,
      hmounts, rfl, hcommand, fun run hlogs size s => ⟨?_, ?_, ?_⟩⟩
    · exact spawned_create hlogs hparent hcommand size s
    · exact run_describeCreate hparent hcommand size s
    · intro line hline
      -- a shown command begins with the path of its tool, which is absolute
      rcases List.mem_append.1 hline with hline | hline
      · rw [datasetTexts] at hline
        split at hline
        · cases hline
        · rw [List.mem_singleton.1 hline]
          exact head?_text hzfs
      · rw [List.mem_singleton.1 hline, String.toList_append, String.toList_append,
          String.toList_append]
        simp
  · exact fun run hrun dryRun => failsOnly_realizeDevices hrun hroot m.id dryRun _

/-- The first volume of a machine on a host where nothing is, below the default root. -/
theorem creation_previewed_disks : ∃ m₀ m : Machine, Machine.define Machine.guest = .ok m₀ ∧
    m₀.performAll (Machine.disks ⟨0, 1, 0⟩ ⟨0, 2, 0⟩) = .ok m ∧
    m.HasVolume ⟨0, 1, 0⟩ (.volume none) ∧ ∃ target dataset,
      (StorageBackend.volume none).target "/storage/vm" m.id 1 = .ok target ∧
      (Simulation.on { tree := default }
          ((hostStorage runMakingDirectories "/sbin/zfs").create target 512)).2.script.spawned =
        [(Command.mk "/sbin/zfs" ["create", "-p", dataset]).text] ∧
      Id.run (((hostStorage runMakingDirectories "/sbin/zfs").describeCreate target 512).run
          { tree := default }) =
        ([(Command.mk "/sbin/zfs" ["create", "-p", dataset]).text,
          "allocate " ++ decimal 512 ++ " bytes at " ++ target], { tree := default }) ∧
      ∀ dryRun s e s', Simulation.on s (realize {} (hostStorage runMakingDirectories "/sbin/zfs")
        runMakingDirectories m dryRun) = (.error e, s') → ∀ cause, e ≠ .invalid cause := by
  have hvolume : ∀ m₀ m : Machine, Machine.define Machine.guest = .ok m₀ →
      m₀.performAll (Machine.disks ⟨0, 1, 0⟩ ⟨0, 2, 0⟩) = .ok m →
      m.HasVolume ⟨0, 1, 0⟩ (.volume none) := by
    rintro _ _ ⟨rfl⟩ ⟨rfl⟩
    exact ⟨⟨_, rfl, rfl⟩, rfl⟩
  refine ⟨_, _, rfl, rfl, hvolume _ _ rfl rfl, ?_⟩
  obtain ⟨hvolumes, hrealize⟩ := creation_previewed (c := {}) rfl _
  obtain ⟨target, directory, dataset, command, htarget, -, hdirectory, -, rfl, -, hcreate⟩ :=
    hvolumes ⟨0, 1, 0⟩ (.volume none) (hvolume _ _ rfl rfl)
  obtain ⟨hspawned, hdescribe, -⟩ :=
    hcreate runMakingDirectories logs_runMakingDirectories 512 { tree := default }
  have hmissing : ∀ command, datasetTexts { tree := default } directory command =
      [command.text] := by
    intro command
    rw [hdirectory]
    rfl
  rw [hmissing] at hspawned hdescribe
  exact ⟨target, dataset, htarget, hspawned, hdescribe,
    hrealize runMakingDirectories processesFail_runMakingDirectories⟩

end Realization

end Guestkeeper
