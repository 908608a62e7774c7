import Guestkeeper.Host.Simulation
import Guestkeeper.Proofs.Host.FileTree
import Guestkeeper.Realization.Storage

set_option autoImplicit false

/-! # Creating volumes on a host

A volume is created in steps: its directory, as a dataset, then an empty file, then the file's
length. Each of them can fail. Up to the file nothing is at the volume's path, so the next run
tries again. A file that cannot get its length stays there without it, and the next run takes it
for the volume.

What can come of the directory is said in `DatasetEnds`, and what can come of the file in
`FileEnds`.
-/

namespace Guestkeeper

namespace Host.Simulation

variable {α β : Type} {s s' : Simulation} {path : String}

/-- What comes of a program on a simulated host. -/
def on (s : Simulation) (program : ExceptT Error (StateM Simulation) α) :
    Except Error α × Simulation := Id.run (program.run.run s)

theorem on_bind_of_ok {program : ExceptT Error (StateM Simulation) α}
    {next : α → ExceptT Error (StateM Simulation) β} {a : α} (h : s.on program = (.ok a, s')) :
    s.on (program >>= next) = s'.on (next a) := ExceptT.run_bind_of_ok h

theorem on_bind_of_error {program : ExceptT Error (StateM Simulation) α}
    {next : α → ExceptT Error (StateM Simulation) β} {e : Error}
    (h : s.on program = (.error e, s')) : s.on (program >>= next) = (.error e, s') :=
  ExceptT.run_bind_of_error h

theorem on_lift (s : Simulation) (question : StateM Simulation α) : s.on (ExceptT.lift question) =
    (.ok (Id.run (question.run s)).1, (Id.run (question.run s)).2) := rfl

theorem on_at? (s : Simulation) (path : String) (question : StateM Simulation (Except Cause α)) :
    s.on (at? path question) = ((Id.run (question.run s)).1.mapError (Error.io path),
      (Id.run (question.run s)).2) := rfl

theorem run_change (s : Simulation)
    (operation : FileTree → List String → Except Cause FileTree) :
    Id.run ((change operation).run s) = match operation s.tree s.current with
      | .ok tree => (.ok (), { s with tree := tree })
      | .error cause => (.error cause, s) := rfl

/-- Nothing is at the path. -/
def Absent (s : Simulation) (path : String) : Prop :=
  s.tree.size s.current path = .error .notFound

/-- The directory of a path, if it is missing. -/
def missingDirectory? (s : Simulation) (path : String) : Option String :=
  (Path.parent? path).filter fun directory => !(s.tree.size s.current directory).toBool

theorem missingDirectory?_eq_some_iff {directory : String} :
    s.missingDirectory? path = some directory ↔ Path.parent? path = some directory ∧
      ∃ cause, s.tree.size s.current directory = .error cause := by
  rw [missingDirectory?, Option.filter_eq_some_iff]
  refine and_congr_right fun _ => ?_
  cases s.tree.size s.current directory <;> simp [Except.toBool]

end Host.Simulation

namespace Realization

open Guestkeeper.Host Guestkeeper.Host.Simulation

variable {run : Executor (StateM Simulation)} {zfs path : String} {size : Nat} {s s' : Simulation}

/-! ## The steps of a creation -/

theorem run_missingDirectory (s : Simulation) (path : String) :
    Id.run (StateT.run (missingDirectory path : StateM Simulation (Option String)) s) =
      (s.missingDirectory? path, s) := by
  rw [missingDirectory, missingDirectory?]
  cases Path.parent? path with
  | none => rfl
  | some directory =>
      show Id.run (StateT.run (if (s.tree.size s.current directory).toBool then pure none
        else pure (some directory) : StateM Simulation (Option String)) s) = _
      cases hthere : (s.tree.size s.current directory).toBool with
      | true => simp [hthere, Option.filter]
      | false => simp [hthere, Option.filter]

/-- What can come of making a volume's directory. -/
inductive DatasetEnds (run : Executor (StateM Simulation)) (zfs path : String) (s : Simulation) :
    Except Error Unit → Simulation → Prop
  | there (present : s.missingDirectory? path = none) : DatasetEnds run zfs path s (.ok ()) s
  | nameless (directory : String) (e : Error) (missing : s.missingDirectory? path = some directory)
      (command : datasetCommand zfs directory = .error e) :
      DatasetEnds run zfs path s (.error e) s
  | notRun (directory : String) (command : Command) (e : Error) (s' : Simulation)
      (missing : s.missingDirectory? path = some directory)
      (dataset : datasetCommand zfs directory = .ok command)
      (ran : s.on (run command) = (.error e, s')) : DatasetEnds run zfs path s (.error e) s'
  | failed (directory : String) (command : Command) (status : Int) (s' : Simulation)
      (missing : s.missingDirectory? path = some directory)
      (dataset : datasetCommand zfs directory = .ok command)
      (ran : s.on (run command) = (.ok status, s')) (fails : status ≠ 0) :
      DatasetEnds run zfs path s
        (.error (.processFailed command.executable (.exited status))) s'
  | made (directory : String) (command : Command) (s' : Simulation)
      (missing : s.missingDirectory? path = some directory)
      (dataset : datasetCommand zfs directory = .ok command)
      (ran : s.on (run command) = (.ok 0, s')) : DatasetEnds run zfs path s (.ok ()) s'

theorem datasetEnds (run : Executor (StateM Simulation)) (zfs path : String) (s : Simulation) :
    ∃ r s', s.on (createDataset run zfs path) = (r, s') ∧ DatasetEnds run zfs path s r s' := by
  have hlook : s.on (ExceptT.lift (missingDirectory path)) =
      (.ok (s.missingDirectory? path), s) := by
    rw [on_lift, run_missingDirectory]
  rw [createDataset, on_bind_of_ok hlook]
  cases hmissing : s.missingDirectory? path with
  | none => exact ⟨_, s, rfl, .there hmissing⟩
  | some directory =>
      dsimp only
      cases hdataset : datasetCommand zfs directory with
      | error e => exact ⟨_, s, on_bind_of_error rfl, .nameless directory e hmissing hdataset⟩
      | ok command =>
          have hknown : s.on (ExceptT.mk (pure (.ok command))) = (.ok command, s) := rfl
          rw [on_bind_of_ok hknown]
          rcases hran : s.on (run command) with ⟨r, s'⟩
          cases r with
          | error e =>
              exact ⟨_, s', on_bind_of_error hran,
                .notRun directory command e s' hmissing hdataset hran⟩
          | ok status =>
              rw [on_bind_of_ok hran]
              by_cases hstatus : status = 0
              · subst hstatus
                exact ⟨_, s', rfl, .made directory command s' hmissing hdataset hran⟩
              · rw [if_pos hstatus]
                exact ⟨_, s', rfl,
                  .failed directory command status s' hmissing hdataset hran hstatus⟩

theorem on_at?_of_ok {operation : FileTree → List String → Except Cause FileTree} {t : FileTree}
    (h : operation s.tree s.current = .ok t) :
    s.on (at? path (change operation)) = (.ok (), { s with tree := t }) := by
  rw [on_at?, run_change, h]
  rfl

theorem on_at?_of_error {operation : FileTree → List String → Except Cause FileTree}
    {cause : Cause} (h : operation s.tree s.current = .error cause) :
    s.on (at? path (change operation)) = (.error (.io path cause), s) := by
  rw [on_at?, run_change, h]
  rfl

/-- What can come of making a volume's file. -/
inductive FileEnds (path : String) (size : Nat) (s : Simulation) :
    Except Error Unit → Simulation → Prop
  | refused (cause : Cause) (refusal : s.tree.createNew s.current path = .error cause) :
      FileEnds path size s (.error (.io path cause)) s
  | tooLong (cause : Cause) (t : FileTree) (new : s.tree.createNew s.current path = .ok t)
      (fault : FileTree.lengthFault? size = some cause) :
      FileEnds path size s (.error (.io path cause)) { s with tree := t }
  | made (t t' : FileTree) (new : s.tree.createNew s.current path = .ok t)
      (fits : FileTree.lengthFault? size = none)
      (lengthened : t.setLength s.current path size = .ok t') :
      FileEnds path size s (.ok ()) { s with tree := t' }

theorem fileEnds (path : String) (size : Nat) (s : Simulation) : ∃ r s',
    s.on (do
      at? path (Files.createNew path)
      at? path (Files.setLength path size)) = (r, s') ∧ FileEnds path size s r s' := by
  cases hnew : s.tree.createNew s.current path with
  | error cause => exact ⟨_, s, on_bind_of_error (on_at?_of_error hnew), .refused cause hnew⟩
  | ok t =>
      obtain ⟨place, hlength⟩ := FileTree.setLength_of_createNew hnew size
      have hmade : s.on (at? path (Files.createNew path)) = (.ok (), { s with tree := t }) :=
        on_at?_of_ok hnew
      rw [on_bind_of_ok hmade]
      cases hfault : FileTree.lengthFault? size with
      | some cause =>
          rw [hfault] at hlength
          exact ⟨_, _, on_at?_of_error hlength, .tooLong cause t hnew hfault⟩
      | none =>
          rw [hfault] at hlength
          exact ⟨_, _, on_at?_of_ok hlength, .made t _ hnew hfault hlength⟩

/-- A volume's directory cannot be made, or its file is made after it. -/
theorem create_ends (run : Executor (StateM Simulation)) (zfs path : String) (size : Nat)
    (s : Simulation) : ∃ r s', s.on ((hostStorage run zfs).create path size) = (r, s') ∧
      ((∃ e, r = .error e ∧ DatasetEnds run zfs path s (.error e) s') ∨
        ∃ s₁, DatasetEnds run zfs path s (.ok ()) s₁ ∧ FileEnds path size s₁ r s') := by
  obtain ⟨r, s₁, hdataset, hends⟩ := datasetEnds run zfs path s
  cases r with
  | error e => exact ⟨.error e, s₁, on_bind_of_error hdataset, .inl ⟨e, rfl, hends⟩⟩
  | ok _ =>
      obtain ⟨r, s', hfile, hfileEnds⟩ := fileEnds path size s₁
      exact ⟨r, s', (on_bind_of_ok hdataset).trans hfile, .inr ⟨s₁, hends, hfileEnds⟩⟩

/-! ## What is left behind -/

/-- Making the directory of a path as a dataset puts nothing at the path itself. -/
def Spares (run : Executor (StateM Simulation)) (zfs path : String) : Prop :=
  ∀ (directory : String) (command : Command) (s : Simulation),
    Path.parent? path = some directory → datasetCommand zfs directory = .ok command →
      s.Absent path → (s.on (run command)).2.Absent path

/-- Scripted commands leave the files alone. -/
theorem spares_runScripted (zfs path : String) : Spares runScripted zfs path :=
  fun _ _ _ _ _ h => h

/-- Whatever comes of the directory, nothing is at the path of the volume after it. -/
theorem DatasetEnds.absent {r : Except Error Unit} (h : DatasetEnds run zfs path s r s')
    (hspares : Spares run zfs path) (habsent : s.Absent path) : s'.Absent path := by
  have hran : ∀ {directory command r s'}, s.missingDirectory? path = some directory →
      datasetCommand zfs directory = .ok command → s.on (run command) = (r, s') →
        s'.Absent path := by
    intro directory command r s' hmissing hcommand hrun
    have hafter := hspares directory command s (missingDirectory?_eq_some_iff.1 hmissing).1
      hcommand habsent
    rwa [hrun] at hafter
  cases h with
  | there _ => exact habsent
  | nameless _ _ _ _ => exact habsent
  | notRun _ _ _ _ missing dataset ran => exact hran missing dataset ran
  | failed _ _ _ _ missing dataset ran _ => exact hran missing dataset ran
  | made _ _ _ missing dataset ran => exact hran missing dataset ran

theorem on_size (run : Executor (StateM Simulation)) (zfs : String) (s : Simulation)
    (path : String) : s.on ((hostStorage run zfs).size path) =
      match s.tree.size s.current path with
      | .ok size => (.ok (some size), s)
      | .error .notFound => (.ok none, s)
      | .error cause => (.error (.io path cause), s) := by
  show Id.run (StateT.run (match s.tree.size s.current path with
    | .ok size => pure (.ok (some size))
    | .error .notFound => pure (.ok none)
    | .error cause => pure (.error (.io path cause)) :
      StateM Simulation (Except Error (Option Nat))) s) = _
  split <;> rfl

theorem on_size_of_absent (habsent : s.Absent path) :
    s.on ((hostStorage run zfs).size path) = (.ok none, s) := by
  rw [on_size, habsent]

/-- Where nothing is, a volume is created. -/
theorem on_realizeStorage_of_absent (habsent : s.Absent path) (backend : Option UInt64)
    (expected : Option Nat) :
    s.on (realizeStorage (hostStorage run zfs) (.volume backend) path expected false) =
      s.on (do
        (hostStorage run zfs).create path (expected.getD 0)
        return .created path (expected.getD 0)) := on_bind_of_ok (on_size_of_absent habsent)

/-- A volume of another size is left as it is. -/
theorem on_realizeStorage_of_ne {actual n : Nat} (hthere : s.tree.size s.current path = .ok actual)
    (hne : n ≠ actual) (backend : Option UInt64) :
    s.on (realizeStorage (hostStorage run zfs) (.volume backend) path (some n) false) =
      (.ok (.sizeMismatch path n actual), s) := by
  have hlook : s.on ((hostStorage run zfs).size path) = (.ok (some actual), s) := by
    rw [on_size, hthere]
  refine (on_bind_of_ok hlook).trans ?_
  show s.on (if n = actual then _ else _) = _
  rw [if_neg hne]
  rfl

/-- **A creation that fails leaves nothing behind, unless the size is beyond the longest file.**
The next run then tries to create the volume again. Beyond the longest file, it leaves nothing
behind, too, or an empty file that the next run takes for a volume of another size. -/
theorem create_failed (hspares : Spares run zfs path) (habsent : s.Absent path)
    (backend : Option UInt64) {expected : Option Nat} {e : Error}
    (hfails : s.on ((hostStorage run zfs).create path (expected.getD 0)) = (.error e, s')) :
    s.on (realizeStorage (hostStorage run zfs) (.volume backend) path expected false) =
        (.error e, s') ∧
      ((s'.Absent path ∧
          s'.on (realizeStorage (hostStorage run zfs) (.volume backend) path expected false) =
            s'.on (do
              (hostStorage run zfs).create path (expected.getD 0)
              return .created path (expected.getD 0))) ∨
        (FileTree.longest < expected.getD 0 ∧
          s'.tree.stat s'.current path = .ok .emptyFile ∧
          (∃ cause, FileTree.lengthFault? (expected.getD 0) = some cause ∧ e = .io path cause) ∧
          s'.on (realizeStorage (hostStorage run zfs) (.volume backend) path expected false) =
            (.ok (.sizeMismatch path (expected.getD 0) 0), s'))) := by
  refine ⟨?_, ?_⟩
  · exact (on_realizeStorage_of_absent habsent backend expected).trans (on_bind_of_error hfails)
  · obtain ⟨r, s₂, hcreate, hends⟩ := create_ends run zfs path (expected.getD 0) s
    obtain ⟨rfl, rfl⟩ := Prod.mk.inj (hfails.symm.trans hcreate)
    rcases hends with ⟨e', -, hdataset⟩ | ⟨s₁, hdataset, hfile⟩
    · have hafter := hdataset.absent hspares habsent
      exact .inl ⟨hafter, on_realizeStorage_of_absent hafter backend expected⟩
    · have hbefore := hdataset.absent hspares habsent
      cases hfile with
      | refused cause refusal =>
          exact .inl ⟨hbefore, on_realizeStorage_of_absent hbefore backend expected⟩
      | tooLong cause t new fault =>
          -- the file is there before its length is refused
          have hstat := FileTree.stat_of_createNew new
          have hsize : t.size s₁.current path = .ok 0 := congrArg (Except.map Content.size) hstat
          have hlong : FileTree.longest < expected.getD 0 := by
            refine Nat.lt_of_not_le fun hle => ?_
            rw [FileTree.lengthFault?_eq_none_iff.2 hle] at fault
            cases fault
          refine .inr ⟨hlong, hstat, ⟨cause, fault, rfl⟩, ?_⟩
          cases expected with
          | none => exact absurd hlong (by decide)
          | some n =>
              have hn : n ≠ 0 := Nat.ne_of_gt (Nat.zero_lt_of_lt hlong)
              exact on_realizeStorage_of_ne hsize hn backend

/-- The directory cannot be made, as the only exit status is one. -/
theorem create_failed_unmade : ∃ s s' : Simulation, s.Absent "/volumes/guest/disk-1" ∧
    s.on ((hostStorage runScripted "/sbin/zfs").create "/volumes/guest/disk-1" 4096) =
      (.error (.processFailed "/sbin/zfs" (.exited 1)), s') ∧
    s'.Absent "/volumes/guest/disk-1" ∧
    s'.on (realizeStorage (hostStorage runScripted "/sbin/zfs") (.volume (some 4096))
        "/volumes/guest/disk-1" (some 4096) false) =
      s'.on (do
        (hostStorage runScripted "/sbin/zfs").create "/volumes/guest/disk-1" 4096
        return .created "/volumes/guest/disk-1" 4096) := by
  have hfails : Simulation.on { tree := default, script := { statuses := [some 1] } }
      ((hostStorage runScripted "/sbin/zfs").create "/volumes/guest/disk-1"
        ((some 4096).getD 0)) = (.error (.processFailed "/sbin/zfs" (.exited 1)), _) := rfl
  have habsent : Simulation.Absent { tree := default, script := { statuses := [some 1] } }
      "/volumes/guest/disk-1" := rfl
  refine ⟨_, _, habsent, hfails, ?_⟩
  rcases (create_failed (spares_runScripted _ _) habsent (some 4096) hfails).2 with hagain | hlong
  · exact hagain
  · exact absurd hlong.1 (by decide)

/-- A volume of as many bytes as no host can count. -/
theorem exists_volume_left : ∃ (s : Simulation) (path : String) (size : Nat),
    size = 1 <<< 63 ∧ s.Absent path ∧ ∀ run zfs, ∃ e s',
      s.on ((hostStorage run zfs).create path size) = (.error e, s') ∧ ¬s'.Absent path ∧
      s'.on (realizeStorage (hostStorage run zfs) (.volume none) path (some size) false) =
        (.ok (.sizeMismatch path size 0), s') := by
  refine ⟨{ tree := default }, "/disk-1", 1 <<< 63, rfl, rfl, fun run zfs => ?_⟩
  refine ⟨.io "/disk-1" .lengthOutOfRange, _, rfl, ?_, rfl⟩
  intro habsent
  cases habsent

end Realization

end Guestkeeper
