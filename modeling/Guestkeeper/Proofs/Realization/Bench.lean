import Guestkeeper.Proofs.Outcome
import Guestkeeper.Realization.Shelf

set_option autoImplicit false

/-! # Realization on a bench

A bench is a host on which realization can be watched. Its storage is a map from paths to
objects, some paths of which cannot be looked at, and its commands exit with a sequence of
statuses that is fixed beforehand. It keeps every object that is created and every command that
is run, so what realization asked for can be read off afterwards, also where it failed.

What can come of one disk and of one interface is said once, in `DiskEnds` and `LinkEnds`, and
what can come of a list of devices in `Course`. What holds of every realization is proved along
these.
-/

namespace Guestkeeper

/-- The path of a device's disk, if it has one that can be used. -/
def Device.disk? (root : String) (id : Uuid) (d : Device) : Option String :=
  match d.kind.storage? with
  | some (.file path _ _) => some path
  | some (.volume _) => some (volumePath root id d.slot.deviceId)
  | _ => none

/-- What a device's volume is created as, if it has one. -/
def Device.volume? (root : String) (id : Uuid) (d : Device) : Option Realization.StoredObject :=
  match d.kind.storage? with
  | some (.volume size) =>
    some ⟨volumePath root id d.slot.deviceId, (size.map UInt64.toNat).getD 0⟩
  | _ => none

theorem Device.volume?_eq_some_iff {root : String} {id : Uuid} {d : Device}
    {v : Realization.StoredObject} : d.volume? root id = some v ↔
      ∃ size, d.kind.storage? = some (.volume size) ∧
        v = ⟨volumePath root id d.slot.deviceId, (size.map UInt64.toNat).getD 0⟩ := by
  rw [Device.volume?]
  split
  · next size hstorage =>
      rw [hstorage]
      constructor
      · intro h
        exact ⟨size, rfl, (Option.some.inj h).symm⟩
      · rintro ⟨size', hsize, rfl⟩
        cases hsize
        rfl
  · next hother =>
      constructor
      · intro h
        cases h
      · rintro ⟨size, hsize, -⟩
        exact absurd hsize (hother size)

namespace Realization

open Guestkeeper.Host

structure Bench where
  objects : Table StoredObject.path := ∅
  /-- Why a path cannot be looked at, if it cannot. -/
  refusal : String → Option Error := fun _ => none
  /-- The exit statuses of the commands to come. -/
  statuses : Nat → Int := fun _ => 0
  /-- What has been created so far. -/
  created : List StoredObject := []
  /-- What has been run so far. -/
  spawned : List Command := []

namespace Bench

variable {α β : Type} {b b' : Bench}

def size (b : Bench) (path : String) : Except Error (Option Nat) :=
  match b.refusal path with
  | some e => .error e
  | none => .ok ((b.objects.find? path).map StoredObject.size)

def create (b : Bench) (o : StoredObject) : Bench :=
  { b with objects := b.objects.insert o, created := b.created ++ [o] }

/-- The bench after commands were run, each of which has used up a status. -/
def ran (b : Bench) (commands : List Command) : Bench :=
  { b with
    statuses := fun n => b.statuses (commands.length + n)
    spawned := b.spawned ++ commands }

/-- The bench as the place that holds the disks. What `create` would do is described in any
way. -/
def tool (describe : Bench → String → Nat → List String) : StorageTool (StateM Bench) where
  size path := ExceptT.mk fun b => (b.size path, b)
  create path size := ExceptT.mk fun b => (.ok (), b.create ⟨path, size⟩)
  describeCreate path size := fun b => (describe b path size, b)

/-- The bench as the runner of commands. -/
def run : Executor (StateM Bench) := fun c => ExceptT.mk fun b => (.ok (b.statuses 0), b.ran [c])

/-- What comes of a program on the bench. -/
def on (b : Bench) (program : ExceptT Error (StateM Bench) α) : Except Error α × Bench :=
  Id.run (program.run.run b)

/-- Realizes a machine on the bench. -/
def realize (describe : Bench → String → Nat → List String) (c : Configuration) (m : Machine)
    (dryRun : Bool) (b : Bench) : Except Error (List Step) × Bench :=
  b.on (Realization.realize c (tool describe) run m dryRun)

/-! ## Programs on a bench -/

theorem on_bind_of_ok {program : ExceptT Error (StateM Bench) α}
    {next : α → ExceptT Error (StateM Bench) β} {a : α} (h : b.on program = (.ok a, b')) :
    b.on (program >>= next) = b'.on (next a) := ExceptT.run_bind_of_ok h

theorem on_bind_of_error {program : ExceptT Error (StateM Bench) α}
    {next : α → ExceptT Error (StateM Bench) β} {e : Error} (h : b.on program = (.error e, b')) :
    b.on (program >>= next) = (.error e, b') := ExceptT.run_bind_of_error h

/-! ## Commands -/

/-- The next commands are going to exit with zero. -/
def Passes (b : Bench) (commands : List Command) : Prop :=
  ∀ n < commands.length, b.statuses n = 0

theorem ran_nil (b : Bench) : b.ran [] = b := by
  simp [ran]

theorem ran_ran (b : Bench) (commands more : List Command) :
    (b.ran commands).ran more = b.ran (commands ++ more) := by
  simp [ran, Nat.add_assoc]

theorem passes_nil (b : Bench) : b.Passes [] := fun _ h => absurd h (Nat.not_lt_zero _)

theorem passes_append_iff {commands more : List Command} :
    b.Passes (commands ++ more) ↔ b.Passes commands ∧ (b.ran commands).Passes more := by
  constructor
  · intro h
    refine ⟨fun n hn => h n ?_, fun n hn => h (commands.length + n) ?_⟩
    · rw [List.length_append]
      omega
    · rw [List.length_append]
      omega
  · rintro ⟨hcommands, hmore⟩ n hn
    rw [List.length_append] at hn
    by_cases hfirst : n < commands.length
    · exact hcommands n hfirst
    · -- the statuses of `more` come behind those of `commands`
      have hn' : commands.length + (n - commands.length) = n := by omega
      have h : b.statuses (commands.length + (n - commands.length)) = 0 :=
        hmore (n - commands.length) (by omega)
      rwa [hn'] at h

theorem passes_cons_iff {command : Command} {rest : List Command} :
    b.Passes (command :: rest) ↔ b.statuses 0 = 0 ∧ (b.ran [command]).Passes rest := by
  have hsingle : b.Passes [command] ↔ b.statuses 0 = 0 := by
    simp [Passes]
  rw [← hsingle]
  show b.Passes ([command] ++ rest) ↔ _
  exact passes_append_iff

theorem on_run (b : Bench) (command : Command) :
    b.on (run command) = (.ok (b.statuses 0), b.ran [command]) := rfl

theorem on_runAll_of_passes {commands : List Command} (h : b.Passes commands) :
    b.on (runAll run commands) = (.ok (), b.ran commands) := by
  induction commands generalizing b with
  | nil =>
      rw [ran_nil]
      rfl
  | cons command rest ih =>
      obtain ⟨hfirst, hrest⟩ := passes_cons_iff.1 h
      rw [runAll, on_bind_of_ok (on_run b command), if_neg (not_not_intro hfirst)]
      exact (ih hrest).trans (by rw [ran_ran]; rfl)

/-- Commands are run up to and including the first that fails. -/
theorem on_runAll_of_fails {done rest : List Command} {failing : Command} (h : b.Passes done)
    (hfails : b.statuses done.length ≠ 0) :
    b.on (runAll run (done ++ failing :: rest)) =
      (.error (.processFailed failing.executable
        (.commandExited failing.text (b.statuses done.length))), b.ran (done ++ [failing])) := by
  induction done generalizing b with
  | nil =>
      have hfirst : b.statuses 0 ≠ 0 := hfails
      rw [List.nil_append, runAll, on_bind_of_ok (on_run b failing), if_pos hfirst]
      rfl
  | cons command done ih =>
      obtain ⟨hfirst, hdone⟩ := passes_cons_iff.1 h
      rw [List.cons_append, runAll, on_bind_of_ok (on_run b command),
        if_neg (not_not_intro hfirst)]
      -- the first command has used up a status, so the one that fails is one nearer
      have hstatus : (b.ran [command]).statuses done.length = b.statuses (done.length + 1) :=
        congrArg b.statuses (Nat.add_comm 1 done.length)
      refine (ih hdone (by rw [hstatus]; exact hfails)).trans ?_
      rw [hstatus, ran_ran]
      rfl

theorem passes_or_fails (b : Bench) (commands : List Command) :
    b.Passes commands ∨ ∃ done failing rest, commands = done ++ failing :: rest ∧
      b.Passes done ∧ b.statuses done.length ≠ 0 := by
  induction commands generalizing b with
  | nil => exact .inl b.passes_nil
  | cons command rest ih =>
      by_cases hfirst : b.statuses 0 = 0
      · rcases ih (b.ran [command]) with hrest | ⟨done, failing, after, rfl, hdone, hfails⟩
        · exact .inl (passes_cons_iff.2 ⟨hfirst, hrest⟩)
        · refine .inr ⟨command :: done, failing, after, rfl,
            passes_cons_iff.2 ⟨hfirst, hdone⟩, ?_⟩
          rw [List.length_cons, Nat.add_comm]
          exact hfails
      · exact .inr ⟨[], command, rest, rfl, b.passes_nil, hfirst⟩

/-! ## Devices -/

/-- What can come of realizing a device's disk. -/
inductive DiskEnds (root : String) (id : Uuid) (b : Bench) (d : Device) (dryRun : Bool) :
    Except Error (List Step) → Bench → Prop
  | nothing (none : d.kind.storage? = none) : DiskEnds root id b d dryRun (.ok []) b
  | scsi (backend : d.kind.storage? = some .scsi) :
      DiskEnds root id b d dryRun (.error .scsiUnimplemented) b
  | refused (path : String) (e : Error) (disk : d.disk? root id = some path)
      (refusal : b.refusal path = some e) : DiskEnds root id b d dryRun (.error e) b
  | file (path : String) (outcome : StorageOutcome) (disk : d.disk? root id = some path)
      (readable : b.refusal path = none) (volume : d.volume? root id = none)
      (report : (∃ size, outcome = .existing path size) ∨ outcome = .missing path) :
      DiskEnds root id b d dryRun (.ok [.storage d.slot outcome]) b
  | kept (v : StoredObject) (size : Nat) (outcome : StorageOutcome)
      (volume : d.volume? root id = some v) (readable : b.refusal v.path = none)
      (there : (b.objects.find? v.path).map StoredObject.size = some size)
      (report : outcome = .existing v.path size ∨
        ∃ expected, outcome = .sizeMismatch v.path expected size) :
      DiskEnds root id b d dryRun (.ok [.storage d.slot outcome]) b
  | promised (v : StoredObject) (lines : List String) (volume : d.volume? root id = some v)
      (readable : b.refusal v.path = none) (absent : b.objects.find? v.path = none)
      (dry : dryRun = true) :
      DiskEnds root id b d dryRun (.ok [.storage d.slot (.wouldCreate v.path v.size lines)]) b
  | created (v : StoredObject) (volume : d.volume? root id = some v)
      (readable : b.refusal v.path = none) (absent : b.objects.find? v.path = none)
      (wet : dryRun = false) :
      DiskEnds root id b d dryRun (.ok [.storage d.slot (.created v.path v.size)]) (b.create v)

/-- What can come of realizing a device's network interface. -/
inductive LinkEnds (ifconfig : String) (b : Bench) (d : Device) (dryRun : Bool) :
    Except Error (List Step) → Bench → Prop
  | nothing (none : d.kind.network? = none) : LinkEnds ifconfig b d dryRun (.ok []) b
  | refused (n : NetworkBackend) (e : Error) (backend : d.kind.network? = some n)
      (refusal : b.refusal n.deviceNode = some e) : LinkEnds ifconfig b d dryRun (.error e) b
  | told (n : NetworkBackend) (backend : d.kind.network? = some n)
      (readable : b.refusal n.deviceNode = none) (dry : dryRun = true) :
      LinkEnds ifconfig b d dryRun
        (.ok [.network d.slot
          (n.commands ifconfig (b.objects.find? n.deviceNode).isSome) false]) b
  | ran (n : NetworkBackend) (commands : List Command) (backend : d.kind.network? = some n)
      (readable : b.refusal n.deviceNode = none)
      (list : n.commands ifconfig (b.objects.find? n.deviceNode).isSome = commands)
      (passes : b.Passes commands) (wet : dryRun = false) :
      LinkEnds ifconfig b d dryRun (.ok [.network d.slot commands true]) (b.ran commands)
  | failed (n : NetworkBackend) (done rest : List Command) (failing : Command)
      (backend : d.kind.network? = some n) (readable : b.refusal n.deviceNode = none)
      (list : n.commands ifconfig (b.objects.find? n.deviceNode).isSome =
        done ++ failing :: rest)
      (passes : b.Passes done) (fails : b.statuses done.length ≠ 0) (wet : dryRun = false) :
      LinkEnds ifconfig b d dryRun
        (.error (.processFailed failing.executable
          (.commandExited failing.text (b.statuses done.length)))) (b.ran (done ++ [failing]))

variable {describe : Bench → String → Nat → List String} {c : Configuration} {id : Uuid}
  {dryRun : Bool}

/-! ## What comes of a disk -/

theorem on_size_of_refusal {path : String} {e : Error} (h : b.refusal path = some e) :
    b.on ((tool describe).size path) = (.error e, b) := by
  show (b.size path, b) = _
  rw [size, h]

theorem on_size_of_readable {path : String} {found : Option Nat} (h : b.refusal path = none)
    (hfound : (b.objects.find? path).map StoredObject.size = found) :
    b.on ((tool describe).size path) = (.ok found, b) := by
  show (b.size path, b) = _
  rw [size, h, hfound]

section Disk

variable {d : Device} {backend : StorageBackend} {path : String}

/-- A disk is realized at its path, and what comes of that is the step. -/
theorem on_storageStep_of_ok {outcome : StorageOutcome} (hstorage : d.kind.storage? = some backend)
    (htarget : backend.target c.volumeRoot id d.slot.deviceId = .ok path)
    (h : b.on (realizeStorage (tool describe) backend path (backend.expectedSize.map UInt64.toNat)
      dryRun) = (.ok outcome, b')) :
    b.on (storageStep c (tool describe) id dryRun d) = (.ok [.storage d.slot outcome], b') := by
  simp only [storageStep, hstorage, htarget]
  exact (on_bind_of_ok rfl).trans (on_bind_of_ok h)

theorem on_storageStep_of_error {e : Error} (hstorage : d.kind.storage? = some backend)
    (htarget : backend.target c.volumeRoot id d.slot.deviceId = .ok path)
    (h : b.on (realizeStorage (tool describe) backend path (backend.expectedSize.map UInt64.toNat)
      dryRun) = (.error e, b')) :
    b.on (storageStep c (tool describe) id dryRun d) = (.error e, b') := by
  simp only [storageStep, hstorage, htarget]
  exact (on_bind_of_ok rfl).trans (on_bind_of_error h)

end Disk

/-- What comes of a disk that is a file of the host. -/
theorem diskEnds_file (b : Bench) {d : Device} {path : String} {options : Table OpenOption.index}
    {sectors : Option SectorSizes}
    (hstorage : d.kind.storage? = some (.file path options sectors)) :
    ∃ r b', b.on (storageStep c (tool describe) id dryRun d) = (r, b') ∧
      DiskEnds c.volumeRoot id b d dryRun r b' := by
  have hdisk : d.disk? c.volumeRoot id = some path := by
    rw [Device.disk?, hstorage]
  have hvolume : d.volume? c.volumeRoot id = none := by
    rw [Device.volume?, hstorage]
  cases hrefusal : b.refusal path with
  | some e =>
      exact ⟨_, b, on_storageStep_of_error hstorage rfl
        (on_bind_of_error (on_size_of_refusal hrefusal)), .refused path e hdisk hrefusal⟩
  | none =>
      cases hfound : (b.objects.find? path).map StoredObject.size with
      | none =>
          exact ⟨_, b, on_storageStep_of_ok hstorage rfl
            (on_bind_of_ok (on_size_of_readable hrefusal hfound)),
            .file path (.missing path) hdisk hrefusal hvolume (.inr rfl)⟩
      | some size =>
          exact ⟨_, b, on_storageStep_of_ok hstorage rfl
            (on_bind_of_ok (on_size_of_readable hrefusal hfound)),
            .file path (.existing path size) hdisk hrefusal hvolume (.inl ⟨size, rfl⟩)⟩

/-- A volume that is there is reported, whatever its size. -/
theorem on_realizeStorage_of_there {path : String} {expected : Option UInt64} {size : Nat}
    (hreadable : b.refusal path = none)
    (hfound : (b.objects.find? path).map StoredObject.size = some size) :
    ∃ outcome, b.on (realizeStorage (tool describe) (.volume expected) path
        (expected.map UInt64.toNat) dryRun) = (.ok outcome, b) ∧
      (outcome = .existing path size ∨ ∃ n, outcome = .sizeMismatch path n size) := by
  have hsize : b.on ((tool describe).size path) = (.ok (some size), b) :=
    on_size_of_readable hreadable hfound
  cases expected with
  | none => exact ⟨.existing path size, on_bind_of_ok hsize, .inl rfl⟩
  | some n =>
      by_cases hn : n.toNat = size
      · refine ⟨.existing path size, (on_bind_of_ok hsize).trans ?_, .inl rfl⟩
        simp only [Option.map_some, if_pos hn]
        rfl
      · refine ⟨.sizeMismatch path n.toNat size, (on_bind_of_ok hsize).trans ?_, .inr ⟨_, rfl⟩⟩
        simp only [Option.map_some, if_neg hn]
        rfl

/-- What comes of a disk that is a volume of the machine. -/
theorem diskEnds_volume (b : Bench) {d : Device} {expected : Option UInt64}
    (hstorage : d.kind.storage? = some (.volume expected)) :
    ∃ r b', b.on (storageStep c (tool describe) id dryRun d) = (r, b') ∧
      DiskEnds c.volumeRoot id b d dryRun r b' := by
  -- the path is kept closed, since it is long when it is computed
  obtain ⟨path, hpath⟩ : ∃ path, volumePath c.volumeRoot id d.slot.deviceId = path := ⟨_, rfl⟩
  have hdisk : d.disk? c.volumeRoot id = some path := by
    rw [Device.disk?, hstorage, ← hpath]
  have hvolume : d.volume? c.volumeRoot id = some ⟨path, (expected.map UInt64.toNat).getD 0⟩ := by
    rw [Device.volume?, hstorage, ← hpath]
  have htarget : (StorageBackend.volume expected).target c.volumeRoot id d.slot.deviceId =
      .ok path := congrArg Except.ok hpath
  cases hrefusal : b.refusal path with
  | some e =>
      exact ⟨_, b, on_storageStep_of_error hstorage htarget
        (on_bind_of_error (on_size_of_refusal hrefusal)), .refused path e hdisk hrefusal⟩
  | none =>
      cases hfound : (b.objects.find? path).map StoredObject.size with
      | none =>
          have habsent : b.objects.find? path = none := Option.map_eq_none_iff.1 hfound
          cases dryRun with
          | true =>
              exact ⟨_, b, on_storageStep_of_ok hstorage htarget
                (on_bind_of_ok (on_size_of_readable hrefusal hfound)),
                .promised _ _ hvolume hrefusal habsent rfl⟩
          | false =>
              exact ⟨_, _, on_storageStep_of_ok hstorage htarget
                (on_bind_of_ok (on_size_of_readable hrefusal hfound)),
                .created _ hvolume hrefusal habsent rfl⟩
      | some size =>
          obtain ⟨outcome, hon, hreport⟩ := on_realizeStorage_of_there hrefusal hfound
          exact ⟨_, b, on_storageStep_of_ok hstorage htarget hon,
            .kept _ size outcome hvolume hrefusal hfound hreport⟩

theorem diskEnds (describe : Bench → String → Nat → List String) (c : Configuration) (id : Uuid)
    (dryRun : Bool) (b : Bench) (d : Device) :
    ∃ r b', b.on (storageStep c (tool describe) id dryRun d) = (r, b') ∧
      DiskEnds c.volumeRoot id b d dryRun r b' := by
  cases hstorage : d.kind.storage? with
  | none =>
      refine ⟨.ok [], b, ?_, .nothing hstorage⟩
      rw [storageStep, hstorage]
      rfl
  | some backend =>
      cases backend with
      | scsi =>
          refine ⟨.error .scsiUnimplemented, b, ?_, .scsi hstorage⟩
          rw [storageStep, hstorage]
          rfl
      | file path options sectors => exact diskEnds_file b hstorage
      | volume expected => exact diskEnds_volume b hstorage

/-! ## The volume of a device -/

section Volume

variable {root : String} {d : Device} {v : StoredObject}

theorem disk?_of_volume? (hv : d.volume? root id = some v) :
    d.disk? root id = some v.path := by
  obtain ⟨size, hstorage, rfl⟩ := Device.volume?_eq_some_iff.1 hv
  rw [Device.disk?, hstorage]

/-- The device's volume, if it is not there. -/
def lacking (b : Bench) (root : String) (id : Uuid) (d : Device) : Option StoredObject :=
  (d.volume? root id).filter fun v => (b.objects.find? v.path).isNone

theorem lacking_of_absent (hv : d.volume? root id = some v)
    (habsent : b.objects.find? v.path = none) : b.lacking root id d = some v := by
  rw [lacking, hv, Option.filter_some, if_pos (by rw [habsent]; rfl)]

theorem lacking_of_there {size : Nat} (hv : d.volume? root id = some v)
    (hthere : (b.objects.find? v.path).map StoredObject.size = some size) :
    b.lacking root id d = none := by
  obtain ⟨o, ho, -⟩ := Option.map_eq_some_iff.1 hthere
  rw [lacking, hv, Option.filter_some, if_neg (by rw [ho]; exact Bool.false_ne_true)]

theorem lacking_of_none (hv : d.volume? root id = none) : b.lacking root id d = none := by
  rw [lacking, hv]
  rfl

theorem volume?_of_lacking (h : b.lacking root id d = some v) :
    d.volume? root id = some v := (Option.filter_eq_some_iff.1 h).1

/-- A disk that cannot be realized leaves the bench as it is. -/
theorem DiskEnds.eq_of_error {e : Error} (h : DiskEnds root id b d dryRun (.error e) b') :
    b' = b := by
  cases h with
  | scsi backend => rfl
  | refused path e disk refusal => rfl

/-- A disk that is realized is created where it is a volume and is not there. -/
theorem DiskEnds.eq_of_real {report : List Step}
    (h : DiskEnds root id b d false (.ok report) b') :
    b' = (b.lacking root id d).elim b b.create := by
  cases h with
  | nothing none =>
      rw [lacking_of_none (by rw [Device.volume?, none])]
      rfl
  | file path outcome disk readable volume report =>
      rw [lacking_of_none volume]
      rfl
  | kept v size outcome volume readable there report =>
      rw [lacking_of_there volume there]
      rfl
  | promised v lines volume readable absent dry => cases dry
  | created v volume readable absent wet =>
      rw [lacking_of_absent volume absent]
      rfl

end Volume

/-! ## What comes of an interface -/

theorem linkEnds (describe : Bench → String → Nat → List String) (c : Configuration)
    (dryRun : Bool) (b : Bench) (d : Device) :
    ∃ r b', b.on (networkStep c (tool describe) run dryRun d) = (r, b') ∧
      LinkEnds c.ifconfig b d dryRun r b' := by
  cases hnetwork : d.kind.network? with
  | none =>
      refine ⟨.ok [], b, ?_, .nothing hnetwork⟩
      rw [networkStep, hnetwork]
      rfl
  | some n =>
      simp only [networkStep, hnetwork]
      cases hrefusal : b.refusal n.deviceNode with
      | some e =>
          exact ⟨_, b, on_bind_of_error (on_size_of_refusal hrefusal),
            .refused n e hnetwork hrefusal⟩
      | none =>
          have hsize : b.on ((tool describe).size n.deviceNode) = (.ok _, b) :=
            on_size_of_readable hrefusal rfl
          -- what is found at the node decides on the list of commands
          rw [on_bind_of_ok hsize, Option.isSome_map]
          cases dryRun with
          | true => exact ⟨_, b, rfl, .told n hnetwork hrefusal rfl⟩
          | false =>
              rcases b.passes_or_fails
                (n.commands c.ifconfig (b.objects.find? n.deviceNode).isSome) with
                hpasses | ⟨done, failing, rest, hlist, hdone, hfails⟩
              · exact ⟨_, _, on_bind_of_ok (on_runAll_of_passes hpasses),
                  .ran n _ hnetwork hrefusal rfl hpasses rfl⟩
              · rw [hlist]
                exact ⟨_, _, on_bind_of_error (on_runAll_of_fails hdone hfails),
                  .failed n done rest failing hnetwork hrefusal hlist hdone hfails rfl⟩

/-! ## What comes of a list of devices -/

/-- How realizing devices one after another can go. -/
inductive Course (c : Configuration) (id : Uuid) (dryRun : Bool) :
    List Device → Bench → Except Error (List Step) → Bench → Prop
  | done (b : Bench) : Course c id dryRun [] b (.ok []) b
  | noDisk {d : Device} (rest : List Device) {b b' : Bench} {e : Error}
      (disk : DiskEnds c.volumeRoot id b d dryRun (.error e) b') :
      Course c id dryRun (d :: rest) b (.error e) b'
  | noLink {d : Device} (rest : List Device) {b b₁ b' : Bench} {first : List Step} {e : Error}
      (disk : DiskEnds c.volumeRoot id b d dryRun (.ok first) b₁)
      (link : LinkEnds c.ifconfig b₁ d dryRun (.error e) b') :
      Course c id dryRun (d :: rest) b (.error e) b'
  | next {d : Device} {rest : List Device} {b b₁ b₂ b' : Bench} {first second : List Step}
      {r r' : Except Error (List Step)} (disk : DiskEnds c.volumeRoot id b d dryRun (.ok first) b₁)
      (link : LinkEnds c.ifconfig b₁ d dryRun (.ok second) b₂)
      (more : Course c id dryRun rest b₂ r b')
      (result : r' = r.map fun steps => first ++ second ++ steps) :
      Course c id dryRun (d :: rest) b r' b'

theorem course_realizeDevices (describe : Bench → String → Nat → List String)
    (c : Configuration) (id : Uuid) (dryRun : Bool) (ds : List Device) (b : Bench) :
    ∃ r b', b.on (realizeDevices c (tool describe) run id dryRun ds) = (r, b') ∧
      Course c id dryRun ds b r b' := by
  induction ds generalizing b with
  | nil => exact ⟨_, b, rfl, .done b⟩
  | cons d rest ih =>
      obtain ⟨r₁, b₁, hdisk, disk⟩ := diskEnds describe c id dryRun b d
      rw [realizeDevices]
      cases r₁ with
      | error e => exact ⟨_, b₁, on_bind_of_error hdisk, .noDisk rest disk⟩
      | ok first =>
          obtain ⟨r₂, b₂, hlink, link⟩ := linkEnds describe c dryRun b₁ d
          rw [on_bind_of_ok hdisk]
          cases r₂ with
          | error e => exact ⟨_, b₂, on_bind_of_error hlink, .noLink rest disk link⟩
          | ok second =>
              obtain ⟨r₃, b₃, hmore, more⟩ := ih b₂
              rw [on_bind_of_ok hlink]
              cases r₃ with
              | error e => exact ⟨_, b₃, on_bind_of_error hmore, .next disk link more rfl⟩
              | ok steps => exact ⟨_, b₃, on_bind_of_ok hmore, .next disk link more rfl⟩

/-- How realizing a machine can go. -/
theorem course_realize (describe : Bench → String → Nat → List String) (c : Configuration)
    (m : Machine) (dryRun : Bool) (b : Bench) :
    Course c m.id dryRun m.devices.entries b (b.realize describe c m dryRun).1
      (b.realize describe c m dryRun).2 := by
  obtain ⟨r, b', hon, hcourse⟩ :=
    course_realizeDevices describe c m.id dryRun m.devices.entries b
  have hrealize : b.realize describe c m dryRun = (r, b') := hon
  rw [hrealize]
  exact hcourse

end Bench

end Realization

end Guestkeeper
