import Guestkeeper.Proofs.Realization.Bench
import Guestkeeper.Proofs.Realization.Volumes

set_option autoImplicit false

/-! # What a dry run promises

A dry run lists the commands that the interfaces need and the volumes that would be created, and
leaves everything as it is. The run that follows from the same storage keeps to the list up to
the first command that fails.

The two runs ask for the same sizes, but the second one asks after it has created volumes. It
gets the same answers because no volume of a machine is at the path of another one, and none is
at the node of an interface.
-/

namespace Guestkeeper

namespace Realization

open Guestkeeper.Host

/-! ## Paths that are kept apart -/

/-- The paths that decide what realizing the devices `ds` does: no two volumes share one, and
none of the volumes is at the node of an interface among `es`. -/
structure Apart (root : String) (id : Uuid) (ds es : List Device) : Prop where
  volumes : ds.Pairwise fun d e => ∀ v w, d.volume? root id = some v →
    e.volume? root id = some w → v.path ≠ w.path
  nodes : ∀ d ∈ ds, ∀ e ∈ es, ∀ v n, d.volume? root id = some v → e.kind.network? = some n →
    v.path ≠ n.deviceNode

theorem Apart.tail {root : String} {id : Uuid} {d : Device} {ds es : List Device}
    (h : Apart root id (d :: ds) es) : Apart root id ds es :=
  ⟨(List.pairwise_cons.1 h.volumes).2, fun d' hd => h.nodes d' (List.mem_cons_of_mem d hd)⟩

theorem apart_of_recordable {m : Machine} (hm : m.Recordable) (root : String) :
    Apart root m.id m.devices.entries m.devices.entries := by
  constructor
  · have hvolumes : VolumesApart m.devices.entries :=
      checkVolumes_eq_ok_iff.1 (Machine.checkVolumes_devices_iff.2 hm.volumes)
    refine hvolumes.imp fun {d e} hapart v w hv hw hpath => ?_
    obtain ⟨_, hd, rfl⟩ := Device.volume?_eq_some_iff.1 hv
    obtain ⟨_, he, rfl⟩ := Device.volume?_eq_some_iff.1 hw
    have hdv : d.kind.isVolume = true := by
      rw [DeviceKind.isVolume, hd]
      rfl
    have hev : e.kind.isVolume = true := by
      rw [DeviceKind.isVolume, he]
      rfl
    exact hapart hdv hev (volumePath_eq_iff.1 hpath).2
  · intro d _ e he v n hv hn
    obtain ⟨_, -, rfl⟩ := Device.volume?_eq_some_iff.1 hv
    have hkind := hm.kinds e.slot e (Machine.device?_slot he)
    exact volumePath_ne_deviceNode (DeviceKind.validate_of_network? hkind hn) root m.id _

/-! ## What steps say -/

/-- The commands that a step is about. -/
def Step.commands : Step → List Command
  | .network _ commands _ => commands
  | .storage _ _ => []

/-- What a step says would be created. -/
def Step.promised : Step → List StoredObject
  | .storage _ (.wouldCreate path size _) => [⟨path, size⟩]
  | _ => []

namespace Bench

variable {b b' b₁ b₂ : Bench} {steps more : List Step}

/-- Everything that the steps promise has been done: their commands were run and all passed, and
what they promised was created. -/
structure Advances (b : Bench) (steps : List Step) (b' : Bench) : Prop where
  passes : b.Passes (steps.flatMap Step.commands)
  statuses : b'.statuses = (b.ran (steps.flatMap Step.commands)).statuses
  spawned : b'.spawned = b.spawned ++ steps.flatMap Step.commands
  created : b'.created = b.created ++ steps.flatMap Step.promised

/-- A run keeps to the steps. It either goes through all of them, or it fails with the first
command that does and has done what the steps before it promise. -/
inductive Follows (b : Bench) (steps : List Step) : Except Error (List Step) → Bench → Prop
  | through (b' : Bench) (report : List Step) (advances : b.Advances steps b') :
      Follows b steps (.ok report) b'
  | stopped (b' : Bench) (before after : List Step) (slot : Slot) (done rest : List Command)
      (failing : Command)
      (list : steps = before ++ .network slot (done ++ failing :: rest) false :: after)
      (advances : b.Advances before b') (passes : b'.Passes done)
      (fails : b'.statuses done.length ≠ 0) :
      Follows b steps (.error (.processFailed failing.executable
        (.commandExited failing.text (b'.statuses done.length)))) (b'.ran (done ++ [failing]))

theorem advances_nil (b : Bench) : b.Advances [] b where
  passes := b.passes_nil
  statuses := by rw [List.flatMap_nil, ran_nil]
  spawned := (List.append_nil _).symm
  created := (List.append_nil _).symm

theorem Advances.trans (h : b.Advances steps b₁) (hmore : b₁.Advances more b₂) :
    b.Advances (steps ++ more) b₂ := by
  -- the statuses that the first steps have left are the ones that the others use
  have hran : (b₁.ran (more.flatMap Step.commands)).statuses
      = (b.ran (steps.flatMap Step.commands ++ more.flatMap Step.commands)).statuses := by
    rw [← ran_ran]
    show (fun n => b₁.statuses _) = _
    rw [h.statuses]
    rfl
  have hpasses : (b.ran (steps.flatMap Step.commands)).Passes (more.flatMap Step.commands) := by
    intro n hn
    rw [← h.statuses]
    exact hmore.passes n hn
  constructor
  · rw [List.flatMap_append]
    exact passes_append_iff.2 ⟨h.passes, hpasses⟩
  · rw [List.flatMap_append, hmore.statuses, hran]
  · rw [List.flatMap_append, hmore.spawned, h.spawned, List.append_assoc]
  · rw [List.flatMap_append, hmore.created, h.created, List.append_assoc]

/-- A run that keeps to the rest of the steps keeps to all of them. -/
theorem Follows.after {r : Except Error (List Step)} (h : b.Advances steps b₁)
    (hmore : b₁.Follows more r b₂) (f : List Step → List Step) :
    b.Follows (steps ++ more) (r.map f) b₂ := by
  cases hmore with
  | through b₂ report advances => exact .through b₂ (f report) (h.trans advances)
  | stopped b' before after slot done rest failing list advances passes fails =>
      refine .stopped b' (steps ++ before) after slot done rest failing ?_ (h.trans advances)
        passes fails
      rw [list, List.append_assoc]

/-- A run that has failed does not come to further steps. -/
theorem Follows.append {e : Error} (h : b.Follows steps (.error e) b') (more : List Step) :
    b.Follows (steps ++ more) (.error e) b' := by
  cases h with
  | stopped b₁ before after slot done rest failing list advances passes fails =>
      refine .stopped b₁ before (after ++ more) slot done rest failing ?_ advances passes fails
      rw [list, List.append_assoc, List.cons_append]

/-! ## Two runs side by side -/

section Runs

variable {root ifconfig : String} {id : Uuid} {d : Device} {ds es : List Device}
  {c : Configuration}

/-- A dry run leaves the bench as it is. -/
theorem DiskEnds.eq_of_dry {r : Except Error (List Step)} (h : DiskEnds root id b d true r b') :
    b' = b := by
  cases h with
  | created v volume readable absent wet => cases wet
  | _ => rfl

theorem LinkEnds.eq_of_dry {r : Except Error (List Step)} (h : LinkEnds ifconfig b d true r b') :
    b' = b := by
  cases h with
  | ran n commands backend readable list passes wet => cases wet
  | failed n done rest failing backend readable list passes fails wet => cases wet
  | _ => rfl

theorem Course.eq_of_dry {r : Except Error (List Step)} (h : Course c id true ds b r b') :
    b' = b := by
  generalize hdry : true = dryRun at h
  induction h with
  | done b => rfl
  | noDisk rest disk =>
      subst hdry
      exact disk.eq_of_dry
  | noLink rest disk link =>
      subst hdry
      exact link.eq_of_dry.trans disk.eq_of_dry
  | next disk link more result ih =>
      subst hdry
      exact ih.trans (link.eq_of_dry.trans disk.eq_of_dry)

/-- The two benches give the same answers about the volumes of `ds` and the nodes of `es`. -/
structure Agrees (root : String) (id : Uuid) (ds es : List Device) (b b' : Bench) : Prop where
  refusal : b'.refusal = b.refusal
  volumes : ∀ d ∈ ds, ∀ v, d.volume? root id = some v →
    b'.objects.find? v.path = b.objects.find? v.path
  nodes : ∀ e ∈ es, ∀ n, e.kind.network? = some n →
    b'.objects.find? n.deviceNode = b.objects.find? n.deviceNode

theorem agrees_refl (root : String) (id : Uuid) (ds es : List Device) (b : Bench) :
    Agrees root id ds es b b := ⟨rfl, fun _ _ _ _ => rfl, fun _ _ _ _ => rfl⟩

theorem Agrees.tail (h : Agrees root id (d :: ds) es b b') : Agrees root id ds es b b' :=
  ⟨h.refusal, fun e he => h.volumes e (List.mem_cons_of_mem d he), h.nodes⟩

/-- Creating the next device's volume changes no answer that is asked for later. -/
theorem Agrees.create (h : Agrees root id (d :: ds) es b b') (hapart : Apart root id (d :: ds) es)
    {v : StoredObject} (hv : d.volume? root id = some v) :
    Agrees root id ds es b (b'.create v) := by
  have hother : ∀ path, v.path ≠ path →
      (b'.create v).objects.find? path = b'.objects.find? path := by
    intro path hne
    show (b'.objects.insert v).find? path = _
    rw [Table.find?_insert, if_neg hne]
  refine ⟨h.refusal, fun e he w hw => ?_, fun e he n hn => ?_⟩
  · have hne : v.path ≠ w.path := (List.pairwise_cons.1 hapart.volumes).1 e he v w hv hw
    rw [hother _ hne]
    exact h.volumes e (List.mem_cons_of_mem d he) w hw
  · have hne : v.path ≠ n.deviceNode := hapart.nodes d List.mem_cons_self e he v n hv hn
    rw [hother _ hne]
    exact h.nodes e he n hn

/-! ### The disk of a device -/

theorem Agrees.lacking_eq (h : Agrees root id (d :: ds) es b b') :
    b'.lacking root id d = b.lacking root id d := by
  cases hv : d.volume? root id with
  | none => rw [lacking_of_none hv, lacking_of_none hv]
  | some v => simp only [lacking, hv, Option.filter_some, h.volumes d List.mem_cons_self v hv]

theorem usable_of_disk? {path : String} (hpath : d.disk? root id = some path)
    (hreadable : b.refusal path = none) : d.kind.storage? ≠ some .scsi ∧
      ∀ other, d.disk? root id = some other → b.refusal other = none := by
  constructor
  · intro hscsi
    rw [Device.disk?, hscsi] at hpath
    cases hpath
  · intro other hother
    rw [hpath] at hother
    rw [← Option.some.inj hother]
    exact hreadable

/-- A disk about which a run could tell something can be used. -/
theorem DiskEnds.usable {dryRun : Bool} {first : List Step}
    (h : DiskEnds root id b d dryRun (.ok first) b') :
    d.kind.storage? ≠ some .scsi ∧
      ∀ path, d.disk? root id = some path → b.refusal path = none := by
  cases h with
  | nothing none =>
      constructor
      · intro hscsi
        rw [none] at hscsi
        cases hscsi
      · intro path hpath
        rw [Device.disk?, none] at hpath
        cases hpath
  | file path outcome disk readable volume report => exact usable_of_disk? disk readable
  | kept v size outcome volume readable there report =>
      exact usable_of_disk? (disk?_of_volume? volume) readable
  | promised v lines volume readable absent dry =>
      exact usable_of_disk? (disk?_of_volume? volume) readable
  | created v volume readable absent wet =>
      exact usable_of_disk? (disk?_of_volume? volume) readable

/-- A dry run lists no commands for a disk, and it promises the volume where it is not there. -/
theorem DiskEnds.of_dry {first : List Step} (h : DiskEnds root id b d true (.ok first) b') :
    first.flatMap Step.commands = [] ∧
      first.flatMap Step.promised = (b.lacking root id d).toList := by
  cases h with
  | nothing none =>
      rw [lacking_of_none (by rw [Device.volume?, none])]
      exact ⟨rfl, rfl⟩
  | file path outcome disk readable volume report =>
      rw [lacking_of_none volume]
      rcases report with ⟨size, rfl⟩ | rfl
      · exact ⟨rfl, rfl⟩
      · exact ⟨rfl, rfl⟩
  | kept v size outcome volume readable there report =>
      rw [lacking_of_there volume there]
      rcases report with rfl | ⟨expected, rfl⟩
      · exact ⟨rfl, rfl⟩
      · exact ⟨rfl, rfl⟩
  | promised v lines volume readable absent dry =>
      rw [lacking_of_absent volume absent]
      exact ⟨rfl, rfl⟩
  | created v volume readable absent wet => cases wet

/-- A disk that can be used is realized. -/
theorem DiskEnds.ok_of_readable {r : Except Error (List Step)}
    (h : DiskEnds root id b d false r b') (hscsi : d.kind.storage? ≠ some .scsi)
    (hreadable : ∀ path, d.disk? root id = some path → b.refusal path = none) :
    ∃ report, r = .ok report := by
  cases h with
  | scsi backend => exact absurd backend hscsi
  | refused path e disk refusal =>
      rw [hreadable path disk] at refusal
      cases refusal
  | promised v lines volume readable absent dry => cases dry
  | _ => exact ⟨_, rfl⟩

/-- Steps without commands are carried out by creating what they promise. -/
theorem advances_of_promised {first : List Step} {o : Option StoredObject}
    (hcommands : first.flatMap Step.commands = [])
    (hpromised : first.flatMap Step.promised = o.toList) :
    b.Advances first (o.elim b b.create) := by
  constructor
  · rw [hcommands]
    exact b.passes_nil
  · rw [hcommands, ran_nil]
    cases o with
    | none => rfl
    | some v => rfl
  · rw [hcommands, List.append_nil]
    cases o with
    | none => rfl
    | some v => rfl
  · rw [hpromised]
    cases o with
    | none => exact (List.append_nil _).symm
    | some v => rfl

/-- The real run may find out something else about a file of the host, but it does what the dry
run has told. -/
theorem DiskEnds.follows {first : List Step} {r : Except Error (List Step)}
    (hdry : DiskEnds root id b d true (.ok first) b₂) (hreal : DiskEnds root id b' d false r b₁)
    (hagrees : Agrees root id (d :: ds) es b b') (hapart : Apart root id (d :: ds) es) :
    (∃ report, r = .ok report) ∧ b'.Advances first b₁ ∧ Agrees root id ds es b b₁ := by
  obtain ⟨hscsi, hreadable⟩ := hdry.usable
  obtain ⟨hcommands, hpromised⟩ := hdry.of_dry
  rw [← hagrees.lacking_eq] at hpromised
  rw [← hagrees.refusal] at hreadable
  obtain ⟨report, rfl⟩ := hreal.ok_of_readable hscsi hreadable
  obtain rfl := hreal.eq_of_real
  refine ⟨⟨report, rfl⟩, advances_of_promised hcommands hpromised, ?_⟩
  cases hlacking : b'.lacking root id d with
  | none => exact hagrees.tail
  | some v => exact hagrees.create hapart (volume?_of_lacking hlacking)

/-! ### The interface of a device -/

theorem LinkEnds.of_dry {second : List Step} (h : LinkEnds ifconfig b d true (.ok second) b') :
    (d.kind.network? = none ∧ second = []) ∨ ∃ n, d.kind.network? = some n ∧
      b.refusal n.deviceNode = none ∧ second = [.network d.slot
        (n.commands ifconfig (b.objects.find? n.deviceNode).isSome) false] := by
  cases h with
  | nothing none => exact .inl ⟨none, rfl⟩
  | told n backend readable dry => exact .inr ⟨n, backend, readable, rfl⟩
  | ran n commands backend readable list passes wet => cases wet

theorem Agrees.ran (h : Agrees root id ds es b b') (commands : List Command) :
    Agrees root id ds es b (b'.ran commands) := ⟨h.refusal, h.volumes, h.nodes⟩

theorem advances_ran {commands : List Command} (h : b.Passes commands) (slot : Slot)
    (executed : Bool) : b.Advances [.network slot commands executed] (b.ran commands) := by
  have hcommands : [Step.network slot commands executed].flatMap Step.commands = commands :=
    List.append_nil _
  constructor
  · rw [hcommands]
    exact h
  · rw [hcommands]
  · rw [hcommands]
    rfl
  · exact (List.append_nil _).symm

theorem LinkEnds.of_none {dryRun : Bool} {r : Except Error (List Step)}
    (h : LinkEnds ifconfig b d dryRun r b') (hnone : d.kind.network? = none) :
    r = .ok [] ∧ b' = b := by
  cases h with
  | nothing none => exact ⟨rfl, rfl⟩
  | refused n e backend => rw [hnone] at backend; cases backend
  | told n backend => rw [hnone] at backend; cases backend
  | ran n commands backend => rw [hnone] at backend; cases backend
  | failed n done rest failing backend => rw [hnone] at backend; cases backend

/-- An interface that can be looked at is realized, up to the first command that fails. -/
theorem LinkEnds.follows_commands {r : Except Error (List Step)}
    (h : LinkEnds ifconfig b d false r b') {n : NetworkBackend} (hn : d.kind.network? = some n)
    (hreadable : b.refusal n.deviceNode = none) :
    b.Follows [.network d.slot
        (n.commands ifconfig (b.objects.find? n.deviceNode).isSome) false] r b' ∧
      ∃ commands, b' = b.ran commands := by
  cases h with
  | nothing none => rw [hn] at none; cases none
  | refused n' e backend refusal =>
      rw [hn] at backend
      cases backend
      rw [hreadable] at refusal
      cases refusal
  | told n' backend readable dry => cases dry
  | ran n' commands backend readable list passes wet =>
      rw [hn] at backend
      cases backend
      rw [list]
      exact ⟨.through _ _ (advances_ran passes d.slot false), commands, rfl⟩
  | failed n' done rest failing backend readable list passes fails wet =>
      rw [hn] at backend
      cases backend
      rw [list]
      exact ⟨.stopped b [] [] d.slot done rest failing rfl (advances_nil b) passes fails, _, rfl⟩

theorem LinkEnds.follows {second : List Step} {r : Except Error (List Step)}
    (hdry : LinkEnds ifconfig b d true (.ok second) b₂) (hreal : LinkEnds ifconfig b' d false r b₁)
    (hagrees : Agrees root id ds es b b') (hd : d ∈ es) :
    b'.Follows second r b₁ ∧ Agrees root id ds es b b₁ := by
  rcases hdry.of_dry with ⟨hnone, rfl⟩ | ⟨n, hn, hreadable, rfl⟩
  · obtain ⟨rfl, rfl⟩ := hreal.of_none hnone
    exact ⟨.through _ [] (advances_nil _), hagrees⟩
  · -- the same interface is there for both runs, so they have the same commands for it
    rw [← hagrees.nodes d hd n hn]
    rw [← hagrees.refusal] at hreadable
    obtain ⟨hfollows, commands, rfl⟩ := hreal.follows_commands hn hreadable
    exact ⟨hfollows, hagrees.ran commands⟩

/-! ### All devices -/

theorem Course.follows {steps : List Step} {r : Except Error (List Step)}
    (hdry : Course c id true ds b (.ok steps) b₂) (hreal : Course c id false ds b' r b₁)
    (hagrees : Agrees c.volumeRoot id ds es b b') (hapart : Apart c.volumeRoot id ds es)
    (hsub : ∀ d ∈ ds, d ∈ es) : b'.Follows steps r b₁ := by
  -- the dry run stays where it is and the real run moves on, with agreement on what comes later
  induction ds generalizing steps r b' with
  | nil =>
      cases hdry
      cases hreal
      exact .through _ [] (advances_nil _)
  | cons d ds ih =>
      cases hdry with
      | @next _ _ _ b₃ b₄ _ first second rdry _ diskDry linkDry moreDry resultDry =>
        obtain rfl : b₃ = b := diskDry.eq_of_dry
        obtain rfl : b₄ = b₃ := linkDry.eq_of_dry
        obtain ⟨after, rfl, rfl⟩ := Except.map_eq_ok_iff.1 resultDry.symm
        have hd : d ∈ es := hsub d List.mem_cons_self
        have hrest : ∀ e ∈ ds, e ∈ es := fun e he => hsub e (List.mem_cons_of_mem d he)
        cases hreal with
        | noDisk _ disk =>
            -- what the dry run could look at does not fail now
            obtain ⟨⟨_, hok⟩, -⟩ := diskDry.follows disk hagrees hapart
            cases hok
        | noLink _ disk link =>
            obtain ⟨-, hfirst, hagrees⟩ := diskDry.follows disk hagrees hapart
            have hlink := (linkDry.follows link hagrees hd).1
            rw [List.append_assoc]
            exact (hlink.append after).after hfirst fun steps => steps
        | next disk link more result =>
            obtain ⟨-, hfirst, hagrees⟩ := diskDry.follows disk hagrees hapart
            obtain ⟨hlink, hagrees⟩ := linkDry.follows link hagrees hd
            rw [result]
            have hmore := ih moreDry more hagrees hapart.tail hrest
            cases hlink with
            | through _ report hsecond => exact hmore.after (hfirst.trans hsecond) _

end Runs

/-- **A dry run tells the truth.** It leaves everything as it is. Where it succeeds, realizing the
machine from the same state does what the steps say: it runs their commands in their order and
creates what they promise. It stops at the first command that fails, with that failure, and
otherwise succeeds. -/
theorem follows_of_dryRun {m : Machine} (hm : Record.Arises m)
    (describe : Bench → String → Nat → List String) (c : Configuration) (b : Bench) :
    (b.realize describe c m true).2 = b ∧
      ∀ steps, (b.realize describe c m true).1 = .ok steps →
        b.Follows steps (b.realize describe c m false).1 (b.realize describe c m false).2 := by
  have hdry := course_realize describe c m true b
  have hreal := course_realize describe c m false b
  refine ⟨hdry.eq_of_dry, fun steps hsteps => ?_⟩
  rw [hsteps] at hdry
  have hapart := apart_of_recordable (Record.recordable_of_arises hm) c.volumeRoot
  exact hdry.follows hreal (agrees_refl _ _ _ _ b) hapart fun _ hd => hd

/-- A host interface that joins one group. -/
def tap : Interface :=
  ⟨"tap0", ⟨[2, 0, 0, 0, 0, 1], rfl⟩, ⟨[2, 0, 0, 0, 0, 2], rfl⟩, ["vm"]⟩

/-- A machine gets a volume and an interface. -/
def wiring (disk card : Slot) : List Operation :=
  [.addDevice { kind := .virtioBlock (.volume (some 512)), slot := some disk },
   .addDevice { kind := .virtioNetwork ⟨.tap, tap⟩, slot := some card }]

/-- A bench on which the second command fails. -/
def faulty : Bench := { statuses := fun n => if n = 1 then 1 else 0 }

/-- The volume and the interface are created, but the interface does not take its address. -/
theorem follows_of_dryRun_faulty : ∃ m₀ m, Machine.define Machine.guest = .ok m₀ ∧
    m₀.performAll (wiring ⟨0, 1, 0⟩ ⟨0, 2, 0⟩) = .ok m ∧ Record.Arises m ∧
    (faulty.realize (fun _ _ _ => []) {} m true).2 = faulty ∧
    ∃ steps, (faulty.realize (fun _ _ _ => []) {} m true).1 = .ok steps ∧
      faulty.Follows steps (faulty.realize (fun _ _ _ => []) {} m false).1
        (faulty.realize (fun _ _ _ => []) {} m false).2 ∧
      (steps.flatMap Step.commands).length = 3 ∧
      (faulty.realize (fun _ _ _ => []) {} m false).2.spawned.length = 2 := by
  have harises : ∀ m₀ m, Machine.define Machine.guest = .ok m₀ →
      m₀.performAll (wiring ⟨0, 1, 0⟩ ⟨0, 2, 0⟩) = .ok m → Record.Arises m :=
    fun m₀ _ hd h => ⟨m₀, _, .inl ⟨Machine.guest, hd⟩, h⟩
  refine ⟨_, _, rfl, rfl, harises _ _ rfl rfl, ?_⟩
  have htrue := follows_of_dryRun (harises _ _ rfl rfl) (fun _ _ _ => []) {} faulty
  exact ⟨htrue.1, _, rfl, htrue.2 _ rfl, rfl, rfl⟩

end Bench

end Realization

end Guestkeeper
