import Guestkeeper.Proofs.Machine.Devices
import Guestkeeper.Proofs.Outcome
import Guestkeeper.Proofs.Realization.DryRun

set_option autoImplicit false

/-! # Realizing again

Realization only ever adds volumes that are not there. So a run that fails can be repeated, and
however often that happens, the first run that succeeds leaves behind what a single successful
run would have. After that there is nothing left to do, and every further run says so.

All of this is read off the look-ups: a run either leaves a path as it is or provides the volume
that belongs there.
-/

namespace Guestkeeper.Realization

open Guestkeeper.Host

/-- The step is about an object that is there, with the size that it has. -/
inductive Step.Finds (slot : Slot) (o : StoredObject) : Step → Prop
  | existing : Finds slot o (.storage slot (.existing o.path o.size))
  | sizeMismatch (expected : Nat) :
      Finds slot o (.storage slot (.sizeMismatch o.path expected o.size))

/-- Whether a step creates something, or would. -/
def Step.creates : Step → Bool
  | .storage _ (.created _ _) => true
  | .storage _ (.wouldCreate _ _ _) => true
  | _ => false

namespace Bench

variable {b b' b₁ b₂ : Bench} {vs ws : List StoredObject}

/-! ## Providing objects -/

/-- The first object of a list that belongs at a path. -/
def objectAt (vs : List StoredObject) (path : String) : Option StoredObject :=
  vs.find? fun v => v.path = path

/-- The objects `vs` have been added where nothing was. -/
def Provides (vs : List StoredObject) (b b' : Bench) : Prop :=
  ∀ path, b'.objects.find? path = (b.objects.find? path).or (objectAt vs path)

/-- Some of the objects `vs` have been added where nothing was. -/
def Grows (vs : List StoredObject) (b b' : Bench) : Prop :=
  ∀ path, b'.objects.find? path = b.objects.find? path ∨
    b'.objects.find? path = (b.objects.find? path).or (objectAt vs path)

theorem provides_nil (h : b'.objects = b.objects) : Provides [] b b' := by
  intro path
  rw [h]
  exact Option.or_none.symm

theorem Provides.append (h : Provides vs b b₁) (hmore : Provides ws b₁ b₂) :
    Provides (vs ++ ws) b b₂ := by
  intro path
  rw [hmore path, h path, Option.or_assoc, objectAt, objectAt, objectAt, List.find?_append]

/-- Where the first objects of a list have been provided, no path holds anything but what it held
before or what belongs there. -/
theorem Provides.grows (h : Provides vs b b') (hfirst : vs <+: ws) : Grows ws b b' := by
  intro path
  cases hat : objectAt vs path with
  | none =>
      left
      rw [h path, hat, Option.or_none]
  | some v =>
      right
      rw [h path, hat, objectAt, hfirst.find?_eq_some hat]

theorem Grows.trans (h : Grows vs b b₁) (hmore : Grows vs b₁ b₂) : Grows vs b b₂ := by
  intro path
  rcases hmore path with hsame | hadded
  · rw [hsame]
    exact h path
  · right
    rcases h path with hfirst | hfirst
    · rw [hadded, hfirst]
    · rw [hadded, hfirst, Option.or_assoc, Option.or_self]

/-- What is provided after some of it has been is provided from the start. -/
theorem Grows.provides (h : Grows vs b b₁) (hmore : Provides vs b₁ b₂) : Provides vs b b₂ := by
  intro path
  rw [hmore path]
  rcases h path with hfirst | hfirst
  · rw [hfirst]
  · rw [hfirst, Option.or_assoc, Option.or_self]

theorem Provides.objects_eq (h : Provides vs b b₁) (h' : Provides vs b b₂) :
    b₁.objects = b₂.objects := Table.ext_find? fun path => (h path).trans (h' path).symm

theorem Grows.find?_of_some (h : Grows vs b b') {path : String} {o : StoredObject}
    (ho : b.objects.find? path = some o) : b'.objects.find? path = some o := by
  rcases h path with hsame | hadded
  · rw [hsame, ho]
  · rw [hadded, ho, Option.some_or]

theorem Grows.mem_of_new (h : Grows vs b b') {path : String} {o : StoredObject}
    (hold : b.objects.find? path = none) (ho : b'.objects.find? path = some o) :
    o ∈ vs ∧ o.path = path := by
  have hat : objectAt vs path = some o := by
    rcases h path with hsame | hadded
    · rw [hsame, hold] at ho
      cases ho
    · rw [hadded, hold, Option.none_or] at ho
      exact ho
  exact ⟨List.mem_of_find?_eq_some hat, by simpa using List.find?_some hat⟩

/-! ## One run -/

section Run

variable {root ifconfig : String} {id : Uuid} {d : Device} {ds : List Device} {c : Configuration}
  {dryRun : Bool} {r : Except Error (List Step)}

/-- The volumes of the devices. -/
def volumes (root : String) (id : Uuid) (ds : List Device) : List StoredObject :=
  ds.flatMap fun d => (d.volume? root id).toList

theorem volumes_cons (root : String) (id : Uuid) (d : Device) (ds : List Device) :
    volumes root id (d :: ds) = (d.volume? root id).toList ++ volumes root id ds :=
  List.flatMap_cons

theorem mem_volumes_iff {v : StoredObject} :
    v ∈ volumes root id ds ↔ ∃ d ∈ ds, d.volume? root id = some v := by
  simp only [volumes, List.mem_flatMap, Option.mem_toList]

theorem find?_create (b : Bench) (v : StoredObject) (path : String) :
    (b.create v).objects.find? path = if v.path = path then some v else b.objects.find? path :=
  Table.find?_insert b.objects v path

theorem provides_create {v : StoredObject} (h : b.objects.find? v.path = none) :
    Provides [v] b (b.create v) := by
  intro path
  rw [find?_create]
  by_cases hpath : v.path = path
  · subst hpath
    rw [if_pos rfl, h, Option.none_or, objectAt, List.find?_cons_of_pos (by simp)]
  · rw [if_neg hpath, objectAt, List.find?_cons_of_neg (by simpa using hpath), List.find?_nil,
      Option.or_none]

theorem provides_of_there {v o : StoredObject} (h : b.objects.find? v.path = some o) :
    Provides [v] b b := by
  intro path
  by_cases hpath : v.path = path
  · subst hpath
    rw [h, Option.some_or]
  · rw [objectAt, List.find?_cons_of_neg (by simpa using hpath), List.find?_nil, Option.or_none]

/-- A disk that is realized is there afterwards. -/
theorem DiskEnds.provides {report : List Step}
    (h : DiskEnds root id b d false (.ok report) b') :
    Provides (d.volume? root id).toList b b' := by
  rw [h.eq_of_real]
  cases hv : d.volume? root id with
  | none =>
      rw [lacking_of_none hv]
      exact provides_nil rfl
  | some v =>
      cases hfound : b.objects.find? v.path with
      | none =>
          rw [lacking_of_absent hv hfound]
          exact provides_create hfound
      | some o =>
          rw [lacking_of_there hv (congrArg (Option.map StoredObject.size) hfound)]
          exact provides_of_there hfound

theorem LinkEnds.objects_eq (h : LinkEnds ifconfig b d dryRun r b') : b'.objects = b.objects := by
  cases h <;> rfl

/-- A run provides the volumes of the devices that it came to, and a run that succeeds came to
all of them. -/
theorem Course.provides (h : Course c id false ds b r b') :
    ∃ visited, visited <+: ds ∧ Provides (volumes c.volumeRoot id visited) b b' ∧
      ∀ report, r = .ok report → visited = ds := by
  induction ds generalizing b r with
  | nil =>
      cases h
      exact ⟨[], List.prefix_rfl, provides_nil rfl, fun _ _ => rfl⟩
  | cons d ds ih =>
      cases h with
      | noDisk _ disk =>
          -- the disk was not created, so the run did not come to this device
          refine ⟨[], List.nil_prefix, provides_nil ?_, nofun⟩
          rw [disk.eq_of_error]
      | noLink _ disk link =>
          -- the disk stays where the interface fails
          refine ⟨[d], ⟨ds, rfl⟩, ?_, nofun⟩
          rw [volumes_cons]
          exact disk.provides.append (provides_nil link.objects_eq)
      | next disk link more result =>
          obtain ⟨visited, hvisited, hmore, hall⟩ := ih more
          refine ⟨d :: visited, List.cons_prefix_cons.2 ⟨rfl, hvisited⟩, ?_, ?_⟩
          · rw [volumes_cons]
            have hlink : Provides [] _ _ := provides_nil link.objects_eq
            exact disk.provides.append (hlink.append hmore)
          · intro report hreport
            rw [result] at hreport
            obtain ⟨after, hafter, -⟩ := Except.map_eq_ok_iff.1 hreport
            rw [hall after hafter]

theorem isPrefix_volumes {visited : List Device} (h : visited <+: ds) :
    volumes root id visited <+: volumes root id ds := by
  obtain ⟨rest, rfl⟩ := h
  exact ⟨volumes root id rest, List.flatMap_append.symm⟩

/-! ## Runs with nothing left to do -/

/-- Every volume of the devices is there. -/
def Stocked (root : String) (id : Uuid) (ds : List Device) (b : Bench) : Prop :=
  ∀ v ∈ volumes root id ds, (b.objects.find? v.path).isSome = true

theorem Provides.stocked (h : Provides (volumes root id ds) b b') : Stocked root id ds b' := by
  intro v hv
  rw [h v.path, Option.isSome_or]
  have hat : (objectAt (volumes root id ds) v.path).isSome = true := by
    rw [objectAt, List.find?_isSome]
    exact ⟨v, hv, by simp⟩
  rw [hat, Bool.or_true]

theorem Stocked.congr (h : Stocked root id ds b) (hobjects : b'.objects = b.objects) :
    Stocked root id ds b' := by
  intro v hv
  rw [hobjects]
  exact h v hv

theorem Stocked.tail (h : Stocked root id (d :: ds) b) : Stocked root id ds b := by
  intro v hv
  obtain ⟨e, he, hev⟩ := mem_volumes_iff.1 hv
  exact h v (mem_volumes_iff.2 ⟨e, List.mem_cons_of_mem d he, hev⟩)

theorem Stocked.ne_none (h : Stocked root id (d :: ds) b) {v : StoredObject}
    (hv : d.volume? root id = some v) : b.objects.find? v.path ≠ none := by
  have hthere := h v (mem_volumes_iff.2 ⟨d, List.mem_cons_self, hv⟩)
  intro habsent
  rw [habsent] at hthere
  cases hthere

/-- The steps create nothing and report every volume of the devices for what it is. -/
structure Surveys (root : String) (id : Uuid) (ds : List Device) (b : Bench) (steps : List Step) :
    Prop where
  creates : ∀ step ∈ steps, step.creates = false
  finds : ∀ d ∈ ds, ∀ v, d.volume? root id = some v →
    ∃ o, b.objects.find? v.path = some o ∧ ∃ step ∈ steps, step.Finds d.slot o

theorem surveys_of_creates {steps : List Step} (h : ∀ step ∈ steps, step.creates = false) :
    Surveys root id [] b steps := ⟨h, List.forall_mem_nil _⟩

theorem surveys_of_none {steps : List Step} (hv : d.volume? root id = none)
    (h : ∀ step ∈ steps, step.creates = false) : Surveys root id [d] b steps where
  creates := h
  finds := by
    intro e he v hev
    rw [List.mem_singleton.1 he, hv] at hev
    cases hev

theorem Surveys.append {es : List Device} {first after : List Step}
    (h : Surveys root id ds b first) (hafter : Surveys root id es b after) :
    Surveys root id (ds ++ es) b (first ++ after) where
  creates := by
    intro step hstep
    rcases List.mem_append.1 hstep with hstep | hstep
    · exact h.creates step hstep
    · exact hafter.creates step hstep
  finds := by
    intro e he v hv
    rcases List.mem_append.1 he with he | he
    · obtain ⟨o, ho, step, hstep, hfinds⟩ := h.finds e he v hv
      exact ⟨o, ho, step, List.mem_append_left _ hstep, hfinds⟩
    · obtain ⟨o, ho, step, hstep, hfinds⟩ := hafter.finds e he v hv
      exact ⟨o, ho, step, List.mem_append_right _ hstep, hfinds⟩

theorem Surveys.congr {steps : List Step} (h : Surveys root id ds b steps)
    (hobjects : b'.objects = b.objects) : Surveys root id ds b' steps where
  creates := h.creates
  finds := by
    rw [hobjects]
    exact h.finds

/-- A disk whose volume is there is left alone. -/
theorem DiskEnds.eq_of_stocked (h : DiskEnds root id b d dryRun r b')
    (hstocked : Stocked root id (d :: ds) b) : b' = b := by
  cases h with
  | created v volume readable absent wet => exact absurd absent (hstocked.ne_none volume)
  | _ => rfl

/-- A disk whose volume is there is reported. -/
theorem DiskEnds.surveys {steps : List Step} (h : DiskEnds root id b d dryRun (.ok steps) b')
    (hstocked : Stocked root id (d :: ds) b) : Surveys root id [d] b steps := by
  cases h with
  | nothing none =>
      exact surveys_of_none (by rw [Device.volume?, none]) (List.forall_mem_nil _)
  | file path outcome disk readable volume report =>
      refine surveys_of_none volume fun step hstep => ?_
      rw [List.mem_singleton.1 hstep]
      rcases report with ⟨size, rfl⟩ | rfl
      · rfl
      · rfl
  | kept v size outcome volume readable there report =>
      obtain ⟨o, ho, rfl⟩ := Option.map_eq_some_iff.1 there
      have hpath : o.path = v.path := Table.key_of_find? ho
      rw [← hpath] at report
      constructor
      · intro step hstep
        rw [List.mem_singleton.1 hstep]
        rcases report with rfl | ⟨expected, rfl⟩
        · rfl
        · rfl
      · intro e he w hw
        rw [List.mem_singleton.1 he] at hw ⊢
        obtain rfl : v = w := Option.some.inj (volume.symm.trans hw)
        refine ⟨o, ho, _, List.mem_singleton_self _, ?_⟩
        rcases report with rfl | ⟨expected, rfl⟩
        · exact .existing
        · exact .sizeMismatch expected
  | promised v lines volume readable absent dry => exact absurd absent (hstocked.ne_none volume)
  | created v volume readable absent wet => exact absurd absent (hstocked.ne_none volume)

theorem LinkEnds.created_eq (h : LinkEnds ifconfig b d dryRun r b') : b'.created = b.created := by
  cases h <;> rfl

theorem LinkEnds.surveys {steps : List Step}
    (h : LinkEnds ifconfig b d dryRun (.ok steps) b') : Surveys root id [] b steps := by
  refine surveys_of_creates fun step hstep => ?_
  cases h with
  | nothing none => cases hstep
  | told n backend readable dry => rw [List.mem_singleton.1 hstep]; rfl
  | ran n commands backend readable list passes wet => rw [List.mem_singleton.1 hstep]; rfl

/-- Where all volumes are there, a run creates nothing. -/
theorem Course.eq_of_stocked (h : Course c id dryRun ds b r b')
    (hstocked : Stocked c.volumeRoot id ds b) :
    b'.objects = b.objects ∧ b'.created = b.created := by
  induction ds generalizing b r with
  | nil =>
      cases h
      exact ⟨rfl, rfl⟩
  | cons d ds ih =>
      cases h with
      | noDisk _ disk =>
          obtain rfl := disk.eq_of_stocked hstocked
          exact ⟨rfl, rfl⟩
      | noLink _ disk link =>
          obtain rfl := disk.eq_of_stocked hstocked
          exact ⟨link.objects_eq, link.created_eq⟩
      | next disk link more result =>
          obtain rfl := disk.eq_of_stocked hstocked
          obtain ⟨hobjects, hcreated⟩ := ih more (hstocked.tail.congr link.objects_eq)
          exact ⟨hobjects.trans link.objects_eq, hcreated.trans link.created_eq⟩

/-- Where all volumes are there, a run that succeeds reports each of them. -/
theorem Course.surveys {steps : List Step} (h : Course c id dryRun ds b (.ok steps) b')
    (hstocked : Stocked c.volumeRoot id ds b) : Surveys c.volumeRoot id ds b steps := by
  induction ds generalizing b steps with
  | nil =>
      cases h
      exact surveys_of_creates (List.forall_mem_nil _)
  | cons d ds ih =>
      generalize hresult : Except.ok steps = result at h
      cases h with
      | noDisk _ disk => cases hresult
      | noLink _ disk link => cases hresult
      | next disk link more list =>
          obtain rfl := disk.eq_of_stocked hstocked
          rw [list] at hresult
          obtain ⟨after, rfl, rfl⟩ := Except.map_eq_ok_iff.1 hresult.symm
          have hafter := (ih more (hstocked.tail.congr link.objects_eq)).congr link.objects_eq.symm
          exact ((disk.surveys hstocked).append link.surveys).append hafter

end Run

/-! ## Any number of runs -/

/-- What a run meets besides the objects. -/
structure Attempt where
  refusal : String → Option Error := fun _ => none
  statuses : Nat → Int := fun _ => 0

/-- The bench as an attempt finds it. -/
def met (b : Bench) (a : Attempt) : Bench :=
  { b with refusal := a.refusal, statuses := a.statuses }

/-- Realizes a machine once for each attempt, whatever comes of it. -/
def attempts (describe : Bench → String → Nat → List String) (c : Configuration) (m : Machine)
    (tries : List Attempt) (b : Bench) : Bench :=
  tries.foldl (fun b a => ((b.met a).realize describe c m false).2) b

section Runs

variable {describe : Bench → String → Nat → List String} {c : Configuration} {m : Machine}

theorem grows_realize (describe : Bench → String → Nat → List String) (c : Configuration)
    (m : Machine) (b : Bench) :
    Grows (volumes c.volumeRoot m.id m.devices.entries) b (b.realize describe c m false).2 := by
  obtain ⟨visited, hvisited, hprovides, -⟩ := (course_realize describe c m false b).provides
  exact hprovides.grows (isPrefix_volumes hvisited)

theorem provides_realize {report : List Step}
    (h : (b.realize describe c m false).1 = .ok report) :
    Provides (volumes c.volumeRoot m.id m.devices.entries) b (b.realize describe c m false).2 := by
  obtain ⟨visited, -, hprovides, hall⟩ := (course_realize describe c m false b).provides
  rw [← hall report h]
  exact hprovides

theorem grows_attempts (tries : List Attempt) (b : Bench) :
    Grows (volumes c.volumeRoot m.id m.devices.entries) b (b.attempts describe c m tries) := by
  induction tries generalizing b with
  | nil => exact fun path => .inl rfl
  | cons a tries ih =>
      have hfirst : Grows _ b ((b.met a).realize describe c m false).2 :=
        grows_realize describe c m (b.met a)
      exact hfirst.trans (ih _)

/-- Attempts change nothing where all volumes are there. -/
theorem attempts_of_stocked (describe : Bench → String → Nat → List String)
    (tries : List Attempt) (h : Stocked c.volumeRoot m.id m.devices.entries b) :
    (b.attempts describe c m tries).objects = b.objects ∧
      (b.attempts describe c m tries).created = b.created := by
  induction tries generalizing b with
  | nil => exact ⟨rfl, rfl⟩
  | cons a tries ih =>
      obtain ⟨hobjects, hcreated⟩ :=
        (course_realize describe c m false (b.met a)).eq_of_stocked h
      obtain ⟨hmore, hmoreCreated⟩ := ih (h.congr hobjects)
      exact ⟨hmore.trans hobjects, hmoreCreated.trans hcreated⟩

/-- Where all volumes are there, no attempts and no later run change that. -/
theorem realize_of_stocked (describe : Bench → String → Nat → List String)
    (tries : List Attempt) (last : Attempt) (dryRun : Bool)
    (h : Stocked c.volumeRoot m.id m.devices.entries b) :
    let again := ((b.attempts describe c m tries).met last).realize describe c m dryRun
    again.2.objects = b.objects ∧ again.2.created = b.created ∧
      ∀ steps, again.1 = .ok steps → Surveys c.volumeRoot m.id m.devices.entries b steps := by
  intro again
  obtain ⟨hobjects, hcreated⟩ := attempts_of_stocked describe tries h
  have hlast : Stocked c.volumeRoot m.id m.devices.entries
      ((b.attempts describe c m tries).met last) := h.congr hobjects
  have hcourse : Course c m.id dryRun m.devices.entries
      ((b.attempts describe c m tries).met last) again.1 again.2 := course_realize _ _ _ _ _
  obtain ⟨hsame, hsameCreated⟩ := hcourse.eq_of_stocked hlast
  refine ⟨hsame.trans hobjects, hsameCreated.trans hcreated, fun steps hsteps => ?_⟩
  rw [hsteps] at hcourse
  exact (hcourse.surveys hlast).congr hobjects.symm

theorem Surveys.finds_volume {steps : List Step}
    (h : Surveys c.volumeRoot m.id m.devices.entries b steps) {s : Slot} {d : Device}
    {size : Option UInt64} (hd : m.device? s = some d)
    (hstorage : d.kind.storage? = some (.volume size)) :
    ∃ o, b.objects.find? (volumePath c.volumeRoot m.id s.deviceId) = some o ∧
      ∃ step ∈ steps, step.Finds s o := by
  obtain ⟨hmem, rfl⟩ := Machine.device?_eq_some_iff.1 hd
  have hv : d.volume? c.volumeRoot m.id = some _ :=
    Device.volume?_eq_some_iff.2 ⟨size, hstorage, rfl⟩
  obtain ⟨o, ho, hstep⟩ := h.finds d hmem _ hv
  exact ⟨o, ho, hstep⟩

end Runs

/-- **Realization keeps what is there and converges.** A run, however it ends, leaves every object
as it was, and what it adds are volumes of the machine with their sizes. A run that succeeds after
any attempts ends with the objects of any run that succeeds at once. After that, runs add nothing,
and where they succeed they report every volume for what it is. -/
theorem realize_converges (describe : Bench → String → Nat → List String) (c : Configuration)
    (m : Machine) (b : Bench) :
    (∀ path o, b.objects.find? path = some o →
      (b.realize describe c m false).2.objects.find? path = some o) ∧
    (∀ path o, b.objects.find? path = none →
      (b.realize describe c m false).2.objects.find? path = some o →
        ∃ s d size, m.device? s = some d ∧ d.kind.storage? = some (.volume size) ∧
          o = ⟨volumePath c.volumeRoot m.id s.deviceId, (size.map UInt64.toNat).getD 0⟩) ∧
    (∀ tries last once report report',
      (((b.attempts describe c m tries).met last).realize describe c m false).1 = .ok report →
      ((b.met once).realize describe c m false).1 = .ok report' →
        (((b.attempts describe c m tries).met last).realize describe c m false).2.objects =
          ((b.met once).realize describe c m false).2.objects) ∧
    ∀ report tries last dryRun, (b.realize describe c m false).1 = .ok report →
      let done := (b.realize describe c m false).2
      let again := ((done.attempts describe c m tries).met last).realize describe c m dryRun
      again.2.objects = done.objects ∧ again.2.created = done.created ∧
        ∀ steps, again.1 = .ok steps → (∀ step ∈ steps, step.creates = false) ∧
          ∀ s d size, m.device? s = some d → d.kind.storage? = some (.volume size) →
            ∃ o, done.objects.find? (volumePath c.volumeRoot m.id s.deviceId) = some o ∧
              ∃ step ∈ steps, step.Finds s o := by
  have hgrows := grows_realize describe c m b
  refine ⟨fun path o ho => hgrows.find?_of_some ho, ?_, ?_, ?_⟩
  · intro path o hold ho
    -- what is new is one of the volumes
    obtain ⟨hmem, -⟩ := hgrows.mem_of_new hold ho
    obtain ⟨d, hd, hv⟩ := mem_volumes_iff.1 hmem
    obtain ⟨size, hstorage, rfl⟩ := Device.volume?_eq_some_iff.1 hv
    exact ⟨d.slot, d, size, Machine.device?_slot hd, hstorage, rfl⟩
  · intro tries last once report report' hlast honce
    -- late or at once, what has been provided in the end are the volumes
    have htries : Grows _ b ((b.attempts describe c m tries).met last) :=
      grows_attempts tries b
    have hlate := htries.provides (provides_realize hlast)
    have hearly : Provides _ b ((b.met once).realize describe c m false).2 :=
      provides_realize honce
    exact hlate.objects_eq hearly
  · intro report tries last dryRun hdone done again
    obtain ⟨hobjects, hcreated, hsurveys⟩ :=
      realize_of_stocked describe tries last dryRun (provides_realize hdone).stocked
    refine ⟨hobjects, hcreated, fun steps hsteps => ?_⟩
    have hreport := hsurveys steps hsteps
    exact ⟨hreport.creates, fun s d size hd hstorage => hreport.finds_volume hd hstorage⟩

/-- A first attempt creates the volume and fails at the interface; the second one succeeds. -/
theorem realize_converges_faulty : ∃ m₀ m, Machine.define Machine.guest = .ok m₀ ∧
    m₀.performAll (wiring ⟨0, 1, 0⟩ ⟨0, 2, 0⟩) = .ok m ∧
    let first := faulty.realize (fun _ _ _ => []) {} m false
    let once := (faulty.met {}).realize (fun _ _ _ => []) {} m false
    let second := ((faulty.attempts (fun _ _ _ => []) {} m [⟨fun _ => none, faulty.statuses⟩]).met
      {}).realize (fun _ _ _ => []) {} m false
    (∃ e, first.1 = .error e) ∧ first.2.created.length = 1 ∧ (∃ report, once.1 = .ok report) ∧
      (∃ report, second.1 = .ok report) ∧ second.2.objects = once.2.objects := by
  refine ⟨_, _, rfl, rfl, ⟨_, rfl⟩, rfl, ⟨_, rfl⟩, ⟨_, rfl⟩, ?_⟩
  exact (realize_converges _ _ _ faulty).2.2.1 _ _ _ _ _ rfl rfl

end Bench

end Guestkeeper.Realization
