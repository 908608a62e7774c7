import Guestkeeper.Proofs.CommandLine.Effects
import Guestkeeper.Proofs.Store.Finding

set_option autoImplicit false

/-! # Names of stored machines

Defining a machine and reading one in refuse a name that another machine has. Changing a machine
does not: it looks at no other machine. So the names in a store are unique until a machine is
given the name of another, and that can happen by such a change only.
-/

namespace Guestkeeper

open Guestkeeper.Host Guestkeeper.Host.FileTree

namespace Registry

/-! ## What requests do to maps -/

open CommandLine

/-- The map after a machine was defined. -/
def define (s : Store) (r : Registry) (definition : Except Failure Definition) : Registry :=
  match defineMachine definition with
  | .ok m => (r.insert s m).2
  | .error _ => r

/-- The map after the machine of a key was changed. -/
def change (s : Store) (r : Registry) (key : String)
    (changing : Machine → Except Failure Operation) : Registry :=
  match r.find key with
  | .error _ => r
  | .ok m =>
    match operate m (changing m) with
    | .ok m' => (r.put s m').2
    | .error _ => r

end Registry

namespace CommandLine

open Guestkeeper.Store

/-! ## Requests -/

/-- The name that a request gives to a machine that is there. -/
def Request.newName? : Request → Option String
  | .modify _ name _ _ _ _ => name
  | _ => none

/-- A request gives the machine that it changes the name of another. -/
def Request.TakesName (request : Request) (r : Registry) : Prop :=
  ∃ name key change m m', request.newName? = some name ∧ request.change? = some (key, change) ∧
    r.find key = .ok m ∧ operate m (change m) = .ok m' ∧
    ∃ other ∈ r.entries, other.name = name ∧ other.id ≠ m.id

theorem name_of_changes {m : Machine} {name comment : Option String} {cpu : TopologyRequest}
    {memory : MemoryRequest} {flags : List String} {wanted : Changes}
    (h : changes m name comment cpu memory flags = .ok wanted) : wanted.name = name := by
  obtain ⟨size, -, h⟩ := Except.bind_eq_ok_iff.1 h
  obtain ⟨topology, -, h⟩ := Except.bind_eq_ok_iff.1 h
  obtain ⟨assignments, -, h⟩ := Except.bind_eq_ok_iff.1 h
  obtain rfl := Except.ok.inj h
  rfl

/-- The operation that a request asks for gives the name that the request gives. -/
theorem name?_of_change? {request : Request} {key : String}
    {change : Machine → Except Failure Operation} (asks : request.change? = some (key, change))
    {m : Machine} {op : Operation} (h : change m = .ok op) : op.name? = request.newName? := by
  cases request with
  | modify key name comment cpu memory flags =>
      cases asks
      obtain ⟨wanted, hwanted, rfl⟩ := Except.map_eq_ok_iff.1 h
      exact name_of_changes hwanted
  | addDevice key device =>
      cases asks
      obtain ⟨addition, -, rfl⟩ := Except.map_eq_ok_iff.1 h
      rfl
  | deleteDevices key slots =>
      cases asks
      cases h
      rfl
  | addBoot key boot replace =>
      cases asks
      cases h
      rfl
  | deleteBoots key names =>
      cases asks
      cases h
      rfl
  | _ => cases asks

theorem identity_of_operate {request : Request} {key : String}
    {change : Machine → Except Failure Operation} (asks : request.change? = some (key, change))
    {m m' : Machine} (h : operate m (change m) = .ok m') :
    m'.id = m.id ∧ m'.name = request.newName?.getD m.name := by
  obtain ⟨op, hop, hm⟩ := operate_eq_ok_iff.1 h
  rw [← name?_of_change? asks hop]
  exact Machine.identity_of_perform hm

section Change

variable {r : Registry} (hr : r.UniqueNames) {request : Request} {key : String}
  {change : Machine → Except Failure Operation} (asks : request.change? = some (key, change))

include asks

/-- The machine that a request changes is the one of its key. -/
theorem takesName_iff : request.TakesName r ↔ ∃ name m m', request.newName? = some name ∧
    r.find key = .ok m ∧ operate m (change m) = .ok m' ∧
    ∃ other ∈ r.entries, other.name = name ∧ other.id ≠ m.id := by
  constructor
  · rintro ⟨name, key', change', m, m', hnew, asks', htakes⟩
    cases asks.symm.trans asks'
    exact ⟨name, m, m', hnew, htakes⟩
  · rintro ⟨name, m, m', hnew, htakes⟩
    exact ⟨name, key, change, m, m', hnew, asks, htakes⟩

include hr

/-- A changed machine has the name of another exactly if the request gave it that name. -/
theorem name_free_iff {m m' : Machine} (hfind : r.find key = .ok m)
    (hoperate : operate m (change m) = .ok m') :
    (∀ other ∈ r.entries, other.name = m'.name → other.id = m'.id) ↔ ¬request.TakesName r := by
  obtain ⟨hid, hname⟩ := identity_of_operate asks hoperate
  rw [hid, hname, takesName_iff asks]
  constructor
  · rintro hfree ⟨name, m₁, -, hnew, hfind', -, other, hother, hsame, hne⟩
    cases hfind.symm.trans hfind'
    rw [hnew] at hfree
    exact hne (hfree other hother hsame)
  · intro hkeeps other hother hsame
    cases hnew : request.newName? with
    | none =>
        rw [hnew] at hsame
        exact hr other hother m (Registry.mem_of_find hfind) hsame
    | some name =>
        rw [hnew] at hsame
        by_contra hne
        exact hkeeps ⟨name, m, m', hnew, hfind, hoperate, other, hother, hsame, hne⟩

/-- A change of a machine keeps names unique, if it does not give it the name of another. -/
theorem uniqueNames_change_iff {s : Store} :
    (r.change s key change).UniqueNames ↔ ¬request.TakesName r := by
  rw [Registry.change]
  cases hfind : r.find key with
  | error e =>
      refine iff_of_true hr fun htakes => ?_
      obtain ⟨_, m, _, -, hfound, -⟩ := (takesName_iff asks).1 htakes
      cases hfind.symm.trans hfound
  | ok m =>
      dsimp only
      cases hoperate : operate m (change m) with
      | error failure =>
          refine iff_of_true hr fun htakes => ?_
          obtain ⟨_, _, m', -, hfound, hmade, -⟩ := (takesName_iff asks).1 htakes
          cases hfind.symm.trans hfound
          cases hoperate.symm.trans hmade
      | ok m' =>
          exact (Registry.uniqueNames_put_iff hr).trans (name_free_iff hr asks hfind hoperate)

end Change

/-! ## What requests do to the map -/

/-- The directory of a store is open and stands for a map. -/
structure Stands (s : Store) (current : List String) (t : FileTree) (place : List String)
    (r : Registry) : Prop where
  isOpen : t.IsOpen current s.directory place
  holds : s.Holds t place r

theorem stands_of_meets {s : Store} {current place : List String} {t : FileTree} {α : Type}
    {outcome : Except Error α × Registry} {res : Except Error α}
    (h : Meets s current place outcome res t) : Stands s current t place outcome.2 :=
  ⟨h.isOpen, h.holds⟩

section Requests

variable {h : Behavior} {s : Store} {t t' : FileTree} {place : List String} {r : Registry}
  {res : Except Failure Finish} (hcalm : h.Calm) (hfit : s.PathsFit)
  (hs : Stands s h.current t place r)

include hcalm hfit hs

theorem stands_of_defineEnds {definition : Except Failure Definition}
    (ends : DefineEnds h s t place definition res t') :
    Stands s h.current t' place (r.define s definition) := by
  rw [Registry.define]
  cases ends with
  | undefined refused =>
      rw [refused]
      exact hs
  | @inserted m _ _ machine ends =>
      obtain ⟨d, -, hd⟩ := defineMachine_eq_ok_iff.1 machine
      have hm : m.Recordable := (Machine.sound_of_define hd).toRecordable
      rw [machine]
      exact stands_of_meets (hs.holds.meets_insert hcalm hs.isOpen hfit hm ends)

theorem stands_of_changeEnds {key : String} {change : Machine → Except Failure Operation}
    (ends : ChangeEnds h s t place key change res t') :
    Stands s h.current t' place (r.change s key change) := by
  rw [Registry.change]
  cases ends with
  | unfound found =>
      rw [← hs.holds.finds_eq hs.isOpen hfit found]
      exact hs
  | refused found refused =>
      rw [← hs.holds.finds_eq hs.isOpen hfit found]
      simp only [refused]
      exact hs
  | @put m m' _ _ found machine ends =>
      have hfind := hs.holds.finds_eq hs.isOpen hfit found
      obtain ⟨op, -, hop⟩ := operate_eq_ok_iff.1 machine
      have hm := (hs.holds.machine m (Registry.mem_of_find hfind.symm)).1
      rw [← hfind]
      simp only [machine]
      exact stands_of_meets (hs.holds.meets_put hcalm hs.isOpen hfit
        ((Machine.step_of_perform hop).recordable hm) ends)

/-- Every request leaves a map. Unique names stay unique if no machine is given the name of
another, and only then. -/
theorem names_of_requestEnds {request : Request}
    (ends : RequestEnds h s t place request res t') : ∃ r', Stands s h.current t' place r' ∧
      (r.UniqueNames → (r'.UniqueNames ↔ ¬request.TakesName r)) := by
  -- Only a request that changes a machine gives a name to one that is there.
  have hother : request.change? = none → ¬request.TakesName r := by
    rintro hnone ⟨_, _, _, _, _, -, asks, -⟩
    cases hnone.symm.trans asks
  cases ends with
  | define id ends =>
      refine ⟨_, stands_of_defineEnds hcalm hfit hs ends, fun hr => iff_of_true ?_ (hother rfl)⟩
      rw [Registry.define]
      split
      · exact Registry.uniqueNames_insert hr
      · exact hr
  | change asks ends =>
      exact ⟨_, stands_of_changeEnds hcalm hfit hs ends, fun hr => uniqueNames_change_iff hr asks⟩
  | unfound => exact ⟨r, hs, fun hr => iff_of_true hr (hother rfl)⟩
  | delete found ends =>
      exact ⟨_, stands_of_meets (hs.holds.meets_delete hs.isOpen hfit ends),
        fun hr => iff_of_true (Registry.uniqueNames_delete hr _) (hother rfl)⟩
  | unread => exact ⟨r, hs, fun hr => iff_of_true hr (hother rfl)⟩
  | readIn read ends =>
      exact ⟨_, stands_of_meets (hs.holds.meets_import hcalm hs.isOpen hfit ends),
        fun hr => iff_of_true (Registry.uniqueNames_importRecord hr _ _) (hother rfl)⟩

end Requests

/-! ## The program, again and again -/

section

variable {m : Type → Type} [Monad m] [Files m] [Terminal m]

/-- Runs the program with one list of arguments after another. -/
def programAll (executor : Executor m) (configuration : String) :
    List (List String) → m (List Finish)
  | [] => pure []
  | arguments :: rest => do
    let finish ← program executor configuration arguments
    let finishes ← programAll executor configuration rest
    return finish :: finishes

end

/-- The trees are equal but for records in the directory. -/
def SameBesideRecords (place : List String) (t t' : FileTree) : Prop :=
  ∀ q, (∀ id, q ≠ place ++ [recordName id]) → t'.lookup q = t.lookup q

/-- What the arguments ask for may change the store, and the store is in the directory, whatever
records there are. -/
structure Suits (current : List String) (t : FileTree) (place : List String)
    (directory configuration : String) (arguments : List String) : Prop where
  mutates : ∀ i, readArguments configuration arguments = .invocation i → i.request.Mutates
  configured : ∀ i c t', readArguments configuration arguments = .invocation i →
    SameBesideRecords place t t' → configurationIn current t' i.configuration = .ok c →
      c.machineDirectory = directory

/-- What the arguments ask for gives a machine the name of another. -/
def TakesName (current : List String) (t : FileTree) (configuration : String)
    (arguments : List String) (r : Registry) : Prop :=
  ∃ i c, readArguments configuration arguments = .invocation i ∧
    configurationIn current t i.configuration = .ok c ∧ i.request.TakesName r

theorem SameBesideRecords.refl {place : List String} {t : FileTree} :
    SameBesideRecords place t t := fun _ _ => rfl

theorem SameBesideRecords.trans {place : List String} {t₁ t₂ t₃ : FileTree}
    (h₁ : SameBesideRecords place t₁ t₂) (h₂ : SameBesideRecords place t₂ t₃) :
    SameBesideRecords place t₁ t₃ := fun q hq => (h₂ q hq).trans (h₁ q hq)

section Programs

variable {h : Behavior} {t t' : FileTree} {place : List String} {directory configuration : String}
  {arguments : List String}

theorem Suits.of_same {current : List String}
    (hs : Suits current t place directory configuration arguments)
    (hsame : SameBesideRecords place t t') :
    Suits current t' place directory configuration arguments :=
  ⟨hs.mutates, fun i c t'' hi ht'' hc => hs.configured i c t'' hi (hsame.trans ht'') hc⟩

theorem sameBesideRecords_of_requestEnds {s : Store} (ho : t.IsOpen h.current s.directory place)
    (hfree : DraftsFree h t place) {request : Request} {res : Except Failure Finish}
    (ends : RequestEnds h s t place request res t') : SameBesideRecords place t t' := by
  cases hres : res with
  | error failure =>
      rw [(ends.of_error hres).eq_of_free hfree]
      exact .refl
  | ok finish =>
      obtain ⟨-, id, content, -, hlookup⟩ := ends.of_ok ho hres
      intro q hq
      rw [hlookup q (hfree.spared q), if_neg (hq id)]

theorem runs_programAll_cons {executor : Executor Dialogue} {commands : List (List String)}
    {finish : Finish} {finishes : List Finish} {t₁ : FileTree}
    (first : h.Runs (program executor configuration arguments) t finish t₁)
    (rest : h.Runs (programAll executor configuration commands) t₁ finishes t') :
    h.Runs (programAll executor configuration (arguments :: commands)) t (finish :: finishes) t' :=
  first.bind (rest.bind (.done _ _))

variable {executor : Executor Dialogue} {r : Registry} (hcalm : h.Calm)
  (hfit : PathsFit ⟨directory⟩)

include hcalm hfit

/-- **One run of the program.** It leaves a map, and unique names stay unique if no machine is
given the name of another, and only then. -/
theorem names_of_program (hs : Stands ⟨directory⟩ h.current t place r)
    (hsuits : Suits h.current t place directory configuration arguments) {finish : Finish}
    (run : h.Runs (program executor configuration arguments) t finish t') :
    SameBesideRecords place t t' ∧ ∃ r', Stands ⟨directory⟩ h.current t' place r' ∧
      (r.UniqueNames → (r'.UniqueNames ↔ ¬TakesName h.current t configuration arguments r)) := by
  have hdirectory : ∀ i c, readArguments configuration arguments = .invocation i →
      configurationIn h.current t i.configuration = .ok c → c.machineDirectory = directory :=
    fun i c hi hc => hsuits.configured i c t hi .refl hc
  have hopen : ∀ i c, readArguments configuration arguments = .invocation i →
      configurationIn h.current t i.configuration = .ok c →
        t.IsOpen h.current c.machineDirectory place := by
    intro i c hi hc
    rw [hdirectory i c hi hc]
    exact hs.isOpen
  have hfree := hs.holds.draftsFree h
  cases runs_program hcalm hsuits.mutates hopen hfree.plain run with
  | unread _ hunread =>
      refine ⟨.refl, r, hs, fun hr => iff_of_true hr ?_⟩
      rintro ⟨i, -, hi, -⟩
      exact hunread i hi
  | unloaded hread hunloaded =>
      refine ⟨.refl, r, hs, fun hr => iff_of_true hr ?_⟩
      rintro ⟨i, c, hi, hc, -⟩
      cases hread.symm.trans hi
      cases hunloaded.symm.trans hc
  | performed hread hc ends =>
      rw [hdirectory _ _ hread hc] at ends
      obtain ⟨r', hs', hnames⟩ := names_of_requestEnds hcalm hfit hs ends
      refine ⟨sameBesideRecords_of_requestEnds hs.isOpen hfree ends, r', hs', fun hr => ?_⟩
      rw [hnames hr]
      refine not_congr ⟨fun htakes => ⟨_, _, hread, hc, htakes⟩, ?_⟩
      rintro ⟨i, c, hi, -, htakes⟩
      cases hread.symm.trans hi
      exact htakes

/-- Runs of the program, one after another, leave a map. If names were unique at first, they are
at the end, or a machine was given the name of another on the way. -/
theorem names_of_programAll {commands : List (List String)} {finishes : List Finish}
    (hs : Stands ⟨directory⟩ h.current t place r)
    (hsuits : ∀ arguments ∈ commands, Suits h.current t place directory configuration arguments)
    (run : h.Runs (programAll executor configuration commands) t finishes t') :
    SameBesideRecords place t t' ∧ ∃ r', Stands ⟨directory⟩ h.current t' place r' ∧
      (r.UniqueNames → r'.UniqueNames ∨ ∃ before arguments after,
        commands = before ++ arguments :: after ∧ ∃ done t₁ r₁,
          h.Runs (programAll executor configuration before) t done t₁ ∧
          Holds ⟨directory⟩ t₁ place r₁ ∧ r₁.UniqueNames ∧
          TakesName h.current t₁ configuration arguments r₁) := by
  -- On the commands, from any tree and map: the first run of a rename is either the first of all or
  -- is found among the rest, which start from a map with unique names again.
  induction commands generalizing t r finishes with
  | nil =>
      obtain ⟨rfl, rfl⟩ := Behavior.runs_pure run
      exact ⟨.refl, r, hs, .inl⟩
  | cons arguments commands ih =>
      obtain ⟨finish, t₁, hfirst, hrest⟩ := Behavior.runs_bind run
      obtain ⟨more, hmore, rfl⟩ := Behavior.runs_map hrest
      obtain ⟨hsame, r₁, hs₁, hnames⟩ :=
        names_of_program hcalm hfit hs (hsuits arguments List.mem_cons_self) hfirst
      obtain ⟨hsame', r', hs', hlater⟩ := ih hs₁
        (fun other hother => (hsuits other (List.mem_cons_of_mem _ hother)).of_same hsame) hmore
      refine ⟨hsame.trans hsame', r', hs', fun hr => ?_⟩
      by_cases htakes : TakesName h.current t configuration arguments r
      · exact .inr ⟨[], arguments, commands, rfl, [], t, r, .done _ _, hs.holds, hr, htakes⟩
      rcases hlater ((hnames hr).2 htakes) with hr' | ⟨before, taking, after, rfl, done, t₂, r₂,
        hdone, hholds, hr₂, htakes₂⟩
      · exact .inl hr'
      · exact .inr ⟨arguments :: before, taking, after, rfl, finish :: done, t₂, r₂,
          runs_programAll_cons hfirst hdone, hholds, hr₂, htakes₂⟩

/-- Defining a machine may give it any identifier. -/
theorem exists_runs_define {c : Configuration} {path name comment : String}
    {cpu : TopologyRequest} {memory : MemoryRequest} {flags : List String}
    (hs : Stands ⟨directory⟩ h.current t place r)
    (hread : readArguments configuration arguments =
      .invocation ⟨path, .define name comment cpu memory flags⟩)
    (hc : configurationIn h.current t path = .ok c) (hdirectory : c.machineDirectory = directory)
    (id : Uuid) (executor : Executor Dialogue) :
    ∃ finish t', h.Runs (program executor configuration arguments) t finish t' ∧
      Stands ⟨directory⟩ h.current t' place
        (r.define ⟨directory⟩ (definition id name comment cpu memory flags)) ∧
      SameBesideRecords place t t' := by
  subst hdirectory
  obtain ⟨res, t', hdefining⟩ := Behavior.exists_runs (h := h)
    (defining ⟨c.machineDirectory⟩ (definition id name comment cpu memory flags)).run t
  have hfree := hs.holds.draftsFree h
  have ends := runs_defining hcalm hs.isOpen hfree.plain hdefining
  -- The identifier is the first thing that is asked for, and the host is free in its answer.
  have hperform : h.Runs (perform executor c ⟨c.machineDirectory⟩
      (.define name comment cpu memory flags)).run t res t' := .ask (.given rfl) hdefining
  exact ⟨ended res, t', runs_program_of_perform hcalm hread hc hs.isOpen hperform,
    stands_of_defineEnds hcalm hfit hs ends,
    sameBesideRecords_of_requestEnds hs.isOpen hfree (.define id ends)⟩

end Programs

/-! ## Runs on a bare tree -/

/-- A configuration file that is not there stays so: no record is where its path leads first. -/
theorem configurationIn_of_same {t : FileTree}
    (hsame : SameBesideRecords ["var", "db", "bhyve-vm"] bareTree t) :
    configurationIn [] t "/etc/bhyve-vm.conf" = .ok {} :=
  configurationIn_of_absent (hsame ["etc"] fun id => by simp)

theorem suits_bareTree {arguments : List String} {request : Request}
    (hread : readArguments "/etc/bhyve-vm.conf" arguments =
      .invocation ⟨"/etc/bhyve-vm.conf", request⟩) (hrequest : request.Mutates) :
    Suits [] bareTree ["var", "db", "bhyve-vm"] "/var/db/bhyve-vm" "/etc/bhyve-vm.conf"
      arguments := by
  constructor
  · intro i hi
    cases hread.symm.trans hi
    exact hrequest
  · intro i c t hi hsame hc
    cases hread.symm.trans hi
    cases (configurationIn_of_same hsame).symm.trans hc
    rfl

theorem pathsFit_bareTree : PathsFit ⟨"/var/db/bhyve-vm"⟩ :=
  pathsFit_of_short (by decide) (by decide)

/-- **Names stay unique until a machine is given the name of another.** The program is run again
and again on a directory that was empty, with any arguments, if they ask for changes of the store
there. At the end the directory stands for a map. Its names are unique, or on the way there was a
run that gave a machine the name of another, the names having been unique until then. From a map
with unique names, one more run leaves one if and only if it gives no machine the name of
another. -/
theorem programAll_names {h : Behavior} {t : FileTree} {place : List String}
    {directory configuration : String} (hcalm : h.Calm)
    (ho : t.IsOpen h.current directory place) (hfit : PathsFit ⟨directory⟩)
    (hempty : ∀ name, t.lookup (place ++ [name]) = none) (executor : Executor Dialogue)
    {commands : List (List String)}
    (hsuits : ∀ arguments ∈ commands, Suits h.current t place directory configuration arguments) :
    (∃ finishes t', h.Runs (programAll executor configuration commands) t finishes t') ∧
      ∀ finishes t', h.Runs (programAll executor configuration commands) t finishes t' →
        ∃ r, Holds ⟨directory⟩ t' place r ∧
          (r.UniqueNames ∨ ∃ before arguments after, commands = before ++ arguments :: after ∧
            ∃ done t₁ r₁, h.Runs (programAll executor configuration before) t done t₁ ∧
              Holds ⟨directory⟩ t₁ place r₁ ∧ r₁.UniqueNames ∧
              TakesName h.current t₁ configuration arguments r₁) ∧
          ∀ arguments, Suits h.current t place directory configuration arguments → r.UniqueNames →
            ∀ finish t'', h.Runs (program executor configuration arguments) t' finish t'' →
              ∃ r', Holds ⟨directory⟩ t'' place r' ∧
                (r'.UniqueNames ↔ ¬TakesName h.current t' configuration arguments r) := by
  refine ⟨Behavior.exists_runs _ _, fun finishes t' run => ?_⟩
  obtain ⟨hsame, r, hs, hnames⟩ :=
    names_of_programAll hcalm hfit ⟨ho, holds_empty hempty⟩ hsuits run
  refine ⟨r, hs.holds, hnames Registry.uniqueNames_empty, fun arguments hnext hr finish t'' hrun =>
    ?_⟩
  obtain ⟨-, r', hs', hnames'⟩ := names_of_program hcalm hfit hs (hnext.of_same hsame) hrun
  exact ⟨r', hs'.holds, hnames' hr⟩

theorem programAll_names_two : (Behavior.plain [] fun _ => False).Calm ∧
    bareTree.IsOpen [] "/var/db/bhyve-vm" ["var", "db", "bhyve-vm"] ∧
    PathsFit ⟨"/var/db/bhyve-vm"⟩ ∧
    (∀ name, bareTree.lookup (["var", "db", "bhyve-vm"] ++ [name]) = none) ∧
    (∀ arguments ∈ [["define", "--name", "a"], ["define", "--name", "b"]],
      Suits [] bareTree ["var", "db", "bhyve-vm"] "/var/db/bhyve-vm" "/etc/bhyve-vm.conf"
        arguments) ∧
    ∃ finishes t' r, (Behavior.plain [] fun _ => False).Runs
      (programAll (fun _ => pure 0) "/etc/bhyve-vm.conf"
        [["define", "--name", "a"], ["define", "--name", "b"]]) bareTree finishes t' ∧
      Holds ⟨"/var/db/bhyve-vm"⟩ t' ["var", "db", "bhyve-vm"] r := by
  have hcalm := Behavior.calm_plain []
  have hsuits : ∀ arguments ∈ [["define", "--name", "a"], ["define", "--name", "b"]],
      Suits [] bareTree ["var", "db", "bhyve-vm"] "/var/db/bhyve-vm" "/etc/bhyve-vm.conf"
        arguments := by
    intro arguments harguments
    rcases List.mem_pair.1 harguments with rfl | rfl
    · exact suits_bareTree rfl trivial
    · exact suits_bareTree rfl trivial
  obtain ⟨⟨finishes, t', run⟩, hall⟩ := programAll_names hcalm isOpen_bareTree pathsFit_bareTree
    lookup_bareTree (fun _ => pure 0) hsuits
  obtain ⟨r, hholds, -⟩ := hall finishes t' run
  exact ⟨hcalm, isOpen_bareTree, pathsFit_bareTree, lookup_bareTree, hsuits, finishes, t', r, run,
    hholds⟩

/-! ## Two machines of one name -/

/-- A request for a machine with a name and nothing else. -/
def plainDefine (name : String) : Request :=
  .define name "" ⟨none, none, none, none, []⟩ ⟨none, none⟩ []

/-- A request to give a machine a name and change nothing else. -/
def plainRename (key name : String) : Request :=
  .modify key (some name) none ⟨none, none, none, none, []⟩ ⟨none, none⟩ []

/-- A machine with a name and nothing else. -/
def plainMachine (id : Uuid) (name : String) : Machine where
  id := id
  name := name
  comment := ""
  cpu := Topology.single
  memory := Memory.none
  flags := {}
  devices := (∅ : Table Device.slot).insert Machine.firstBridge
  boots := ∅
  source := none

def firstId : Uuid := .ofRandomBits 1

def secondId : Uuid := .ofRandomBits 2

/-- The map after two machines were defined. -/
def twoMachines : Registry :=
  (((∅ : Registry).put ⟨"/var/db/bhyve-vm"⟩ (plainMachine firstId "a")).2.put ⟨"/var/db/bhyve-vm"⟩
    (plainMachine secondId "b")).2

theorem uniqueNames_twoMachines : twoMachines.UniqueNames := by
  refine (Registry.uniqueNames_put_iff ?_).2 ?_
  · exact (Registry.uniqueNames_put_iff Registry.uniqueNames_empty).2 fun _ hother =>
      absurd hother List.not_mem_nil
  · decide

theorem takesName_twoMachines : (plainRename secondId.text "a").TakesName twoMachines := by
  have hfind : twoMachines.find secondId.text =
      .ok (Registry.kept ⟨"/var/db/bhyve-vm"⟩ (plainMachine secondId "b")) := by
    rw [Registry.find, Uuid.ofText?_text]
    rfl
  have hfirst : Registry.kept ⟨"/var/db/bhyve-vm"⟩ (plainMachine firstId "a") ∈
      twoMachines.entries :=
    Table.mem_insert_iff.2 (.inr ⟨Table.mem_insert_iff.2 (.inl rfl), by decide⟩)
  exact ⟨"a", secondId.text, _, _, _, rfl, rfl, hfind, rfl, _, hfirst, rfl, by decide⟩

/-- The second of two machines is given the name of the first, and the store keeps both. -/
theorem exists_same_names :
    bareTree.IsOpen [] "/var/db/bhyve-vm" ["var", "db", "bhyve-vm"] ∧
    (∀ name, bareTree.lookup (["var", "db", "bhyve-vm"] ++ [name]) = none) ∧
    ∃ finishes t' r, (Behavior.plain [] fun _ => False).Runs
      (programAll (fun _ => pure 0) "/etc/bhyve-vm.conf"
        [["define", "--name", "a"], ["define", "--name", "b"],
          ["modify", secondId.text, "--name", "a"]]) bareTree finishes t' ∧
      Holds ⟨"/var/db/bhyve-vm"⟩ t' ["var", "db", "bhyve-vm"] r ∧ ¬r.UniqueNames := by
  have hcalm := Behavior.calm_plain []
  have hs : Stands ⟨"/var/db/bhyve-vm"⟩ [] bareTree ["var", "db", "bhyve-vm"] ∅ :=
    ⟨isOpen_bareTree, holds_empty lookup_bareTree⟩
  have hfirst : readArguments "/etc/bhyve-vm.conf" ["define", "--name", "a"] =
      .invocation ⟨"/etc/bhyve-vm.conf", plainDefine "a"⟩ := rfl
  have hsecond : readArguments "/etc/bhyve-vm.conf" ["define", "--name", "b"] =
      .invocation ⟨"/etc/bhyve-vm.conf", plainDefine "b"⟩ := rfl
  have hrename : readArguments "/etc/bhyve-vm.conf" ["modify", secondId.text, "--name", "a"] =
      .invocation ⟨"/etc/bhyve-vm.conf", plainRename secondId.text "a"⟩ := rfl
  obtain ⟨finish₁, t₁, run₁, hs₁, hsame₁⟩ := exists_runs_define hcalm pathsFit_bareTree hs hfirst
    (configurationIn_of_same .refl) rfl firstId fun _ => pure 0
  obtain ⟨finish₂, t₂, run₂, hs₂, hsame₂⟩ := exists_runs_define hcalm pathsFit_bareTree hs₁ hsecond
    (configurationIn_of_same hsame₁) rfl secondId fun _ => pure 0
  have hsame := hsame₁.trans hsame₂
  have htwo : Stands ⟨"/var/db/bhyve-vm"⟩ [] t₂ ["var", "db", "bhyve-vm"] twoMachines := hs₂
  obtain ⟨finish₃, t₃, run₃⟩ := Behavior.exists_runs (h := Behavior.plain [] fun _ => False)
    (program (fun _ => pure 0) "/etc/bhyve-vm.conf" ["modify", secondId.text, "--name", "a"]) t₂
  obtain ⟨-, r, hs₃, hnames⟩ := names_of_program hcalm pathsFit_bareTree htwo
    ((suits_bareTree hrename rfl).of_same hsame) run₃
  refine ⟨isOpen_bareTree, lookup_bareTree, _, t₃, r, runs_programAll_cons run₁
    (runs_programAll_cons run₂ (runs_programAll_cons run₃ (.done _ _))), hs₃.holds, fun hr => ?_⟩
  exact (hnames uniqueNames_twoMachines).1 hr
    ⟨_, _, hrename, configurationIn_of_same hsame, takesName_twoMachines⟩

end CommandLine

end Guestkeeper
