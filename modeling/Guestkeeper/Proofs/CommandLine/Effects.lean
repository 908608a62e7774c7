import Guestkeeper.CommandLine.Program
import Guestkeeper.Proofs.CommandLine.Requests
import Guestkeeper.Proofs.Store.Listing

set_option autoImplicit false

/-! # What the program changes

A run of the program loads the configuration, opens the store and carries out one request. On a
calm host, a program that fails leaves every file as it was. One that succeeds in changing the
store has written or removed one record: that of the machine that was defined, read from a file,
or found under the key.
-/

namespace Guestkeeper.CommandLine

open Guestkeeper.Host Guestkeeper.Host.FileTree Guestkeeper.Store

/-- A machine that a key leads to. The record named after it holds it, and the key is its
identifier or, where it is no identifier, its name. -/
structure Found (s : Store) (current : List String) (t : FileTree) (place : List String)
    (key : String) (m : Machine) : Prop where
  finds : Finds s current t place key (.ok m)
  record : s.machineIn current t m.id = .ok m
  key : Uuid.ofText? key = some m.id ∨ Uuid.ofText? key = none ∧ m.name = key

/-- What a request leaves of the record of an identifier. -/
inductive Effect (s : Store) (current : List String) (t : FileTree) (place : List String) :
    Request → Uuid → Option Content → Prop
  | defined {name comment : String} {cpu : TopologyRequest} {memory : MemoryRequest}
      {flags : List String} {id : Uuid} {d : Definition} {m : Machine}
      (definition : definition id name comment cpu memory flags = .ok d)
      (machine : Machine.define d = .ok m) :
      Effect s current t place (.define name comment cpu memory flags) m.id
        (some (.file (Record.encode m) 0))
  | imported {file : String} {replace : Bool} {bytes : ByteArray} {m : Machine}
      (read : t.read current file = .ok bytes) (machine : Record.decode bytes = .ok m) :
      Effect s current t place (.readIn file replace) m.id (some (.file (Record.encode m) 0))
  | changed {r : Request} {key : String} {change : Machine → Except Failure Operation}
      {m m' : Machine} {op : Operation} (asks : r.change? = some (key, change))
      (found : Found s current t place key m) (operation : change m = .ok op)
      (machine : m.perform op = .ok m') :
      Effect s current t place r m.id (some (.file (Record.encode m') 0))
  | deleted {key : String} {m : Machine} (found : Found s current t place key m)
      (there : t.lookup (place ++ [recordName m.id]) ≠ none) :
      Effect s current t place (.delete key) m.id none

section Ends

variable {h : Behavior} {s : Store} {t t' : FileTree} {place : List String}

theorem found_of_finds {current : List String} {key : String} {m : Machine}
    (hf : Finds s current t place key (.ok m)) : Found s current t place key m :=
  ⟨hf, hf.machineIn.1, hf.machineIn.2⟩

theorem DefineEnds.of_error {definition : Except Failure Definition}
    {res : Except Failure Finish} {failure : Failure}
    (ends : DefineEnds h s t place definition res t') (hres : res = .error failure) :
    Swept h t place t' := by
  cases ends with
  | undefined => exact .inl rfl
  | inserted machine ends =>
      obtain ⟨e, rfl⟩ := finished_eq_error hres
      exact ends.of_error

theorem ChangeEnds.of_error {key : String} {change : Machine → Except Failure Operation}
    {res : Except Failure Finish} {failure : Failure}
    (ends : ChangeEnds h s t place key change res t') (hres : res = .error failure) :
    Swept h t place t' := by
  cases ends with
  | unfound => exact .inl rfl
  | refused => exact .inl rfl
  | put found machine ends =>
      obtain ⟨e, rfl⟩ := finished_eq_error hres
      exact ends.of_error

/-- A request that fails has changed nothing. -/
theorem RequestEnds.of_error {r : Request} {res : Except Failure Finish} {failure : Failure}
    (ends : RequestEnds h s t place r res t') (hres : res = .error failure) :
    Swept h t place t' := by
  cases ends with
  | define id ends => exact ends.of_error hres
  | change asks ends => exact ends.of_error hres
  | unfound => exact .inl rfl
  | delete found ends =>
      obtain ⟨e, rfl⟩ := finished_eq_error hres
      exact .inl ends.of_error
  | unread => exact .inl rfl
  | readIn read ends =>
      obtain ⟨e, rfl⟩ := finished_eq_error hres
      exact ends.of_error

theorem DefineEnds.of_ok {definition : Except Failure Definition} {res : Except Failure Finish}
    {finish : Finish} (ends : DefineEnds h s t place definition res t')
    (hres : res = .ok finish) : finish = .exit 0 ∧ ∃ m, defineMachine definition = .ok m ∧
      ∃ t₁, Swept h t place t₁ ∧ t' = withRecord t₁ place m := by
  cases ends with
  | undefined => cases hres
  | inserted machine ends =>
      obtain ⟨rfl, stored, rfl⟩ := finished_eq_ok hres
      exact ⟨rfl, _, machine, ends.of_ok⟩

theorem ChangeEnds.of_ok {key : String} {change : Machine → Except Failure Operation}
    {res : Except Failure Finish} {finish : Finish}
    (ends : ChangeEnds h s t place key change res t') (hres : res = .ok finish) :
    finish = .exit 0 ∧ ∃ m m', Finds s h.current t place key (.ok m) ∧
      operate m (change m) = .ok m' ∧
      ∃ t₁, Swept h t place t₁ ∧ t' = withRecord t₁ place m' := by
  cases ends with
  | unfound => cases hres
  | refused => cases hres
  | put found machine ends =>
      obtain ⟨rfl, stored, rfl⟩ := finished_eq_ok hres
      exact ⟨rfl, _, _, found, machine, ends.of_ok⟩

/-- Storing a machine changes its record and nothing else, if no draft was in the way. -/
theorem lookup_of_swept {t₁ : FileTree} (swept : Swept h t place t₁) (m : Machine)
    {q : List String} (hq : Spared h t place q) : (withRecord t₁ place m).lookup q =
      if q = place ++ [recordName m.id] then some (.file (Record.encode m) 0)
        else t.lookup q := by
  rw [lookup_withRecord, swept.lookup_eq hq]

/-- A request that succeeds has had its effect on one record and on nothing else. -/
theorem RequestEnds.of_ok (ho : t.IsOpen h.current s.directory place) {r : Request}
    {res : Except Failure Finish} {finish : Finish} (ends : RequestEnds h s t place r res t')
    (hres : res = .ok finish) :
    finish = .exit 0 ∧ ∃ id content, Effect s h.current t place r id content ∧
      ∀ q, Spared h t place q →
        t'.lookup q = if q = place ++ [recordName id] then content else t.lookup q := by
  cases ends with
  | define id ends =>
      obtain ⟨rfl, m, hmachine, t₁, swept, rfl⟩ := ends.of_ok hres
      obtain ⟨d, hd, hm⟩ := defineMachine_eq_ok_iff.1 hmachine
      exact ⟨rfl, _, _, .defined hd hm, fun _ => lookup_of_swept swept m⟩
  | change asks ends =>
      obtain ⟨rfl, m, m', found, hmachine, t₁, swept, rfl⟩ := ends.of_ok hres
      obtain ⟨op, hop, hm⟩ := operate_eq_ok_iff.1 hmachine
      -- The record that is written is the one that was read: no operation changes the identifier.
      have hid := (Machine.identity_of_perform hm).1
      refine ⟨rfl, _, _, .changed asks (found_of_finds found) hop hm, fun q hq => ?_⟩
      rw [lookup_of_swept swept m' hq, hid]
  | unfound => cases hres
  | delete found ends =>
      obtain ⟨rfl, _, rfl⟩ := finished_eq_ok hres
      obtain ⟨hthere, rfl⟩ := ends.of_ok ho
      exact ⟨rfl, _, _, .deleted (found_of_finds found) hthere,
        fun q _ => lookup_withoutRecord _ q⟩
  | unread => cases hres
  | readIn read ends =>
      obtain ⟨rfl, stored, rfl⟩ := finished_eq_ok hres
      obtain ⟨m, hm, t₁, swept, rfl⟩ := ends.of_ok
      exact ⟨rfl, _, _, .imported read hm, fun _ => lookup_of_swept swept m⟩

end Ends

/-! ## The whole program -/

/-- The text of a file, or why there is none. -/
def textIn : Except Cause ByteArray → Except Cause String
  | .error cause => .error cause
  | .ok bytes =>
    match String.fromUTF8? bytes with
    | some text => .ok text
    | none => .error .notUtf8

/-- The configuration that a file gives. -/
def configurationIn (current : List String) (t : FileTree) (path : String) :
    Except Error Configuration := Configuration.ofContents path (textIn (t.read current path))

/-- How the program ends after what was asked for was tried. -/
def ended : Except Failure Finish → Finish
  | .ok finish => finish
  | .error _ => .exit failureStatus

/-- How the program can end, if it is given arguments that may change the store. -/
inductive ProgramEnds (h : Behavior) (t : FileTree) (place : List String) (configuration : String)
    (arguments : List String) : Finish → FileTree → Prop
  | unread (finish : Finish)
      (unread : ∀ i, readArguments configuration arguments ≠ .invocation i) :
      ProgramEnds h t place configuration arguments finish t
  | unloaded {i : Invocation} {e : Error}
      (read : readArguments configuration arguments = .invocation i)
      (unloaded : configurationIn h.current t i.configuration = .error e) :
      ProgramEnds h t place configuration arguments (.exit failureStatus) t
  | performed {i : Invocation} {c : Configuration} {res : Except Failure Finish} {t' : FileTree}
      (read : readArguments configuration arguments = .invocation i)
      (loaded : configurationIn h.current t i.configuration = .ok c)
      (ends : RequestEnds h ⟨c.machineDirectory⟩ t place i.request res t') :
      ProgramEnds h t place configuration arguments (ended res) t'

section Program

variable {h : Behavior} {t t' : FileTree} {place : List String} (hcalm : h.Calm)

include hcalm

theorem runs_load {path : String} {res : Except Error Configuration}
    (run : h.Runs (Configuration.load path).run t res t') :
    res = configurationIn h.current t path ∧ t' = t := by
  obtain ⟨contents, hread, rfl⟩ := Behavior.runs_map run
  obtain ⟨answer, t₁, hanswer, hrest⟩ := Behavior.runs_bind hread
  obtain ⟨rfl, rfl⟩ := Behavior.runs_read hcalm hanswer
  rw [configurationIn]
  cases hbytes : t₁.read h.current path with
  | error cause =>
      rw [hbytes] at hrest
      obtain ⟨rfl, rfl⟩ := Behavior.runs_pure hrest
      exact ⟨rfl, rfl⟩
  | ok bytes =>
      rw [hbytes] at hrest
      rw [textIn]
      cases htext : String.fromUTF8? bytes with
      | none =>
          simp only [htext] at hrest
          obtain ⟨rfl, rfl⟩ := Behavior.runs_pure hrest
          exact ⟨rfl, rfl⟩
      | some text =>
          simp only [htext] at hrest
          obtain ⟨rfl, rfl⟩ := Behavior.runs_pure hrest
          exact ⟨rfl, rfl⟩

/-- A store that is there is opened without any change. -/
theorem runs_prepare {directory : String} (ho : t.IsOpen h.current directory place)
    {res : Except Error Store} (run : h.Runs (Store.prepare directory).run t res t') :
    res = .ok ⟨directory⟩ ∧ t' = t := by
  obtain ⟨result, hat, rfl⟩ := Behavior.runs_exceptMap run
  obtain ⟨made, hmade, rfl⟩ := Behavior.runs_at? hat
  have hgiven : (made, t') = t.createDirectories h.current directory :=
    Behavior.gives_of_runs hcalm hmade
  rw [ho.createDirectories_eq] at hgiven
  obtain ⟨rfl, rfl⟩ := Prod.mk.inj hgiven
  exact ⟨rfl, rfl⟩

/-- The configuration is loaded, or the failure to load it is the end. -/
theorem runs_invoke {executor : Executor Dialogue} {i : Invocation}
    (hopen : ∀ c, configurationIn h.current t i.configuration = .ok c →
      t.IsOpen h.current c.machineDirectory place)
    {res : Except Failure Finish} (run : h.Runs (invoke executor i).run t res t') :
    (∃ e failure, configurationIn h.current t i.configuration = .error e ∧
      res = .error failure ∧ t' = t) ∨
      ∃ c, configurationIn h.current t i.configuration = .ok c ∧
        h.Runs (perform executor c ⟨c.machineDirectory⟩ i.request).run t res t' := by
  rcases Behavior.runs_exceptBind run with ⟨failure, hload, rfl⟩ | ⟨c, t₁, hload, hprepare⟩
  · obtain ⟨loaded, t₁, hloaded, hrest⟩ := Behavior.runs_bind hload
    obtain ⟨hc, rfl⟩ := runs_load hcalm hloaded
    cases loaded with
    | ok c =>
        obtain ⟨hfailed, -⟩ := Behavior.runs_pure hrest
        cases hfailed
    | error e => exact .inl ⟨e, failure, hc.symm, rfl, (Behavior.runs_pure hrest).2⟩
  · obtain ⟨loaded, t₂, hloaded, hrest⟩ := Behavior.runs_bind hload
    obtain ⟨hc, rfl⟩ := runs_load hcalm hloaded
    cases loaded with
    | error e =>
        obtain ⟨hok, -⟩ := Behavior.runs_pure hrest
        cases hok
    | ok c' =>
        obtain ⟨hok, rfl⟩ := Behavior.runs_pure hrest
        obtain rfl := Except.ok.inj hok
        refine .inr ⟨c, hc.symm, ?_⟩
        rcases Behavior.runs_exceptBind hprepare with ⟨e, hact, rfl⟩ | ⟨s, t₃, hact, hperform⟩
        · obtain ⟨result, hopened, hfailed⟩ := runs_act hact
          obtain ⟨rfl, rfl⟩ := runs_prepare hcalm (hopen c hc.symm) hopened
          cases hfailed
        · obtain ⟨result, hopened, hstore⟩ := runs_act hact
          obtain ⟨rfl, rfl⟩ := runs_prepare hcalm (hopen c hc.symm) hopened
          obtain rfl := Except.ok.inj hstore
          exact hperform

theorem runs_program {configuration : String} {arguments : List String}
    (hr : ∀ i, readArguments configuration arguments = .invocation i → i.request.Mutates)
    (hopen : ∀ i c, readArguments configuration arguments = .invocation i →
      configurationIn h.current t i.configuration = .ok c →
        t.IsOpen h.current c.machineDirectory place)
    (hplain : DraftsPlain h t place) {executor : Executor Dialogue} {finish : Finish}
    (run : h.Runs (program executor configuration arguments) t finish t') :
    ProgramEnds h t place configuration arguments finish t' := by
  rw [program] at run
  cases hread : readArguments configuration arguments with
  | invocation i =>
      rw [hread] at run
      obtain ⟨res, t₁, hinvoke, hrest⟩ := Behavior.runs_bind run
      -- a failure is reported, and a report changes no file
      have hended : finish = ended res ∧ t' = t₁ := by
        cases res with
        | ok finish' => exact Behavior.runs_pure hrest
        | error failure =>
            obtain ⟨status, hreport, rfl⟩ := Behavior.runs_map hrest
            obtain ⟨_, hcomplain, rfl⟩ := Behavior.runs_map hreport
            exact ⟨rfl, Behavior.runs_complain hcalm hcomplain⟩
      obtain ⟨rfl, rfl⟩ := hended
      rcases runs_invoke hcalm (fun c => hopen i c hread) hinvoke with
        ⟨e, failure, hunloaded, rfl, rfl⟩ | ⟨c, hc, hperform⟩
      · exact .unloaded hread hunloaded
      · exact .performed hread hc
          (runs_perform hcalm (hopen i c hread hc) hplain (hr i hread) hperform)
  | help =>
      rw [hread] at run
      obtain ⟨_, hprint, rfl⟩ := Behavior.runs_map run
      obtain rfl := Behavior.runs_print hcalm hprint
      exact .unread _ (by simp [hread])
  | version =>
      rw [hread] at run
      obtain ⟨_, hprint, rfl⟩ := Behavior.runs_map run
      obtain rfl := Behavior.runs_print hcalm hprint
      exact .unread _ (by simp [hread])
  | refused =>
      rw [hread] at run
      obtain ⟨_, hcomplain, rfl⟩ := Behavior.runs_map run
      obtain rfl := Behavior.runs_complain hcalm hcomplain
      exact .unread _ (by simp [hread])

omit hcalm in
/-- A failure is reported, if there is one. -/
theorem runs_ended (res : Except Failure Finish) (t : FileTree) :
    h.Runs (match res with
      | .ok finish => pure finish
      | .error failure => do return .exit (← report failure)) t (ended res) t := by
  cases res with
  | ok finish => exact .done _ _
  | error failure =>
      have hcomplain : h.Gives t
          (.complain (programName ++ ": " ++ failure.message ++ "\n")) () t := rfl
      exact .ask (.given hcomplain) (.done _ _)

/-- A run of what is asked for makes a run of the program. -/
theorem runs_program_of_perform {configuration : String} {arguments : List String} {i : Invocation}
    {c : Configuration} (hread : readArguments configuration arguments = .invocation i)
    (hc : configurationIn h.current t i.configuration = .ok c)
    (ho : t.IsOpen h.current c.machineDirectory place) {executor : Executor Dialogue}
    {res : Except Failure Finish}
    (run : h.Runs (perform executor c ⟨c.machineDirectory⟩ i.request).run t res t') :
    h.Runs (program executor configuration arguments) t (ended res) t' := by
  obtain ⟨loaded, t₁, hload⟩ :=
    Behavior.exists_runs (h := h) (Configuration.load i.configuration).run t
  obtain ⟨rfl, rfl⟩ := runs_load hcalm hload
  obtain ⟨opened, t₂, hprepare⟩ :=
    Behavior.exists_runs (h := h) (Store.prepare c.machineDirectory).run t₁
  obtain ⟨rfl, rfl⟩ := runs_prepare hcalm ho hprepare
  rw [hc] at hload
  have hinvoke : h.Runs (invoke executor i).run t₂ res t' :=
    Behavior.Runs.exceptBind (hload.bind (.done _ _))
      (Behavior.Runs.exceptBind (hprepare.bind (.done _ _)) run)
  rw [program, hread]
  exact hinvoke.bind (runs_ended res t')

end Program

/-- **A program that fails changes no file, and one that succeeds changes one record.** This is for
any arguments, if they ask for a change of the store, and for any content of its directory. A file
is lost only if its very name is drawn for the draft of a record; every record is spared, and no
device is to have such a name. -/
theorem program_changes_one_record {h : Behavior} {t : FileTree} {place : List String}
    {configuration : String} {arguments : List String} (hcalm : h.Calm)
    (hr : ∀ i, readArguments configuration arguments = .invocation i → i.request.Mutates)
    (hopen : ∀ i c, readArguments configuration arguments = .invocation i →
      configurationIn h.current t i.configuration = .ok c →
        t.IsOpen h.current c.machineDirectory place)
    (hplain : DraftsPlain h t place) (executor : Executor Dialogue) :
    (∃ finish t', h.Runs (program executor configuration arguments) t finish t') ∧
      (∀ id, Spared h t place (place ++ [recordName id])) ∧
      ∀ finish t', h.Runs (program executor configuration arguments) t finish t' →
        ((∀ i, readArguments configuration arguments ≠ .invocation i) ∧ t' = t) ∨
        (finish = .exit failureStatus ∧ ∀ q, Spared h t place q → t'.lookup q = t.lookup q) ∨
        (finish = .exit 0 ∧ ∃ i c id content,
          readArguments configuration arguments = .invocation i ∧
          configurationIn h.current t i.configuration = .ok c ∧
          Effect ⟨c.machineDirectory⟩ h.current t place i.request id content ∧
          ∀ q, Spared h t place q →
            t'.lookup q = if q = place ++ [recordName id] then content else t.lookup q) := by
  refine ⟨Behavior.exists_runs _ _, spared_recordName, fun finish t' run => ?_⟩
  cases runs_program hcalm hr hopen hplain run with
  | unread _ hunread => exact .inl ⟨hunread, rfl⟩
  | unloaded => exact .inr (.inl ⟨rfl, fun _ _ => rfl⟩)
  | @performed i c res _ hread hc ends =>
      cases hres : res with
      | error failure =>
          have swept := ends.of_error hres
          exact .inr (.inl ⟨rfl, fun q hq => swept.lookup_eq hq⟩)
      | ok finish =>
          obtain ⟨rfl, id, content, heffect, hlookup⟩ := ends.of_ok (hopen i c hread hc) hres
          exact .inr (.inr ⟨rfl, i, c, id, content, hread, hc, heffect, hlookup⟩)

/-- A tree with nothing but the directory in which machines are kept if no file says otherwise. -/
def bareTree : FileTree :=
  (((default : FileTree).put ["var"] .directory).put ["var", "db"] .directory).put
    ["var", "db", "bhyve-vm"] .directory

theorem lookup_bareTree (name : String) :
    bareTree.lookup (["var", "db", "bhyve-vm"] ++ [name]) = none := by
  rw [bareTree, lookup_put _ _ (by simp), if_neg (by simp), lookup_put _ _ (by simp),
    if_neg (by simp), lookup_put _ _ (by simp), if_neg (by simp)]
  rfl

theorem isOpen_bareTree : bareTree.IsOpen [] "/var/db/bhyve-vm" ["var", "db", "bhyve-vm"] :=
  ⟨rfl, rfl⟩

/-- A configuration file whose directory is not there gives the usual configuration. -/
theorem configurationIn_of_absent {t : FileTree} (hetc : t.lookup ["etc"] = none) :
    configurationIn [] t "/etc/bhyve-vm.conf" = .ok {} := by
  have hshort : ¬nameLimit < "etc".utf8ByteSize := by decide
  have hwalk : t.walk [] ["", "etc", "bhyve-vm.conf"] = .error .notFound := by
    simp [walk, hetc, hshort]
  have hread : t.read [] "/etc/bhyve-vm.conf" = .error .notFound := by
    rw [FileTree.read, stat, resolve]
    show (t.walk [] ["", "etc", "bhyve-vm.conf"] >>= _) >>= _ = _
    rw [hwalk]
    rfl
  rw [configurationIn, hread]
  rfl

/-- The records of two machines and a note in the directory of the bare tree. -/
def furnishedTree (a b : Machine) : FileTree :=
  (withRecord (withRecord bareTree ["var", "db", "bhyve-vm"] a) ["var", "db", "bhyve-vm"] b).put
    (["var", "db", "bhyve-vm"] ++ ["notes.txt"]) .emptyFile

theorem lookup_furnishedTree (a b : Machine) (q : List String) : (furnishedTree a b).lookup q =
    if q = ["var", "db", "bhyve-vm"] ++ ["notes.txt"] then some .emptyFile
    else if q = ["var", "db", "bhyve-vm"] ++ [recordName b.id] then
      some (.file (Record.encode b) 0)
    else if q = ["var", "db", "bhyve-vm"] ++ [recordName a.id] then
      some (.file (Record.encode a) 0)
    else bareTree.lookup q := by
  rw [furnishedTree, lookup_put _ _ (by simp), lookup_withRecord, lookup_withRecord]
  simp only [eq_comm]

theorem isOpen_furnishedTree (a b : Machine) :
    (furnishedTree a b).IsOpen [] "/var/db/bhyve-vm" ["var", "db", "bhyve-vm"] := by
  refine isOpen_bareTree.mono (KeepsDirectories.of_lookup_ne fun q hq => ?_)
  rw [lookup_furnishedTree] at hq
  split at hq
  · next h => rw [h, lookup_bareTree]; exact nofun
  split at hq
  · next h => rw [h, lookup_bareTree]; exact nofun
  split at hq
  · next h => rw [h, lookup_bareTree]; exact nofun
  · exact absurd rfl hq

theorem lookup_recordName_furnishedTree (a b : Machine) (id : Uuid) :
    (furnishedTree a b).lookup (["var", "db", "bhyve-vm"] ++ [recordName id]) =
      if id = b.id then some (.file (Record.encode b) 0)
      else if id = a.id then some (.file (Record.encode a) 0) else none := by
  have hnote : recordName id ≠ "notes.txt" :=
    (ne_recordName_of_recordId? (by decide) id).symm
  have hsame : ∀ other, recordName id = recordName other ↔ id = other := fun other =>
    ⟨fun h => recordName_injective h, congrArg recordName⟩
  rw [lookup_furnishedTree, lookup_bareTree]
  simp [hnote, hsame]

theorem draftsFree_furnishedTree (h : Behavior) (a b : Machine) :
    DraftsFree h (furnishedTree a b) ["var", "db", "bhyve-vm"] := by
  intro id suffix _
  -- a draft's name is longer than the note's
  have hnote : temporaryName id suffix ≠ "notes.txt" := by
    intro hsame
    have hlength := congrArg (fun name => name.toList.length) hsame
    simp only [temporaryName, String.toList_append, List.length_append, Uuid.length_text]
      at hlength
    have hshort : "notes.txt".toList.length = 9 := rfl
    omega
  have hrecord := fun other => temporaryName_ne_recordName id other suffix
  rw [lookup_furnishedTree, lookup_bareTree]
  simp [hnote, hrecord]

/-- What a machine's name leads to in the furnished tree is that machine. -/
theorem eq_kept_of_found {a b m : Machine} (ha : Machine.define Machine.guest = .ok a)
    (hb : Machine.define Machine.neighbor = .ok b)
    (hm : Found ⟨"/var/db/bhyve-vm"⟩ [] (furnishedTree a b) ["var", "db", "bhyve-vm"] "guest" m) :
    m = Registry.kept ⟨"/var/db/bhyve-vm"⟩ a := by
  obtain ⟨haid, haname⟩ := Machine.id_and_name_of_define ha
  obtain ⟨hbid, hbname⟩ := Machine.id_and_name_of_define hb
  have hname : m.name = "guest" := by
    rcases hm.key with hid | ⟨-, hname⟩
    · exact absurd hid nofun
    · exact hname
  have hrecord := hm.record
  have hopen := isOpen_furnishedTree a b
  have hfit : PathsFit ⟨"/var/db/bhyve-vm"⟩ := pathsFit_of_short (by decide) (by decide)
  have hids : a.id ≠ b.id := by
    rw [haid, hbid]
    decide
  have hlookup := lookup_recordName_furnishedTree a b
  have hrecorda : HasRecord (furnishedTree a b) ["var", "db", "bhyve-vm"] a :=
    ⟨_, _, by rw [hlookup, if_neg hids, if_pos rfl], by
      rw [bytes_file, Record.decode_encode_of_define ha]⟩
  have hrecordb : HasRecord (furnishedTree a b) ["var", "db", "bhyve-vm"] b :=
    ⟨_, _, by rw [hlookup, if_pos rfl], by rw [bytes_file, Record.decode_encode_of_define hb]⟩
  by_cases hma : m.id = a.id
  · rw [hma, hrecorda.machineIn_eq hopen hfit] at hrecord
    exact (Except.ok.inj hrecord).symm
  by_cases hmb : m.id = b.id
  · rw [hmb, hrecordb.machineIn_eq hopen hfit] at hrecord
    obtain rfl := Except.ok.inj hrecord
    exact absurd (hbname.symm.trans hname) (by decide)
  · rw [machineIn_of_absent hopen hfit (by rw [hlookup, if_neg hmb, if_neg hma])] at hrecord
    cases hrecord

/-- The comment of one of two machines is changed, beside a note. -/
theorem program_changes_one_record_guest : ∃ (a b : Machine) (i : Invocation),
    Machine.define Machine.guest = .ok a ∧ Machine.define Machine.neighbor = .ok b ∧
    readArguments "/etc/bhyve-vm.conf" ["modify", "guest", "--comment", "web"] = .invocation i ∧
    i.request.Mutates ∧ (Behavior.plain [] fun _ => False).Calm ∧
    configurationIn [] (furnishedTree a b) i.configuration = .ok {} ∧
    (furnishedTree a b).IsOpen [] "/var/db/bhyve-vm" ["var", "db", "bhyve-vm"] ∧
    DraftsFree (Behavior.plain [] fun _ => False) (furnishedTree a b)
      ["var", "db", "bhyve-vm"] ∧
    ∀ executor : Executor Dialogue,
      (∃ finish t', (Behavior.plain [] fun _ => False).Runs
        (program executor "/etc/bhyve-vm.conf" ["modify", "guest", "--comment", "web"])
          (furnishedTree a b) finish t') ∧
      ∀ finish t', (Behavior.plain [] fun _ => False).Runs
        (program executor "/etc/bhyve-vm.conf" ["modify", "guest", "--comment", "web"])
          (furnishedTree a b) finish t' →
        (finish = .exit failureStatus ∧ ∀ q, t'.lookup q = (furnishedTree a b).lookup q) ∨
        (finish = .exit 0 ∧ ∀ q, t'.lookup q =
          if q = ["var", "db", "bhyve-vm"] ++ [recordName a.id] then
            some (.file (Record.encode { a with comment := "web" }) 0)
          else (furnishedTree a b).lookup q) := by
  obtain ⟨a, ha⟩ : ∃ m, Machine.define Machine.guest = .ok m := ⟨_, rfl⟩
  obtain ⟨b, hb⟩ : ∃ m, Machine.define Machine.neighbor = .ok m := ⟨_, rfl⟩
  have hcalm := Behavior.calm_plain []
  have hopen := isOpen_furnishedTree a b
  have hread : readArguments "/etc/bhyve-vm.conf" ["modify", "guest", "--comment", "web"] =
      .invocation ⟨"/etc/bhyve-vm.conf", .modify "guest" none (some "web")
        ⟨none, none, none, none, []⟩ ⟨none, none⟩ []⟩ := rfl
  have hc : configurationIn [] (furnishedTree a b) "/etc/bhyve-vm.conf" = .ok {} :=
    configurationIn_of_absent (by rw [lookup_furnishedTree]; simp; rfl)
  have hfree : DraftsFree (Behavior.plain [] fun _ => False) (furnishedTree a b)
      ["var", "db", "bhyve-vm"] := draftsFree_furnishedTree _ a b
  have hr : ∀ i, readArguments "/etc/bhyve-vm.conf" ["modify", "guest", "--comment", "web"] =
      .invocation i → i.request.Mutates := by
    intro i hi
    cases hread.symm.trans hi
    rfl
  have hopens : ∀ i c, readArguments "/etc/bhyve-vm.conf" ["modify", "guest", "--comment", "web"] =
      .invocation i → configurationIn [] (furnishedTree a b) i.configuration = .ok c →
      (furnishedTree a b).IsOpen [] c.machineDirectory ["var", "db", "bhyve-vm"] := by
    intro i c hi hci
    cases hread.symm.trans hi
    cases hc.symm.trans hci
    exact hopen
  refine ⟨a, b, _, ha, hb, hread, rfl, hcalm, hc, hopen, hfree, fun executor => ?_⟩
  obtain ⟨hruns, -, hchanges⟩ := program_changes_one_record hcalm hr hopens hfree.plain executor
  refine ⟨hruns, fun finish t' run => ?_⟩
  rcases hchanges finish t' run with
    ⟨hunread, -⟩ | ⟨rfl, hkept⟩ | ⟨rfl, i, c, id, content, hi, hci, heffect, hlookup⟩
  · exact absurd hread (hunread _)
  · exact .inl ⟨rfl, fun q => hkept q (hfree.spared q)⟩
  · cases hread.symm.trans hi
    cases hc.symm.trans hci
    cases heffect with
    | changed asks found operation machine =>
        cases asks
        cases operation
        cases machine
        obtain rfl := eq_kept_of_found ha hb found
        exact .inr ⟨rfl, fun q => hlookup q (hfree.spared q)⟩

end Guestkeeper.CommandLine
