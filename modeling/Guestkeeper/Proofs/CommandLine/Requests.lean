import Guestkeeper.CommandLine.Run
import Guestkeeper.Proofs.Machine.History
import Guestkeeper.Proofs.Store.Writing

set_option autoImplicit false

/-! # What requests do to the store

A request that changes a machine looks it up, makes a new machine of it by one operation and
writes that back. Whatever else can fail does so before anything is written. The ways in which a
request can end are listed once, each with what was found out on the way.
-/

namespace Guestkeeper.CommandLine

open Guestkeeper.Host Guestkeeper.Host.FileTree Guestkeeper.Store

/-- The machine that a request is about to change, and the operation that it asks for. -/
def Request.change? : Request → Option (String × (Machine → Except Failure Operation))
  | .modify key name comment cpu memory flags => some (key, fun machine =>
    (changes machine name comment cpu memory flags).map .apply)
  | .addDevice key device => some (key, fun _ => device.addition.map .addDevice)
  | .deleteDevices key slots => some (key, fun _ => .ok (.deleteDevices slots))
  | .addBoot key boot replace => some (key, fun _ => .ok (.mergeBoots [boot] replace))
  | .deleteBoots key names => some (key, fun _ => .ok (.removeBoots names))
  | _ => none

/-- Requests that may change the store. -/
def Request.Mutates (r : Request) : Prop :=
  match r with
  | .define .. | .delete _ | .readIn .. => True
  | _ => r.change?.isSome = true

/-- The machine that an operation makes, or the failure that is reported. -/
def operate (m : Machine) (operation : Except Failure Operation) : Except Failure Machine :=
  operation.bind fun op => (m.perform op).mapError .error

/-- The machine that is defined, or the failure that is reported. -/
def defineMachine (d : Except Failure Definition) : Except Failure Machine :=
  d.bind fun d => (Machine.define d).mapError .error

/-- How the program ends after the last operation of the library. -/
def finished {α : Type} (result : Except Error α) : Except Failure Finish :=
  (result.mapError .error).map fun _ => .exit 0

/-- What is done to define a machine when its identifier is drawn. -/
def defining (s : Store) (definition : Except Failure Definition) : Act Dialogue Finish := do
  let d ← given definition
  let machine ← settled (Machine.define d)
  let stored ← act (s.insert machine)
  printLine stored.id.text
  return .exit 0

theorem operate_eq_ok_iff {m m' : Machine} {operation : Except Failure Operation} :
    operate m operation = .ok m' ↔ ∃ op, operation = .ok op ∧ m.perform op = .ok m' := by
  refine Except.bind_eq_ok_iff.trans ?_
  simp only [Except.mapError_eq_ok_iff]

theorem defineMachine_eq_ok_iff {definition : Except Failure Definition} {m : Machine} :
    defineMachine definition = .ok m ↔ ∃ d, definition = .ok d ∧ Machine.define d = .ok m := by
  refine Except.bind_eq_ok_iff.trans ?_
  simp only [Except.mapError_eq_ok_iff]

theorem operate_addDevice {m : Machine} {a : Addition} :
    operate m (.ok (.addDevice a)) = ((m.addDevice a).mapError .error).map Prod.fst := by
  show ((m.addDevice a).map Prod.fst).mapError Failure.error = _
  cases m.addDevice a <;> rfl

theorem finished_eq_ok {α : Type} {result : Except Error α} {finish : Finish}
    (h : finished result = .ok finish) : finish = .exit 0 ∧ ∃ a, result = .ok a := by
  obtain ⟨a, ha, rfl⟩ := Except.map_eq_ok_iff.1 h
  exact ⟨rfl, a, Except.mapError_eq_ok_iff.1 ha⟩

theorem finished_eq_error {α : Type} {result : Except Error α} {failure : Failure}
    (h : finished result = .error failure) : ∃ e, result = .error e := by
  cases result with
  | ok a => cases h
  | error e => exact ⟨e, rfl⟩

/-! ## Ends -/

section Ends

variable (h : Behavior) (s : Store) (t : FileTree) (place : List String)

/-- How a request to define a machine can end, once its identifier is drawn. -/
inductive DefineEnds (definition : Except Failure Definition) :
    Except Failure Finish → FileTree → Prop
  | undefined {failure : Failure} (refused : defineMachine definition = .error failure) :
      DefineEnds definition (.error failure) t
  | inserted {m : Machine} {result : Except Error Machine} {t' : FileTree}
      (machine : defineMachine definition = .ok m) (ends : InsertEnds h s t place m result t') :
      DefineEnds definition (finished result) t'

/-- How a request to change the machine of a key can end. -/
inductive ChangeEnds (key : String) (change : Machine → Except Failure Operation) :
    Except Failure Finish → FileTree → Prop
  | unfound {e : Error} (found : Finds s h.current t place key (.error e)) :
      ChangeEnds key change (.error (.error e)) t
  | refused {m : Machine} {failure : Failure} (found : Finds s h.current t place key (.ok m))
      (refused : operate m (change m) = .error failure) : ChangeEnds key change (.error failure) t
  | put {m m' : Machine} {result : Except Error Machine} {t' : FileTree}
      (found : Finds s h.current t place key (.ok m)) (machine : operate m (change m) = .ok m')
      (ends : PutEnds h s t place m' result t') : ChangeEnds key change (finished result) t'

/-- How a request that may change the store can end. -/
inductive RequestEnds : Request → Except Failure Finish → FileTree → Prop
  | define {name comment : String} {cpu : TopologyRequest} {memory : MemoryRequest}
      {flags : List String} {res : Except Failure Finish} {t' : FileTree} (id : Uuid)
      (ends : DefineEnds h s t place (definition id name comment cpu memory flags) res t') :
      RequestEnds (.define name comment cpu memory flags) res t'
  | change {r : Request} {key : String} {change : Machine → Except Failure Operation}
      {res : Except Failure Finish} {t' : FileTree} (asks : r.change? = some (key, change))
      (ends : ChangeEnds h s t place key change res t') : RequestEnds r res t'
  | unfound {key : String} {e : Error} (found : Finds s h.current t place key (.error e)) :
      RequestEnds (.delete key) (.error (.error e)) t
  | delete {key : String} {m : Machine} {result : Except Error Unit} {t' : FileTree}
      (found : Finds s h.current t place key (.ok m)) (ends : DeleteEnds h s t m.id result t') :
      RequestEnds (.delete key) (finished result) t'
  | unread {file : String} {replace : Bool} {cause : Cause}
      (unread : t.read h.current file = .error cause) :
      RequestEnds (.readIn file replace) (.error (.during ("reading " ++ file) (.host cause))) t
  | readIn {file : String} {replace : Bool} {bytes : ByteArray} {result : Except Error Machine}
      {t' : FileTree} (read : t.read h.current file = .ok bytes)
      (ends : ImportEnds h s t place bytes replace result t') :
      RequestEnds (.readIn file replace) (finished result) t'

end Ends

/-! ## Steps -/

section Steps

variable {h : Behavior} {t t' : FileTree} {α : Type}

theorem runs_act {x : ExceptT Error Dialogue α} {res : Except Failure α}
    (run : h.Runs (act x).run t res t') :
    ∃ result, h.Runs x.run t result t' ∧ res = result.mapError .error := Behavior.runs_map run

theorem runs_given {x res : Except Failure α}
    (run : h.Runs (given x : Act Dialogue α).run t res t') : res = x ∧ t' = t :=
  Behavior.runs_pure run

theorem runs_attempt {activity : String} {x : Dialogue (Except Cause α)} {res : Except Failure α}
    (run : h.Runs (attempt activity x).run t res t') :
    ∃ result, h.Runs x t result t' ∧
      res = result.mapError fun cause => .during activity (.host cause) := Behavior.runs_map run

/-- What is there already is looked at before the program goes on. -/
theorem runs_givenBind {β : Type} {x : Except Failure α} {f : α → Act Dialogue β}
    {res : Except Failure β} (run : h.Runs (given x >>= f).run t res t') :
    (∃ failure, x = .error failure ∧ res = .error failure ∧ t' = t) ∨
      ∃ a, x = .ok a ∧ h.Runs (f a).run t res t' := by
  rcases Behavior.runs_exceptBind run with ⟨failure, hx, rfl⟩ | ⟨a, t₁, hx, hf⟩
  · obtain ⟨hfailed, rfl⟩ := runs_given hx
    exact .inl ⟨failure, hfailed.symm, rfl, rfl⟩
  · obtain ⟨hok, rfl⟩ := runs_given hx
    exact .inr ⟨a, hok.symm, hf⟩

/-- The last operation of the library is followed by nothing that could fail. -/
theorem runs_lastAct {x : ExceptT Error Dialogue α} {f : α → Act Dialogue Finish}
    (hf : ∀ a t₁ res₁ t₂, h.Runs (f a).run t₁ res₁ t₂ → res₁ = .ok (.exit 0) ∧ t₂ = t₁)
    {res : Except Failure Finish} (run : h.Runs (act x >>= f).run t res t') :
    ∃ result, h.Runs x.run t result t' ∧ res = finished result := by
  rcases Behavior.runs_exceptBind run with ⟨failure, hx, rfl⟩ | ⟨a, t₁, hx, hrest⟩
  · obtain ⟨result, hresult, hfailure⟩ := runs_act hx
    refine ⟨result, hresult, ?_⟩
    rw [finished, ← hfailure]
    rfl
  · obtain ⟨result, hresult, ha⟩ := runs_act hx
    obtain ⟨rfl, rfl⟩ := hf a _ _ _ hrest
    refine ⟨result, hresult, ?_⟩
    rw [finished, ← ha]
    rfl

/-- The end of a request: a line is printed, and the program ends well. -/
theorem runs_printed (hcalm : h.Calm) {text : String} {res : Except Failure Finish}
    (run : h.Runs (printLine text >>= fun _ => pure (.exit 0) : Act Dialogue Finish).run t res t') :
    res = .ok (.exit 0) ∧ t' = t := by
  obtain ⟨result, hprint, rfl⟩ := Behavior.runs_exceptMap run
  obtain ⟨_, hprinted, rfl⟩ := Behavior.runs_lift hprint
  exact ⟨rfl, Behavior.runs_print hcalm hprinted⟩

theorem runs_exit {res : Except Failure Finish}
    (run : h.Runs (pure (.exit 0) : Act Dialogue Finish).run t res t') :
    res = .ok (.exit 0) ∧ t' = t := Behavior.runs_pure run

end Steps

/-! ## Requests -/

section Requests

variable {h : Behavior} {s : Store} {t t' : FileTree} {place : List String}
  (hcalm : h.Calm) (ho : t.IsOpen h.current s.directory place) (hplain : DraftsPlain h t place)

include hcalm ho

/-- A machine is found, or the failure to find it is the end. -/
theorem runs_findBind {key : String} {f : Machine → Act Dialogue Finish}
    {res : Except Failure Finish} (run : h.Runs (act (s.find key) >>= f).run t res t') :
    (∃ e, Finds s h.current t place key (.error e) ∧ res = .error (.error e) ∧ t' = t) ∨
      ∃ m, Finds s h.current t place key (.ok m) ∧ h.Runs (f m).run t res t' := by
  rcases Behavior.runs_exceptBind run with ⟨failure, hact, rfl⟩ | ⟨m, t₁, hact, hf⟩
  · obtain ⟨result, hfind, hresult⟩ := runs_act hact
    obtain ⟨hfound, rfl⟩ := runs_find hcalm ho hfind
    cases result with
    | error e =>
        obtain rfl : failure = .error e := Except.error.inj hresult
        exact .inl ⟨e, hfound, rfl, rfl⟩
    | ok m => cases hresult
  · obtain ⟨result, hfind, hresult⟩ := runs_act hact
    obtain ⟨hfound, rfl⟩ := runs_find hcalm ho hfind
    obtain rfl := Except.mapError_eq_ok_iff.1 hresult.symm
    exact .inr ⟨m, hfound, hf⟩

include hplain

/-- A machine is found, changed and written back. -/
theorem runs_updating {key : String} {change : Machine → Except Failure Operation}
    {make : Machine → Except Failure Machine} (hmake : ∀ m, make m = operate m (change m))
    {res : Except Failure Finish}
    (run : h.Runs (update s key make >>= fun _ => pure (.exit 0) : Act Dialogue Finish).run
      t res t') : ChangeEnds h s t place key change res t' := by
  simp only [update, bind_assoc, pure_bind] at run
  rcases runs_findBind hcalm ho run with ⟨e, hfound, rfl, rfl⟩ | ⟨m, hfound, hgiven⟩
  · exact .unfound hfound
  rcases runs_givenBind hgiven with ⟨failure, hrefused, rfl, rfl⟩ | ⟨m', hm', hput⟩
  · exact .refused hfound ((hmake m).symm.trans hrefused)
  obtain ⟨result, hwritten, rfl⟩ := runs_lastAct (fun _ _ _ _ hrest => runs_exit hrest) hput
  exact .put hfound ((hmake m).symm.trans hm') (runs_put hcalm ho hplain hwritten)

theorem runs_addDevice {executor : Executor Dialogue} {c : Configuration} {key : String}
    {device : DeviceRequest} {res : Except Failure Finish}
    (run : h.Runs (perform executor c s (.addDevice key device)).run t res t') :
    ChangeEnds h s t place key (fun _ => device.addition.map .addDevice) res t' := by
  rcases runs_findBind hcalm ho run with ⟨e, hfound, rfl, rfl⟩ | ⟨m, hfound, hgiven⟩
  · exact .unfound hfound
  rcases runs_givenBind hgiven with ⟨failure, hrefused, rfl, rfl⟩ | ⟨a, ha, hsettled⟩
  · refine .refused hfound ?_
    rw [hrefused]
    rfl
  rcases runs_givenBind hsettled with ⟨failure, hrefused, rfl, rfl⟩ | ⟨⟨m', slot⟩, hm', hput⟩
  · refine .refused hfound ?_
    rw [ha, Except.map, operate_addDevice, hrefused]
    rfl
  obtain ⟨result, hwritten, rfl⟩ :=
    runs_lastAct (fun _ _ _ _ hrest => runs_printed hcalm hrest) hput
  refine .put hfound ?_ (runs_put hcalm ho hplain hwritten)
  rw [ha, Except.map, operate_addDevice, hm']
  rfl

theorem runs_defining {definition : Except Failure Definition} {res : Except Failure Finish}
    (run : h.Runs (defining s definition).run t res t') :
    DefineEnds h s t place definition res t' := by
  rcases runs_givenBind run with ⟨failure, hrefused, rfl, rfl⟩ | ⟨d, hd, hsettled⟩
  · refine .undefined ?_
    rw [hrefused]
    rfl
  rcases runs_givenBind hsettled with ⟨failure, hrefused, rfl, rfl⟩ | ⟨m, hm, hinsert⟩
  · refine .undefined ?_
    rw [hd]
    exact hrefused
  obtain ⟨result, hinserted, rfl⟩ :=
    runs_lastAct (fun _ _ _ _ hrest => runs_printed hcalm hrest) hinsert
  refine .inserted ?_ (runs_insert hcalm ho hplain hinserted)
  rw [hd]
  exact hm

/-- A request that may change the store ends in one of the listed ways. -/
theorem runs_perform {executor : Executor Dialogue} {c : Configuration} {r : Request}
    (hr : r.Mutates) {res : Except Failure Finish}
    (run : h.Runs (perform executor c s r).run t res t') : RequestEnds h s t place r res t' := by
  cases r with
  | define name comment cpu memory flags =>
      rcases Behavior.runs_exceptBind run with ⟨failure, hid, rfl⟩ | ⟨id, t₁, hid, hdefining⟩
      -- drawing an identifier does not fail
      · obtain ⟨_, -, hok⟩ := Behavior.runs_lift hid
        cases hok
      · obtain ⟨_, hdrawn, -⟩ := Behavior.runs_lift hid
        obtain rfl := Behavior.runs_freshId hcalm hdrawn
        exact .define id (runs_defining hcalm ho hplain hdefining)
  | delete key =>
      rcases runs_findBind hcalm ho run with ⟨e, hfound, rfl, rfl⟩ | ⟨m, hfound, hdelete⟩
      · exact .unfound hfound
      · obtain ⟨result, hdeleted, rfl⟩ :=
          runs_lastAct (fun _ _ _ _ hrest => runs_exit hrest) hdelete
        exact .delete hfound (runs_delete hcalm hdeleted)
  | readIn file replace =>
      rcases Behavior.runs_exceptBind run with ⟨failure, hread, rfl⟩ | ⟨bytes, t₁, hread, himport⟩
      · obtain ⟨answer, hanswer, hfailure⟩ := runs_attempt hread
        obtain ⟨hbytes, rfl⟩ := Behavior.runs_read hcalm hanswer
        cases answer with
        | ok bytes => cases hfailure
        | error cause =>
            obtain rfl := Except.error.inj hfailure
            exact .unread hbytes.symm
      · obtain ⟨answer, hanswer, hok⟩ := runs_attempt hread
        obtain ⟨hbytes, rfl⟩ := Behavior.runs_read hcalm hanswer
        obtain rfl := Except.mapError_eq_ok_iff.1 hok.symm
        obtain ⟨result, himported, rfl⟩ :=
          runs_lastAct (fun _ _ _ _ hrest => runs_printed hcalm hrest) himport
        exact .readIn hbytes.symm (runs_importRecord hcalm ho hplain himported)
  -- the other requests read a machine, change it and write it back
  | modify key name comment cpu memory flags =>
      refine .change rfl (runs_updating hcalm ho hplain (fun m => ?_) run)
      cases changes m name comment cpu memory flags <;> rfl
  | addDevice key device => exact .change rfl (runs_addDevice hcalm ho hplain run)
  | deleteDevices key slots =>
      exact .change rfl (runs_updating hcalm ho hplain (fun m => rfl) run)
  | addBoot key boot replace =>
      exact .change rfl (runs_updating hcalm ho hplain (fun m => rfl) run)
  | deleteBoots key names =>
      exact .change rfl (runs_updating hcalm ho hplain (fun m => rfl) run)
  | _ => cases hr

end Requests

end Guestkeeper.CommandLine
