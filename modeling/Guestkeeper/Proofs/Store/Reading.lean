import Guestkeeper.Proofs.Host.Calm
import Guestkeeper.Proofs.Store.Names

set_option autoImplicit false

/-! # Looking machines up

On a calm host, looking machines up leaves the tree as it is, and what is found is decided by the
records in the directory, whatever else is there. The order in which names are listed decides at
most which record is complained about. Each machine that is found is the one that its own record
holds.
-/

namespace Guestkeeper.Store

open Guestkeeper.Host Guestkeeper.Host.FileTree

/-- What a record's file has in it, reported for the identifier. -/
def bytesIn (path : String) (id : Uuid) : Except Cause ByteArray → Except Error ByteArray
  | .ok bytes => .ok bytes
  | .error .notFound => .error (.nonexistent .machine [id.text])
  | .error cause => .error (.io path cause)

/-- The machine in the record of an identifier, or why there is none. -/
def machineIn (s : Store) (current : List String) (t : FileTree) (id : Uuid) :
    Except Error Machine :=
  (bytesIn (s.recordPath id) id (t.read current (s.recordPath id))).bind
    (openRecord (s.recordPath id) id)

theorem machineIn_of_read_eq_ok {s : Store} {current : List String} {t : FileTree} {id : Uuid}
    {bytes : ByteArray} (h : t.read current (s.recordPath id) = .ok bytes) :
    s.machineIn current t id = openRecord (s.recordPath id) id bytes := by
  rw [machineIn, h, bytesIn, Except.bind]

theorem machineIn_of_notFound {s : Store} {current : List String} {t : FileTree} {id : Uuid}
    (h : t.read current (s.recordPath id) = .error .notFound) :
    s.machineIn current t id = .error (.nonexistent .machine [id.text]) := by
  rw [machineIn, h, bytesIn, Except.bind]

/-- A listing of a directory: the machines of all records in it, or why one cannot be read. -/
def Lists (s : Store) (current : List String) (t : FileTree) (place : List String)
    (r : Except Error (List Machine)) : Prop :=
  ∃ names : List String, names.Nodup ∧
    (∀ name, name ∈ names ↔ t.lookup (place ++ [name]) ≠ none) ∧
    r = ((names.filterMap recordId?).mapM (s.machineIn current t)).map
      fun machines => machines.mergeSort listedBefore

/-- What is found under a key: the machine of the identifier that it stands for or, where it
stands for none, the only machine of that name in a listing. -/
def Finds (s : Store) (current : List String) (t : FileTree) (place : List String) (key : String)
    (r : Except Error Machine) : Prop :=
  (∃ id, Uuid.ofText? key = some id ∧ r = s.machineIn current t id) ∨
    (Uuid.ofText? key = none ∧ ∃ listing, Lists s current t place listing ∧
      r = listing.bind fun machines => findNamed machines key)

section Found

variable {s : Store} {current place : List String} {t : FileTree}

theorem openRecord_eq_ok_iff {path : String} {id : Uuid} {bytes : ByteArray} {m : Machine} :
    openRecord path id bytes = .ok m ↔ ∃ decoded, Record.decode bytes = .ok decoded ∧
      decoded.id = id ∧ m = decoded.withSource path := by
  rw [openRecord, Except.bind_eq_ok_iff]
  refine exists_congr fun decoded => and_congr_right fun _ => ?_
  by_cases hid : decoded.id = id
  · rw [if_neg (Decidable.not_not.2 hid)]
    constructor
    · intro h
      exact ⟨hid, (Except.ok.inj h).symm⟩
    · rintro ⟨-, rfl⟩
      rfl
  · rw [if_pos hid]
    constructor
    · intro h
      cases h
    · rintro ⟨h, -⟩
      exact absurd h hid

/-- A record holds the machine that it is named after. -/
theorem id_of_machineIn {id : Uuid} {m : Machine} (h : s.machineIn current t id = .ok m) :
    m.id = id := by
  obtain ⟨bytes, -, h⟩ := Except.bind_eq_ok_iff.1 h
  obtain ⟨decoded, -, hid, rfl⟩ := openRecord_eq_ok_iff.1 h
  exact hid

/-- A listing has the machines of the records, and no others. -/
theorem Lists.mem_iff {machines : List Machine} (hl : Lists s current t place (.ok machines))
    {m : Machine} : m ∈ machines ↔ s.machineIn current t m.id = .ok m ∧
      ∃ name, t.lookup (place ++ [name]) ≠ none ∧ recordId? name = some m.id := by
  obtain ⟨names, -, hnames, hr⟩ := hl
  obtain ⟨found, hfound, rfl⟩ := Except.map_eq_ok_iff.1 hr.symm
  rw [List.mem_mergeSort, Except.mem_iff_of_mapM_eq_ok hfound]
  constructor
  · rintro ⟨id, hid, hin⟩
    obtain ⟨name, hname, hread⟩ := List.mem_filterMap.1 hid
    obtain rfl := id_of_machineIn hin
    exact ⟨hin, name, (hnames name).1 hname, hread⟩
  · rintro ⟨hin, name, hname, hread⟩
    exact ⟨m.id, List.mem_filterMap.2 ⟨name, (hnames name).2 hname, hread⟩, hin⟩

/-- What is found by its name is one of the machines and has that name. -/
theorem mem_of_findNamed {machines : List Machine} {name : String} {m : Machine}
    (h : findNamed machines name = .ok m) : m ∈ machines ∧ m.name = name := by
  rw [findNamed] at h
  split at h
  · cases h
  · next only honly =>
      obtain rfl := Except.ok.inj h
      have hmem : only ∈ machines.filter fun machine => machine.name = name := by
        rw [honly]
        exact List.mem_singleton_self only
      obtain ⟨hmem, hname⟩ := List.mem_filter.1 hmem
      exact ⟨hmem, of_decide_eq_true hname⟩
  · cases h

/-- The only machine of a name is found by it. -/
theorem findNamed_of_only {machines : List Machine} (hnodup : machines.Nodup) {name : String}
    {m : Machine} (hm : m ∈ machines) (hname : m.name = name)
    (honly : ∀ other ∈ machines, other.name = name → other = m) :
    findNamed machines name = .ok m := by
  have hfilter : machines.filter (fun machine => machine.name = name) = [m] := by
    refine List.perm_singleton.1 ((List.perm_ext_iff_of_nodup (hnodup.filter _)
      (List.nodup_singleton m)).2 fun other => ?_)
    rw [List.mem_filter, decide_eq_true_eq, List.mem_singleton]
    constructor
    · rintro ⟨hother, hsame⟩
      exact honly other hother hsame
    · rintro rfl
      exact ⟨hm, hname⟩
  rw [findNamed, hfilter]

theorem findNamed_of_forall_ne {machines : List Machine} {name : String}
    (hnone : ∀ m ∈ machines, m.name ≠ name) :
    findNamed machines name = .error (.nonexistent .machine [name]) := by
  have hfilter : machines.filter (fun machine => machine.name = name) = [] :=
    List.filter_eq_nil_iff.2 fun m hm => by simpa using hnone m hm
  rw [findNamed, hfilter]

/-- What is found is in its own record, and the key stands for it. -/
theorem Finds.machineIn {key : String} {m : Machine} (hf : Finds s current t place key (.ok m)) :
    s.machineIn current t m.id = .ok m ∧
      (Uuid.ofText? key = some m.id ∨ Uuid.ofText? key = none ∧ m.name = key) := by
  rcases hf with ⟨id, hid, hr⟩ | ⟨hnone, listing, hl, hr⟩
  · have hm := id_of_machineIn hr.symm
    rw [hm]
    exact ⟨hr.symm, .inl hid⟩
  · cases listing with
    | error e => cases hr
    | ok machines =>
        obtain ⟨hmem, hname⟩ := mem_of_findNamed hr.symm
        exact ⟨(hl.mem_iff.1 hmem).1, .inr ⟨hnone, hname⟩⟩

end Found

/-! ## The operations -/

section Operations

variable {h : Behavior} {s : Store} {t t' : FileTree} {place : List String} {id : Uuid}
  (hcalm : h.Calm)

include hcalm

theorem runs_readRecord {path : String} {r : Except Error ByteArray}
    (run : h.Runs (readRecord path id).run t r t') :
    r = bytesIn path id (t.read h.current path) ∧ t' = t := by
  obtain ⟨answer, t₁, hread, hrest⟩ := Behavior.runs_bind run
  obtain ⟨rfl, rfl⟩ := Behavior.runs_read hcalm hread
  cases hanswer : t₁.read h.current path with
  | ok bytes =>
      rw [hanswer] at hrest
      exact Behavior.runs_pure hrest
  | error cause =>
      rw [hanswer] at hrest
      cases cause <;> exact Behavior.runs_pure hrest

theorem runs_get {r : Except Error Machine} (run : h.Runs (s.get id).run t r t') :
    r = s.machineIn h.current t id ∧ t' = t := by
  obtain ⟨bytes, hread, rfl⟩ := Behavior.runs_settle run
  obtain ⟨hbytes, rfl⟩ := runs_readRecord hcalm hread
  rw [hbytes]
  exact ⟨rfl, rfl⟩

theorem runs_getAll {ids : List Uuid} {r : Except Error (List Machine)}
    (run : h.Runs (s.getAll ids).run t r t') :
    r = ids.mapM (s.machineIn h.current t) ∧ t' = t := by
  induction ids generalizing r t' with
  | nil => exact Behavior.runs_pure run
  | cons id ids ih =>
      rw [List.mapM_cons]
      rcases Behavior.runs_exceptBind run with ⟨e, hget, rfl⟩ | ⟨m, t₁, hget, hrest⟩
      · obtain ⟨hm, rfl⟩ := runs_get hcalm hget
        rw [← hm]
        exact ⟨rfl, rfl⟩
      · obtain ⟨hm, rfl⟩ := runs_get hcalm hget
        rw [← hm]
        rcases Behavior.runs_exceptBind hrest with ⟨e, hmore, rfl⟩ | ⟨more, t₂, hmore, hdone⟩
        · obtain ⟨hms, rfl⟩ := ih hmore
          rw [← hms]
          exact ⟨rfl, rfl⟩
        · obtain ⟨hms, rfl⟩ := ih hmore
          obtain ⟨rfl, rfl⟩ := Behavior.runs_pure hdone
          rw [← hms]
          exact ⟨rfl, rfl⟩

theorem runs_list (ho : t.IsOpen h.current s.directory place) {r : Except Error (List Machine)}
    (run : h.Runs s.list.run t r t') : Lists s h.current t place r ∧ t' = t := by
  obtain ⟨names, hnames, hnodup, hmem⟩ := ho.list_eq_ok
  have hlisted : ∀ answer t₁, h.Runs (at? s.directory (Files.list s.directory)).run t answer t₁ →
      ∃ found : List String, found.Perm names ∧ answer = .ok found ∧ t₁ = t := by
    intro answer t₁ hlist
    obtain ⟨result, hresult, rfl⟩ := Behavior.runs_at? hlist
    obtain ⟨⟨order, horder, rfl⟩, rfl⟩ := Behavior.runs_list hcalm hresult
    rw [hnames]
    exact ⟨order names, horder names, rfl, rfl⟩
  rcases Behavior.runs_exceptBind run with ⟨e, hlist, rfl⟩ | ⟨found, t₁, hlist, hrest⟩
  · obtain ⟨found, -, hfound, -⟩ := hlisted _ _ hlist
    cases hfound
  · obtain ⟨found, hperm, hfound, rfl⟩ := hlisted _ _ hlist
    obtain rfl := Except.ok.inj hfound
    have hin : ∀ name, name ∈ found ↔ t₁.lookup (place ++ [name]) ≠ none := fun name =>
      hperm.mem_iff.trans (hmem name)
    obtain ⟨machines, hall, rfl⟩ := Behavior.runs_exceptMap hrest
    obtain ⟨hmachines, rfl⟩ := runs_getAll hcalm hall
    rw [hmachines]
    exact ⟨⟨found, hperm.nodup_iff.2 hnodup, hin, rfl⟩, rfl⟩

theorem runs_find (ho : t.IsOpen h.current s.directory place) {key : String}
    {r : Except Error Machine} (run : h.Runs (s.find key).run t r t') :
    Finds s h.current t place key r ∧ t' = t := by
  rw [find] at run
  split at run
  · next id hid =>
      obtain ⟨hr, rfl⟩ := runs_get hcalm run
      exact ⟨.inl ⟨id, hid, hr⟩, rfl⟩
  · next hnone =>
      obtain ⟨listing, hlist, rfl⟩ := Behavior.runs_settle run
      obtain ⟨hl, rfl⟩ := runs_list hcalm ho hlist
      exact ⟨.inr ⟨hnone, listing, hl, rfl⟩, rfl⟩

theorem runs_exists? {answer : Bool} (run : h.Runs (s.exists? id) t answer t') :
    answer = (t.stat h.current (s.recordPath id)).toBool ∧ t' = t :=
  Behavior.runs_isThere hcalm run

theorem runs_exportText {r : Except Error String} (run : h.Runs (s.exportText id).run t r t') :
    r = (s.machineIn h.current t id).map Record.encodeText ∧ t' = t := by
  obtain ⟨m, hget, rfl⟩ := Behavior.runs_exceptMap run
  obtain ⟨hm, rfl⟩ := runs_get hcalm hget
  rw [hm]
  exact ⟨rfl, rfl⟩

theorem runs_exportRecord {r : Except Error ByteArray}
    (run : h.Runs (s.exportRecord id).run t r t') :
    r = (s.machineIn h.current t id).map Record.encode ∧ t' = t := by
  obtain ⟨text, htext, rfl⟩ := Behavior.runs_exceptMap run
  obtain ⟨hr, rfl⟩ := runs_exportText hcalm htext
  rw [hr]
  refine ⟨?_, rfl⟩
  cases s.machineIn h.current t' id <;> rfl

end Operations

end Guestkeeper.Store
