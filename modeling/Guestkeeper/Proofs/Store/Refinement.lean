import Guestkeeper.Proofs.Store.Listing

set_option autoImplicit false

/-! # A store is a finite map

A directory with nothing in it but records stands for a finite map (`Store.Holds`). On a calm host
each call is answered as the map answers it, and leaves the directory standing for the map after
the call. What makes this work is that records are read back as they were written, that the names
of records and the identifiers determine each other, that no draft has a record's name, and that
listings are sorted.
-/

namespace Guestkeeper

open Guestkeeper.Host Guestkeeper.Host.FileTree

namespace Store

/-- The directory has the records of the machines and nothing else. -/
structure Holds (s : Store) (t : FileTree) (place : List String) (r : Registry) : Prop where
  record : ∀ id, t.lookup (place ++ [recordName id]) =
    (r.find? id).map fun m => .file (Record.encode m) 0
  other : ∀ name, (∀ id, name ≠ recordName id) → t.lookup (place ++ [name]) = none
  machine : ∀ m ∈ r.entries, m.Recordable ∧ m.source = some (s.recordPath m.id)

section Holds

variable {s : Store} {current place : List String} {t : FileTree} {r : Registry}

theorem holds_empty (hempty : ∀ name, t.lookup (place ++ [name]) = none) :
    s.Holds t place ∅ :=
  ⟨fun _ => hempty _, fun name _ => hempty name, fun _ hm => absurd hm List.not_mem_nil⟩

theorem Holds.draftsFree (hh : s.Holds t place r) (h : Behavior) : DraftsFree h t place :=
  fun id suffix _ => hh.other _ fun other => temporaryName_ne_recordName id other suffix

theorem Holds.ne_directory (hh : s.Holds t place r) (id : Uuid) :
    t.lookup (place ++ [recordName id]) ≠ some .directory := by
  rw [hh.record]
  cases r.find? id with
  | none => simp
  | some m => simp

theorem Holds.withRecord (hh : s.Holds t place r) {m : Machine} (hm : m.Recordable) :
    s.Holds (withRecord t place m) place (r.put s m).2 := by
  have hlookup : ∀ name, (Store.withRecord t place m).lookup (place ++ [name]) =
      if recordName m.id = name then some (.file (Record.encode m) 0)
        else t.lookup (place ++ [name]) := lookup_put_name t place _ _
  refine ⟨fun id => ?_, fun name hname => ?_, fun other hother => ?_⟩
  · rw [hlookup, Registry.find?_put]
    by_cases hid : m.id = id
    · rw [if_pos (congrArg recordName hid), if_pos hid]
      rfl
    · rw [if_neg fun h => hid (recordName_injective h), if_neg hid, hh.record]
  · rw [hlookup, if_neg fun h => hname m.id h.symm, hh.other name hname]
  · rcases Table.mem_insert_iff.1 hother with rfl | ⟨hother, -⟩
    · exact ⟨⟨hm.name, hm.kinds, hm.volumes⟩, rfl⟩
    · exact hh.machine other hother

theorem Holds.withoutRecord (hh : s.Holds t place r) (id : Uuid) :
    s.Holds (withoutRecord t place id) place (r.without id) := by
  have hlookup : ∀ name, (Store.withoutRecord t place id).lookup (place ++ [name]) =
      if recordName id = name then none else t.lookup (place ++ [name]) :=
    lookup_erase_name t place _
  refine ⟨fun other => ?_, fun name hname => ?_, fun m hm => ?_⟩
  · rw [hlookup, Registry.find?_without]
    by_cases hid : id = other
    · rw [if_pos (congrArg recordName hid), if_pos hid]
      rfl
    · rw [if_neg fun h => hid (recordName_injective h), if_neg hid, hh.record]
  · rw [hlookup, if_neg fun h => hname id h.symm, hh.other name hname]
  · exact hh.machine m (List.mem_of_mem_filter hm)

theorem keepsDirectories_withRecord {m : Machine}
    (hm : t.lookup (place ++ [recordName m.id]) ≠ some .directory) :
    t.KeepsDirectories (withRecord t place m) := by
  refine KeepsDirectories.of_lookup_ne fun q hq => ?_
  rw [withRecord, lookup_put t _ (by simp)] at hq
  split at hq
  · next hqm => exact hqm ▸ hm
  · exact absurd rfl hq

theorem keepsDirectories_withoutRecord {id : Uuid}
    (hid : t.lookup (place ++ [recordName id]) ≠ some .directory) :
    t.KeepsDirectories (withoutRecord t place id) := by
  refine KeepsDirectories.of_lookup_ne fun q hq => ?_
  rw [withoutRecord, lookup_erase t (by simp)] at hq
  split at hq
  · next hqm => exact hqm ▸ hid
  · exact absurd rfl hq

theorem Holds.hasRecord (hh : s.Holds t place r) {m : Machine} (hm : m ∈ r.entries) :
    HasRecord t place { m with source := none } := by
  refine ⟨Record.encode m, 0, ?_, ?_⟩
  · rw [hh.record, Table.find?_of_mem hm]
    rfl
  · rw [bytes_file]
    exact Record.decode_encode (hh.machine m hm).1

theorem Holds.mem_of_lookup (hh : s.Holds t place r) {id : Uuid}
    (hid : t.lookup (place ++ [recordName id]) ≠ none) : ∃ m ∈ r.entries, m.id = id := by
  rw [hh.record, ne_eq, Option.map_eq_none_iff] at hid
  obtain ⟨m, hm⟩ := Option.ne_none_iff_exists'.1 hid
  exact ⟨m, Table.find?_eq_some_iff.1 hm⟩

theorem Holds.orderly (hh : s.Holds t place r) : Orderly t place := by
  intro id hid
  obtain ⟨m, hm, hmid⟩ := hh.mem_of_lookup hid
  exact ⟨{ m with source := none }, hmid, hh.hasRecord hm⟩

theorem Holds.tidy (hh : s.Holds t place r) : Tidy t place := by
  intro name hname
  by_cases hrecord : ∃ id, name = recordName id
  · obtain ⟨id, rfl⟩ := hrecord
    exact wellSpelt_recordName id
  · exact absurd (hh.other name fun id hid => hrecord ⟨id, hid⟩) hname

theorem Holds.kept_eq (hh : s.Holds t place r) {m : Machine} (hm : m ∈ r.entries) :
    Registry.kept s { m with source := none } = m := by
  calc Registry.kept s { m with source := none }
      = { m with source := some (s.recordPath m.id) } := rfl
    _ = { m with source := m.source } := by rw [← (hh.machine m hm).2]
    _ = m := rfl

/-- What is stored in the directory are the machines of the map. -/
theorem Holds.stored_iff (hh : s.Holds t place r) {m : Machine} :
    s.Stored t place m ↔ m ∈ r.entries := by
  constructor
  · rintro ⟨recorded, hrecorded, rfl⟩
    obtain ⟨m, hm, hid⟩ := hh.mem_of_lookup hrecorded.lookup_ne_none
    rw [hrecorded.eq_of_id_eq (hh.hasRecord hm) hid.symm, hh.kept_eq hm]
    exact hm
  · intro hm
    exact ⟨_, hh.hasRecord hm, (hh.kept_eq hm).symm⟩

variable (ho : t.IsOpen current s.directory place) (hfit : s.PathsFit)
  (hh : s.Holds t place r)

include ho hfit hh

/-- The record of an identifier is the one of the machine in the map. -/
theorem Holds.machineIn_eq (id : Uuid) : s.machineIn current t id = r.get id := by
  rw [Registry.get]
  cases hfound : r.find? id with
  | none => exact machineIn_of_absent ho hfit (by rw [hh.record, hfound]; rfl)
  | some m =>
      obtain ⟨hm, hid⟩ := Table.find?_eq_some_iff.1 hfound
      exact (hh.orderly.machineIn_eq_ok_iff ho hfit).2 ⟨hid, hh.stored_iff.2 hm⟩

theorem Holds.stat_eq (id : Uuid) :
    (t.stat current (s.recordPath id)).toBool = r.contains id := by
  have hresolve := ho.resolve_of_checkPath (isName_recordName id) (hfit.record id)
  rw [recordPath_eq, stat_of_resolve hresolve, hh.record, Table.contains]
  cases r.find? id <;> rfl

/-- Every order of the directory's entries gives the same listing. -/
theorem Holds.lists_eq {listing : Except Error (List Machine)}
    (hl : Lists s current t place listing) : listing = .ok r.listing := by
  obtain ⟨machines, rfl, hmem, hascending⟩ := (hh.orderly.lists_iff ho hfit hl).2 hh.tidy
  obtain ⟨hperm, hlisting⟩ := Registry.listing_ascending r
  rw [eq_of_pairwise_precedes hascending hlisting fun m =>
    (hmem m).trans (hh.stored_iff.trans hperm.mem_iff.symm)]

theorem Holds.finds_eq {key : String} {res : Except Error Machine}
    (hf : Finds s current t place key res) : res = r.find key := by
  rcases hf with ⟨id, hid, hres⟩ | ⟨hnone, listing, hl, hres⟩
  · rw [hres, Registry.find, hid, hh.machineIn_eq ho hfit id]
  · rw [hres, Registry.find, hnone, hh.lists_eq ho hfit hl, Except.bind]

end Holds

/-! ## Calls -/

/-- The result and the tree that an operation left are those of the map. -/
structure Meets {α : Type} (s : Store) (current place : List String)
    (outcome : Except Error α × Registry) (res : Except Error α) (t' : FileTree) : Prop where
  result : res = outcome.1
  isOpen : t'.IsOpen current s.directory place
  holds : s.Holds t' place outcome.2

section Calls

variable {h : Behavior} {s : Store} {place : List String} {t t' : FileTree} {r : Registry}
  {m : Machine}

theorem Meets.replying {α : Type} {outcome : Except Error α × Registry} {res : Except Error α}
    (hm : Meets s h.current place outcome res t') (f : α → Reply) :
    Meets s h.current place (Registry.replying f outcome) (res.map f) t' :=
  ⟨congrArg (Except.map f) hm.result, hm.isOpen, hm.holds⟩

/-- On a calm host nothing is in the way but a directory or a text that is no path. -/
theorem not_blockedAt (hcalm : h.Calm) {name : String} {e : Error}
    (hpath : checkPath (Path.join s.directory name) = .ok ())
    (hfree : t.lookup (place ++ [name]) ≠ some .directory) :
    ¬BlockedAt h t s.directory place name e := by
  rintro ⟨-, ⟨q, hrefused⟩ | hbad | hdirectory⟩
  · exact hcalm q hrefused
  · exact hbad hpath
  · exact hfree hdirectory

variable (hcalm : h.Calm) (ho : t.IsOpen h.current s.directory place) (hfit : s.PathsFit)
  (hh : s.Holds t place r)

include ho hh in
theorem meets_unchanged {α : Type} (res : Except Error α) :
    Meets s h.current place (res, r) res t := ⟨rfl, ho, hh⟩

include hcalm ho hfit hh

theorem Holds.meets_put (hm : m.Recordable) {res : Except Error Machine}
    (ends : PutEnds h s t place m res t') : Meets s h.current place (r.put s m) res t' := by
  have hfree := hh.draftsFree h
  cases ends with
  | written swept =>
      rw [swept.eq_of_free hfree]
      exact ⟨rfl, ho.mono (keepsDirectories_withRecord (hh.ne_directory m.id)), hh.withRecord hm⟩
  | blocked suffix drawn hblocked =>
      have hdraft : t.lookup (place ++ [temporaryName m.id suffix]) ≠ some .directory := by
        rw [hfree m.id suffix drawn]
        simp
      rcases hblocked with hblocked | hblocked
      · have hpath := hfit.draft m.id suffix (h.isSuffix_of_draws drawn)
        exact absurd hblocked (not_blockedAt hcalm hpath hdraft)
      · exact absurd hblocked (not_blockedAt hcalm (hfit.record m.id) (hh.ne_directory m.id))

/-- A name that others have is refused, and any other is stored. -/
theorem Holds.meets_guarded (hm : m.Recordable) {others : List Machine → List Machine}
    {res : Except Error Machine} (ends : GuardedEnds h s t place others m res t') {taken : Prop}
    [Decidable taken] (htaken : taken ↔ ∃ other ∈ others r.listing, other.name = m.name) :
    Meets s h.current place
      (if taken then (.error (.duplicate .machineName m.name), r) else r.put s m) res t' := by
  cases ends with
  | unlisted listing => cases hh.lists_eq ho hfit listing
  | taken listing hother =>
      obtain rfl := Except.ok.inj (hh.lists_eq ho hfit listing)
      rw [if_pos (htaken.2 hother)]
      exact meets_unchanged ho hh _
  | put listing hfree ends =>
      obtain rfl := Except.ok.inj (hh.lists_eq ho hfit listing)
      have hno : ¬taken := by
        rw [htaken]
        rintro ⟨other, hother, hname⟩
        exact hfree other hother hname
      rw [if_neg hno]
      exact hh.meets_put hcalm ho hfit hm ends

theorem Holds.meets_insert (hm : m.Recordable) {res : Except Error Machine}
    (ends : InsertEnds h s t place m res t') :
    Meets s h.current place (r.insert s m) res t' := by
  rw [Registry.insert]
  cases ends with
  | present there =>
      rw [hh.stat_eq ho hfit] at there
      rw [if_pos there]
      exact meets_unchanged ho hh _
  | guarded absent ends =>
      rw [hh.stat_eq ho hfit] at absent
      rw [if_neg (Bool.eq_false_iff.1 absent)]
      refine hh.meets_guarded hcalm ho hfit hm ends ?_
      simp only [Registry.listing, List.mem_mergeSort]

theorem Holds.meets_import {bytes : ByteArray} {replacing : Bool} {res : Except Error Machine}
    (ends : ImportEnds h s t place bytes replacing res t') :
    Meets s h.current place (r.importRecord s bytes replacing) res t' := by
  rw [Registry.importRecord]
  cases ends with
  | unread _ unread =>
      rw [unread]
      exact meets_unchanged ho hh _
  | inserted read ends =>
      rw [read]
      exact hh.meets_insert hcalm ho hfit (Record.recordable_of_decode read).2 ends
  | replaced read ends =>
      rw [read]
      refine hh.meets_guarded hcalm ho hfit (Record.recordable_of_decode read).2 ends ?_
      simp only [othersThan, Registry.listing, List.mem_filter, List.mem_mergeSort,
        decide_eq_true_eq, and_assoc]

omit hcalm in
theorem Holds.meets_delete {id : Uuid} {res : Except Error Unit}
    (ends : DeleteEnds h s t id res t') :
    Meets s h.current place (r.delete id) res t' := by
  have hremove : t.remove h.current (s.recordPath id) =
      if r.contains id then .ok (Store.withoutRecord t place id) else .error .notFound := by
    rw [recordPath_eq, remove_of_resolve
      (ho.resolve_of_checkPath (isName_recordName id) (hfit.record id)), hh.record,
      Table.contains]
    cases r.find? id <;> rfl
  rw [Registry.delete]
  by_cases hthere : r.contains id
  · rw [if_pos hthere] at hremove ⊢
    cases ends with
    | removed made =>
        rw [hremove] at made
        obtain rfl := Except.ok.inj made
        exact ⟨rfl, ho.mono (keepsDirectories_withoutRecord (hh.ne_directory id)),
          hh.withoutRecord id⟩
    | absent refused =>
        rw [hremove] at refused
        cases refused
    | refused _ refused =>
        rw [hremove] at refused
        cases refused
  · rw [if_neg hthere] at hremove ⊢
    cases ends with
    | removed made =>
        rw [hremove] at made
        cases made
    | absent refused => exact meets_unchanged ho hh _
    | refused other refused =>
        rw [hremove] at refused
        exact absurd (Except.error.inj refused).symm other

/-- **One call** is answered as the map answers it, and the map after it is the one that the
directory stands for then. -/
theorem Holds.meets_make {call : Call} {res : Except Error Reply}
    (run : h.Runs (call.make s).run t res t') :
    Meets s h.current place (r.answer s call) res t' := by
  have hplain := (hh.draftsFree h).plain
  cases call with
  | insert m arises =>
      obtain ⟨res, hres, rfl⟩ := Behavior.runs_exceptMap run
      exact (hh.meets_insert hcalm ho hfit (Record.recordable_of_arises arises)
        (runs_insert hcalm ho hplain hres)).replying _
  | put m arises =>
      obtain ⟨res, hres, rfl⟩ := Behavior.runs_exceptMap run
      exact (hh.meets_put hcalm ho hfit (Record.recordable_of_arises arises)
        (runs_put hcalm ho hplain hres)).replying _
  | delete id =>
      obtain ⟨res, hres, rfl⟩ := Behavior.runs_exceptMap run
      exact (hh.meets_delete ho hfit (runs_delete hcalm hres)).replying _
  | importRecord bytes replacing =>
      obtain ⟨res, hres, rfl⟩ := Behavior.runs_exceptMap run
      exact (hh.meets_import hcalm ho hfit (runs_importRecord hcalm ho hplain hres)).replying _
  -- these calls leave the directory and the map as they are
  | get id =>
      obtain ⟨res, hres, rfl⟩ := Behavior.runs_exceptMap run
      obtain ⟨hget, rfl⟩ := runs_get hcalm hres
      rw [hget, hh.machineIn_eq ho hfit]
      exact (meets_unchanged ho hh _).replying _
  | find key =>
      obtain ⟨res, hres, rfl⟩ := Behavior.runs_exceptMap run
      obtain ⟨hfind, rfl⟩ := runs_find hcalm ho hres
      rw [hh.finds_eq ho hfit hfind]
      exact (meets_unchanged ho hh _).replying _
  | list =>
      obtain ⟨res, hres, rfl⟩ := Behavior.runs_exceptMap run
      obtain ⟨hlist, rfl⟩ := runs_list hcalm ho hres
      rw [hh.lists_eq ho hfit hlist]
      exact meets_unchanged ho hh _
  | exportRecord id =>
      obtain ⟨res, hres, rfl⟩ := Behavior.runs_exceptMap run
      obtain ⟨hexport, rfl⟩ := runs_exportRecord hcalm hres
      rw [hexport, hh.machineIn_eq ho hfit]
      have hmap : ((r.get id).map Record.encode).map Reply.record
          = (r.get id).map fun m => .record (Record.encode m) := by
        cases r.get id <;> rfl
      rw [hmap]
      exact (meets_unchanged ho hh (r.get id)).replying _
  | exists? id =>
      obtain ⟨res, hres, rfl⟩ := Behavior.runs_exceptMap run
      obtain ⟨known, hknown, rfl⟩ := Behavior.runs_lift hres
      obtain ⟨hexists, rfl⟩ := runs_exists? hcalm hknown
      rw [hexists, hh.stat_eq ho hfit]
      exact meets_unchanged ho hh _

/-- Calls that are made one after another are answered as the map answers them. -/
theorem Holds.meets_makeAll {calls : List Call} {answers : List (Except Error Reply)}
    (run : h.Runs (makeAll s calls) t answers t') :
    answers = (r.answerAll s calls).1 ∧ t'.IsOpen h.current s.directory place ∧
      s.Holds t' place (r.answerAll s calls).2 := by
  induction calls generalizing t r answers with
  | nil =>
      obtain ⟨rfl, rfl⟩ := Behavior.runs_pure run
      exact ⟨rfl, ho, hh⟩
  | cons call calls ih =>
      obtain ⟨first, t₁, hfirst, hrest⟩ := Behavior.runs_bind run
      obtain ⟨more, hmore, rfl⟩ := Behavior.runs_map hrest
      have hmeets := hh.meets_make hcalm ho hfit hfirst
      obtain ⟨hanswers, hopen, hholds⟩ := ih hmeets.isOpen hmeets.holds hmore
      rw [hmeets.result, hanswers]
      exact ⟨rfl, hopen, hholds⟩

end Calls

/-- Directories that stand for the same map have the same records in them. -/
theorem Holds.lookup_eq {s : Store} {t t' : FileTree} {place : List String} {r r' : Registry}
    (hh : s.Holds t place r) (hh' : s.Holds t' place r') {id : Uuid}
    (hsame : r'.find? id = r.find? id) :
    t'.lookup (place ++ [recordName id]) = t.lookup (place ++ [recordName id]) := by
  rw [hh.record, hh'.record, hsame]

/-- **A store is a finite map from identifiers to machines.** On a calm host, calls on a directory
that was empty can be made, and all of them are answered as the map answers them. At any time the
directory has exactly the records of the map's machines, and what is listed are these machines in
strictly ascending order. Another call changes the record of the identifier that it is about, if
any, and it changes nothing if it fails. -/
theorem makeAll_refines {h : Behavior} {s : Store} {t : FileTree} {place : List String}
    (hcalm : h.Calm) (ho : t.IsOpen h.current s.directory place) (hfit : s.PathsFit)
    (hempty : ∀ name, t.lookup (place ++ [name]) = none) (calls : List Call) :
    (∃ answers t', h.Runs (makeAll s calls) t answers t') ∧
      ∀ answers t', h.Runs (makeAll s calls) t answers t' → ∃ r : Registry,
        (answers, r) = Registry.answerAll s ∅ calls ∧ s.Holds t' place r ∧
        r.listing.Perm r.entries ∧
        (r.listing.Pairwise fun a b => compare a.name b.name = .lt ∨
          (a.name = b.name ∧ compare a.id b.id = .lt)) ∧
        ∀ call res t'', h.Runs (call.make s).run t' res t'' → res = (r.answer s call).1 ∧
          (∀ id, call.target? ≠ some id →
            t''.lookup (place ++ [recordName id]) = t'.lookup (place ++ [recordName id])) ∧
          ∀ e, res = .error e → ∀ name, t''.lookup (place ++ [name]) = t'.lookup (place ++ [name])
    := by
  refine ⟨Behavior.exists_runs _ _, fun answers t' run => ?_⟩
  obtain ⟨hanswers, hopen, hholds⟩ := (holds_empty hempty).meets_makeAll hcalm ho hfit run
  obtain ⟨hperm, hascending⟩ := Registry.listing_ascending (Registry.answerAll s ∅ calls).2
  refine ⟨_, Prod.ext hanswers rfl, hholds, hperm, hascending, fun call res t'' hcall => ?_⟩
  have hmeets := hholds.meets_make hcalm hopen hfit hcall
  obtain ⟨hothers, hfailed⟩ := Registry.answer_keeps s (Registry.answerAll s ∅ calls).2 call
  refine ⟨hmeets.result, fun id hid => hholds.lookup_eq hmeets.holds (hothers id hid),
    fun e he name => ?_⟩
  have hkept := hfailed e (hmeets.result.symm.trans he)
  by_cases hname : ∃ id, name = recordName id
  · obtain ⟨id, rfl⟩ := hname
    exact hholds.lookup_eq hmeets.holds (by rw [hkept])
  · have hno : ∀ id, name ≠ recordName id := fun id h => hname ⟨id, h⟩
    rw [hholds.other name hno, hmeets.holds.other name hno]

theorem makeAll_refines_guest : ∃ (m : Machine) (arises : Record.Arises m) (h : Behavior),
    Machine.define Machine.guest = .ok m ∧ h = Behavior.plain [] (fun _ => False) ∧ h.Calm ∧
    (default : FileTree).IsOpen h.current "/" [] ∧ PathsFit ⟨"/"⟩ ∧
    (∀ name, (default : FileTree).lookup ([] ++ [name]) = none) ∧
    ∀ answers t', h.Runs (makeAll ⟨"/"⟩ [.insert m arises, .insert m arises, .list]) default
      answers t' → ∃ r : Registry, (answers, r) =
        Registry.answerAll ⟨"/"⟩ ∅ [.insert m arises, .insert m arises, .list] ∧
        Holds ⟨"/"⟩ t' [] r := by
  have hcalm := Behavior.calm_plain []
  have hopen := isOpen_root default []
  refine ⟨_, ⟨_, [], .inl ⟨Machine.guest, rfl⟩, rfl⟩, _, rfl, rfl, hcalm, hopen, pathsFit_root,
    lookup_default, ?_⟩
  intro answers t' run
  obtain ⟨r, hanswers, hholds, -⟩ :=
    (makeAll_refines hcalm hopen pathsFit_root lookup_default _).2 answers t' run
  exact ⟨r, hanswers, hholds⟩

end Store

end Guestkeeper
