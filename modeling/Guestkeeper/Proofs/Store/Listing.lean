import Guestkeeper.Proofs.Store.Registry
import Guestkeeper.Proofs.Store.Writing

set_option autoImplicit false

/-! # Listings of directories with other files

A store's directory may have other files beside the records. They are passed over as long as no
identifier can be read from their names. But an identifier can be read from more names than the
one of its record: with capitals, without hyphens, in braces or as a URN. A file with such a name
stands for its machine once more, whose record then is listed twice or, where there is none, is
missed. So a directory is listed as its records are exactly when no name in it is of this sort.
-/

namespace Guestkeeper.Store

open Guestkeeper.Host Guestkeeper.Host.FileTree

/-! ## Records in a directory -/

/-- If the name is read as that of a record, it is the name of that record. Other names of this
sort are misspelt. -/
def WellSpelt (name : String) : Prop := ∀ id, recordId? name = some id → name = recordName id

/-- No name in the directory is misspelt. -/
def Tidy (t : FileTree) (place : List String) : Prop :=
  ∀ name, t.lookup (place ++ [name]) ≠ none → WellSpelt name

/-- The machine's record is in the directory and is read as this machine. -/
def HasRecord (t : FileTree) (place : List String) (m : Machine) : Prop :=
  ∃ data hole, t.lookup (place ++ [recordName m.id]) = some (.file data hole) ∧
    Record.decode (Content.file data hole).bytes = .ok m

/-- Everything with the name of a record is the record of the machine that it is named after. -/
def Orderly (t : FileTree) (place : List String) : Prop :=
  ∀ id, t.lookup (place ++ [recordName id]) ≠ none → ∃ m, m.id = id ∧ HasRecord t place m

/-- The store has the machine in the directory. It knows the path of its record. -/
def Stored (s : Store) (t : FileTree) (place : List String) (m : Machine) : Prop :=
  ∃ recorded, HasRecord t place recorded ∧ m = Registry.kept s recorded

section Records

variable {s : Store} {current place : List String} {t : FileTree}
  (ho : t.IsOpen current s.directory place) (hfit : s.PathsFit)

theorem HasRecord.lookup_ne_none {m : Machine} (hm : HasRecord t place m) :
    t.lookup (place ++ [recordName m.id]) ≠ none := by
  obtain ⟨data, hole, hfile, -⟩ := hm
  rw [hfile]
  exact Option.some_ne_none _

/-- There is one record of an identifier, and it holds one machine. -/
theorem HasRecord.eq_of_id_eq {a b : Machine} (ha : HasRecord t place a) (hb : HasRecord t place b)
    (hid : a.id = b.id) : a = b := by
  obtain ⟨data, hole, hfile, hdecode⟩ := ha
  obtain ⟨data', hole', hfile', hdecode'⟩ := hb
  rw [hid, hfile'] at hfile
  rw [Option.some.inj hfile, hdecode] at hdecode'
  exact Except.ok.inj hdecode'

theorem Stored.lookup_ne_none {m : Machine} (hm : s.Stored t place m) :
    t.lookup (place ++ [recordName m.id]) ≠ none := by
  obtain ⟨recorded, hrecorded, rfl⟩ := hm
  exact hrecorded.lookup_ne_none

include ho hfit

theorem machineIn_of_absent {id : Uuid} (habsent : t.lookup (place ++ [recordName id]) = none) :
    s.machineIn current t id = .error (.nonexistent .machine [id.text]) := by
  refine machineIn_of_notFound ?_
  rw [recordPath_eq, ho.read_join (isName_recordName id), ← recordPath_eq, hfit.record id, habsent]
  rfl

theorem HasRecord.machineIn_eq {m : Machine} (hm : HasRecord t place m) :
    s.machineIn current t m.id = .ok (Registry.kept s m) := by
  obtain ⟨data, hole, hfile, hdecode⟩ := hm
  rw [machineIn_of_read_eq_ok (hfit.read_recordPath ho hfile)]
  exact openRecord_eq_ok_iff.2 ⟨m, hdecode, rfl, rfl⟩

/-- In an orderly directory a machine is found exactly when it is stored. -/
theorem Orderly.machineIn_eq_ok_iff (horderly : Orderly t place) {id : Uuid} {m : Machine} :
    s.machineIn current t id = .ok m ↔ m.id = id ∧ s.Stored t place m := by
  constructor
  · intro h
    have hthere : t.lookup (place ++ [recordName id]) ≠ none := by
      intro habsent
      rw [machineIn_of_absent ho hfit habsent] at h
      cases h
    obtain ⟨recorded, rfl, hrecorded⟩ := horderly id hthere
    rw [hrecorded.machineIn_eq ho hfit] at h
    obtain rfl := Except.ok.inj h
    exact ⟨rfl, recorded, hrecorded, rfl⟩
  · rintro ⟨rfl, recorded, hrecorded, rfl⟩
    exact hrecorded.machineIn_eq ho hfit

/-- Nothing else can go wrong there than that a record is missing. -/
theorem Orderly.machineIn_eq_error_iff (horderly : Orderly t place) {id : Uuid} {e : Error} :
    s.machineIn current t id = .error e ↔
      t.lookup (place ++ [recordName id]) = none ∧ e = .nonexistent .machine [id.text] := by
  by_cases habsent : t.lookup (place ++ [recordName id]) = none
  · rw [machineIn_of_absent ho hfit habsent]
    simp [habsent, eq_comm]
  · obtain ⟨recorded, rfl, hrecorded⟩ := horderly id habsent
    rw [hrecorded.machineIn_eq ho hfit]
    simp [habsent]

end Records

/-! ## Listings -/

/-- What is picked out of different elements is different when no two elements give the same. -/
theorem nodup_filterMap_iff {α β : Type} {f : α → Option β} {xs : List α} (hxs : xs.Nodup) :
    (xs.filterMap f).Nodup ↔
      ∀ a ∈ xs, ∀ b ∈ xs, ∀ c, f a = some c → f b = some c → a = b := by
  rw [List.Nodup, List.pairwise_filterMap]
  constructor
  · intro h a ha b hb c hac hbc
    by_contra hne
    have hsymm : Std.Symm fun a b => ∀ c, f a = some c → ∀ d, f b = some d → c ≠ d :=
      ⟨fun _ _ hab d hd c hc => (hab c hc d hd).symm⟩
    exact h.forall ha hb hne c hac c hbc rfl
  · intro h
    refine hxs.imp_of_mem fun {a b} ha hb hne c hc d hd hcd => hne ?_
    exact h a ha b hb c hc (hcd ▸ hd)

section Listings

variable {s : Store} {current place : List String} {t : FileTree} {machines : List Machine}

/-- There is a machine in a listing for each name in the directory that is read as that of a
record. -/
theorem Lists.exists_names (hl : Lists s current t place (.ok machines)) :
    ∃ names : List String, names.Nodup ∧
      (∀ name, name ∈ names ↔ t.lookup (place ++ [name]) ≠ none) ∧
      (machines.map Machine.id).Perm (names.filterMap recordId?) := by
  obtain ⟨names, hnodup, hnames, hr⟩ := hl
  obtain ⟨found, hfound, rfl⟩ := Except.map_eq_ok_iff.1 hr.symm
  have hids : found.map Machine.id = (names.filterMap recordId?).map id :=
    Except.map_eq_of_mapM_eq_ok hfound fun _ _ _ hm => id_of_machineIn hm
  have hperm := (List.mergeSort_perm found listedBefore).map Machine.id
  rw [hids, List.map_id] at hperm
  exact ⟨names, hnodup, hnames, hperm⟩

theorem Lists.sorted (hl : Lists s current t place (.ok machines)) :
    machines.Pairwise fun a b => listedBefore a b = true := by
  obtain ⟨names, -, -, hr⟩ := hl
  obtain ⟨found, -, rfl⟩ := Except.map_eq_ok_iff.1 hr.symm
  exact pairwise_mergeSort found

/-- A listing is in strictly ascending order when no two names in the directory are read as the
same identifier. -/
theorem Lists.pairwise_precedes_iff (hl : Lists s current t place (.ok machines)) :
    machines.Pairwise Precedes ↔ ∀ name, t.lookup (place ++ [name]) ≠ none →
      ∀ other, t.lookup (place ++ [other]) ≠ none →
        ∀ id, recordId? name = some id → recordId? other = some id → name = other := by
  obtain ⟨names, hnodup, hnames, hids⟩ := hl.exists_names
  simp only [← hnames]
  rw [← nodup_filterMap_iff hnodup, ← hids.nodup_iff, List.Nodup, List.pairwise_map]
  refine ⟨fun h => h.imp_of_mem fun {a b} ha hb hab hid => ?_,
    pairwise_precedes_of_sorted hl.sorted⟩
  -- one record holds one machine
  have hsame := (hl.mem_iff.1 ha).1
  rw [hid, (hl.mem_iff.1 hb).1] at hsame
  obtain rfl := Except.ok.inj hsame
  exact not_precedes_of_precedes hab hab

/-- A listing that succeeds has found the machine of every name. -/
theorem Lists.exists_machine (hl : Lists s current t place (.ok machines)) {name : String}
    (hname : t.lookup (place ++ [name]) ≠ none) {id : Uuid} (hread : recordId? name = some id) :
    ∃ m ∈ machines, m.id = id := by
  obtain ⟨names, -, hnames, hids⟩ := hl.exists_names
  have hid : id ∈ machines.map Machine.id :=
    hids.mem_iff.2 (List.mem_filterMap.2 ⟨name, (hnames name).2 hname, hread⟩)
  exact List.mem_map.1 hid

variable (ho : t.IsOpen current s.directory place) (hfit : s.PathsFit)
  (horderly : Orderly t place)

include ho hfit horderly

/-- What is listed are the machines that are stored. -/
theorem Orderly.mem_iff_of_lists (hl : Lists s current t place (.ok machines)) (m : Machine) :
    m ∈ machines ↔ s.Stored t place m := by
  rw [hl.mem_iff, horderly.machineIn_eq_ok_iff ho hfit]
  constructor
  · rintro ⟨⟨-, hm⟩, -⟩
    exact hm
  · intro hm
    exact ⟨⟨rfl, hm⟩, _, hm.lookup_ne_none, recordId?_recordName m.id⟩

/-- A listing fails over a misspelt name whose machine has no record. -/
theorem Orderly.exists_of_lists_error {e : Error} (hl : Lists s current t place (.error e)) :
    ∃ name id, t.lookup (place ++ [name]) ≠ none ∧ recordId? name = some id ∧
      t.lookup (place ++ [recordName id]) = none ∧ e = .nonexistent .machine [id.text] := by
  obtain ⟨names, -, hnames, hr⟩ := hl
  have hfailed := Except.map_eq_error_iff.1 hr.symm
  obtain ⟨id, hid, herror⟩ := Except.exists_of_mapM_eq_error hfailed
  obtain ⟨name, hname, hread⟩ := List.mem_filterMap.1 hid
  obtain ⟨habsent, he⟩ := (horderly.machineIn_eq_error_iff ho hfit).1 herror
  exact ⟨name, id, (hnames name).1 hname, hread, habsent, he⟩

omit horderly in
/-- A misspelt name that is alone in the directory makes the listing fail. -/
theorem Lists.eq_error_of_only {r : Except Error (List Machine)} (hl : Lists s current t place r)
    {name : String} {id : Uuid} (honly : ∀ other, t.lookup (place ++ [other]) ≠ none ↔ other = name)
    (hread : recordId? name = some id) (hne : name ≠ recordName id) :
    r = .error (.nonexistent .machine [id.text]) := by
  obtain ⟨names, hnodup, hnames, rfl⟩ := hl
  have hsingle : names = [name] := by
    refine List.perm_singleton.1 ((List.perm_ext_iff_of_nodup hnodup (List.nodup_singleton _)).2 ?_)
    intro other
    rw [hnames, honly, List.mem_singleton]
  have habsent : t.lookup (place ++ [recordName id]) = none := by
    by_contra hthere
    exact hne ((honly _).1 hthere).symm
  rw [hsingle, List.filterMap_cons_some hread, List.mapM_cons, machineIn_of_absent ho hfit habsent]
  rfl

/-- The listing has every stored machine once and in order exactly when no name is misspelt. -/
theorem Orderly.lists_iff {r : Except Error (List Machine)} (hl : Lists s current t place r) :
    (∃ machines, r = .ok machines ∧ (∀ m, m ∈ machines ↔ s.Stored t place m) ∧
      machines.Pairwise Precedes) ↔ Tidy t place := by
  constructor
  · rintro ⟨machines, rfl, -, hascending⟩ name hname id hread
    -- the machine was found, so its record is there too
    obtain ⟨m, hm, rfl⟩ := hl.exists_machine hname hread
    have hrecord := ((horderly.mem_iff_of_lists ho hfit hl m).1 hm).lookup_ne_none
    exact hl.pairwise_precedes_iff.1 hascending name hname _ hrecord m.id hread
      (recordId?_recordName m.id)
  · intro htidy
    cases r with
    | error e =>
        obtain ⟨name, id, hname, hread, habsent, -⟩ := horderly.exists_of_lists_error ho hfit hl
        rw [htidy name hname id hread] at hname
        exact absurd habsent hname
    | ok machines =>
        refine ⟨machines, rfl, horderly.mem_iff_of_lists ho hfit hl, ?_⟩
        refine hl.pairwise_precedes_iff.2 fun name hname other hother id hread hread' => ?_
        rw [htidy name hname id hread, htidy other hother id hread']

end Listings

/-! ## Other files -/

/-- The trees have the same records in the directory. -/
def SameRecords (t t' : FileTree) (place : List String) : Prop :=
  ∀ id, t'.lookup (place ++ [recordName id]) = t.lookup (place ++ [recordName id])

section SameRecords

variable {s : Store} {current place : List String} {t t' : FileTree}

theorem SameRecords.hasRecord_iff (hsame : SameRecords t t' place) {m : Machine} :
    HasRecord t' place m ↔ HasRecord t place m := by
  rw [HasRecord, HasRecord, hsame]

theorem SameRecords.stored_iff (hsame : SameRecords t t' place) {m : Machine} :
    s.Stored t' place m ↔ s.Stored t place m := by
  simp only [Stored, hsame.hasRecord_iff]

theorem SameRecords.orderly (hsame : SameRecords t t' place) (horderly : Orderly t place) :
    Orderly t' place := by
  intro id hid
  rw [hsame id] at hid
  obtain ⟨m, hm, hrecord⟩ := horderly id hid
  exact ⟨m, hm, hsame.hasRecord_iff.2 hrecord⟩

/-- What else is in tidy directories makes no difference to what is listed. -/
theorem Orderly.lists_eq_of_sameRecords (ho : t.IsOpen current s.directory place)
    (ho' : t'.IsOpen current s.directory place) (hfit : s.PathsFit) (horderly : Orderly t place)
    (hsame : SameRecords t t' place) (htidy : Tidy t place) (htidy' : Tidy t' place)
    {r r' : Except Error (List Machine)} (hl : Lists s current t place r)
    (hl' : Lists s current t' place r') : r' = r := by
  obtain ⟨machines, rfl, hmem, hascending⟩ := (horderly.lists_iff ho hfit hl).2 htidy
  obtain ⟨machines', rfl, hmem', hascending'⟩ :=
    ((hsame.orderly horderly).lists_iff ho' hfit hl').2 htidy'
  rw [eq_of_pairwise_precedes hascending' hascending fun m =>
    (hmem' m).trans (hsame.stored_iff.trans (hmem m).symm)]

/-- A file that has no record's name is beside the records. -/
theorem sameRecords_put {name : String} (hname : ∀ id, name ≠ recordName id) (content : Content) :
    SameRecords t (t.put (place ++ [name]) content) place := by
  intro id
  rw [lookup_put_name, if_neg (hname id)]

theorem Tidy.put {name : String} (htidy : Tidy t place) (hname : WellSpelt name)
    (content : Content) : Tidy (t.put (place ++ [name]) content) place := by
  intro other hother
  rw [lookup_put_name] at hother
  split at hother
  · next heq => exact heq ▸ hname
  · exact htidy other hother

theorem wellSpelt_recordName (id : Uuid) : WellSpelt (recordName id) := by
  intro other hread
  rw [recordId?_recordName] at hread
  exact congrArg recordName (Option.some.inj hread)

theorem wellSpelt_of_recordId? {name : String} (hread : recordId? name = none) :
    WellSpelt name := by
  intro id hid
  rw [hread] at hid
  cases hid

/-- Writing a record keeps a directory orderly. -/
theorem Orderly.withRecord (horderly : Orderly t place) {m : Machine} (hm : m.Recordable) :
    Orderly (withRecord t place m) place := by
  intro id hid
  by_cases hmid : m.id = id
  · refine ⟨{ m with source := none }, hmid, Record.encode m, 0, ?_, ?_⟩
    · rw [Store.withRecord, lookup_put_name, if_pos rfl]
    · rw [bytes_file]
      exact Record.decode_encode hm
  · have hother : ∀ other, other ≠ m.id →
        (Store.withRecord t place m).lookup (place ++ [recordName other])
          = t.lookup (place ++ [recordName other]) := by
      intro other hne
      rw [Store.withRecord, lookup_put_name, if_neg fun h => hne (recordName_injective h).symm]
    rw [hother id (Ne.symm hmid)] at hid
    obtain ⟨recorded, rfl, data, hole, hfile, hdecode⟩ := horderly id hid
    exact ⟨recorded, rfl, data, hole, (hother _ (Ne.symm hmid)).trans hfile, hdecode⟩

end SameRecords

/-- **What a listing of an orderly directory has in it.** On a calm host it has every stored
machine once and in order exactly if no name in the directory is misspelt, and then no other file
makes a difference. If it succeeds at all, it has the stored machines and no others, one for each
name that is read as that of a record. If it fails, it is over a misspelt name whose machine has
no record. -/
theorem list_iff_tidy {h : Behavior} {s : Store} {t : FileTree} {place : List String}
    (hcalm : h.Calm) (ho : t.IsOpen h.current s.directory place) (hfit : s.PathsFit)
    (horderly : Orderly t place) :
    (∃ r t', h.Runs s.list.run t r t') ∧ ∀ r t', h.Runs s.list.run t r t' → t' = t ∧
      ((∃ machines, r = .ok machines ∧ (∀ m, m ∈ machines ↔ s.Stored t place m) ∧
        machines.Pairwise Precedes) ↔ Tidy t place) ∧
      (∀ other, other.IsOpen h.current s.directory place → SameRecords t other place →
        Tidy t place → Tidy other place →
          ∀ r' t'', h.Runs s.list.run other r' t'' → r' = r) ∧
      (∀ machines, r = .ok machines → (∀ m, m ∈ machines ↔ s.Stored t place m) ∧
        ∃ names : List String, names.Nodup ∧
          (∀ name, name ∈ names ↔ t.lookup (place ++ [name]) ≠ none) ∧
          (machines.map Machine.id).Perm (names.filterMap recordId?)) ∧
      ∀ e, r = .error e → ∃ name id, t.lookup (place ++ [name]) ≠ none ∧
        recordId? name = some id ∧ t.lookup (place ++ [recordName id]) = none ∧
        e = .nonexistent .machine [id.text] := by
  refine ⟨Behavior.exists_runs _ _, fun r t' run => ?_⟩
  obtain ⟨hl, rfl⟩ := runs_list hcalm ho run
  refine ⟨rfl, horderly.lists_iff ho hfit hl, ?_, ?_, ?_⟩
  · intro other ho' hsame htidy htidy' r' t'' run'
    obtain ⟨hl', -⟩ := runs_list hcalm ho' run'
    exact horderly.lists_eq_of_sameRecords ho ho' hfit hsame htidy htidy' hl hl'
  · rintro machines rfl
    exact ⟨horderly.mem_iff_of_lists ho hfit hl, hl.exists_names⟩
  · rintro e rfl
    exact horderly.exists_of_lists_error ho hfit hl

/-- A directory with a record and a note. -/
theorem list_iff_tidy_note : ∃ (m : Machine) (h : Behavior) (t : FileTree),
    Machine.define Machine.guest = .ok m ∧ h = Behavior.plain [] (fun _ => False) ∧
    t = (withRecord default [] m).put ["notes.txt"] .emptyFile ∧
    h.Calm ∧ t.IsOpen h.current "/" [] ∧ PathsFit ⟨"/"⟩ ∧ Orderly t [] ∧ Tidy t [] ∧
    ∀ r t', h.Runs (list ⟨"/"⟩).run t r t' → ∃ machines, r = .ok machines ∧
      (∀ x, x ∈ machines ↔ Stored ⟨"/"⟩ t [] x) ∧ machines.Pairwise Precedes := by
  obtain ⟨m, hdefine⟩ : ∃ m, Machine.define Machine.guest = .ok m := ⟨_, rfl⟩
  have hm : m.Recordable := (Machine.sound_of_define hdefine).toRecordable
  have hcalm := Behavior.calm_plain []
  have hnote : recordId? "notes.txt" = none := by decide
  have horderly : Orderly ((withRecord default [] m).put ["notes.txt"] .emptyFile) [] := by
    have hnone : Orderly default [] := fun id hid => absurd (lookup_default _) hid
    have hsame : SameRecords (withRecord default [] m)
        ((withRecord default [] m).put ([] ++ ["notes.txt"]) .emptyFile) [] :=
      sameRecords_put (ne_recordName_of_recordId? hnote) .emptyFile
    exact hsame.orderly (hnone.withRecord hm)
  have htidy : Tidy ((withRecord default [] m).put ["notes.txt"] .emptyFile) [] := by
    have hnone : Tidy default [] := fun name hname => absurd (lookup_default name) hname
    have hrecord : Tidy (withRecord default [] m) [] :=
      hnone.put (wellSpelt_recordName m.id) (.file (Record.encode m) 0)
    exact hrecord.put (wellSpelt_of_recordId? hnote) .emptyFile
  have hopen := isOpen_root ((withRecord default [] m).put ["notes.txt"] .emptyFile) []
  refine ⟨m, _, _, hdefine, rfl, rfl, hcalm, hopen, pathsFit_root, horderly, htidy,
    fun r t' run => ?_⟩
  exact ((list_iff_tidy hcalm hopen pathsFit_root horderly).2 r t' run).2.1.2 htidy

/-- An empty file whose name is an identifier without hyphens, alone in the directory, makes
listings fail. -/
theorem exists_list_disturbed : ∃ (h : Behavior) (t : FileTree),
    h = Behavior.plain [] (fun _ => False) ∧ h.Calm ∧
    t = (default : FileTree).put ["00000000000000000000000000000001.json"] .emptyFile ∧
    t.IsOpen h.current "/" [] ∧ PathsFit ⟨"/"⟩ ∧ Orderly t [] ∧ (∀ m, ¬Stored ⟨"/"⟩ t [] m) ∧
    (∀ id, recordName id ≠ "00000000000000000000000000000001.json") ∧
    (∃ r t', h.Runs (list ⟨"/"⟩).run t r t') ∧ ∀ r t', h.Runs (list ⟨"/"⟩).run t r t' →
      r = .error (.nonexistent .machine ["00000000-0000-0000-0000-000000000001"]) := by
  have hread : recordId? "00000000000000000000000000000001.json" = some Machine.guest.id := by
    decide
  have htext : Machine.guest.id.text = "00000000-0000-0000-0000-000000000001" := by decide
  have hforeign : ∀ id, recordName id ≠ "00000000000000000000000000000001.json" := by
    -- a record's name has the hyphens, so it is longer
    intro id h
    have hlength := length_recordName id
    rw [h] at hlength
    exact absurd hlength (by decide)
  obtain ⟨t, ht⟩ : ∃ t, t = (default : FileTree).put ["00000000000000000000000000000001.json"]
      .emptyFile := ⟨_, rfl⟩
  have hlookup : ∀ name, t.lookup ([] ++ [name]) =
      if "00000000000000000000000000000001.json" = name then some .emptyFile else none := by
    intro name
    rw [ht]
    exact lookup_put_name default [] _ .emptyFile name
  have honly : ∀ name, t.lookup ([] ++ [name]) ≠ none ↔
      name = "00000000000000000000000000000001.json" := by
    intro name
    rw [hlookup]
    simp [eq_comm]
  have habsent : ∀ id, t.lookup ([] ++ [recordName id]) = none := by
    intro id
    by_contra hthere
    exact hforeign id ((honly _).1 hthere)
  have horderly : Orderly t [] := fun id hid => absurd (habsent id) hid
  have hstored : ∀ m, ¬Stored ⟨"/"⟩ t [] m := fun m hm => hm.lookup_ne_none (habsent m.id)
  have hcalm := Behavior.calm_plain []
  have hopen := isOpen_root t []
  refine ⟨_, t, rfl, hcalm, ht, hopen, pathsFit_root, horderly, hstored, hforeign,
    Behavior.exists_runs _ _, fun r t' run => ?_⟩
  obtain ⟨hl, -⟩ := runs_list hcalm hopen run
  rw [← htext]
  exact hl.eq_error_of_only hopen pathsFit_root honly hread (hforeign _).symm

end Guestkeeper.Store
