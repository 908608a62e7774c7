import Guestkeeper.Proofs.Store.Refinement

set_option autoImplicit false

/-! # Finding machines by their names

Inserting a machine and reading one in refuse a name that another machine has, so no two machines
of a store that only these have filled have one name. A name then leads to its machine, but for
one exception: a key that can be read as an identifier is looked up as that and never as a name.
-/

namespace Guestkeeper

open Guestkeeper.Host Guestkeeper.Host.FileTree

/-! ## Unique names -/

namespace Registry

/-- No two machines have one name. -/
def UniqueNames (r : Registry) : Prop :=
  ∀ a ∈ r.entries, ∀ b ∈ r.entries, a.name = b.name → a.id = b.id

section

variable {s : Store} {r : Registry} {m : Machine}

theorem uniqueNames_empty : UniqueNames ∅ := fun _ ha => absurd ha List.not_mem_nil

/-- A machine may be stored under a name that no other has. -/
theorem uniqueNames_put_iff (hr : r.UniqueNames) :
    (r.put s m).2.UniqueNames ↔ ∀ other ∈ r.entries, other.name = m.name → other.id = m.id := by
  constructor
  · intro hput other hother hname
    by_cases hid : other.id = m.id
    · exact hid
    · exact hput other (Table.mem_insert_iff.2 (.inr ⟨hother, hid⟩)) (kept s m)
        (Table.mem_insert_iff.2 (.inl rfl)) hname
  · intro hfree a ha b hb hname
    rcases Table.mem_insert_iff.1 ha with rfl | ⟨ha, -⟩
    · rcases Table.mem_insert_iff.1 hb with rfl | ⟨hb, -⟩
      · rfl
      · exact (hfree b hb hname.symm).symm
    · rcases Table.mem_insert_iff.1 hb with rfl | ⟨hb, -⟩
      · exact hfree a ha hname
      · exact hr a ha b hb hname

/-- A machine whose identifier and name are free is stored. -/
theorem insert_eq_put (hid : r.contains m.id = false)
    (hname : ∀ other ∈ r.entries, other.name ≠ m.name) : r.insert s m = r.put s m := by
  rw [insert, hid, if_neg (by decide), if_neg]
  rintro ⟨other, hother, hsame⟩
  exact hname other hother hsame

/-- Two machines with different identifiers and names can both be inserted. -/
theorem mem_insert_insert_iff {a b m : Machine} (hid : a.id ≠ b.id) (hname : a.name ≠ b.name) :
    m ∈ (insert s (insert s ∅ a).2 b).2.entries ↔ m = kept s a ∨ m = kept s b := by
  have honly : ∀ other, other ∈ (put s ∅ a).2.entries ↔ other = kept s a := by
    intro other
    rw [put, Table.mem_insert_iff]
    exact or_iff_left fun h => List.not_mem_nil h.1
  have hfirst : insert s ∅ a = put s ∅ a :=
    insert_eq_put rfl fun _ h => absurd h List.not_mem_nil
  have hsecond : insert s (put s ∅ a).2 b = put s (put s ∅ a).2 b := by
    refine insert_eq_put (Table.contains_eq_false_iff.2 fun other hother hsame => ?_)
      fun other hother hsame => ?_
    · rw [honly] at hother
      subst hother
      exact hid hsame
    · rw [honly] at hother
      subst hother
      exact hname hsame
  rw [hfirst, hsecond, put, Table.mem_insert_iff, honly]
  constructor
  · rintro (rfl | ⟨rfl, -⟩)
    · exact .inr rfl
    · exact .inl rfl
  · rintro (rfl | rfl)
    · exact .inr ⟨rfl, hid⟩
    · exact .inl rfl

theorem uniqueNames_insert (hr : r.UniqueNames) : (r.insert s m).2.UniqueNames := by
  rw [insert]
  split
  · exact hr
  · split
    · exact hr
    · next hfree =>
        exact (uniqueNames_put_iff hr).2 fun other hother hname =>
          absurd ⟨other, hother, hname⟩ hfree

theorem uniqueNames_replace (hr : r.UniqueNames) : (r.replace s m).2.UniqueNames := by
  rw [replace]
  split
  · exact hr
  · next hfree =>
      refine (uniqueNames_put_iff hr).2 fun other hother hname => ?_
      by_contra hid
      exact hfree ⟨other, hother, hid, hname⟩

theorem uniqueNames_delete (hr : r.UniqueNames) (id : Uuid) : (r.delete id).2.UniqueNames := by
  rw [delete]
  split
  · exact fun a ha b hb => hr a (List.mem_of_mem_filter ha) b (List.mem_of_mem_filter hb)
  · exact hr

theorem uniqueNames_importRecord (hr : r.UniqueNames) (bytes : ByteArray) (replacing : Bool) :
    (r.importRecord s bytes replacing).2.UniqueNames := by
  rw [importRecord]
  split
  · exact hr
  · split
    · exact uniqueNames_replace hr
    · exact uniqueNames_insert hr

theorem mem_of_get {id : Uuid} (h : r.get id = .ok m) : m ∈ r.entries := by
  rw [get] at h
  split at h
  · next found hfound =>
      obtain rfl := Except.ok.inj h
      exact (Table.find?_eq_some_iff.1 hfound).1
  · cases h

theorem mem_of_find {key : String} (h : r.find key = .ok m) : m ∈ r.entries := by
  rw [find] at h
  split at h
  · exact mem_of_get h
  · exact List.mem_mergeSort.1 (Store.mem_of_findNamed h).1

end

/-! ## Keys -/

section

variable {r : Registry} {m : Machine} {key : String}

/-- A key that can be read as an identifier leads to the machine of that identifier. -/
theorem find_of_id (hm : m ∈ r.entries) (hkey : Uuid.ofText? key = some m.id) :
    r.find key = .ok m := by
  rw [find, hkey]
  simp only [get, Table.find?_of_mem hm]

/-- Another key leads to the machine of that name. -/
theorem find_of_name (hr : r.UniqueNames) (hm : m ∈ r.entries) (hname : m.name = key)
    (hkey : Uuid.ofText? key = none) : r.find key = .ok m := by
  obtain ⟨hperm, -⟩ := listing_ascending r
  have hnodup : r.listing.Nodup := hperm.nodup_iff.2
    ((pairwise_id_ne r).imp fun hne heq => hne (congrArg Machine.id heq))
  rw [find, hkey]
  refine Store.findNamed_of_only hnodup (hperm.mem_iff.2 hm) hname fun other hother hsame => ?_
  have hin := hperm.mem_iff.1 hother
  exact eq_of_id_eq hin hm (hr other hin m hm (hsame.trans hname.symm))

/-- A key that neither stands for an identifier in the map nor is a name in it leads nowhere. -/
theorem find_of_unknown
    (hunknown : ∀ m ∈ r.entries, Uuid.ofText? key ≠ some m.id ∧ m.name ≠ key) :
    r.find key = .error (.nonexistent .machine [((Uuid.ofText? key).map Uuid.text).getD key]) := by
  rw [find]
  cases hkey : Uuid.ofText? key with
  | some id =>
      have habsent : r.find? id = none := by
        cases hfound : r.find? id with
        | none => rfl
        | some m =>
            obtain ⟨hm, rfl⟩ := Table.find?_eq_some_iff.1 hfound
            exact absurd hkey (hunknown m hm).1
      simp only [get, habsent]
      rfl
  | none =>
      refine Store.findNamed_of_forall_ne fun m hm => (hunknown m ?_).2
      exact List.mem_mergeSort.1 hm

end

end Registry

namespace Store

/-! ## Calls -/

/-- The call stores a machine whatever names others have. -/
def Call.overwrites : Call → Bool
  | .put _ _ => true
  | .insert _ _ | .delete _ | .importRecord _ _ | .get _ | .find _ | .list | .exportRecord _
  | .exists? _ => false

theorem uniqueNames_answer {s : Store} {r : Registry} {call : Call}
    (hcall : call.overwrites = false) (hr : r.UniqueNames) : (r.answer s call).2.UniqueNames := by
  cases call with
  | insert m arises => exact Registry.uniqueNames_insert hr
  | put m arises => cases hcall
  | delete id => exact Registry.uniqueNames_delete hr id
  | importRecord bytes replacing => exact Registry.uniqueNames_importRecord hr bytes replacing
  | get id => exact hr
  | find key => exact hr
  | list => exact hr
  | exportRecord id => exact hr
  | exists? id => exact hr

/-- Names stay unique as long as no call overwrites. -/
theorem uniqueNames_answerAll {s : Store} {r : Registry} {calls : List Call}
    (hcalls : ∀ call ∈ calls, call.overwrites = false) (hr : r.UniqueNames) :
    (r.answerAll s calls).2.UniqueNames := by
  induction calls generalizing r with
  | nil => exact hr
  | cons call calls ih =>
      obtain ⟨hcall, hrest⟩ := List.forall_mem_cons.1 hcalls
      exact ih hrest (uniqueNames_answer hcall hr)

/-- **Stored machines are found by their names.** Calls are made on a directory that was empty,
and none of them overwrites. Then stored machines with one name are one machine, and a key leads
to the machine whose identifier it stands for or, where it stands for none, to the machine of that
name. A key that stands for no identifier of a stored machine and is no name of one leads nowhere.
-/
theorem find_stored {h : Behavior} {s : Store} {t : FileTree} {place : List String}
    (hcalm : h.Calm) (ho : t.IsOpen h.current s.directory place) (hfit : s.PathsFit)
    (hempty : ∀ name, t.lookup (place ++ [name]) = none) {calls : List Call}
    (hcalls : ∀ call ∈ calls, call.overwrites = false) :
    (∃ answers t', h.Runs (makeAll s calls) t answers t') ∧
      ∀ answers t', h.Runs (makeAll s calls) t answers t' →
        (∀ a b, s.Stored t' place a → s.Stored t' place b → a.name = b.name → a = b) ∧
        ∀ key, (∃ r t'', h.Runs (s.find key).run t' r t'') ∧
          ∀ r t'', h.Runs (s.find key).run t' r t'' → t'' = t' ∧
            (∀ m, s.Stored t' place m → m.name = key → Uuid.ofText? key = none → r = .ok m) ∧
            (∀ m, s.Stored t' place m → Uuid.ofText? key = some m.id → r = .ok m) ∧
            ((∀ m, s.Stored t' place m → Uuid.ofText? key ≠ some m.id ∧ m.name ≠ key) →
              r = .error (.nonexistent .machine
                [((Uuid.ofText? key).map Uuid.text).getD key])) := by
  refine ⟨Behavior.exists_runs _ _, fun answers t' run => ?_⟩
  obtain ⟨-, hopen, hholds⟩ := (holds_empty hempty).meets_makeAll hcalm ho hfit run
  have hunique : (Registry.answerAll s ∅ calls).2.UniqueNames :=
    uniqueNames_answerAll hcalls Registry.uniqueNames_empty
  refine ⟨fun a b ha hb hname => ?_, fun key => ⟨Behavior.exists_runs _ _, fun r t'' hrun => ?_⟩⟩
  · have ha' := hholds.stored_iff.1 ha
    have hb' := hholds.stored_iff.1 hb
    exact Registry.eq_of_id_eq ha' hb' (hunique a ha' b hb' hname)
  · obtain ⟨hfinds, rfl⟩ := runs_find hcalm hopen hrun
    rw [hholds.finds_eq hopen hfit hfinds]
    refine ⟨rfl, fun m hm hname hkey => ?_, fun m hm hkey => ?_, fun hunknown => ?_⟩
    · exact Registry.find_of_name hunique (hholds.stored_iff.1 hm) hname hkey
    · exact Registry.find_of_id (hholds.stored_iff.1 hm) hkey
    · exact Registry.find_of_unknown fun m hm => hunknown m (hholds.stored_iff.2 hm)

/-- A store with two machines. One is found by its name and the other by its identifier, and a name
that nobody has leads nowhere. -/
theorem find_stored_guest : ∃ (a b : Machine) (ha : Record.Arises a) (hb : Record.Arises b)
    (h : Behavior), Machine.define Machine.guest = .ok a ∧
    Machine.define Machine.neighbor = .ok b ∧ h = Behavior.plain [] (fun _ => False) ∧ h.Calm ∧
    (default : FileTree).IsOpen h.current "/" [] ∧ PathsFit ⟨"/"⟩ ∧
    (∀ name, (default : FileTree).lookup ([] ++ [name]) = none) ∧
    (∀ call ∈ [Call.insert a ha, .insert b hb], call.overwrites = false) ∧
    ∀ answers t', h.Runs (makeAll ⟨"/"⟩ [.insert a ha, .insert b hb]) default answers t' →
      Stored ⟨"/"⟩ t' [] (Registry.kept ⟨"/"⟩ a) ∧ Stored ⟨"/"⟩ t' [] (Registry.kept ⟨"/"⟩ b) ∧
      (∀ r t'', h.Runs (find ⟨"/"⟩ "guest").run t' r t'' → r = .ok (Registry.kept ⟨"/"⟩ a)) ∧
      (∀ r t'', h.Runs (find ⟨"/"⟩ "00000000-0000-0000-0000-000000000003").run t' r t'' →
        r = .ok (Registry.kept ⟨"/"⟩ b)) ∧
      ∀ r t'', h.Runs (find ⟨"/"⟩ "stranger").run t' r t'' →
        r = .error (.nonexistent .machine ["stranger"]) := by
  obtain ⟨a, hdefinea⟩ : ∃ a, Machine.define Machine.guest = .ok a := ⟨_, rfl⟩
  obtain ⟨b, hdefineb⟩ : ∃ b, Machine.define Machine.neighbor = .ok b := ⟨_, rfl⟩
  have ha := Record.arises_of_define hdefinea
  have hb := Record.arises_of_define hdefineb
  obtain ⟨haid, haname⟩ := Machine.id_and_name_of_define hdefinea
  obtain ⟨hbid, hbname⟩ := Machine.id_and_name_of_define hdefineb
  have hids : a.id ≠ b.id := by
    rw [haid, hbid]
    decide
  have hnames : a.name ≠ b.name := by
    rw [haname, hbname]
    decide
  have hcalm := Behavior.calm_plain []
  have hopen := isOpen_root default []
  have hcalls : ∀ call ∈ [Call.insert a ha, .insert b hb], call.overwrites = false :=
    List.forall_mem_cons.2 ⟨rfl, List.forall_mem_singleton.2 rfl⟩
  refine ⟨a, b, ha, hb, _, hdefinea, hdefineb, rfl, hcalm, hopen, pathsFit_root, lookup_default,
    hcalls, fun answers t' run => ?_⟩
  obtain ⟨-, -, hholds⟩ :=
    (holds_empty lookup_default).meets_makeAll hcalm hopen pathsFit_root run
  have hstored : ∀ m, Stored ⟨"/"⟩ t' [] m ↔
      m = Registry.kept ⟨"/"⟩ a ∨ m = Registry.kept ⟨"/"⟩ b := fun m =>
    hholds.stored_iff.trans (Registry.mem_insert_insert_iff hids hnames)
  have hstoreda := (hstored _).2 (.inl rfl)
  have hstoredb := (hstored _).2 (.inr rfl)
  obtain ⟨-, hfind⟩ :=
    (find_stored hcalm hopen pathsFit_root lookup_default hcalls).2 answers t' run
  refine ⟨hstoreda, hstoredb, fun r t'' hrun => ?_, fun r t'' hrun => ?_, fun r t'' hrun => ?_⟩
  · exact ((hfind "guest").2 r t'' hrun).2.1 _ hstoreda haname (by decide)
  · have hkey : Uuid.ofText? "00000000-0000-0000-0000-000000000003" = some b.id := by
      rw [hbid]
      decide
    exact ((hfind _).2 r t'' hrun).2.2.1 _ hstoredb hkey
  · refine ((hfind "stranger").2 r t'' hrun).2.2.2 fun m hm => ⟨nofun, ?_⟩
    rcases (hstored m).1 hm with rfl | rfl
    · exact fun hname => absurd (haname.symm.trans hname) (by decide)
    · exact fun hname => absurd (hbname.symm.trans hname) (by decide)

/-- A machine whose name is the identifier of another, as it is written. -/
def namesake : Definition :=
  { id := ⟨2, by decide⟩, name := "00000000-0000-0000-0000-000000000001" }

/-- Both machines are stored, and the name of the second leads to the first. -/
theorem exists_found_instead : ∃ (a b : Machine) (ha : Record.Arises a) (hb : Record.Arises b)
    (h : Behavior), Machine.define Machine.guest = .ok a ∧ Machine.define namesake = .ok b ∧
    h = Behavior.plain [] (fun _ => False) ∧ h.Calm ∧
    (default : FileTree).IsOpen h.current "/" [] ∧ PathsFit ⟨"/"⟩ ∧
    (∀ name, (default : FileTree).lookup ([] ++ [name]) = none) ∧
    (∃ answers t', h.Runs (makeAll ⟨"/"⟩ [.insert a ha, .insert b hb]) default answers t') ∧
    ∀ answers t', h.Runs (makeAll ⟨"/"⟩ [.insert a ha, .insert b hb]) default answers t' →
      Stored ⟨"/"⟩ t' [] (Registry.kept ⟨"/"⟩ a) ∧ Stored ⟨"/"⟩ t' [] (Registry.kept ⟨"/"⟩ b) ∧
      ∀ r t'', h.Runs (find ⟨"/"⟩ b.name).run t' r t'' →
        r = .ok (Registry.kept ⟨"/"⟩ a) ∧ r ≠ .ok (Registry.kept ⟨"/"⟩ b) := by
  obtain ⟨a, hdefinea⟩ : ∃ a, Machine.define Machine.guest = .ok a := ⟨_, rfl⟩
  obtain ⟨b, hdefineb⟩ : ∃ b, Machine.define namesake = .ok b := ⟨_, rfl⟩
  have ha := Record.arises_of_define hdefinea
  have hb := Record.arises_of_define hdefineb
  obtain ⟨haid, haname⟩ := Machine.id_and_name_of_define hdefinea
  obtain ⟨hbid, hbname⟩ := Machine.id_and_name_of_define hdefineb
  have hids : a.id ≠ b.id := by
    rw [haid, hbid]
    decide
  have hnames : a.name ≠ b.name := by
    rw [haname, hbname]
    decide
  have hkey : Uuid.ofText? b.name = some a.id := by
    rw [hbname, haid]
    decide
  have hcalm := Behavior.calm_plain []
  have hopen := isOpen_root default []
  refine ⟨a, b, ha, hb, _, hdefinea, hdefineb, rfl, hcalm, hopen, pathsFit_root, lookup_default,
    Behavior.exists_runs _ _, fun answers t' run => ?_⟩
  obtain ⟨-, hopen', hholds⟩ :=
    (holds_empty lookup_default).meets_makeAll hcalm hopen pathsFit_root run
  have hina := (Registry.mem_insert_insert_iff (s := ⟨"/"⟩) hids hnames).2 (.inl rfl)
  have hinb := (Registry.mem_insert_insert_iff (s := ⟨"/"⟩) hids hnames).2 (.inr rfl)
  refine ⟨hholds.stored_iff.2 hina, hholds.stored_iff.2 hinb, fun r t'' hrun => ?_⟩
  obtain ⟨hfinds, rfl⟩ := runs_find hcalm hopen' hrun
  have hfound : r = .ok (Registry.kept ⟨"/"⟩ a) :=
    (hholds.finds_eq hopen' pathsFit_root hfinds).trans (Registry.find_of_id hina hkey)
  refine ⟨hfound, fun hother => hids ?_⟩
  have hid := congrArg Machine.id (Except.ok.inj (hfound.symm.trans hother))
  exact hid

end Store

end Guestkeeper
