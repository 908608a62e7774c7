import Guestkeeper.Proofs.Record.RoundTrip
import Guestkeeper.Proofs.Store.Writing

set_option autoImplicit false

/-! # Interrupted writing

Whoever looks at a store's directory while a record is written, or after the writing was broken
off, sees the old record or the new one, and every other record as it was. That holds at each
stage of the writing, so it holds on a host that refuses anything it likes and of a program that
is interrupted anywhere.
-/

namespace Guestkeeper

open Guestkeeper.Host Guestkeeper.Host.FileTree

namespace Store

/-- What is seen of a directory's records in another tree, when only the record of `m` may have
been written: it is the old one or the new one as a whole, and the other records are as they
were. Whatever else has come into the directory is no record to anyone who looks for records. -/
structure Intact (s : Store) (current place : List String) (m : Machine) (t t' : FileTree) :
    Prop where
  own : t'.lookup (place ++ [recordName m.id]) = t.lookup (place ++ [recordName m.id]) ∨
    t'.lookup (place ++ [recordName m.id]) = some (.file (Record.encode m) 0)
  read : t'.read current (s.recordPath m.id) = t.read current (s.recordPath m.id) ∨
    t'.read current (s.recordPath m.id) = .ok (Record.encode m)
  others : ∀ name id, recordId? name = some id → name ≠ recordName m.id →
    t'.lookup (place ++ [name]) = t.lookup (place ++ [name])
  readOthers : ∀ id, id ≠ m.id →
    t'.read current (s.recordPath id) = t.read current (s.recordPath id)
  listed : ∀ names names', t.list current s.directory = .ok names →
    t'.list current s.directory = .ok names' →
    ∀ name id, name ∈ names' → recordId? name = some id →
      name ∈ names ∨ (name = recordName m.id ∧
        t'.lookup (place ++ [name]) = some (.file (Record.encode m) 0))
  elsewhere : ∀ q, (∀ name, q ≠ place ++ [name]) → t'.lookup q = t.lookup q

section

variable {h : Behavior} {s : Store} {m : Machine} {t t' : FileTree} {current place : List String}

/-- A stage leaves everything alone but the record and its draft. -/
theorem Stage.lookup_of_ne {draft : List String} {bytes : ByteArray}
    (hs : Stage t draft place bytes t') (hdraft : draft ≠ []) (hplace : place ≠ [])
    {q : List String} (hqd : q ≠ draft) (hqp : q ≠ place) : t'.lookup q = t.lookup q := by
  cases hs with
  | unfinished before => exact before.lookup_of_ne hdraft hqd
  | replaced => rw [lookup_replaced hdraft hplace, if_neg hqp, if_neg hqd]

/-- What has the record's name is the old record or the new one. -/
theorem Stage.lookup_place {draft : List String} {bytes : ByteArray}
    (hs : Stage t draft place bytes t') (hdraft : draft ≠ []) (hplace : place ≠ [])
    (hne : place ≠ draft) :
    t'.lookup place = t.lookup place ∨ t'.lookup place = some (.file bytes 0) := by
  cases hs with
  | unfinished before => exact .inl (before.lookup_of_ne hdraft hne)
  | replaced => exact .inr (by rw [lookup_replaced hdraft hplace, if_pos rfl])

/-- At every stage of writing a record, the records are intact. -/
theorem intact_of_writing (ho : t.IsOpen h.current s.directory place)
    (hw : Writing h place m t t') : Intact s h.current place m t t' := by
  obtain ⟨suffix, -, hstage⟩ := hw
  have hopen := ho.mono (hstage.keepsDirectories (by simp) (by simp))
  have hsame : ∀ name id, recordId? name = some id → name ≠ recordName m.id →
      t'.lookup (place ++ [name]) = t.lookup (place ++ [name]) := fun name id hid hname =>
    hstage.lookup_of_ne (by simp) (by simp) (ne_draft_of_recordId? hid place m.id suffix)
      (by simpa using hname)
  have hown := hstage.lookup_place (by simp) (by simp)
    (ne_draft_of_recordId? (recordId?_recordName m.id) place m.id suffix)
  refine ⟨hown, ?_, hsame, fun id hid => ?_, fun names names' hnames hnames' name id hmem hname =>
    ?_, fun q hq => hstage.lookup_of_ne (by simp) (by simp) (hq _) (hq _)⟩
  · have hread := ho.read_join (isName_recordName m.id)
    have hread' := hopen.read_join (isName_recordName m.id)
    rcases hown with hown | hown
    · exact .inl (by rw [recordPath_eq, hread, hread', hown])
    · cases hpath : checkPath (Path.join s.directory (recordName m.id)) with
      | error cause => exact .inl (by rw [recordPath_eq, hread, hread', hpath]; rfl)
      | ok _ =>
          rw [hown, hpath] at hread'
          rw [recordPath_eq, hread']
          exact .inr (congrArg Except.ok (bytes_file (Record.encode m)))
  · have hname := hsame _ id (recordId?_recordName id) fun h => hid (recordName_injective h)
    rw [recordPath_eq, ho.read_join (isName_recordName id),
      hopen.read_join (isName_recordName id), hname]
  · obtain ⟨found, hfound, -, hin⟩ := ho.list_eq_ok
    obtain ⟨found', hfound', -, hin'⟩ := hopen.list_eq_ok
    rw [hnames] at hfound
    rw [hnames'] at hfound'
    obtain rfl := Except.ok.inj hfound
    obtain rfl := Except.ok.inj hfound'
    rw [hin, hin'] at *
    by_cases hown' : name = recordName m.id
    · subst hown'
      rcases hown with hown | hown
      · exact .inl (hown ▸ hmem)
      · exact .inr ⟨rfl, hown⟩
    · exact .inl (hsame name id hname hown' ▸ hmem)

/-- **A record is replaced as a whole or not at all**, on any host, whatever it refuses and
wherever the writing is interrupted, if drafts do not fall on devices. On the way and at every end
the records are intact, and no draft can be taken for a record. After a success the new record is
in its place. A failure is that the place is not sure to be kept, or the old record is still there
and a host that does not refuse to remove the draft has no file at the draft's path. -/
theorem put_atomic (ho : t.IsOpen h.current s.directory place)
    (hdevice : ∀ suffix isFull, h.draws t suffix →
      t.lookup (place ++ [temporaryName m.id suffix]) ≠ some (.device isFull)) :
    (∀ t', h.Passes (s.put m).run t t' → Intact s h.current place m t t') ∧
      (∀ suffix, h.draws t suffix → recordId? (temporaryName m.id suffix) = none ∧
        ∀ id, s.recordPath id ≠ s.temporaryPath m.id suffix) ∧
      (∀ stored t', h.Runs (s.put m).run t (.ok stored) t' →
        stored = m.withSource (s.recordPath m.id) ∧ Written h place m t t') ∧
      ∀ e t', h.Runs (s.put m).run t (.error e) t' →
        Unsettled h s place m t e t' ∨ (Abandoned h s place m t e t' ∧
          t'.lookup (place ++ [recordName m.id]) = t.lookup (place ++ [recordName m.id])) := by
  have hput := tries_put (m := m) ho hdevice
  refine ⟨fun t' pass => intact_of_writing ho (hput.seen pass), fun suffix hsuffix =>
    ⟨recordId?_temporaryName m.id suffix, fun id hsame => ?_⟩, fun stored t' run =>
    Behavior.Ensures.post hput run, fun e t' run => ?_⟩
  · have hdraft := isName_temporaryName m.id (h.isSuffix_of_draws hsuffix)
    exact temporaryName_ne_recordName m.id id suffix
      (join_injective (isName_recordName id) hdraft hsame).symm
  · have hfailed : Unsettled h s place m t e t' ∨ Abandoned h s place m t e t' :=
      Behavior.Ensures.post hput run
    refine hfailed.imp_right fun habandoned => ⟨habandoned, ?_⟩
    obtain ⟨suffix, -, -, hunfinished, -⟩ := habandoned
    exact hunfinished.lookup_of_ne (by simp)
      (ne_draft_of_recordId? (recordId?_recordName m.id) place m.id suffix)

/-- A record is written over that of the same machine, beside the record of another, on a host that
may refuse everything but to remove files. -/
theorem put_atomic_guest : ∃ (old new other : Machine) (h : Behavior) (t : FileTree),
    Machine.define Machine.guest = .ok old ∧
    Machine.define { Machine.guest with name := "renamed" } = .ok new ∧
    Machine.define Machine.neighbor = .ok other ∧
    h = Behavior.plain [] (fun q => ∀ path, q ≠ .change (.remove path)) ∧
    t = withRecord (withRecord default [] old) [] other ∧ t.IsOpen h.current "/" [] ∧
    (∀ suffix isFull, h.draws t suffix →
      t.lookup ([] ++ [temporaryName new.id suffix]) ≠ some (.device isFull)) ∧
    Record.encode old ≠ Record.encode new ∧
    ∀ t', h.Passes (Store.put ⟨"/"⟩ new).run t t' →
      (t'.read [] "/00000000-0000-0000-0000-000000000001.json" = .ok (Record.encode old) ∨
        t'.read [] "/00000000-0000-0000-0000-000000000001.json" = .ok (Record.encode new)) ∧
      t'.read [] "/00000000-0000-0000-0000-000000000003.json" = .ok (Record.encode other) := by
  obtain ⟨old, hold⟩ : ∃ m, Machine.define Machine.guest = .ok m := ⟨_, rfl⟩
  obtain ⟨new, hnew⟩ : ∃ m, Machine.define { Machine.guest with name := "renamed" } = .ok m :=
    ⟨_, rfl⟩
  obtain ⟨other, hother⟩ : ∃ m, Machine.define Machine.neighbor = .ok m := ⟨_, rfl⟩
  obtain ⟨holdid, holdname⟩ := Machine.id_and_name_of_define hold
  obtain ⟨hnewid, hnewname⟩ := Machine.id_and_name_of_define hnew
  obtain ⟨hotherid, -⟩ := Machine.id_and_name_of_define hother
  have hpath : recordPath ⟨"/"⟩ new.id = "/00000000-0000-0000-0000-000000000001.json" := by
    rw [hnewid]
    decide
  have hpath' : recordPath ⟨"/"⟩ other.id = "/00000000-0000-0000-0000-000000000003.json" := by
    rw [hotherid]
    decide
  have hids : other.id ≠ new.id := by
    rw [hotherid, hnewid]
    decide
  obtain ⟨t, ht⟩ : ∃ t, t = withRecord (withRecord default [] old) [] other := ⟨_, rfl⟩
  have hopen := isOpen_root t []
  have hlookup : ∀ name, t.lookup ([] ++ [name]) =
      if recordName other.id = name then some (.file (Record.encode other) 0)
      else if recordName new.id = name then some (.file (Record.encode old) 0) else none := by
    intro name
    rw [ht, withRecord, lookup_put_name, withRecord, lookup_put_name, holdid, hnewid]
    rfl
  have hdevice : ∀ (suffix : String) (isFull : Bool),
      t.lookup ([] ++ [temporaryName new.id suffix]) ≠ some (.device isFull) := by
    intro suffix isFull
    rw [hlookup, if_neg (temporaryName_ne_recordName _ _ _).symm,
      if_neg (temporaryName_ne_recordName _ _ _).symm]
    exact (Option.some_ne_none _).symm
  have hdiffer : Record.encode old ≠ Record.encode new := by
    intro hsame
    obtain rfl := Record.encode_injective_of_define hold hnew hsame
    exact absurd (holdname.symm.trans hnewname) (by decide)
  refine ⟨old, new, other, _, t, hold, hnew, hother, rfl, ht, hopen,
    fun suffix isFull _ => hdevice suffix isFull, hdiffer, fun t' pass => ?_⟩
  have hintact : Intact ⟨"/"⟩ [] [] new t t' :=
    (put_atomic (s := ⟨"/"⟩) hopen fun suffix isFull _ => hdevice suffix isFull).1 t' pass
  have hread : ∀ (id : Uuid) (data : ByteArray),
      t.lookup ([] ++ [recordName id]) = some (.file data 0) →
        t.read [] (recordPath ⟨"/"⟩ id) = .ok data := by
    intro id data hfile
    rw [pathsFit_root.read_recordPath hopen hfile, bytes_file]
  have hown := hread new.id (Record.encode old) (by
    rw [hlookup, if_neg fun h => hids (recordName_injective h), if_pos rfl])
  have hbeside := hread other.id (Record.encode other) (by rw [hlookup, if_pos rfl])
  rw [← hpath, ← hpath', ← hown, ← hbeside]
  exact ⟨hintact.read, hintact.readOthers other.id hids⟩

end

end Store

end Guestkeeper
