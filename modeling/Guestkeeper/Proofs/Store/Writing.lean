import Guestkeeper.Proofs.Store.Reading
import Guestkeeper.Proofs.Store.Replacing

set_option autoImplicit false

/-! # Changing a store

On a calm host, an operation that changes a store fails and leaves the tree as it is, or succeeds
and changes one record. What had the name that is drawn for a draft is lost on the way, and if the
name was free the draft leaves no trace. Every way in which an operation can end is listed once,
with what was found out before.
-/

namespace Guestkeeper.Store

open Guestkeeper.Host Guestkeeper.Host.FileTree

/-- Nothing in the directory has the name of a draft that can be drawn. -/
def DraftsFree (h : Behavior) (t : FileTree) (place : List String) : Prop :=
  ∀ id suffix, h.draws t suffix → t.lookup (place ++ [temporaryName id suffix]) = none

/-- No device in the directory has the name of a draft that can be drawn. -/
def DraftsPlain (h : Behavior) (t : FileTree) (place : List String) : Prop :=
  ∀ id suffix isFull, h.draws t suffix →
    t.lookup (place ++ [temporaryName id suffix]) ≠ some (.device isFull)

/-- The tree, or the tree without what had the name of a draft. -/
def Swept (h : Behavior) (t : FileTree) (place : List String) (t' : FileTree) : Prop :=
  t' = t ∨ ∃ id suffix, h.draws t suffix ∧ t' = t.erase (place ++ [temporaryName id suffix])

/-- What is at a place, if anything, does not have the name of a draft that can be drawn. -/
def Spared (h : Behavior) (t : FileTree) (place q : List String) : Prop :=
  ∀ id suffix, h.draws t suffix → q = place ++ [temporaryName id suffix] → t.lookup q = none

/-- The tree with the record of a machine. -/
def withRecord (t : FileTree) (place : List String) (m : Machine) : FileTree :=
  t.put (place ++ [recordName m.id]) (.file (Record.encode m) 0)

/-- The tree without the record of an identifier. -/
def withoutRecord (t : FileTree) (place : List String) (id : Uuid) : FileTree :=
  t.erase (place ++ [recordName id])

section Ends

variable (h : Behavior) (s : Store) (t : FileTree) (place : List String)

/-- How writing a record can end. -/
inductive PutEnds (m : Machine) : Except Error Machine → FileTree → Prop
  | written {t₁ : FileTree} (swept : Swept h t place t₁) :
      PutEnds m (.ok (m.withSource (s.recordPath m.id))) (withRecord t₁ place m)
  | blocked {e : Error} {t₁ : FileTree} (suffix : String) (drawn : h.draws t suffix)
      (blocked : Blocked h t s.directory place (temporaryName m.id suffix) (recordName m.id) e)
      (swept : Swept h t place t₁) : PutEnds m (.error e) t₁

/-- How writing a record can end when some machines of a listing must not have the name. -/
inductive GuardedEnds (others : List Machine → List Machine) (m : Machine) :
    Except Error Machine → FileTree → Prop
  | unlisted {e : Error} (listing : Lists s h.current t place (.error e)) :
      GuardedEnds others m (.error e) t
  | taken {machines : List Machine} (listing : Lists s h.current t place (.ok machines))
      (taken : ∃ other ∈ others machines, other.name = m.name) :
      GuardedEnds others m (.error (.duplicate .machineName m.name)) t
  | put {machines : List Machine} {r : Except Error Machine} {t' : FileTree}
      (listing : Lists s h.current t place (.ok machines))
      (free : ∀ other ∈ others machines, other.name ≠ m.name) (ends : PutEnds h s t place m r t') :
      GuardedEnds others m r t'

/-- How storing a new machine can end. -/
inductive InsertEnds (m : Machine) : Except Error Machine → FileTree → Prop
  | present (there : (t.stat h.current (s.recordPath m.id)).toBool = true) :
      InsertEnds m (.error (.duplicate .machine m.id.text)) t
  | guarded {r : Except Error Machine} {t' : FileTree}
      (absent : (t.stat h.current (s.recordPath m.id)).toBool = false)
      (ends : GuardedEnds h s t place (fun machines => machines) m r t') : InsertEnds m r t'

/-- The machines of a listing that are not the one with this identifier. -/
def othersThan (id : Uuid) (machines : List Machine) : List Machine :=
  machines.filter fun other => other.id ≠ id

/-- How storing the machine of a record can end. -/
inductive ImportEnds (bytes : ByteArray) : Bool → Except Error Machine → FileTree → Prop
  | unread {e : Error} (replace : Bool) (unread : Record.decode bytes = .error e) :
      ImportEnds bytes replace (.error e) t
  | inserted {m : Machine} {r : Except Error Machine} {t' : FileTree}
      (read : Record.decode bytes = .ok m) (ends : InsertEnds h s t place m r t') :
      ImportEnds bytes false r t'
  | replaced {m : Machine} {r : Except Error Machine} {t' : FileTree}
      (read : Record.decode bytes = .ok m)
      (ends : GuardedEnds h s t place (othersThan m.id) m r t') : ImportEnds bytes true r t'

/-- How removing a record can end. -/
inductive DeleteEnds (id : Uuid) : Except Error Unit → FileTree → Prop
  | removed {t' : FileTree} (made : t.remove h.current (s.recordPath id) = .ok t') :
      DeleteEnds id (.ok ()) t'
  | absent (refused : t.remove h.current (s.recordPath id) = .error .notFound) :
      DeleteEnds id (.error (.nonexistent .machine [id.text])) t
  | refused {cause : Cause} (other : cause ≠ .notFound)
      (refused : t.remove h.current (s.recordPath id) = .error cause) :
      DeleteEnds id (.error (.io (s.recordPath id) cause)) t

end Ends

/-! ## Drafts -/

section Drafts

variable {h : Behavior} {t t' : FileTree} {place q : List String}

theorem DraftsFree.plain (hfree : DraftsFree h t place) : DraftsPlain h t place := by
  intro id suffix isFull hsuffix hfound
  rw [hfree id suffix hsuffix] at hfound
  cases hfound

theorem DraftsFree.spared (hfree : DraftsFree h t place) (q : List String) :
    Spared h t place q := by
  intro id suffix hsuffix hq
  rw [hq]
  exact hfree id suffix hsuffix

/-- No record has the name of a draft. -/
theorem spared_recordName (id : Uuid) : Spared h t place (place ++ [recordName id]) := by
  intro other suffix _ hsame
  exact absurd hsame (ne_draft_of_recordId? (recordId?_recordName id) place other suffix)

theorem Swept.eq_of_free (hs : Swept h t place t') (hfree : DraftsFree h t place) : t' = t := by
  rcases hs with rfl | ⟨id, suffix, hsuffix, rfl⟩
  · rfl
  · exact erase_of_lookup_eq_none (by simp) (hfree id suffix hsuffix)

theorem Swept.lookup_eq (hs : Swept h t place t') (hq : Spared h t place q) :
    t'.lookup q = t.lookup q := by
  rcases hs with rfl | ⟨id, suffix, hsuffix, rfl⟩
  · rfl
  · rw [lookup_erase t (by simp)]
    split
    · next hsame => exact (hq id suffix hsuffix hsame.symm).symm
    · rfl

theorem lookup_withRecord (m : Machine) (q : List String) :
    (withRecord t place m).lookup q =
      if q = place ++ [recordName m.id] then some (.file (Record.encode m) 0) else t.lookup q := by
  rw [withRecord, lookup_put t _ (by simp)]
  simp only [eq_comm]

theorem lookup_withoutRecord (id : Uuid) (q : List String) :
    (withoutRecord t place id).lookup q =
      if q = place ++ [recordName id] then none else t.lookup q := by
  rw [withoutRecord, lookup_erase t (by simp)]
  simp only [eq_comm]

end Drafts

/-! ## Failures and successes -/

section Outcomes

variable {h : Behavior} {s : Store} {t t' : FileTree} {place : List String} {m stored : Machine}
  {e : Error}

theorem PutEnds.of_error (ends : PutEnds h s t place m (.error e) t') :
    Swept h t place t' := by
  cases ends with
  | blocked _ _ _ swept => exact swept

theorem GuardedEnds.of_error {others : List Machine → List Machine}
    (ends : GuardedEnds h s t place others m (.error e) t') : Swept h t place t' := by
  cases ends with
  | unlisted => exact .inl rfl
  | taken => exact .inl rfl
  | put listing free ends => exact ends.of_error

theorem InsertEnds.of_error (ends : InsertEnds h s t place m (.error e) t') :
    Swept h t place t' := by
  cases ends with
  | present => exact .inl rfl
  | guarded absent ends => exact ends.of_error

theorem ImportEnds.of_error {bytes : ByteArray} {replace : Bool}
    (ends : ImportEnds h s t place bytes replace (.error e) t') : Swept h t place t' := by
  cases ends with
  | unread => exact .inl rfl
  | inserted read ends => exact ends.of_error
  | replaced read ends => exact ends.of_error

theorem DeleteEnds.of_error {id : Uuid} (ends : DeleteEnds h s t id (.error e) t') : t' = t := by
  cases ends with
  | absent => rfl
  | refused => rfl

theorem PutEnds.of_ok (ends : PutEnds h s t place m (.ok stored) t') :
    ∃ t₁, Swept h t place t₁ ∧ t' = withRecord t₁ place m := by
  cases ends with
  | written swept => exact ⟨_, swept, rfl⟩

theorem GuardedEnds.of_ok {others : List Machine → List Machine}
    (ends : GuardedEnds h s t place others m (.ok stored) t') :
    ∃ t₁, Swept h t place t₁ ∧ t' = withRecord t₁ place m := by
  cases ends with
  | put listing free ends => exact ends.of_ok

theorem InsertEnds.of_ok (ends : InsertEnds h s t place m (.ok stored) t') :
    ∃ t₁, Swept h t place t₁ ∧ t' = withRecord t₁ place m := by
  cases ends with
  | guarded absent ends => exact ends.of_ok

theorem ImportEnds.of_ok {bytes : ByteArray} {replace : Bool}
    (ends : ImportEnds h s t place bytes replace (.ok stored) t') :
    ∃ m, Record.decode bytes = .ok m ∧
      ∃ t₁, Swept h t place t₁ ∧ t' = withRecord t₁ place m := by
  cases ends with
  | inserted read ends => exact ⟨_, read, ends.of_ok⟩
  | replaced read ends => exact ⟨_, read, ends.of_ok⟩

theorem DeleteEnds.of_ok (ho : t.IsOpen h.current s.directory place) {id : Uuid}
    (ends : DeleteEnds h s t id (.ok ()) t') :
    t.lookup (place ++ [recordName id]) ≠ none ∧ t' = withoutRecord t place id := by
  cases ends with
  | removed made => exact ho.remove_eq_ok (isName_recordName id) made

end Outcomes

/-! ## Runs -/

section Operations

variable {h : Behavior} {s : Store} {t t' : FileTree} {place : List String} {m : Machine}

theorem runs_put (hcalm : h.Calm) (ho : t.IsOpen h.current s.directory place)
    (hplain : DraftsPlain h t place) {r : Except Error Machine}
    (run : h.Runs (s.put m).run t r t') : PutEnds h s t place m r t' := by
  rcases (tries_put ho (hplain m.id)).post run with ⟨stored, rfl, rfl, suffix, hsuffix, rfl⟩ |
    ⟨e, rfl, ⟨-, hrefused, -⟩ | ⟨suffix, hsuffix, hblocked, -, hremoved⟩⟩
  · exact .written (.inr ⟨_, suffix, hsuffix, rfl⟩)
  · exact absurd hrefused (hcalm _)
  · refine .blocked suffix hsuffix hblocked ?_
    rcases (hremoved (hcalm _)).1 with rfl | rfl
    · exact .inl rfl
    · exact .inr ⟨_, suffix, hsuffix, rfl⟩

theorem checkNameFree_eq_ok_iff {machines : List Machine} {name : String} :
    checkNameFree machines name = .ok () ↔ ∀ other ∈ machines, other.name ≠ name := by
  rw [checkNameFree]
  split
  · next htaken =>
      obtain ⟨other, hother, hname⟩ := List.any_eq_true.1 htaken
      constructor
      · intro h
        cases h
      · intro h
        exact absurd (of_decide_eq_true hname) (h other hother)
  · next hfree =>
      refine ⟨fun _ other hother hname => hfree ?_, fun _ => rfl⟩
      exact List.any_eq_true.2 ⟨other, hother, decide_eq_true hname⟩

theorem checkNameFree_eq_error {machines : List Machine} {name : String} {e : Error}
    (h : checkNameFree machines name = .error e) :
    e = .duplicate .machineName name ∧ ∃ other ∈ machines, other.name = name := by
  rw [checkNameFree] at h
  split at h
  · next htaken =>
      obtain ⟨other, hother, hname⟩ := List.any_eq_true.1 htaken
      exact ⟨(Except.error.inj h).symm, other, hother, of_decide_eq_true hname⟩
  · cases h

variable (hcalm : h.Calm) (ho : t.IsOpen h.current s.directory place)
  (hplain : DraftsPlain h t place)

include hcalm ho hplain

theorem runs_guarded {others : List Machine → List Machine} {r : Except Error Machine}
    (run : h.Runs (s.list >>= fun machines =>
      ExceptT.mk (pure (checkNameFree (others machines) m.name)) >>= fun _ =>
        s.put m : ExceptT Error Dialogue Machine).run t r t') :
    GuardedEnds h s t place others m r t' := by
  rcases Behavior.runs_exceptBind run with ⟨e, hlist, rfl⟩ | ⟨machines, t₁, hlist, hrest⟩
  · obtain ⟨hl, rfl⟩ := runs_list hcalm ho hlist
    exact .unlisted hl
  · obtain ⟨hl, rfl⟩ := runs_list hcalm ho hlist
    rcases Behavior.runs_exceptBind hrest with ⟨e, hcheck, rfl⟩ | ⟨_, t₂, hcheck, hput⟩
    · obtain ⟨hrefused, rfl⟩ := Behavior.runs_pure hcheck
      obtain ⟨rfl, htaken⟩ := checkNameFree_eq_error hrefused.symm
      exact .taken hl htaken
    · obtain ⟨hpassed, rfl⟩ := Behavior.runs_pure hcheck
      exact .put hl (checkNameFree_eq_ok_iff.1 hpassed.symm) (runs_put hcalm ho hplain hput)

theorem runs_insert {r : Except Error Machine} (run : h.Runs (s.insert m).run t r t') :
    InsertEnds h s t place m r t' := by
  rcases Behavior.runs_exceptBind run with ⟨e, hthere, rfl⟩ | ⟨there, t₁, hthere, hrest⟩
  · obtain ⟨_, -, he⟩ := Behavior.runs_lift hthere
    cases he
  · obtain ⟨answer, hanswer, hok⟩ := Behavior.runs_lift hthere
    obtain rfl := Except.ok.inj hok
    obtain ⟨hthere, rfl⟩ := runs_exists? hcalm hanswer
    cases there with
    | true =>
        rcases Behavior.runs_exceptBind hrest with ⟨e, hthrow, rfl⟩ | ⟨_, t₂, hthrow, -⟩
        · obtain ⟨he, rfl⟩ := Behavior.runs_pure hthrow
          obtain rfl := Except.error.inj he
          exact .present hthere.symm
        · obtain ⟨he, -⟩ := Behavior.runs_pure hthrow
          cases he
    | false =>
        exact .guarded hthere.symm (runs_guarded hcalm ho hplain hrest)

theorem runs_importRecord {bytes : ByteArray} {replace : Bool} {r : Except Error Machine}
    (run : h.Runs (s.importRecord bytes replace).run t r t') :
    ImportEnds h s t place bytes replace r t' := by
  rcases Behavior.runs_exceptBind run with ⟨e, hread, rfl⟩ | ⟨m, t₁, hread, hrest⟩
  · obtain ⟨hunread, rfl⟩ := Behavior.runs_pure hread
    exact .unread replace hunread.symm
  · obtain ⟨hdecoded, rfl⟩ := Behavior.runs_pure hread
    cases replace with
    | false => exact .inserted hdecoded.symm (runs_insert hcalm ho hplain hrest)
    | true => exact .replaced hdecoded.symm (runs_guarded hcalm ho hplain hrest)

omit ho hplain

theorem runs_delete {id : Uuid} {r : Except Error Unit}
    (run : h.Runs (s.delete id).run t r t') : DeleteEnds h s t id r t' := by
  obtain ⟨answer, t₁, hremove, hrest⟩ := Behavior.runs_bind run
  rcases Behavior.runs_remove hcalm hremove with ⟨rfl, hmade⟩ | ⟨cause, rfl, hrefused, rfl⟩
  · obtain ⟨rfl, rfl⟩ := Behavior.runs_pure hrest
    exact .removed hmade
  · by_cases hcause : cause = .notFound
    · subst hcause
      obtain ⟨rfl, rfl⟩ := Behavior.runs_pure hrest
      exact .absent hrefused
    · have hio : (r, t') = (.error (.io (s.recordPath id) cause), t₁) := by
        cases cause with
        | notFound => exact absurd rfl hcause
        | _ => exact Prod.ext_iff.2 (Behavior.runs_pure hrest)
      obtain ⟨rfl, rfl⟩ := Prod.mk.inj hio
      exact .refused hcause hrefused

end Operations

end Guestkeeper.Store
