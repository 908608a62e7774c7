import Guestkeeper.Proofs.Store.Names

set_option autoImplicit false

/-! # Replacing a record

While a record is being written, the tree goes through few stages: it is as it was, there is
something of the new record under its temporary name, that is gone again, or the whole new record
has taken the place of the old one (`Store.Stage`). Nothing else is ever there, whichever question
the host refuses and wherever the program is interrupted. So what has the record's name is the old
record or the new one, and what is there in part has no record's name.
-/

namespace Guestkeeper

open Guestkeeper.Host

namespace Host.FileTree

variable {t : FileTree} {current place target : List String} {path newPath : String}

section Entry

variable {directory name : String} {t' : FileTree}

/-- A file that was made is empty, if there was no device. -/
theorem IsOpen.create_eq_ok (ho : t.IsOpen current directory place) (hname : IsName name)
    (hdevice : ∀ isFull, t.lookup (place ++ [name]) ≠ some (.device isFull))
    (h : t.create current (Path.join directory name) = .ok t') :
    checkPath (Path.join directory name) = .ok () ∧
      t.lookup (place ++ [name]) ≠ some .directory ∧
      t' = t.put (place ++ [name]) (.file .empty 0) := by
  obtain ⟨p, hp, -⟩ := Except.bind_eq_ok_iff.1 h
  have hresolve := (ho.filePlace_join hname).symm.trans hp
  obtain ⟨_, hpath, -⟩ := Except.bind_eq_ok_iff.1 hresolve
  have hplace : p = place ++ [name] := ho.eq_of_resolve hname hresolve
  rw [create_of_filePlace hp, hplace] at h
  cases hfound : t.lookup (place ++ [name]) with
  | none =>
      rw [hfound] at h
      exact ⟨hpath, by simp, (Except.ok.inj h).symm⟩
  | some content =>
      rw [hfound] at h
      cases content with
      | directory => cases h
      | file data hole => exact ⟨hpath, by simp, (Except.ok.inj h).symm⟩
      | device isFull => exact absurd hfound (hdevice isFull)

/-- A file cannot be made only where there is no path or a directory. -/
theorem IsOpen.create_eq_error (ho : t.IsOpen current directory place) (hname : IsName name)
    {cause : Cause} (h : t.create current (Path.join directory name) = .error cause) :
    checkPath (Path.join directory name) ≠ .ok () ∨
      t.lookup (place ++ [name]) = some .directory := by
  rw [Decidable.or_iff_not_imp_left, Decidable.not_not]
  intro hpath
  have hplace := (ho.filePlace_join hname).trans (ho.resolve_of_checkPath hname hpath)
  rw [create_of_filePlace hplace] at h
  cases hfound : t.lookup (place ++ [name]) with
  | none =>
      rw [hfound] at h
      cases h
  | some content =>
      rw [hfound] at h
      cases content with
      | directory => rfl
      | file data hole => cases h
      | device isFull => cases h

/-- What is added to a file comes after its bytes. -/
theorem IsOpen.append_eq_ok (ho : t.IsOpen current directory place) (hname : IsName name)
    {data more : ByteArray} {hole : Nat}
    (hfile : t.lookup (place ++ [name]) = some (.file data hole))
    (h : t.append current (Path.join directory name) more = .ok t') :
    t' = t.put (place ++ [name]) (.file ((Content.file data hole).bytes ++ more) 0) := by
  obtain ⟨p, hp, -⟩ := Except.bind_eq_ok_iff.1 h
  rw [append_of_resolve hp, ho.eq_of_resolve hname hp, hfile] at h
  exact (Except.ok.inj h).symm

/-- A file that was moved is at its new place and no longer at the old one. -/
theorem IsOpen.rename_eq_ok {newName : String} (ho : t.IsOpen current directory place)
    (hname : IsName name) (hnew : IsName newName) {data : ByteArray} {hole : Nat}
    (hfile : t.lookup (place ++ [name]) = some (.file data hole))
    (h : t.rename current (Path.join directory name) (Path.join directory newName) = .ok t') :
    t.lookup (place ++ [newName]) ≠ some .directory ∧
      t' = (t.erase (place ++ [name])).put (place ++ [newName]) (.file data hole) := by
  obtain ⟨p, hp, hrest⟩ := Except.bind_eq_ok_iff.1 h
  obtain ⟨q, hq, -⟩ := Except.bind_eq_ok_iff.1 hrest
  rw [rename_of_resolve hp hq, ho.eq_of_resolve hname hp, ho.eq_of_resolve hnew hq, hfile] at h
  cases hfound : t.lookup (place ++ [newName]) with
  | none =>
      rw [hfound] at h
      exact ⟨by simp, (Except.ok.inj h).symm⟩
  | some content =>
      rw [hfound] at h
      cases content with
      | directory => cases h
      | file data hole => exact ⟨by simp, (Except.ok.inj h).symm⟩
      | device isFull => exact ⟨by simp, (Except.ok.inj h).symm⟩

/-- A file can be added to. -/
theorem IsOpen.append_ne_error (ho : t.IsOpen current directory place) (hname : IsName name)
    (hpath : checkPath (Path.join directory name) = .ok ()) {data more : ByteArray} {hole : Nat}
    (hfile : t.lookup (place ++ [name]) = some (.file data hole)) (cause : Cause) :
    t.append current (Path.join directory name) more ≠ .error cause := by
  rw [append_of_resolve (ho.resolve_of_checkPath hname hpath), hfile]
  exact fun h => nomatch h

/-- A file cannot be moved only to where there is no path or a directory. -/
theorem IsOpen.rename_eq_error {newName : String} (ho : t.IsOpen current directory place)
    (hname : IsName name) (hnew : IsName newName)
    (hpath : checkPath (Path.join directory name) = .ok ()) {data : ByteArray} {hole : Nat}
    (hfile : t.lookup (place ++ [name]) = some (.file data hole)) {cause : Cause}
    (h : t.rename current (Path.join directory name) (Path.join directory newName)
      = .error cause) :
    checkPath (Path.join directory newName) ≠ .ok () ∨
      t.lookup (place ++ [newName]) = some .directory := by
  rw [Decidable.or_iff_not_imp_left, Decidable.not_not]
  intro hpath'
  rw [rename_of_resolve (ho.resolve_of_checkPath hname hpath)
    (ho.resolve_of_checkPath hnew hpath'), hfile] at h
  cases hfound : t.lookup (place ++ [newName]) with
  | none =>
      rw [hfound] at h
      cases h
  | some content =>
      rw [hfound] at h
      cases content with
      | directory => rfl
      | file data hole => cases h
      | device isFull => cases h

/-- What was removed was there. -/
theorem IsOpen.remove_eq_ok (ho : t.IsOpen current directory place) (hname : IsName name)
    (h : t.remove current (Path.join directory name) = .ok t') :
    t.lookup (place ++ [name]) ≠ none ∧ t' = t.erase (place ++ [name]) := by
  obtain ⟨p, hp, -⟩ := Except.bind_eq_ok_iff.1 h
  rw [remove_of_resolve hp, ho.eq_of_resolve hname hp] at h
  cases hfound : t.lookup (place ++ [name]) with
  | none =>
      rw [hfound] at h
      cases h
  | some content =>
      rw [hfound] at h
      cases content with
      | directory => cases h
      | file data hole => exact ⟨by simp, (Except.ok.inj h).symm⟩
      | device isFull => exact ⟨by simp, (Except.ok.inj h).symm⟩

/-- After a removal, whether it was refused or not, no file has the name. -/
theorem IsOpen.remove_cases (ho : t.IsOpen current directory place) (hname : IsName name) :
    ((∃ cause, t.remove current (Path.join directory name) = .error cause) ∧
      ∀ content, t.stat current (Path.join directory name) = .ok content →
        content = .directory) ∨
    (t.lookup (place ++ [name]) ≠ some .directory ∧
      t.remove current (Path.join directory name) = .ok (t.erase (place ++ [name]))) := by
  cases hp : t.resolve current (Path.join directory name) with
  | error cause =>
      refine .inl ⟨⟨cause, ?_⟩, fun content hstat => ?_⟩
      · rw [remove, hp]
        rfl
      · rw [stat, hp] at hstat
        cases hstat
  | ok p =>
      rw [remove_of_resolve hp, stat_of_resolve hp, ho.eq_of_resolve hname hp]
      cases t.lookup (place ++ [name]) with
      | none =>
          refine .inl ⟨⟨_, rfl⟩, fun content hstat => ?_⟩
          cases hstat
      | some content =>
          cases content with
          | directory =>
              refine .inl ⟨⟨_, rfl⟩, fun content hstat => ?_⟩
              exact (Except.ok.inj hstat).symm
          | file data hole => exact .inr ⟨by simp, rfl⟩
          | device isFull => exact .inr ⟨by simp, rfl⟩

end Entry

end Host.FileTree

namespace Store

open Host.FileTree

/-- What there can be before the new record is in its place. -/
inductive Unfinished (t : FileTree) (draft : List String) : FileTree → Prop
  | untouched : Unfinished t draft t
  | drafted (free : t.lookup draft ≠ some .directory) (data : ByteArray) (hole : Nat) :
      Unfinished t draft (t.put draft (.file data hole))
  | discarded (free : t.lookup draft ≠ some .directory) : Unfinished t draft (t.erase draft)

/-- The tree with a new record in its place. -/
def replaced (t : FileTree) (draft place : List String) (bytes : ByteArray) : FileTree :=
  (t.erase draft).put place (.file bytes 0)

/-- What there can be while a new record is written at `draft` and moved to its place. -/
inductive Stage (t : FileTree) (draft place : List String) (bytes : ByteArray) : FileTree → Prop
  | unfinished {t' : FileTree} (before : Unfinished t draft t') : Stage t draft place bytes t'
  | replaced (freeDraft : t.lookup draft ≠ some .directory)
      (freePlace : t.lookup place ≠ some .directory) :
      Stage t draft place bytes (replaced t draft place bytes)

section Stage

variable {t t' : FileTree} {draft place : List String} {bytes : ByteArray}

/-- Off the draft, an unfinished tree is as it was. -/
theorem Unfinished.lookup_of_ne (hu : Unfinished t draft t') (hdraft : draft ≠ [])
    {q : List String} (hq : q ≠ draft) : t'.lookup q = t.lookup q := by
  cases hu with
  | untouched => rfl
  | drafted free data hole => rw [lookup_put t _ hdraft, if_neg (Ne.symm hq)]
  | discarded free => rw [lookup_erase t hdraft, if_neg (Ne.symm hq)]

theorem lookup_replaced (hdraft : draft ≠ []) (hplace : place ≠ []) (q : List String) :
    (replaced t draft place bytes).lookup q = if q = place then some (.file bytes 0)
      else if q = draft then none else t.lookup q := by
  rw [replaced, lookup_put _ _ hplace, lookup_erase t hdraft]
  simp only [eq_comm (a := q)]

theorem Unfinished.keepsDirectories (hu : Unfinished t draft t') (hdraft : draft ≠ []) :
    t.KeepsDirectories t' := by
  refine KeepsDirectories.of_lookup_ne fun q hq => ?_
  by_cases hqd : q = draft
  · subst hqd
    cases hu with
    | untouched => exact absurd rfl hq
    | drafted free data hole => exact free
    | discarded free => exact free
  · exact absurd (hu.lookup_of_ne hdraft hqd) hq

theorem Unfinished.erase (hu : Unfinished t draft t') (hfree : t'.lookup draft ≠ some .directory) :
    Unfinished t draft (t'.erase draft) := by
  cases hu with
  | untouched => exact .discarded hfree
  | drafted free data hole =>
      rw [erase_put]
      exact .discarded free
  | discarded free =>
      rw [erase_erase]
      exact .discarded free

theorem Stage.keepsDirectories (hs : Stage t draft place bytes t') (hdraft : draft ≠ [])
    (hplace : place ≠ []) : t.KeepsDirectories t' := by
  cases hs with
  | unfinished before => exact before.keepsDirectories hdraft
  | replaced freeDraft freePlace =>
      refine KeepsDirectories.of_lookup_ne fun q hq => ?_
      rw [lookup_replaced hdraft hplace] at hq
      split at hq
      · next hqp => exact hqp ▸ freePlace
      · split at hq
        · next hqd => exact hqd ▸ freeDraft
        · exact absurd rfl hq

end Stage

/-! ## The steps of replacing a record -/

section Steps

variable {h : Behavior} {t : FileTree} {directory draft name : String} {place : List String}
  {bytes : ByteArray}

/-- A failure at a file, reported with its path: the host refuses something, or there is no path
or a directory. -/
def BlockedAt (h : Behavior) (t : FileTree) (directory : String) (place : List String)
    (name : String) (e : Error) : Prop :=
  (∃ cause, e = .io (Path.join directory name) cause) ∧
    ((∃ q, h.refuses q) ∨ checkPath (Path.join directory name) ≠ .ok () ∨
      t.lookup (place ++ [name]) = some .directory)

/-- Beside a draft the directory is open, and the draft is there. -/
theorem isOpen_drafted (ho : t.IsOpen h.current directory place)
    (hfree : t.lookup (place ++ [draft]) ≠ some .directory) (data : ByteArray) :
    (t.put (place ++ [draft]) (.file data 0)).IsOpen h.current directory place ∧
      (t.put (place ++ [draft]) (.file data 0)).lookup (place ++ [draft])
        = some (.file data 0) := by
  refine ⟨ho.mono (Unfinished.keepsDirectories (.drafted hfree data 0) (by simp)), ?_⟩
  rw [lookup_put t _ (by simp), if_pos rfl]

/-- An empty draft is made, or nothing is changed. -/
theorem tries_create (ho : t.IsOpen h.current directory place) (hdraft : IsName draft)
    (hdevice : ∀ isFull, t.lookup (place ++ [draft]) ≠ some (.device isFull)) :
    h.Tries (Unfinished t (place ++ [draft]))
      (at? (Path.join directory draft) (Files.create (Path.join directory draft))) t
      (fun _ t' => checkPath (Path.join directory draft) = .ok () ∧
        t.lookup (place ++ [draft]) ≠ some .directory ∧
        t' = t.put (place ++ [draft]) (.file .empty 0))
      (fun e t' => BlockedAt h t directory place draft e ∧ t' = t) := by
  refine (Behavior.tries_change .untouched (fun t' hmade => ?_) fun cause hrefused => ?_).at?
  · obtain ⟨hpath, hfree, rfl⟩ := ho.create_eq_ok hdraft hdevice hmade
    exact ⟨.drafted hfree _ _, hpath, hfree, rfl⟩
  · refine ⟨⟨⟨cause, rfl⟩, ?_⟩, rfl⟩
    exact hrefused.imp (fun hq => ⟨_, hq⟩) fun herror => ho.create_eq_error hdraft herror

/-- An empty draft is filled, or what was written of it is there. -/
theorem tries_fill (ho : t.IsOpen h.current directory place) (hdraft : IsName draft)
    (hpath : checkPath (Path.join directory draft) = .ok ())
    (hfree : t.lookup (place ++ [draft]) ≠ some .directory) :
    h.Tries (Unfinished t (place ++ [draft]))
      (at? (Path.join directory draft) (Files.append (Path.join directory draft) bytes))
      (t.put (place ++ [draft]) (.file .empty 0))
      (fun _ t' => t' = t.put (place ++ [draft]) (.file bytes 0))
      (fun e _ => BlockedAt h t directory place draft e) := by
  obtain ⟨hopen, hfile⟩ := isOpen_drafted ho hfree .empty
  -- what is added to the empty file, as a whole or in part
  have happend : ∀ more t', (t.put (place ++ [draft]) (.file .empty 0)).append h.current
      (Path.join directory draft) more = .ok t' →
        t' = t.put (place ++ [draft]) (.file more 0) := by
    intro more t' hmore
    rw [hopen.append_eq_ok hdraft hfile hmore, put_put, bytes_file, ByteArray.empty_append]
  refine (Behavior.tries_append (.drafted hfree _ _) (fun t' hmore => ?_)
    (fun count t' hmore => ?_) fun cause hrefused => ⟨⟨cause, rfl⟩, .inl ?_⟩).at?
  · rw [happend _ t' hmore]
    exact ⟨.drafted hfree _ _, rfl⟩
  · rw [happend _ t' hmore]
    exact ⟨.drafted hfree _ _, fun hrefused cause => ⟨⟨cause, rfl⟩, .inl ⟨_, hrefused⟩⟩⟩
  · rcases hrefused with hrefused | herror
    · exact ⟨_, hrefused⟩
    · exact absurd herror (hopen.append_ne_error hdraft hpath hfile cause)

/-- A draft that was written is whole; before that it is nothing but a draft. What fails at the
first question has changed nothing. -/
theorem tries_writeSynced (ho : t.IsOpen h.current directory place) (hdraft : IsName draft)
    (hdevice : ∀ isFull, t.lookup (place ++ [draft]) ≠ some (.device isFull)) :
    h.Tries (Unfinished t (place ++ [draft]))
      (writeSynced (Path.join directory draft) bytes) t
      (fun _ t' => checkPath (Path.join directory draft) = .ok () ∧
        t.lookup (place ++ [draft]) ≠ some .directory ∧
        t' = t.put (place ++ [draft]) (.file bytes 0))
      (fun e t' => BlockedAt h t directory place draft e ∧
        (t' = t ∨ checkPath (Path.join directory draft) = .ok ())) := by
  refine ((tries_create ho hdraft hdevice).mono (fun _ _ _ hok => hok)
    fun _ _ _ hfailed => hfailed.imp_right .inl).bind fun _ t₁ _ ⟨hpath, hfree, ht₁⟩ => ?_
  subst ht₁
  refine ((tries_fill ho hdraft hpath hfree).mono (fun _ _ _ hok => hok)
    fun _ _ _ hfailed => ⟨hfailed, .inr hpath⟩).bind fun _ t₂ _ ht₂ => ?_
  subst ht₂
  obtain ⟨hopen, hfile⟩ := isOpen_drafted ho hfree bytes
  refine (Behavior.tries_sync (.drafted hfree _ _) ⟨hpath, hfree, rfl⟩
    fun cause hrefused => ⟨⟨⟨cause, rfl⟩, .inl ?_⟩, .inr hpath⟩).at?
  rcases hrefused with hrefused | herror
  · exact ⟨_, hrefused⟩
  · rw [stat_of_resolve (hopen.resolve_of_checkPath hdraft hpath), hfile] at herror
    cases herror

/-- A record cannot be replaced: it is blocked at the draft or at its own name. -/
def Blocked (h : Behavior) (t : FileTree) (directory : String) (place : List String)
    (draft name : String) (e : Error) : Prop :=
  BlockedAt h t directory place draft e ∨ BlockedAt h t directory place name e

/-- The draft is moved by one question, and until then it is nothing but a draft. -/
theorem tries_replaceRecord (ho : t.IsOpen h.current directory place) (hdraft : IsName draft)
    (hname : IsName name) (hne : draft ≠ name)
    (hdevice : ∀ isFull, t.lookup (place ++ [draft]) ≠ some (.device isFull)) :
    h.Tries (Stage t (place ++ [draft]) (place ++ [name]) bytes)
      (replaceRecord (Path.join directory draft) (Path.join directory name) bytes) t
      (fun _ t' => t' = replaced t (place ++ [draft]) (place ++ [name]) bytes)
      (fun e t' => Blocked h t directory place draft name e ∧
        Unfinished t (place ++ [draft]) t' ∧
        (t' = t ∨ checkPath (Path.join directory draft) = .ok ())) := by
  refine (((tries_writeSynced ho hdraft hdevice).mono (fun _ _ _ hok => hok)
    fun _ _ hseen ⟨hblocked, hleft⟩ => ⟨.inl hblocked, hseen, hleft⟩).monoSeen
      fun _ => .unfinished).bind fun _ t₁ _ ⟨hpath, hfree, ht₁⟩ => ?_
  subst ht₁
  have hdrafted : Unfinished t (place ++ [draft]) (t.put (place ++ [draft]) (.file bytes 0)) :=
    .drafted hfree bytes 0
  have hsame := hdrafted.lookup_of_ne (by simp)
    (show place ++ [name] ≠ place ++ [draft] by simpa using Ne.symm hne)
  obtain ⟨hopen, hfile⟩ := isOpen_drafted ho hfree bytes
  refine (Behavior.tries_change (.unfinished hdrafted) (fun t' hmoved => ?_)
    fun cause hrefused => ⟨.inr ⟨⟨cause, rfl⟩, ?_⟩, hdrafted, .inr hpath⟩).at?
  · obtain ⟨hplace, rfl⟩ := hopen.rename_eq_ok hdraft hname hfile hmoved
    rw [erase_put]
    exact ⟨.replaced hfree (hsame ▸ hplace), rfl⟩
  · refine hrefused.imp (fun hq => ⟨_, hq⟩) fun herror => ?_
    rw [← hsame]
    exact hopen.rename_eq_error hdraft hname hpath hfile herror

/-- What is left of a draft when a host that does not refuse to was asked to remove it: nothing,
and no file is found at its path. -/
def Removed (current : List String) (t : FileTree) (path : String) (draft : List String)
    (t' : FileTree) : Prop :=
  (t' = t ∨ t' = t.erase draft) ∧
    ∀ content, t'.stat current path = .ok content → content = .directory

/-- A draft that cannot be removed was not there. -/
theorem removed_of_directory (ho : t.IsOpen h.current directory place) (hdraft : IsName draft)
    {t₁ : FileTree} (hu : Unfinished t (place ++ [draft]) t₁)
    (hpath : t₁ = t ∨ checkPath (Path.join directory draft) = .ok ())
    (hdirectory : ∀ content, t₁.stat h.current (Path.join directory draft) = .ok content →
      content = .directory) :
    Removed h.current t (Path.join directory draft) (place ++ [draft]) t₁ := by
  have hopen := ho.mono (hu.keepsDirectories (by simp))
  refine ⟨?_, hdirectory⟩
  cases hu with
  | untouched => exact .inl rfl
  | discarded free => exact .inr rfl
  | drafted free data hole =>
      refine .inl (hpath.resolve_right fun hpath => ?_)
      -- a file at a path could have been removed
      have hresolve := hopen.resolve_join hdraft
      rw [hpath] at hresolve
      have hstat := stat_of_resolve hresolve
      rw [lookup_put t _ (by simp), if_pos rfl] at hstat
      cases hdirectory _ hstat

theorem removed_erase (ho : t.IsOpen h.current directory place) (hdraft : IsName draft)
    {t₁ : FileTree} (hu : Unfinished t (place ++ [draft]) t₁)
    (hfree : t₁.lookup (place ++ [draft]) ≠ some .directory) :
    Removed h.current t (Path.join directory draft) (place ++ [draft])
      (t₁.erase (place ++ [draft])) := by
  refine ⟨.inr ?_, fun content hstat => ?_⟩
  · cases hu with
    | untouched => rfl
    | drafted free data hole => exact erase_put t _ _
    | discarded free => exact erase_erase t _
  · have hdiscarded := hu.erase hfree
    have hgone := (ho.mono (hdiscarded.keepsDirectories (by simp))).lookup_of_stat hdraft hstat
    rw [lookup_erase _ (by simp), if_pos rfl] at hgone
    cases hgone

/-- Nothing but a draft is removed. -/
theorem ensures_remove (ho : t.IsOpen h.current directory place) (hdraft : IsName draft)
    {t₁ : FileTree} (hu : Unfinished t (place ++ [draft]) t₁)
    (hpath : t₁ = t ∨ checkPath (Path.join directory draft) = .ok ()) :
    h.Ensures (Unfinished t (place ++ [draft]))
      (Files.remove (Path.join directory draft) : Dialogue (Except Cause Unit)) t₁
      fun _ t' => ¬h.refuses (.change (.remove (Path.join directory draft))) →
        Removed h.current t (Path.join directory draft) (place ++ [draft]) t' := by
  have hopen := ho.mono (hu.keepsDirectories (by simp))
  have hchange : h.Tries (Unfinished t (place ++ [draft]))
      (ExceptT.mk (Files.remove (Path.join directory draft)) : ExceptT Cause Dialogue Unit) t₁
      (fun _ t' => ¬h.refuses (.change (.remove (Path.join directory draft))) →
        Removed h.current t (Path.join directory draft) (place ++ [draft]) t')
      (fun _ t' => ¬h.refuses (.change (.remove (Path.join directory draft))) →
        Removed h.current t (Path.join directory draft) (place ++ [draft]) t') := by
    -- a directory of the draft's name is not removed, and then it is no draft
    rcases hopen.remove_cases hdraft with ⟨⟨cause, hkept⟩, hdirectory⟩ | ⟨hfree, herased⟩
    · refine Behavior.tries_change hu (fun t' hmade => ?_) fun _ _ _ =>
        removed_of_directory ho hdraft hu hpath hdirectory
      rw [Change.made, hkept] at hmade
      cases hmade
    · refine Behavior.tries_change hu (fun t' hmade => ?_) fun _ hrefused hallowed => ?_
      · rw [Change.made, herased] at hmade
        obtain rfl := Except.ok.inj hmade
        exact ⟨hu.erase hfree, fun _ => removed_erase ho hdraft hu hfree⟩
      · rcases hrefused with hrefused | hrefused
        · exact absurd hrefused hallowed
        · rw [Change.made, herased] at hrefused
          cases hrefused
  refine Behavior.Ensures.mono hchange fun r t' _ hr => ?_
  cases r with
  | ok _ => exact hr
  | error _ => exact hr

/-- A draft that is not moved is removed, unless the host refuses that too. -/
theorem tries_removingOnFailure (ho : t.IsOpen h.current directory place)
    (hdraft : IsName draft) (hname : IsName name) (hne : draft ≠ name)
    (hdevice : ∀ isFull, t.lookup (place ++ [draft]) ≠ some (.device isFull)) :
    h.Tries (Stage t (place ++ [draft]) (place ++ [name]) bytes)
      (removingOnFailure (Path.join directory draft)
        (replaceRecord (Path.join directory draft) (Path.join directory name) bytes)) t
      (fun _ t' => t' = replaced t (place ++ [draft]) (place ++ [name]) bytes)
      (fun e t' => Blocked h t directory place draft name e ∧ Unfinished t (place ++ [draft]) t' ∧
        (¬h.refuses (.change (.remove (Path.join directory draft))) →
          Removed h.current t (Path.join directory draft) (place ++ [draft]) t')) := by
  refine Behavior.Ensures.bind (tries_replaceRecord ho hdraft hname hne hdevice)
    fun r t₁ hseen hr => ?_
  cases r with
  | ok _ => exact .done hseen hr
  | error e =>
      obtain ⟨hfails, hunfinished, hpath⟩ := hr
      have hremove := ensures_remove ho hdraft hunfinished hpath
      refine Behavior.Ensures.bind ((hremove.mono fun _ _ hu hgone => And.intro hu hgone).monoSeen
        fun _ => .unfinished) fun _ t' hseen hgone => .done hseen ⟨hfails, hgone⟩

end Steps

/-! ## Writing a machine's record -/

/-- A stage of writing a machine's record, under some temporary name. -/
def Writing (h : Behavior) (place : List String) (m : Machine) (t t' : FileTree) : Prop :=
  ∃ suffix, h.draws t suffix ∧ Stage t (place ++ [temporaryName m.id suffix])
    (place ++ [recordName m.id]) (Record.encode m) t'

/-- The machine's new record has its place. -/
def Written (h : Behavior) (place : List String) (m : Machine) (t t' : FileTree) : Prop :=
  ∃ suffix, h.draws t suffix ∧ t' = replaced t (place ++ [temporaryName m.id suffix])
    (place ++ [recordName m.id]) (Record.encode m)

/-- The machine's new record does not get its place. Its draft is gone, unless the host refused to
remove it. -/
def Abandoned (h : Behavior) (s : Store) (place : List String) (m : Machine) (t : FileTree)
    (e : Error) (t' : FileTree) : Prop :=
  ∃ suffix, h.draws t suffix ∧
    Blocked h t s.directory place (temporaryName m.id suffix) (recordName m.id) e ∧
    Unfinished t (place ++ [temporaryName m.id suffix]) t' ∧
    (¬h.refuses (.change (.remove (s.temporaryPath m.id suffix))) →
      Removed h.current t (s.temporaryPath m.id suffix) (place ++ [temporaryName m.id suffix]) t')

/-- The new record has its place, but it is not sure to stay. -/
def Unsettled (h : Behavior) (s : Store) (place : List String) (m : Machine) (t : FileTree)
    (e : Error) (t' : FileTree) : Prop :=
  (∃ cause, e = .io s.directory cause) ∧ h.refuses (.sync s.directory) ∧ Written h place m t t'

section Put

variable {h : Behavior} {s : Store} {m : Machine} {t : FileTree} {place : List String}

/-- **Writing a record**, step by step on any host. -/
theorem tries_put (ho : t.IsOpen h.current s.directory place)
    (hdevice : ∀ suffix isFull, h.draws t suffix →
      t.lookup (place ++ [temporaryName m.id suffix]) ≠ some (.device isFull)) :
    h.Tries (Writing h place m t) (s.put m) t
      (fun stored t' => stored = m.withSource (s.recordPath m.id) ∧ Written h place m t t')
      (fun e t' => Unsettled h s place m t e t' ∨ Abandoned h s place m t e t') := by
  -- a name for the draft
  have hdraw : h.Ensures (Writing h place m t) Files.freshSuffix t
      fun suffix t' => h.draws t suffix ∧ t' = t := by
    obtain ⟨suffix, hsuffix⟩ := h.exists_draws t
    exact Behavior.ensures_freshSuffix ⟨suffix, hsuffix, .unfinished .untouched⟩
  refine (Behavior.Tries.lift hdraw).bind fun suffix t₁ _ ⟨hsuffix, ht₁⟩ => ?_
  subst ht₁
  have hdraft := isName_temporaryName m.id (h.isSuffix_of_draws hsuffix)
  have hname := isName_recordName m.id
  -- the draft is written and takes the place of the record
  have hmoved : h.Tries (Writing h place m t₁)
      (removingOnFailure (s.temporaryPath m.id suffix)
        (replaceRecord (s.temporaryPath m.id suffix) (s.recordPath m.id) (Record.encode m))) t₁
      (fun _ t' => Written h place m t₁ t')
      (fun e t' => Unsettled h s place m t₁ e t' ∨ Abandoned h s place m t₁ e t') := by
    refine ((tries_removingOnFailure ho hdraft hname
      (temporaryName_ne_recordName m.id m.id suffix)
      fun isFull => hdevice suffix isFull hsuffix).mono (fun _ t' _ ht' => ⟨suffix, hsuffix, ht'⟩)
      fun e t' _ hgone => ?_).monoSeen fun t' hstage => ⟨suffix, hsuffix, hstage⟩
    exact .inr ⟨suffix, hsuffix, hgone⟩
  refine hmoved.bind fun _ t₂ hseen hwritten => ?_
  have hopen : t₂.IsOpen h.current s.directory place := by
    obtain ⟨_, -, hstage⟩ := hseen
    exact ho.mono (hstage.keepsDirectories (by simp) (by simp))
  -- the directory is told to keep the change
  have hsync : h.Tries (Writing h place m t₁) (at? s.directory (Files.sync s.directory)) t₂
      (fun _ t' => Written h place m t₁ t')
      (fun e t' => Unsettled h s place m t₁ e t' ∨ Abandoned h s place m t₁ e t') := by
    refine (Behavior.tries_sync hseen hwritten fun cause hrefused => ?_).at?
    rcases hrefused with hrefused | hrefused
    · exact .inl ⟨⟨cause, rfl⟩, hrefused, hwritten⟩
    · rw [hopen.stat_directory] at hrefused
      cases hrefused
  exact hsync.bind fun _ t₃ hseen hwritten => .pure hseen ⟨rfl, hwritten⟩

end Put

end Store

end Guestkeeper
