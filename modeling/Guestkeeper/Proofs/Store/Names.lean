import Guestkeeper.Proofs.Host.FileTree
import Guestkeeper.Proofs.Host.Runs
import Guestkeeper.Proofs.Text.Addresses
import Guestkeeper.Store

set_option autoImplicit false

/-! # Names of records

A record's name gives its machine's identifier back, so different machines have different records.
A record that is only being written has a name that is read as no record's name.
-/

namespace Guestkeeper.Store

open Guestkeeper.Host Guestkeeper.Host.FileTree Guestkeeper.Text

/-- The name of a machine's record in the store's directory. -/
def recordName (id : Uuid) : String := id.text ++ recordEnding

/-- The name of a machine's record while it is being written. -/
def temporaryName (id : Uuid) (suffix : String) : String := "." ++ id.text ++ suffix ++ ".tmp"

theorem recordPath_eq (s : Store) (id : Uuid) :
    s.recordPath id = Path.join s.directory (recordName id) := rfl

/-! ## Reading names -/

theorem before?_append (stem ending : String) : before? ending (stem ++ ending) = some stem := by
  have hsuffix : ending.toList.isSuffixOf (stem ++ ending).toList = true := by
    simp [List.isSuffixOf_iff_suffix]
  rw [before?, if_pos hsuffix]
  simp

theorem recordId?_recordName (id : Uuid) : recordId? (recordName id) = some id := by
  rw [recordId?, recordName, before?_append, Option.bind_some, Uuid.ofText?_text]

theorem recordId?_temporaryName (id : Uuid) (suffix : String) :
    recordId? (temporaryName id suffix) = none := by
  have hending : recordEnding.toList.isSuffixOf (temporaryName id suffix).toList = false := by
    rw [← Bool.not_eq_true, List.isSuffixOf_iff_suffix]
    rintro ⟨front, hfront⟩
    -- the two endings differ in their last characters
    have hrecord : (front ++ recordEnding.toList).getLast? = some 'n' := by
      simp [recordEnding]
    have htemporary : (temporaryName id suffix).toList.getLast? = some 'p' := by
      rw [temporaryName, String.toList_append, List.getLast?_append]
      rfl
    rw [hfront, htemporary] at hrecord
    exact absurd (Option.some.inj hrecord) (by decide)
  rw [recordId?, before?, hending]
  rfl

theorem recordName_injective {a b : Uuid} (h : recordName a = recordName b) : a = b := by
  have hread := recordId?_recordName a
  rw [h, recordId?_recordName] at hread
  exact (Option.some.inj hread).symm

/-- What no identifier can be read from is the name of no record. -/
theorem ne_recordName_of_recordId? {name : String} (hread : recordId? name = none) (id : Uuid) :
    name ≠ recordName id := by
  rintro rfl
  rw [recordId?_recordName] at hread
  cases hread

theorem temporaryName_ne_recordName (a b : Uuid) (suffix : String) :
    temporaryName a suffix ≠ recordName b :=
  ne_recordName_of_recordId? (recordId?_temporaryName a suffix) b

/-- What can be read as a record is at the place of no draft. -/
theorem ne_draft_of_recordId? {name : String} {id : Uuid} (hname : recordId? name = some id)
    (place : List String) (other : Uuid) (suffix : String) :
    place ++ [name] ≠ place ++ [temporaryName other suffix] := by
  intro hsame
  obtain rfl : name = temporaryName other suffix := by simpa using hsame
  rw [recordId?_temporaryName] at hname
  cases hname

/-! ## Names as paths -/

theorem notMem_recordName {c : Char} (hdigit : ∀ d, d < 16 → Nat.digitChar d ≠ c)
    (hother : c ∉ "-.json".toList) (id : Uuid) : c ∉ (recordName id).toList := by
  intro h
  rw [recordName, String.toList_append, List.mem_append] at h
  rcases h with h | h
  · exact Uuid.notMem_text hdigit (fun hc => hother (hc ▸ by decide)) id h
  · exact hother (List.mem_of_mem_tail h)

theorem notMem_temporaryName {c : Char} (hdigit : ∀ d, d < 16 → Nat.digitChar d ≠ c)
    (hother : c ∉ "-.tmp".toList) (hplain : c.isAlphanum = false) (id : Uuid) {suffix : String}
    (hsuffix : IsSuffix suffix) : c ∉ (temporaryName id suffix).toList := by
  have hdot : c ≠ '.' := fun hc => hother (hc ▸ by decide)
  intro h
  simp only [temporaryName, String.toList_append, List.mem_append] at h
  rcases h with ((h | h) | h) | h
  · exact hdot (List.mem_singleton.1 h)
  · exact Uuid.notMem_text hdigit (fun hc => hother (hc ▸ by decide)) id h
  · rcases hsuffix.2 c h with hc | hc
    · rw [hplain] at hc
      cases hc
    · exact hdot hc
  · exact hother (List.mem_of_mem_tail h)

theorem utf8ByteSize_ofList_le (cs : List Char) :
    (String.ofList cs).utf8ByteSize ≤ 4 * cs.length := by
  induction cs with
  | nil => simp
  | cons c cs ih =>
      have hc := c.utf8Size_le_four
      rw [String.ofList_cons, String.utf8ByteSize_append, String.utf8ByteSize_singleton,
        List.length_cons]
      omega

theorem utf8ByteSize_le (text : String) : text.utf8ByteSize ≤ 4 * text.toList.length := by
  rw [← String.ofList_toList (s := text), String.toList_ofList]
  exact utf8ByteSize_ofList_le text.toList

theorem length_recordName (id : Uuid) : (recordName id).toList.length = 41 := by
  simp [recordName, recordEnding, Uuid.length_text]

theorem length_temporaryName (id : Uuid) {suffix : String} (hsuffix : IsSuffix suffix) :
    (temporaryName id suffix).toList.length ≤ 54 := by
  have hlength := hsuffix.1
  simp only [temporaryName, String.toList_append, List.length_append, Uuid.length_text]
  have hdot : ".".toList.length = 1 := rfl
  have htmp : ".tmp".toList.length = 4 := rfl
  omega

theorem isName_of_length {name : String} (hlong : 3 ≤ name.toList.length)
    (hshort : name.toList.length ≤ 63) (hslash : '/' ∉ name.toList) : IsName name := by
  refine ⟨⟨?_, ?_, ?_, ?_⟩, hslash⟩
  · rintro rfl
    exact absurd hlong (by decide)
  · rintro rfl
    exact absurd hlong (by decide)
  · rintro rfl
    exact absurd hlong (by decide)
  · have hsize := utf8ByteSize_le name
    simp only [nameLimit]
    omega

theorem isName_recordName (id : Uuid) : IsName (recordName id) := by
  refine isName_of_length ?_ ?_ (notMem_recordName (by decide) (by decide) id)
  · rw [length_recordName]
    decide
  · rw [length_recordName]
    decide

theorem isName_temporaryName (id : Uuid) {suffix : String} (hsuffix : IsSuffix suffix) :
    IsName (temporaryName id suffix) := by
  refine isName_of_length ?_ ?_
    (notMem_temporaryName (by decide) (by decide) (by decide) id hsuffix)
  · simp only [temporaryName, String.toList_append, List.length_append, Uuid.length_text]
    omega
  · have hlength := length_temporaryName id hsuffix
    omega

/-- The paths of records and drafts are not too long for the host. -/
structure PathsFit (s : Store) : Prop where
  record : ∀ id, checkPath (s.recordPath id) = .ok ()
  draft : ∀ id suffix, IsSuffix suffix → checkPath (s.temporaryPath id suffix) = .ok ()

/-- A name of at most 54 characters makes a path in a directory whose path is short. -/
theorem checkPath_join {directory name : String} (hnul : '\x00' ∉ directory.toList)
    (hsize : directory.utf8ByteSize + 217 < pathLimit) (hname : IsName name)
    (hnul' : '\x00' ∉ name.toList) (hlength : name.toList.length ≤ 54) :
    checkPath (Path.join directory name) = .ok () := by
  have hbytes := utf8ByteSize_le name
  have hfront := Path.utf8ByteSize_front directory
  have hempty : (Path.front directory ++ name).isEmpty = false := by simp [hname.ne_empty]
  have hplain : (Path.front directory ++ name).toList.contains '\x00' = false := by
    rw [← Bool.not_eq_true, List.contains_iff_mem, String.toList_append, List.mem_append, not_or]
    refine ⟨fun h => ?_, hnul'⟩
    rcases Path.mem_front h with h | h
    · exact hnul h
    · exact absurd h (by decide)
  have hshort : ¬pathLimit ≤ (Path.front directory ++ name).utf8ByteSize := by
    rw [String.utf8ByteSize_append]
    omega
  rw [Path.join_eq directory hname.isAbsolute, checkPath, hempty, hplain, if_neg (by decide),
    if_neg (by decide), if_neg hshort]

/-- The paths fit in a directory whose path is short. -/
theorem pathsFit_of_short {s : Store} (hnul : '\x00' ∉ s.directory.toList)
    (hsize : s.directory.utf8ByteSize + 217 < pathLimit) : s.PathsFit := by
  refine ⟨fun id => ?_, fun id suffix hsuffix => ?_⟩
  · have hlength : (recordName id).toList.length ≤ 54 := by
      rw [length_recordName]
      decide
    exact checkPath_join hnul hsize (isName_recordName id)
      (notMem_recordName (by decide) (by decide) id) hlength
  · exact checkPath_join hnul hsize (isName_temporaryName id hsuffix)
      (notMem_temporaryName (by decide) (by decide) (by decide) id hsuffix)
      (length_temporaryName id hsuffix)

theorem pathsFit_root : PathsFit ⟨"/"⟩ := pathsFit_of_short (by decide) (by decide)

/-- A record is read at its path. -/
theorem PathsFit.read_recordPath {s : Store} {t : FileTree} {current place : List String}
    (hfit : s.PathsFit) (ho : t.IsOpen current s.directory place) {id : Uuid} {data : ByteArray}
    {hole : Nat} (hfile : t.lookup (place ++ [recordName id]) = some (.file data hole)) :
    t.read current (s.recordPath id) = .ok (Content.file data hole).bytes := by
  rw [recordPath_eq, ho.read_join (isName_recordName id), ← recordPath_eq, hfit.record id, hfile]
  rfl

end Guestkeeper.Store
