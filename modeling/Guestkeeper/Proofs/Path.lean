import Guestkeeper.Path
import Guestkeeper.Proofs.Text.Fields

set_option autoImplicit false

/-! # Names at the end of paths

A path that was made by joining a name to a directory ends in that name, whatever the directory
is. So paths that end in different names are different, also when their directories are. The
parent of a path that was joined is the directory again, if the directory does not end in a
slash or a dot.
-/

namespace Guestkeeper.Path

/-- What a name is written after when it is joined to a directory. -/
def front (directory : String) : String :=
  if directory.isEmpty then ""
  else if directory.toList.getLast? == some '/' then directory
  else directory ++ "/"

theorem isAbsolute_of_notMem {name : String} (hname : '/' ∉ name.toList) :
    isAbsolute name = false := by
  rw [isAbsolute, beq_eq_false_iff_ne]
  exact fun h => hname (List.mem_of_mem_head? h)

theorem join_eq (directory : String) {name : String} (hname : isAbsolute name = false) :
    join directory name = front directory ++ name := by
  rw [join, front, hname, Bool.false_or]
  split
  · rw [String.empty_append]
  · split <;> rfl

/-- A name stands alone or after a slash. -/
theorem toList_front (directory : String) :
    (front directory).toList = [] ∨ ∃ body, (front directory).toList = body ++ ['/'] := by
  rw [front]
  split
  · exact .inl rfl
  · split
    · next hslash => exact .inr (List.getLast?_eq_some_iff.1 (beq_iff_eq.1 hslash))
    · exact .inr ⟨directory.toList, String.toList_append⟩

theorem mem_front {directory : String} {c : Char} (h : c ∈ (front directory).toList) :
    c ∈ directory.toList ∨ c = '/' := by
  rw [front] at h
  split at h
  · cases h
  · split at h
    · exact .inl h
    · rw [String.toList_append, List.mem_append] at h
      exact h.imp_right List.mem_singleton.1

theorem utf8ByteSize_front (directory : String) :
    (front directory).utf8ByteSize ≤ directory.utf8ByteSize + 1 := by
  have hslash : "/".utf8ByteSize = 1 := rfl
  rw [front]
  split
  · exact Nat.zero_le _
  · split
    · exact Nat.le_succ _
    · exact Nat.le_of_eq (by rw [String.utf8ByteSize_append, hslash])

/-- A joined path, read from its end, is the name and then nothing or a slash. -/
theorem exists_reverse_join (directory : String) {name : String} (hname : '/' ∉ name.toList) :
    ∃ above, (join directory name).toList.reverse = name.toList.reverse ++ above ∧
      above.takeWhile (· != '/') = [] := by
  rw [join_eq directory (isAbsolute_of_notMem hname), String.toList_append, List.reverse_append]
  refine ⟨_, rfl, ?_⟩
  rcases toList_front directory with hfront | ⟨body, hfront⟩
  · rw [hfront]
    rfl
  · rw [hfront, List.reverse_append]
    rfl

/-- The name is what a joined path has after its last slash. -/
theorem takeWhile_reverse_join (directory : String) {name : String} (hname : '/' ∉ name.toList) :
    (join directory name).toList.reverse.takeWhile (· != '/') = name.toList.reverse := by
  have hplain : ∀ c ∈ name.toList.reverse, (c != '/') = true := by
    intro c hc
    rw [bne_iff_ne]
    rintro rfl
    exact hname (List.mem_reverse.1 hc)
  obtain ⟨above, hjoin, habove⟩ := exists_reverse_join directory hname
  rw [hjoin, List.takeWhile_append_of_pos hplain, habove, List.append_nil]

theorem name_of_join_eq {directory directory' name name' : String} (hname : '/' ∉ name.toList)
    (hname' : '/' ∉ name'.toList) (h : join directory name = join directory' name') :
    name = name' := by
  have hend := takeWhile_reverse_join directory hname
  rw [h, takeWhile_reverse_join directory' hname'] at hend
  exact String.toList_injective (List.reverse_inj.1 hend.symm)

/-! ## Components of absolute paths -/

/-- The path is absolute, and these are its components. -/
structure HasComponents (path : String) (cs : List (List Char)) : Prop where
  text : path.toList = '/' :: ['/'].intercalate cs
  split : (['/'].intercalate cs).splitOn '/' = cs

section Components

variable {path directory name : String} {cs : List (List Char)} {c d : List Char}

theorem hasComponents_of_toList {body : List Char} (h : path.toList = '/' :: body) :
    HasComponents path (body.splitOn '/') := by
  have hbody : ['/'].intercalate (body.splitOn '/') = body := List.intercalate_splitOn '/'
  exact ⟨by rw [hbody, h], by rw [hbody]⟩

theorem HasComponents.notMem (h : HasComponents path cs) (hc : c ∈ cs) : '/' ∉ c :=
  Text.notMem_of_mem_splitOn (h.split.symm ▸ hc)

/-- A joined path has the name for its last component. -/
theorem exists_hasComponents_join (hdirectory : isAbsolute directory = true)
    (hname : '/' ∉ name.toList) :
    ∃ above, HasComponents (join directory name) (above ++ [name.toList]) := by
  obtain ⟨rest, hrest⟩ : ∃ rest, directory.toList = '/' :: rest := by
    rwa [isAbsolute, beq_iff_eq, List.head?_eq_some_iff] at hdirectory
  have hstart : (front directory).toList.head? = some '/' := by
    have hempty : directory.isEmpty = false := by simpa using fun h => by simp [h] at hrest
    simp only [front, hempty, Bool.false_eq_true, if_false]
    split <;> simp [hrest]
  have hjoin : (join directory name).toList = (front directory).toList ++ name.toList := by
    rw [join_eq directory (isAbsolute_of_notMem hname), String.toList_append]
  rcases toList_front directory with hnil | ⟨body, hbody⟩
  · rw [hnil] at hstart
    cases hstart
  · rw [hbody] at hjoin hstart
    cases body with
    | nil =>
        have hcomponents : HasComponents (join directory name) (name.toList.splitOn '/') :=
          hasComponents_of_toList hjoin
        rw [List.splitOn_eq_singleton hname] at hcomponents
        exact ⟨[], hcomponents⟩
    | cons slash body =>
        obtain rfl : slash = '/' := Option.some.inj hstart
        have hcomponents : HasComponents (join directory name)
            ((body ++ '/' :: name.toList).splitOn '/') :=
          hasComponents_of_toList (by rw [hjoin]; simp)
        rw [List.splitOn_append_cons_self, List.splitOn_eq_singleton hname] at hcomponents
        exact ⟨_, hcomponents⟩

/-- A directory whose last component is not empty is written out in the paths below it. -/
theorem HasComponents.join (h : HasComponents directory (cs ++ [c])) (hc : c ≠ [])
    (hname : '/' ∉ name.toList) :
    HasComponents (Path.join directory name) (cs ++ [c, name.toList]) := by
  obtain ⟨before, hbefore⟩ : ∃ before, directory.toList = before ++ c := by
    by_cases hcs : cs = []
    · exact ⟨['/'], by rw [h.text, hcs]; simp⟩
    · refine ⟨'/' :: ['/'].intercalate cs ++ ['/'], ?_⟩
      rw [h.text, Text.intercalate_append hcs (List.cons_ne_nil c [])]
      simp
  have hend : directory.toList.getLast? ≠ some '/' := by
    obtain ⟨last, hlast⟩ : ∃ last, c.getLast? = some last := ⟨_, List.getLast?_eq_some_getLast hc⟩
    rw [hbefore, List.getLast?_append, hlast, Option.some_or]
    rintro hslash
    obtain rfl : last = '/' := Option.some.inj hslash
    exact h.notMem (List.mem_append_right cs List.mem_cons_self) (List.mem_of_getLast? hlast)
  have hempty : directory.isEmpty = false := by
    simpa using fun hdirectory => by simp [hdirectory, hc] at hbefore
  have hfront : front directory = directory ++ "/" := by
    simp [front, hempty, hend]
  have hjoin : (Path.join directory name).toList =
      '/' :: (['/'].intercalate (cs ++ [c]) ++ '/' :: name.toList) := by
    rw [join_eq directory (isAbsolute_of_notMem hname), hfront, String.toList_append,
      String.toList_append, h.text]
    simp
  have hcomponents := hasComponents_of_toList hjoin
  rw [List.splitOn_append_cons_self, h.split, List.splitOn_eq_singleton hname,
    List.append_assoc] at hcomponents
  exact hcomponents

theorem dropWhile_concat (hc : isIdle c = false) (cs : List (List Char)) :
    (cs ++ [c]).dropWhile isIdle = cs.dropWhile isIdle ++ [c] := by
  have hlast : [c].dropWhile isIdle = [c] := List.dropWhile_cons_of_neg (by simp [hc])
  rw [List.dropWhile_append, hlast]
  split
  · next hnil => rw [List.isEmpty_iff.1 hnil, List.nil_append]
  · rfl

theorem HasComponents.parent? (h : HasComponents path (cs ++ [c, d])) (hc : isIdle c = false)
    (hd : isIdle d = false) (hdirectory : HasComponents directory (cs ++ [c])) :
    parent? path = some directory := by
  have habove : (cs ++ [c, d]).reverse.dropWhile isIdle = d :: (cs ++ [c]).reverse := by
    simp [hd]
  have hkept : (cs ++ [c]).reverse.dropWhile isIdle = (cs ++ [c]).reverse := by
    simp [hc]
  have hstart : splitStart path.toList = (['/'], ['/'].intercalate (cs ++ [c, d])) := by
    rw [h.text, splitStart]
  simp only [Path.parent?, hstart, h.split, habove, hkept, List.reverse_reverse]
  rw [List.singleton_append, ← hdirectory.text, String.ofList_toList]

theorem HasComponents.belowRoot? (h : HasComponents path (cs ++ [c])) (hc : isIdle c = false) :
    ∃ below, belowRoot? path = some below ∧
      HasComponents ("/" ++ below) (cs.dropWhile isIdle ++ [c]) ∧
      ∃ start, path = start ++ ("/" ++ below) := by
  have hkept : (cs.dropWhile isIdle ++ [c]).reverse.dropWhile isIdle =
      (cs.dropWhile isIdle ++ [c]).reverse := by
    simp [hc]
  have hplain : ∀ part ∈ cs.dropWhile isIdle ++ [c], '/' ∉ part := by
    intro part hpart
    refine h.notMem (List.mem_append.2 ?_)
    exact (List.mem_append.1 hpart).imp_left fun hmem => (List.dropWhile_subset isIdle) hmem
  have htext : ("/" ++ String.ofList (['/'].intercalate (cs.dropWhile isIdle ++ [c]))).toList =
      '/' :: ['/'].intercalate (cs.dropWhile isIdle ++ [c]) := by
    simp
  refine ⟨String.ofList (['/'].intercalate (cs.dropWhile isIdle ++ [c])), ?_, ?_, ?_⟩
  · rw [Path.belowRoot?, h.text]
    simp only [h.split, dropWhile_concat hc, hkept, List.reverse_reverse]
  · exact ⟨htext, List.splitOn_intercalate '/' hplain (by simp)⟩
  · have hparts : cs.takeWhile isIdle ++ cs.dropWhile isIdle = cs :=
      List.takeWhile_append_dropWhile
    by_cases hidle : cs.takeWhile isIdle = []
    · rw [hidle, List.nil_append] at hparts
      refine ⟨"", String.toList_inj.1 ?_⟩
      rw [String.empty_append, htext, h.text, hparts]
    · refine ⟨String.ofList ('/' :: ['/'].intercalate (cs.takeWhile isIdle)), ?_⟩
      rw [← String.toList_inj, String.toList_append, htext, String.toList_ofList, h.text,
        List.cons_append, ← Text.intercalate_append hidle (by simp), ← List.append_assoc, hparts]

end Components

end Guestkeeper.Path
