import Guestkeeper.Proofs.Text.Numeral
import Guestkeeper.Text.Blank
import Guestkeeper.Text.Fields
import Mathlib.Data.List.Forall2
import Mathlib.Data.List.TakeWhile

set_option autoImplicit false

/-! # Fields read back

Fields that do not hold the separator are read back from their joined text. Trimming takes off the
blanks at both ends of a text and nothing else.
-/

namespace Guestkeeper.Text

/-- Digits are no blanks. -/
theorem isBlank_of_isDigit {c : Char} (h : c.isDigit = true) : isBlank c = false := by
  -- the digits lie between two ranges of blanks
  have hc : 48 ≤ c.toNat ∧ c.toNat ≤ 57 := by
    simpa [Char.isDigit, UInt32.le_iff_toNat_le] using h
  simp only [isBlank, inRanges, blankRanges, List.any_cons, List.any_nil, Bool.or_eq_false_iff,
    Bool.and_eq_false_iff, decide_eq_false_iff_not, and_true]
  omega

/-! ## Blanks around a text -/

/-- The text is the core with nothing but blanks before and after it. -/
def Pads (text core : String) : Prop :=
  ∃ before after, text = before ++ core ++ after ∧ isAllBlank before = true ∧
    isAllBlank after = true

theorem pads_self (text : String) : Pads text text :=
  ⟨"", "", by rw [String.empty_append, String.append_empty], rfl, rfl⟩

theorem pads_trim (text : String) : Pads text (trim text) := by
  obtain ⟨rest, hrest⟩ : ∃ rest, rest = text.toList.dropWhile isBlank := ⟨_, rfl⟩
  have htext : text.toList.takeWhile isBlank ++ rest = text.toList := by
    rw [hrest, List.takeWhile_append_dropWhile]
  have hend : (rest.reverse.dropWhile isBlank).reverse ++
      (rest.reverse.takeWhile isBlank).reverse = rest := by
    rw [← List.reverse_append, List.takeWhile_append_dropWhile, List.reverse_reverse]
  refine ⟨String.ofList (text.toList.takeWhile isBlank),
    String.ofList (rest.reverse.takeWhile isBlank).reverse, ?_, ?_, ?_⟩
  · rw [← String.toList_inj, trim, trimList, ← hrest]
    simp only [String.toList_append, String.toList_ofList, List.append_assoc]
    rw [hend, htext]
  · rw [isAllBlank, String.toList_ofList, List.all_takeWhile]
  · rw [isAllBlank, String.toList_ofList, List.all_reverse, List.all_takeWhile]

theorem dropWhile_isBlank_append {cs : List Char} (hne : cs ≠ [])
    (h : ∀ c ∈ cs, isBlank c = false) (ds : List Char) :
    (cs ++ ds).dropWhile isBlank = cs ++ ds := by
  obtain ⟨c, cs, rfl⟩ := List.exists_cons_of_ne_nil hne
  rw [List.cons_append, List.dropWhile_cons_of_neg (by simp [h c List.mem_cons_self])]

/-- A core without blanks is all that is left. -/
theorem Pads.trim_eq {text core : String} (h : Pads text core) (hne : core ≠ "")
    (hcore : ∀ c ∈ core.toList, isBlank c = false) : trim text = core := by
  obtain ⟨before, after, rfl, hbefore, hafter⟩ := h
  rw [isAllBlank, List.all_eq_true] at hbefore hafter
  have hafter' : ∀ c ∈ after.toList.reverse, isBlank c = true :=
    fun c hc => hafter c (List.mem_reverse.1 hc)
  have hchars : core.toList ≠ [] := fun hnil => hne (String.toList_eq_nil_iff.1 hnil)
  have hreverse : core.toList.reverse.dropWhile isBlank = core.toList.reverse := by
    have hdrop : (core.toList.reverse ++ []).dropWhile isBlank = core.toList.reverse ++ [] :=
      dropWhile_isBlank_append (by simpa using hchars) (by simpa using hcore) []
    rwa [List.append_nil] at hdrop
  rw [← String.toList_inj, trim, String.toList_ofList, trimList, String.toList_append,
    String.toList_append, List.append_assoc, List.dropWhile_append_of_pos hbefore,
    dropWhile_isBlank_append hchars hcore, List.reverse_append,
    List.dropWhile_append_of_pos hafter', hreverse, List.reverse_reverse]

/-! ## Fields and their separators -/

theorem toList_of_after? {start text rest : String} (h : after? start text = some rest) :
    text.toList = start.toList ++ rest.toList := by
  rw [after?] at h
  split at h
  · next hstart =>
      obtain ⟨tail, htail⟩ := List.isPrefixOf_iff_prefix.1 hstart
      cases h
      rw [String.toList_ofList, ← htail, List.drop_left]
  · cases h

theorem after?_eq_some_iff {start text rest : String} :
    after? start text = some rest ↔ text = start ++ rest := by
  constructor
  · intro h
    rw [← String.toList_inj, String.toList_append]
    exact toList_of_after? h
  · rintro rfl
    have hstart : start.toList.isPrefixOf (start ++ rest).toList = true := by
      simp [List.isPrefixOf_iff_prefix]
    rw [after?, if_pos hstart]
    simp

theorem splitOn_intercalate_map {α : Type} {sep : Char} {f : α → List Char} {xs : List α}
    (hne : xs ≠ []) (h : ∀ x ∈ xs, sep ∉ f x) :
    ([sep].intercalate (xs.map f)).splitOn sep = xs.map f := by
  refine List.splitOn_intercalate sep (fun l hl => ?_) fun hnil => hne (List.map_eq_nil_iff.1 hnil)
  obtain ⟨x, hx, rfl⟩ := List.mem_map.1 hl
  exact h x hx

/-- A list is read element by element. -/
theorem mapM_eq_some_iff {α β : Type} {f : α → Option β} {xs : List α} {ys : List β} :
    xs.mapM f = some ys ↔ List.Forall₂ (fun x y => f x = some y) xs ys := by
  induction xs generalizing ys with
  | nil => simp [eq_comm]
  | cons x xs ih =>
      simp only [List.mapM_cons, Option.bind_eq_bind, Option.bind_eq_some_iff,
        List.forall₂_cons_left_iff, ih, Option.pure_def, Option.some.injEq]
      constructor
      · rintro ⟨y, hy, zs, hzs, rfl⟩
        exact ⟨y, zs, hy, hzs, rfl⟩
      · rintro ⟨y, zs, hy, hzs, rfl⟩
        exact ⟨y, hy, zs, hzs, rfl⟩

/-- A list is read into a list when each element is. -/
theorem mapM_map_eq_some {α β : Type} {f : α → Option β} {g : β → α} {ys : List β}
    (h : ∀ y ∈ ys, f (g y) = some y) : (ys.map g).mapM f = some ys :=
  mapM_eq_some_iff.2 (List.forall₂_map_left_iff.2 (List.forall₂_same.2 h))

/-- Elements that are each related to something are related to a list. -/
theorem exists_forall₂ {α β : Type} {R : α → β → Prop} {xs : List α} (h : ∀ x ∈ xs, ∃ y, R x y) :
    ∃ ys, List.Forall₂ R xs ys := by
  induction xs with
  | nil => exact ⟨[], .nil⟩
  | cons x xs ih =>
      obtain ⟨y, hy⟩ := h x List.mem_cons_self
      obtain ⟨ys, hys⟩ := ih fun z hz => h z (List.mem_cons_of_mem x hz)
      exact ⟨y :: ys, .cons hy hys⟩

/-- A list is not read when one of its elements is not. -/
theorem mapM_eq_none_of_mem {α β : Type} {f : α → Option β} {xs : List α} {x : α} (hx : x ∈ xs)
    (h : f x = none) : xs.mapM f = none := by
  induction xs with
  | nil => cases hx
  | cons y ys ih =>
      rw [List.mapM_cons]
      rcases List.mem_cons.1 hx with rfl | hx
      · rw [h]
        rfl
      · rw [ih hx]
        cases f y <;> rfl

theorem mem_intercalate {sep c : Char} {parts : List (List Char)}
    (h : c ∈ [sep].intercalate parts) : c = sep ∨ ∃ part ∈ parts, c ∈ part := by
  induction parts with
  | nil => cases h
  | cons part parts ih =>
      cases parts with
      | nil =>
          rw [List.intercalate_singleton] at h
          exact .inr ⟨part, List.mem_cons_self, h⟩
      | cons part' parts =>
          rw [List.intercalate_cons_cons, List.append_assoc, List.mem_append,
            List.mem_append] at h
          rcases h with h | h | h
          · exact .inr ⟨part, List.mem_cons_self, h⟩
          · exact .inl (List.mem_singleton.1 h)
          · obtain hsep | ⟨p, hp, hc⟩ := ih h
            · exact .inl hsep
            · exact .inr ⟨p, List.mem_cons_of_mem part hp, hc⟩

theorem mem_intercalate_of_mem {sep c : Char} {part : List Char} {parts : List (List Char)}
    (hpart : part ∈ parts) (hc : c ∈ part) : c ∈ [sep].intercalate parts := by
  induction parts with
  | nil => cases hpart
  | cons first parts ih =>
      cases parts with
      | nil =>
          rw [List.intercalate_singleton]
          exact List.mem_singleton.1 hpart ▸ hc
      | cons next parts =>
          rw [List.intercalate_cons_cons, List.mem_append]
          rcases List.mem_cons.1 hpart with rfl | hpart
          · exact .inl (List.mem_append_left _ hc)
          · exact .inr (ih hpart)

theorem map_intercalate (f : Char → Char) (sep : Char) (parts : List (List Char)) :
    ([sep].intercalate parts).map f = [f sep].intercalate (parts.map (List.map f)) := by
  induction parts with
  | nil => rfl
  | cons first parts ih =>
      cases parts with
      | nil => simp
      | cons next parts =>
          rw [List.intercalate_cons_cons, List.map_append, List.map_append, ih]
          exact List.intercalate_cons_cons.symm

/-- A character other than the separator is in one of the fields. -/
theorem exists_mem_splitOn {sep c : Char} {cs : List Char} (h : c ∈ cs) (hsep : c ≠ sep) :
    ∃ part ∈ cs.splitOn sep, c ∈ part := by
  have hjoin : [sep].intercalate (cs.splitOn sep) = cs := List.intercalate_splitOn sep
  rw [← hjoin] at h
  exact (mem_intercalate h).resolve_left hsep

/-- What is between separators does not hold one. -/
theorem notMem_of_mem_splitOn {sep : Char} {cs part : List Char} (h : part ∈ cs.splitOn sep) :
    sep ∉ part := by
  induction cs generalizing part with
  | nil =>
      obtain rfl : part = [] := List.mem_singleton.1 h
      exact List.not_mem_nil
  | cons c cs ih =>
      rw [List.splitOn_cons_eq_if_modifyHead] at h
      split at h
      · rcases List.mem_cons.1 h with rfl | h
        · exact List.not_mem_nil
        · exact ih h
      · next hc =>
          obtain ⟨first, rest, hsplit⟩ := List.exists_cons_of_ne_nil (List.splitOn_ne_nil sep cs)
          rw [hsplit] at h ih
          rcases List.mem_cons.1 h with rfl | h
          · have hne : sep ≠ c := fun heq => hc (beq_iff_eq.2 heq.symm)
            exact List.not_mem_cons_of_ne_of_not_mem hne (ih List.mem_cons_self)
          · exact ih (List.mem_cons_of_mem first h)

/-- Parts after other parts are after one more separator. -/
theorem intercalate_append {sep : Char} {parts more : List (List Char)} (hparts : parts ≠ [])
    (hmore : more ≠ []) : [sep].intercalate (parts ++ more) =
      [sep].intercalate parts ++ sep :: [sep].intercalate more := by
  induction parts with
  | nil => exact absurd rfl hparts
  | cons part parts ih =>
      cases parts with
      | nil =>
          obtain ⟨first, rest, rfl⟩ := List.exists_cons_of_ne_nil hmore
          rw [List.singleton_append, List.intercalate_cons_cons, List.intercalate_singleton,
            List.append_assoc, List.singleton_append]
      | cons next parts =>
          have hrest := ih (List.cons_ne_nil next parts)
          rw [List.cons_append] at hrest
          rw [List.cons_append, List.cons_append, List.intercalate_cons_cons, hrest,
            List.intercalate_cons_cons, List.append_assoc, List.append_assoc, List.append_assoc]

/-! ## Texts put together -/

theorem fields_of_notMem {sep : Char} {text : String} (h : sep ∉ text.toList) :
    fields sep text = [text] := by
  rw [fields, List.splitOn_eq_singleton h, List.map_singleton, String.ofList_toList]

theorem flatMap_fields_of_notMem {sep : Char} {texts : List String}
    (h : ∀ text ∈ texts, sep ∉ text.toList) : texts.flatMap (fields sep) = texts := by
  induction texts with
  | nil => rfl
  | cons text texts ih =>
      rw [List.flatMap_cons, fields_of_notMem (h text List.mem_cons_self),
        ih fun other hother => h other (List.mem_cons_of_mem text hother)]
      rfl

/-- A separator between two texts ends the last field of the first. -/
theorem fields_append_sep (sep : Char) (first rest : String) :
    fields sep (first ++ String.ofList [sep] ++ rest) = fields sep first ++ fields sep rest := by
  have hchars : (first ++ String.ofList [sep] ++ rest).toList =
      first.toList ++ sep :: rest.toList := by
    simp
  rw [fields, hchars, List.splitOn_append_cons_self, List.map_append]
  rfl

/-- The fields of joined texts are the fields of each. -/
theorem fields_intercalate (sep : Char) (text : String) (texts : List String) :
    fields sep (String.intercalate (String.ofList [sep]) (text :: texts)) =
      (text :: texts).flatMap (fields sep) := by
  induction texts generalizing text with
  | nil => simp
  | cons next texts ih =>
      rw [List.flatMap_cons, String.intercalate_cons_cons, fields_append_sep, ih next]

/-- Fields that do not hold the separator are read back. -/
theorem fields_joinFields {sep : Char} {parts : List String} (hne : parts ≠ [])
    (h : ∀ part ∈ parts, sep ∉ part.toList) : fields sep (joinFields sep parts) = parts := by
  rw [fields, joinFields, String.toList_ofList, splitOn_intercalate_map hne h, List.map_map]
  simp [Function.comp_def]

/-- The fields of a text are the parts without a separator that make it up. -/
theorem fields_eq_iff {sep : Char} {text : String} {parts : List String} (hne : parts ≠ []) :
    fields sep text = parts ↔
      text = joinFields sep parts ∧ ∀ part ∈ parts, sep ∉ part.toList := by
  constructor
  · rintro rfl
    refine ⟨(joinFields_fields sep text).symm, fun part hpart => ?_⟩
    obtain ⟨cs, hcs, rfl⟩ := List.mem_map.1 hpart
    rw [String.toList_ofList]
    exact notMem_of_mem_splitOn hcs
  · rintro ⟨rfl, hparts⟩
    exact fields_joinFields hne hparts

theorem notMem_joinFields {sep c : Char} {parts : List String} (hsep : c ≠ sep)
    (h : ∀ part ∈ parts, c ∉ part.toList) : c ∉ (joinFields sep parts).toList := by
  intro hmem
  rw [joinFields, String.toList_ofList] at hmem
  rcases mem_intercalate hmem with hc | ⟨part, hpart, hc⟩
  · exact hsep hc
  · obtain ⟨text, htext, rfl⟩ := List.mem_map.1 hpart
    exact h text htext hc

theorem mem_joinFields {sep c : Char} {part : String} {parts : List String} (hpart : part ∈ parts)
    (hc : c ∈ part.toList) : c ∈ (joinFields sep parts).toList := by
  rw [joinFields, String.toList_ofList]
  exact mem_intercalate_of_mem (List.mem_map_of_mem hpart) hc

theorem joinFields_ne_empty {sep : Char} {first : String} (hfirst : first ≠ "")
    (rest : List String) : joinFields sep (first :: rest) ≠ "" := by
  intro hempty
  cases hchars : first.toList with
  | nil => exact hfirst (String.toList_eq_nil_iff.1 hchars)
  | cons c cs =>
      have hjoined : (joinFields sep (first :: rest)).toList = [] := by
        rw [hempty]
        rfl
      rw [joinFields, String.toList_ofList, List.map_cons, hchars] at hjoined
      cases rest <;> cases hjoined

/-- A text is determined by its fields. -/
theorem fields_injective {sep : Char} {s t : String} (h : fields sep s = fields sep t) : s = t := by
  rw [← joinFields_fields sep s, h, joinFields_fields]

theorem length_splitOn (sep : Char) (cs : List Char) :
    (cs.splitOn sep).length = cs.count sep + 1 := by
  induction cs with
  | nil => rfl
  | cons c cs ih =>
      rw [List.splitOn_cons_eq_if_modifyHead, List.count_cons]
      split
      · rw [List.length_cons, ih]
      · rw [List.length_modifyHead, ih]

theorem length_fields (sep : Char) (text : String) :
    (fields sep text).length = text.toList.count sep + 1 := by
  rw [fields, List.length_map, length_splitOn]

/-- A text is cut behind a name that does not hold the separator. -/
theorem cut_append {sep : Char} {name : String} (h : sep ∉ name.toList) (rest : String) :
    cut sep (name ++ String.ofList [sep] ++ rest) = some (name, rest) := by
  have hname : ∀ c ∈ name.toList, (c != sep) = true := by
    intro c hc
    rw [bne_iff_ne]
    rintro rfl
    exact h hc
  have hchars : (name ++ String.ofList [sep] ++ rest).toList =
      name.toList ++ sep :: rest.toList := by
    simp
  have hdrop : (sep :: rest.toList).dropWhile (· != sep) = sep :: rest.toList :=
    List.dropWhile_cons_of_neg (by simp)
  have htake : (sep :: rest.toList).takeWhile (· != sep) = [] :=
    List.takeWhile_cons_of_neg (by simp)
  simp only [cut, hchars, List.dropWhile_append_of_pos hname, List.takeWhile_append_of_pos hname,
    hdrop, htake, List.append_nil, String.ofList_toList]

/-- The cut is at the first separator: the name before it has none. -/
theorem cut_eq_some_iff {sep : Char} {text name rest : String} : cut sep text = some (name, rest) ↔
    text = name ++ String.ofList [sep] ++ rest ∧ sep ∉ name.toList := by
  constructor
  · intro h
    rw [cut] at h
    split at h
    · cases h
    next c after hdrop =>
    obtain ⟨rfl, rfl⟩ := Prod.mk.inj (Option.some.inj h)
    obtain rfl : c = sep := by
      have hhead := List.head?_dropWhile_not (· != sep) text.toList
      rw [hdrop] at hhead
      simpa using hhead
    have htext : text.toList.takeWhile (· != c) ++ c :: after = text.toList := by
      rw [← hdrop, List.takeWhile_append_dropWhile]
    refine ⟨String.toList_inj.1 ?_, fun hmem => ?_⟩
    · simp [htext]
    · rw [String.toList_ofList] at hmem
      simpa using List.mem_takeWhile_imp hmem
  · rintro ⟨rfl, hname⟩
    exact cut_append hname rest

/-- A text without the separator is not cut. -/
theorem cut_eq_none_iff {sep : Char} {text : String} :
    cut sep text = none ↔ sep ∉ text.toList := by
  have hdrop : text.toList.dropWhile (· != sep) = [] ↔ sep ∉ text.toList := by
    rw [List.dropWhile_eq_nil_iff]
    constructor
    · intro h hmem
      simpa using h sep hmem
    · rintro h c hc
      rw [bne_iff_ne]
      rintro rfl
      exact h hc
  rw [← hdrop, cut]
  cases text.toList.dropWhile (· != sep) with
  | nil => simp
  | cons c cs => simp

/-! ## Numerals as fields -/

/-- A separator that is no digit and no plus sign is in no numeral. -/
theorem IsNumeral.notMem {sep : Char} {text : String} {n : Nat} (h : IsNumeral text n)
    (hdigit : sep.isDigit = false) (hplus : sep ≠ '+') : sep ∉ text.toList := by
  intro hmem
  rcases h.mem hmem with hsep | hsep
  · exact ne_of_isDigit hsep hdigit rfl
  · exact hplus hsep

/-- A separator that is no digit is in no decimal numeral. -/
theorem notMem_decimal {sep : Char} (hsep : sep.isDigit = false) (n : Nat) :
    sep ∉ (decimal n).toList := by
  intro hmem
  rw [toList_decimal] at hmem
  exact ne_of_isDigit (isDigit_of_mem_decimal hmem) hsep rfl

end Guestkeeper.Text
