import Guestkeeper.Proofs.Json.Canonical
import Guestkeeper.Proofs.Outcome
import Guestkeeper.Record.Reading

set_option autoImplicit false

/-! # Parts read back

What a part reads from the members that were written for it. The members come back in another
order, and a tagged part comes without its tag, but each of them is found under its name; that
is all a reader of fields needs to succeed. So the statements are about members that hold those
that were written, whatever their order.
-/

namespace Guestkeeper.Record

/-! ## Members -/

/-- Under every name the members have what was written under it. -/
def Holds (members written : List (String × Json)) : Prop :=
  ∀ name, members.lookup name = (written.lookup name).map Json.canonical

theorem holds_canonicalMembers {written : List (String × Json)}
    (h : (written.map Prod.fst).Nodup) : Holds (Json.canonicalMembers [] written) written :=
  Json.lookup_canonicalMembers h

theorem lookup_filter (keep : String → Bool) (members : List (String × Json)) (name : String) :
    (members.filter fun m => keep m.1).lookup name =
      if keep name then members.lookup name else none := by
  induction members with
  | nil => simp
  | cons m members ih =>
      obtain ⟨n, v⟩ := m
      rw [List.filter_cons, Json.lookup_cons_eq_ite]
      by_cases hkeep : keep n = true
      · rw [if_pos hkeep, Json.lookup_cons_eq_ite]
        by_cases hn : name = n
        · rw [if_pos hn, if_pos hn, hn, if_pos hkeep]
        · rw [if_neg hn, if_neg hn, ih]
      · rw [if_neg hkeep, ih]
        by_cases hn : name = n
        · rw [hn, if_neg hkeep, if_neg hkeep]
        · rw [if_neg hn]

/-- Members left out by their names are left out of what was written. -/
theorem Holds.filter {members written : List (String × Json)} (h : Holds members written)
    (keep : String → Bool) :
    Holds (members.filter fun m => keep m.1) (written.filter fun m => keep m.1) := by
  intro name
  rw [lookup_filter, lookup_filter, h name]
  split <;> rfl

/-- A field is found where its name is. -/
theorem findField_eq_some {name : String} {members : List (String × Json)} {value : Json}
    (h : members.lookup name = some value) (place : Nat) :
    ∃ i, findField name place members = some (i, value) := by
  induction members generalizing place with
  | nil => cases h
  | cons m members ih =>
      obtain ⟨n, v⟩ := m
      rw [Json.lookup_cons_eq_ite] at h
      by_cases hn : name = n
      · rw [if_pos hn] at h
        cases h
        exact ⟨place, by rw [findField, if_pos hn.symm]⟩
      · rw [if_neg hn] at h
        obtain ⟨i, hi⟩ := ih h (place + 1)
        exact ⟨i, by rw [findField, if_neg fun hsame => hn hsame.symm, hi]⟩

/-! ## Fields -/

section

variable {α β : Type}

theorem map_eq_ok {f : α → β} {x : FieldReader α} {fields : Fields} {a : α}
    (h : x fields = .ok a) : (f <$> x) fields = .ok (f a) := by
  show (x fields).map f = .ok (f a)
  rw [h]
  rfl

theorem seq_eq_ok {f : FieldReader (α → β)} {x : FieldReader α} {fields : Fields} {g : α → β}
    {a : α} (hf : f fields = .ok g) (hx : x fields = .ok a) : (f <*> x) fields = .ok (g a) := by
  show FieldReader.seq f x fields = .ok (g a)
  simp only [FieldReader.seq, hf, hx]

variable {members written : List (String × Json)} {name : String} {j : Json}
  {read : Json → Read α} {a : α}

theorem Holds.fieldOr (h : Holds members written) (hj : written.lookup name = some j)
    (hread : read j.canonical = .ok a) (default : Read α) :
    Record.fieldOr name read default ⟨members, false⟩ = .ok a := by
  have hlookup : members.lookup name = some j.canonical := by rw [h, hj, Option.map_some]
  obtain ⟨i, hi⟩ := findField_eq_some hlookup 0
  simp only [Record.fieldOr, hi, hread]
  rfl

theorem Holds.field (h : Holds members written) (hj : written.lookup name = some j)
    (hread : read j.canonical = .ok a) : Record.field name read ⟨members, false⟩ = .ok a :=
  h.fieldOr hj hread malformed

theorem Holds.fieldWith (h : Holds members written) (hj : written.lookup name = some j)
    (hread : read j.canonical = .ok a) (default : α) :
    Record.fieldWith name read default ⟨members, false⟩ = .ok a := h.fieldOr hj hread (.ok default)

theorem Holds.fieldIfNamed {b : Option α} (h : Holds members written)
    (hj : written.lookup name = some j) (hread : optional read j.canonical = .ok b) :
    Record.fieldIfNamed name read ⟨members, false⟩ = .ok b := h.fieldOr hj hread (.ok none)

theorem part_eq_ok {names : List String} {reader : FieldReader α}
    (h : reader ⟨members, false⟩ = .ok a) : part names reader (.object members) = .ok a := by
  rw [part, h]
  rfl

/-- A part is read from its written form if it is read from members that hold it. -/
theorem part_canonical_eq_ok {names : List String} {reader : FieldReader α}
    (hnames : (written.map Prod.fst).Nodup)
    (h : ∀ members, Holds members written → reader ⟨members, false⟩ = .ok a) :
    part names reader (Json.object written).canonical = .ok a :=
  part_eq_ok (h _ (holds_canonicalMembers hnames))

theorem emptyPart_eq_ok (value : α) : emptyPart value (.object members) = .ok value := rfl

/-! ## Tagged parts -/

/-- A tagged part is read by the variant that its tag names, without the tag. -/
theorem Holds.tagged {setting : Setting} {tag s : String}
    {variants : List (String × (Json → Read α))} (h : Holds members written)
    (htag : written.lookup tag = some (.text s)) (hvariant : variants.lookup s = some read)
    (hread : ∀ rest, Holds rest (written.filter fun m => m.1 ≠ tag) →
      read (.object rest) = .ok a) :
    Record.tagged setting tag variants (.object members) = .ok a := by
  have hlookup : members.lookup tag = some (.text s) := by
    rw [h, htag]
    rfl
  -- the variant sees the members without the tag
  have huntag : untag tag (.object members)
      = .ok (.text s, .object (members.filter fun m => m.1 ≠ tag)) := by
    simp only [untag, hlookup]
  have hchoose : variant setting variants (.text s) = .ok read := by
    simp only [variant, hvariant]
  rw [Record.tagged, huntag]
  show (variant setting variants (.text s) >>= fun read => _) = _
  rw [hchoose]
  exact hread _ (h.filter fun n => n ≠ tag)

theorem tagged_canonical_eq_ok {setting : Setting} {tag s : String}
    {variants : List (String × (Json → Read α))} (hnames : (written.map Prod.fst).Nodup)
    (htag : written.lookup tag = some (.text s)) (hvariant : variants.lookup s = some read)
    (hread : ∀ rest, Holds rest (written.filter fun m => m.1 ≠ tag) →
      read (.object rest) = .ok a) :
    Record.tagged setting tag variants (Json.object written).canonical = .ok a :=
  (holds_canonicalMembers hnames).tagged htag hvariant hread

/-! ## Lists and values that may be missing -/

theorem list_eq_ok {toJson : α → Json} {xs : List α}
    (h : ∀ x ∈ xs, read (toJson x).canonical = .ok x) :
    list read (Json.array (xs.map toJson)).canonical = .ok xs := by
  have hmap : Json.canonicalElements (xs.map toJson)
      = xs.map fun x => (toJson x).canonical := by
    rw [Json.canonicalElements_eq_map, List.map_map]
    rfl
  rw [Json.canonical, list, hmap]
  exact Except.mapM_eq_ok h

theorem optional_eq_ok (hnull : j.canonical ≠ .null) (hread : read j.canonical = .ok a) :
    optional read j.canonical = .ok (some a) := by
  unfold optional
  split
  · next heq => exact absurd heq hnull
  · rw [hread]
    rfl

theorem checked_eq_ok_iff {x : Except Error α} : checked x = .ok a ↔ x = .ok a :=
  Except.mapError_eq_ok_iff

theorem checked_eq_ok {x : Except Error α} (h : x = .ok a) : checked x = .ok a :=
  checked_eq_ok_iff.2 h

/-- What is read by the rules of a text is a text. -/
theorem parsed_eq_ok_iff {ofText : String → Except Error α} {j : Json} :
    parsed ofText j = .ok a ↔ ∃ s, j = .text s ∧ ofText s = .ok a := by
  rw [parsed, Except.bind_eq_ok_iff]
  simp only [checked_eq_ok_iff]
  constructor
  · rintro ⟨s, hs, h⟩
    cases j with
    | text s' =>
        cases hs
        exact ⟨s, rfl, h⟩
    | _ => cases hs
  · rintro ⟨s, rfl, h⟩
    exact ⟨s, rfl, h⟩

/-- A text that its own reader takes back. -/
theorem parsed_eq_ok {ofText : String → Except Error α} {s : String} (h : ofText s = .ok a) :
    parsed ofText (Json.text s).canonical = .ok a := checked_eq_ok h

theorem word_eq_ok {setting : Setting} {words : List (String × α)} {s : String}
    (h : words.lookup s = some a) : word setting words (Json.text s).canonical = .ok a := by
  simp only [Json.canonical, word, h]

end

/-! ## Single values -/

theorem text_eq_ok (s : String) : text (Json.text s).canonical = .ok s := rfl

theorem bool_eq_ok (b : Bool) : bool (Json.bool b).canonical = .ok b := rfl

theorem natural_eq_ok {bound n : Nat} (h : n < bound) :
    natural bound (Json.natural n).canonical = .ok n := by
  simp only [Json.canonical, natural, if_pos h]

theorem word16_eq_ok (n : UInt16) : word16 (Json.natural n.toNat).canonical = .ok n := by
  rw [word16, natural_eq_ok n.toNat_lt]
  exact congrArg Except.ok UInt16.ofNat_toNat

theorem word32_eq_ok (n : UInt32) : word32 (Json.natural n.toNat).canonical = .ok n := by
  rw [word32, natural_eq_ok n.toNat_lt]
  exact congrArg Except.ok UInt32.ofNat_toNat

theorem word64_eq_ok (n : UInt64) : word64 (Json.natural n.toNat).canonical = .ok n := by
  rw [word64, natural_eq_ok n.toNat_lt]
  exact congrArg Except.ok UInt64.ofNat_toNat

end Guestkeeper.Record
