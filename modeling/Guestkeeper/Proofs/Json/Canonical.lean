import Guestkeeper.Json.Basic
import Guestkeeper.Json.Token

set_option autoImplicit false

/-! # What is left of a written value

A value that is written and read again comes back with the members of its objects in order, a
later member standing for an earlier one of the same name. Its tokens are the step in between.
Reading insists on integers of 64 bits and bounds the nesting; the values that stay inside both
are said to fit.
-/

namespace Guestkeeper.Json

/-! ## Tokens of a value -/

mutual

/-- The tokens of a value. -/
def tokens : Json → List Token
  | .null => [.null]
  | .bool b => [.bool b]
  | .natural n => [.natural n]
  | .negative n => [.negative n]
  | .otherNumber => [.otherNumber]
  | .text s => [.text s]
  | .array [] => [.leftBracket, .rightBracket]
  | .array (x :: xs) => .leftBracket :: tokens x ++ elementTokens xs
  | .object [] => [.leftBrace, .rightBrace]
  | .object ((name, x) :: ms) =>
    .leftBrace :: .text name :: .colon :: tokens x ++ memberTokens ms

/-- The tokens of further elements, each after a comma, and of the end of the array. -/
def elementTokens : List Json → List Token
  | [] => [.rightBracket]
  | x :: xs => .comma :: tokens x ++ elementTokens xs

/-- The tokens of further members, each after a comma, and of the end of the object. -/
def memberTokens : List (String × Json) → List Token
  | [] => [.rightBrace]
  | (name, x) :: ms => .comma :: .text name :: .colon :: tokens x ++ memberTokens ms

end

/-! ## Members in order -/

mutual

/-- The value with the members of each object in order. -/
def canonical : Json → Json
  | .null => .null
  | .bool b => .bool b
  | .natural n => .natural n
  | .negative n => .negative n
  | .otherNumber => .otherNumber
  | .text s => .text s
  | .array xs => .array (canonicalElements xs)
  | .object ms => .object (canonicalMembers [] ms)

def canonicalElements : List Json → List Json
  | [] => []
  | x :: xs => canonical x :: canonicalElements xs

/-- Stores members, one after another, among those that are there. -/
def canonicalMembers (done : List (String × Json)) : List (String × Json) → List (String × Json)
  | [] => done
  | (name, x) :: ms => canonicalMembers (setMember name (canonical x) done) ms

end

theorem canonicalElements_eq_map (xs : List Json) : canonicalElements xs = xs.map canonical := by
  induction xs with
  | nil => rfl
  | cons x xs ih =>
      rw [canonicalElements, ih]
      rfl

theorem lookup_cons_eq_ite {α : Type} (name n : String) (v : α) (ms : List (String × α)) :
    ((n, v) :: ms).lookup name = if name = n then some v else ms.lookup name := by
  by_cases h : name = n
  · simp [h]
  · have hbeq : (name == n) = false := by simpa using h
    rw [List.lookup_cons, hbeq, if_neg h]

theorem lookup_setMember (name other : String) (value : Json) (ms : List (String × Json)) :
    (setMember name value ms).lookup other =
      if other = name then some value else ms.lookup other := by
  induction ms with
  | nil => exact lookup_cons_eq_ite other name value []
  | cons m ms ih =>
      obtain ⟨n, v⟩ := m
      -- the new member goes before the first, in its place or after it
      simp only [setMember]
      split
      · exact lookup_cons_eq_ite other name value _
      · next heq =>
          have hn : name = n := Std.LawfulEqCmp.eq_of_compare heq
          rw [lookup_cons_eq_ite, lookup_cons_eq_ite, hn]
          split <;> rfl
      · next hgt =>
          have hn : name ≠ n := by
            rintro rfl
            have hself : compare name name = .eq := Std.ReflCmp.compare_self
            rw [hself] at hgt
            cases hgt
          rw [lookup_cons_eq_ite, lookup_cons_eq_ite, ih]
          by_cases hother : other = n
          · rw [if_pos hother, if_pos hother, if_neg fun h => hn (h.symm.trans hother)]
          · rw [if_neg hother, if_neg hother]

/-- Storing members leaves the other names as they were. -/
theorem lookup_canonicalMembers_of_notMem {name : String} {ms : List (String × Json)}
    (h : name ∉ ms.map Prod.fst) (done : List (String × Json)) :
    (canonicalMembers done ms).lookup name = done.lookup name := by
  induction ms generalizing done with
  | nil => rfl
  | cons m ms ih =>
      obtain ⟨n, v⟩ := m
      simp only [List.map_cons, List.mem_cons, not_or] at h
      rw [canonicalMembers, ih h.2, lookup_setMember, if_neg h.1]

/-- Members under different names are found again, whatever their order. -/
theorem lookup_canonicalMembers {ms : List (String × Json)} (hnames : (ms.map Prod.fst).Nodup)
    (name : String) : (canonicalMembers [] ms).lookup name = (ms.lookup name).map canonical := by
  have general : ∀ done : List (String × Json), (canonicalMembers done ms).lookup name =
      ((ms.lookup name).map canonical).or (done.lookup name) := by
    induction ms with
    | nil => intro done; rfl
    | cons m ms ih =>
        intro done
        obtain ⟨n, v⟩ := m
        rw [List.map_cons, List.nodup_cons] at hnames
        rw [canonicalMembers]
        by_cases h : name = n
        · rw [h, lookup_canonicalMembers_of_notMem hnames.1, lookup_setMember, if_pos rfl]
          simp
        · rw [ih hnames.2, lookup_setMember, if_neg h, lookup_cons_eq_ite, if_neg h]
  rw [general [], List.lookup_nil, Option.or_none]

/-! ## Values that fit -/

/-- Integers take at most 64 bits, and arrays and objects nest at most `depth` deep. -/
def Fits : Nat → Json → Prop
  | _, .natural n => n < UInt64.size
  | _, .negative n => 0 < n ∧ n ≤ 1 <<< 63
  | 0, .array _ | 0, .object _ => False
  | depth + 1, .array xs => ∀ x ∈ xs, Fits depth x
  | depth + 1, .object ms => ∀ m ∈ ms, Fits depth m.2
  | _, _ => True

@[simp] theorem fits_null (depth : Nat) : Fits depth .null := by
  cases depth <;> trivial

@[simp] theorem fits_bool (depth : Nat) (b : Bool) : Fits depth (.bool b) := by
  cases depth <;> trivial

@[simp] theorem fits_text (depth : Nat) (s : String) : Fits depth (.text s) := by
  cases depth <;> trivial

theorem fits_natural_iff (depth n : Nat) : Fits depth (.natural n) ↔ n < UInt64.size := by
  cases depth <;> rfl

@[simp] theorem fits_word16 (depth : Nat) (n : UInt16) : Fits depth (.natural n.toNat) :=
  (fits_natural_iff depth _).2 (Nat.lt_trans n.toNat_lt (by decide))

@[simp] theorem fits_word32 (depth : Nat) (n : UInt32) : Fits depth (.natural n.toNat) :=
  (fits_natural_iff depth _).2 (Nat.lt_trans n.toNat_lt (by decide))

@[simp] theorem fits_word64 (depth : Nat) (n : UInt64) : Fits depth (.natural n.toNat) :=
  (fits_natural_iff depth _).2 n.toNat_lt

@[simp] theorem fits_array_iff (depth : Nat) (xs : List Json) :
    Fits (depth + 1) (.array xs) ↔ ∀ x ∈ xs, Fits depth x := Iff.rfl

@[simp] theorem fits_object_iff (depth : Nat) (ms : List (String × Json)) :
    Fits (depth + 1) (.object ms) ↔ ∀ m ∈ ms, Fits depth m.2 := Iff.rfl

end Guestkeeper.Json
