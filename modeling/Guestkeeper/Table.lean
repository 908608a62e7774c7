set_option autoImplicit false

/-! # Ordered tables

A table holds entries with pairwise different keys, in ascending order of their keys. A
machine keeps its devices, boot configurations and pins in tables, so equal contents are
equal tables whatever the order of insertion.

The main statements say what each operation does to look-up by key (`find?_insert`,
`find?_filter`) and that look-ups determine a table (`ext_find?`). -/

namespace Guestkeeper

/-- Entries in strictly ascending order of `key`. -/
structure Table {α κ : Type} [Ord κ] (key : α → κ) where
  entries : List α
  ascending : entries.Pairwise fun a b => compare (key a) (key b) = .lt

namespace Table

variable {α κ : Type} [Ord κ] {key : α → κ}

theorem ext {s t : Table key} (h : s.entries = t.entries) : s = t := by
  cases s; cases t; cases h; rfl

instance [DecidableEq α] : DecidableEq (Table key) := fun s t =>
  if h : s.entries = t.entries then isTrue (ext h) else isFalse fun e => h (e ▸ rfl)

def empty : Table key := ⟨[], .nil⟩

instance : EmptyCollection (Table key) := ⟨empty⟩

instance : Inhabited (Table key) := ⟨empty⟩

instance : Membership α (Table key) := ⟨fun t a => a ∈ t.entries⟩

/-- The entry stored under a key. -/
def find? (t : Table key) (k : κ) : Option α :=
  t.entries.find? fun a => compare (key a) k == .eq

def contains (t : Table key) (k : κ) : Bool := (t.find? k).isSome

/-- Puts `x` at its place in an ascending list, instead of the entry with its key if there is
one. -/
def insertList (key : α → κ) (x : α) : List α → List α
  | [] => [x]
  | y :: ys =>
    match compare (key x) (key y) with
    | .lt => x :: y :: ys
    | .eq => x :: ys
    | .gt => y :: insertList key x ys

theorem mem_insertList {x z : α} {ys : List α} (h : z ∈ insertList key x ys) :
    z = x ∨ z ∈ ys := by
  induction ys with
  | nil => simpa [insertList] using h
  | cons y ys ih =>
    simp only [insertList] at h
    split at h
    · simpa using h
    · rcases List.mem_cons.1 h with h | h
      · exact .inl h
      · exact .inr (List.mem_cons_of_mem _ h)
    · rcases List.mem_cons.1 h with h | h
      · exact .inr (h ▸ List.mem_cons_self)
      · exact (ih h).imp id (List.mem_cons_of_mem _)

theorem pairwise_insertList [Std.TransOrd κ] {x : α} {ys : List α}
    (h : ys.Pairwise fun a b => compare (key a) (key b) = .lt) :
    (insertList key x ys).Pairwise fun a b => compare (key a) (key b) = .lt := by
  induction ys with
  | nil => simp [insertList]
  | cons y ys ih =>
    have ⟨hy, hys⟩ := List.pairwise_cons.1 h
    simp only [insertList]
    split
    · next hxy =>
      refine List.pairwise_cons.2 ⟨fun z hz => ?_, h⟩
      rcases List.mem_cons.1 hz with rfl | hz
      · exact hxy
      · exact Std.TransCmp.lt_trans hxy (hy z hz)
    · next hxy =>
      exact List.pairwise_cons.2 ⟨fun z hz => Std.TransCmp.lt_of_eq_of_lt hxy (hy z hz), hys⟩
    · next hxy =>
      refine List.pairwise_cons.2 ⟨fun z hz => ?_, ih hys⟩
      rcases mem_insertList hz with rfl | hz
      · exact Std.OrientedCmp.lt_of_gt hxy
      · exact hy z hz

/-- Stores `x` under its key. -/
def insert [Std.TransOrd κ] (t : Table key) (x : α) : Table key :=
  ⟨insertList key x t.entries, pairwise_insertList t.ascending⟩

/-- Keeps the entries that satisfy `p`. -/
def filter (p : α → Bool) (t : Table key) : Table key :=
  ⟨t.entries.filter p, t.ascending.filter p⟩

/-- Stores the entries one after another. -/
def insertAll [Std.TransOrd κ] (t : Table key) (xs : List α) : Table key :=
  xs.foldl insert t

/-- The table of the entries, a later one standing for an earlier one with the same key. -/
def ofList [Std.TransOrd κ] (xs : List α) : Table key := (∅ : Table key).insertAll xs

@[simp] theorem entries_empty : (∅ : Table key).entries = [] := rfl

@[simp] theorem find?_empty (k : κ) : (∅ : Table key).find? k = none := rfl

theorem compare_of_find? {t : Table key} {k : κ} {x : α} (h : t.find? k = some x) :
    compare (key x) k = .eq := by
  simpa using List.find?_some h

theorem mem_of_find? {t : Table key} {k : κ} {x : α} (h : t.find? k = some x) :
    x ∈ t.entries := List.mem_of_find?_eq_some h

theorem key_of_find? [Std.LawfulEqOrd κ] {t : Table key} {k : κ} {x : α}
    (h : t.find? k = some x) : key x = k :=
  Std.LawfulEqCmp.eq_of_compare (compare_of_find? h)

theorem find?_insertList [Std.TransOrd κ] [Std.LawfulEqOrd κ] (key : α → κ) (x : α)
    {ys : List α} (h : ys.Pairwise fun a b => compare (key a) (key b) = .lt) (k : κ) :
    (insertList key x ys).find? (fun a => compare (key a) k == .eq) =
      if compare (key x) k = .eq then some x
      else ys.find? fun a => compare (key a) k == .eq := by
  induction ys with
  | nil => by_cases hx : compare (key x) k = .eq <;> simp [insertList, hx]
  | cons y ys ih =>
    have ⟨_, hys⟩ := List.pairwise_cons.1 h
    simp only [insertList]
    split
    · by_cases hx : compare (key x) k = .eq <;> simp [hx]
    · next hxy =>
      have hkey : key x = key y := Std.LawfulEqCmp.eq_of_compare hxy
      by_cases hx : compare (key x) k = .eq
      · simp [hx]
      · have hy : compare (key y) k ≠ .eq := hkey ▸ hx
        simp [hx, hy]
    · next hxy =>
      rw [List.find?_cons, List.find?_cons, ih hys]
      by_cases hy : compare (key y) k = .eq
      · have hk : key y = k := Std.LawfulEqCmp.eq_of_compare hy
        have hx : compare (key x) k ≠ .eq := by rw [← hk, hxy]; decide
        have hb : (compare (key y) k == .eq) = true := by simp [hy]
        simp only [hb, if_neg hx]
      · have hb : (compare (key y) k == .eq) = false := by simp [hy]
        simp only [hb]

/-- After storing `x`, its key leads to it and every other key to what it led to before. -/
theorem find?_insert [Std.TransOrd κ] [Std.LawfulEqOrd κ] [DecidableEq κ] (t : Table key)
    (x : α) (k : κ) : (t.insert x).find? k = if key x = k then some x else t.find? k := by
  have h := find?_insertList key x t.ascending k
  by_cases hk : key x = k
  · have : compare (key x) k = .eq := hk ▸ Std.ReflCmp.compare_self
    simpa [find?, insert, hk, this] using h
  · have : compare (key x) k ≠ .eq := fun e => hk (Std.LawfulEqCmp.eq_of_compare e)
    simpa [find?, insert, hk, this] using h

theorem find?_of_mem [Std.TransOrd κ] {t : Table key} {x : α} (h : x ∈ t.entries) :
    t.find? (key x) = some x := by
  obtain ⟨ys, hys⟩ := t
  simp only [find?] at h ⊢
  induction ys with
  | nil => cases h
  | cons y ys ih =>
    have ⟨hy, hrest⟩ := List.pairwise_cons.1 hys
    rcases List.mem_cons.1 h with rfl | h
    · simp [Std.ReflCmp.compare_self]
    · have : compare (key y) (key x) ≠ .eq := by rw [hy x h]; decide
      have hb : (compare (key y) (key x) == .eq) = false := by simp [this]
      rw [List.find?_cons, hb]
      exact ih hrest h

theorem find?_eq_some_iff [Std.TransOrd κ] [Std.LawfulEqOrd κ] {t : Table key} {k : κ} {x : α} :
    t.find? k = some x ↔ x ∈ t.entries ∧ key x = k :=
  ⟨fun h => ⟨mem_of_find? h, key_of_find? h⟩, fun ⟨h, hk⟩ => hk ▸ find?_of_mem h⟩

/-- Filtering keeps exactly the look-ups whose entry passes. -/
theorem find?_filter [Std.TransOrd κ] [Std.LawfulEqOrd κ] (t : Table key) (p : α → Bool)
    (k : κ) : (t.filter p).find? k = (t.find? k).filter p := by
  apply Option.ext
  intro x
  rw [find?_eq_some_iff, Option.filter_eq_some_iff, find?_eq_some_iff]
  simp only [filter, List.mem_filter]
  exact ⟨fun ⟨⟨h, hp⟩, hk⟩ => ⟨⟨h, hk⟩, hp⟩, fun ⟨⟨h, hk⟩, hp⟩ => ⟨⟨h, hp⟩, hk⟩⟩

/-- Lists of the same elements in one strict order are equal. -/
theorem eq_of_pairwise_of_mem_iff {r : α → α → Prop} (hasymm : ∀ a b, r a b → ¬r b a)
    {xs ys : List α} (hx : xs.Pairwise r) (hy : ys.Pairwise r) (h : ∀ a, a ∈ xs ↔ a ∈ ys) :
    xs = ys := by
  have hne : ∀ {a b}, r a b → a ≠ b := by
    rintro a _ hab rfl
    exact hasymm a a hab hab
  have hperm : xs.Perm ys := (List.perm_ext_iff_of_nodup (hx.imp hne) (hy.imp hne)).2 h
  exact hperm.eq_of_pairwise (fun a b _ _ hab hba => absurd hba (hasymm a b hab)) hx hy

theorem eq_of_mem_iff [Std.TransOrd κ] {xs ys : List α}
    (hx : xs.Pairwise fun a b => compare (key a) (key b) = .lt)
    (hy : ys.Pairwise fun a b => compare (key a) (key b) = .lt)
    (h : ∀ a, a ∈ xs ↔ a ∈ ys) : xs = ys := by
  refine eq_of_pairwise_of_mem_iff (fun a b hab hba => ?_) hx hy h
  have hself : compare (key a) (key a) = .eq := Std.ReflCmp.compare_self
  rw [Std.TransCmp.lt_trans hab hba] at hself
  cases hself

/-- Two tables with the same look-ups are the same table. -/
theorem ext_find? [Std.TransOrd κ] [Std.LawfulEqOrd κ] {s t : Table key}
    (h : ∀ k, s.find? k = t.find? k) : s = t := by
  refine ext (eq_of_mem_iff s.ascending t.ascending fun a => ?_)
  constructor
  · intro ha
    have := find?_of_mem ha
    rw [h] at this
    exact mem_of_find? this
  · intro ha
    have := find?_of_mem ha
    rw [← h] at this
    exact mem_of_find? this

end Table

end Guestkeeper
