import Guestkeeper.Proofs.Outcome
import Guestkeeper.Table

set_option autoImplicit false

/-! # Contents of tables

What is in a table after an entry was stored, and how a table is rebuilt from the list of its
entries: each entry finds its key free, and the table that results is the one that the list came
from.
-/

namespace Guestkeeper.Table

/-- Keys in ascending order are different. -/
theorem ne_of_compare_lt {κ : Type} [Ord κ] [Std.ReflOrd κ] {k l : κ}
    (h : compare k l = .lt) : k ≠ l := by
  rintro rfl
  have hself : compare k k = .eq := Std.ReflCmp.compare_self
  rw [hself] at h
  cases h

variable {α κ ε : Type} [Ord κ] [Std.TransOrd κ] [Std.LawfulEqOrd κ] {key : α → κ}

omit [Std.LawfulEqOrd κ] in
/-- A table is determined by its entries, whatever their order. -/
theorem eq_iff_mem {s t : Table key} : s = t ↔ ∀ x, x ∈ s.entries ↔ x ∈ t.entries := by
  constructor
  · rintro rfl x
    exact Iff.rfl
  · intro h
    exact ext (eq_of_mem_iff s.ascending t.ascending h)

/-- After storing `x`, the entries are `x` and those under other keys. -/
theorem mem_insert_iff {t : Table key} {x y : α} :
    y ∈ (t.insert x).entries ↔ y = x ∨ (y ∈ t.entries ∧ key y ≠ key x) := by
  classical
  have hfind : ∀ z : α, (t.insert x).find? (key z) =
      if key x = key z then some x else t.find? (key z) := fun z => find?_insert t x (key z)
  constructor
  · intro hy
    have hy' := hfind y
    rw [find?_of_mem hy] at hy'
    split at hy'
    · exact .inl (Option.some.inj hy')
    · next hne => exact .inr ⟨mem_of_find? hy'.symm, fun h => hne h.symm⟩
  · rintro (rfl | ⟨hy, hne⟩)
    · refine mem_of_find? (k := key y) ?_
      rw [hfind y, if_pos rfl]
    · refine mem_of_find? (k := key y) ?_
      rw [hfind y, if_neg fun h => hne h.symm, find?_of_mem hy]

theorem mem_insertAll {t : Table key} {xs : List α} {y : α}
    (h : y ∈ (t.insertAll xs).entries) : y ∈ xs ∨ y ∈ t.entries := by
  induction xs generalizing t with
  | nil => exact .inr h
  | cons x xs ih =>
      have hx : y ∈ xs ∨ y ∈ (t.insert x).entries := ih h
      rcases hx with hx | hx
      · exact .inl (List.mem_cons_of_mem x hx)
      · rcases mem_insert_iff.1 hx with rfl | ⟨hx, -⟩
        · exact .inl List.mem_cons_self
        · exact .inr hx

/-- After storing entries with different keys, the entries are these and those under other keys. -/
theorem mem_insertAll_iff {t : Table key} {xs : List α}
    (hxs : xs.Pairwise fun x x' => key x ≠ key x') {y : α} :
    y ∈ (t.insertAll xs).entries ↔ y ∈ xs ∨ (y ∈ t.entries ∧ ∀ x ∈ xs, key y ≠ key x) := by
  induction xs generalizing t with
  | nil => simp [insertAll]
  | cons x xs ih =>
      obtain ⟨hfirst, hrest⟩ := List.pairwise_cons.1 hxs
      show y ∈ ((t.insert x).insertAll xs).entries ↔ _
      rw [ih hrest, mem_insert_iff, List.mem_cons, List.forall_mem_cons]
      constructor
      · rintro (hy | ⟨rfl | ⟨hy, hne⟩, hothers⟩)
        · exact .inl (.inr hy)
        · exact .inl (.inl rfl)
        · exact .inr ⟨hy, hne, hothers⟩
      · rintro ((rfl | hy) | ⟨hy, hne, hothers⟩)
        · exact .inr ⟨.inl rfl, hfirst⟩
        · exact .inl hy
        · exact .inr ⟨.inr ⟨hy, hne⟩, hothers⟩

/-- Where entries are told by their keys, storing entries loses none of the others. -/
theorem mem_insert_iff_of_injective (hkey : ∀ x y, key x = key y → x = y) {t : Table key}
    {x y : α} : y ∈ (t.insert x).entries ↔ y = x ∨ y ∈ t.entries := by
  rw [mem_insert_iff]
  constructor
  · exact Or.imp_right And.left
  · rintro (hy | hy)
    · exact .inl hy
    · by_cases hyx : key y = key x
      · exact .inl (hkey y x hyx)
      · exact .inr ⟨hy, hyx⟩

theorem mem_insertAll_iff_of_injective (hkey : ∀ x y, key x = key y → x = y) {t : Table key}
    {xs : List α} {y : α} : y ∈ (t.insertAll xs).entries ↔ y ∈ xs ∨ y ∈ t.entries := by
  induction xs generalizing t with
  | nil => simp [insertAll]
  | cons x xs ih =>
      show y ∈ ((t.insert x).insertAll xs).entries ↔ _
      rw [ih, mem_insert_iff_of_injective hkey, List.mem_cons, or_assoc, or_left_comm]

theorem mem_ofList_iff (hkey : ∀ x y, key x = key y → x = y) {xs : List α} {y : α} :
    y ∈ (ofList xs : Table key).entries ↔ y ∈ xs := by
  rw [ofList, mem_insertAll_iff_of_injective hkey, or_iff_left]
  exact List.not_mem_nil

theorem contains_eq_true_iff {t : Table key} {k : κ} :
    t.contains k = true ↔ ∃ x ∈ t.entries, key x = k := by
  rw [contains, Option.isSome_iff_exists]
  constructor
  · rintro ⟨x, hx⟩
    exact ⟨x, find?_eq_some_iff.1 hx⟩
  · rintro ⟨x, hx⟩
    exact ⟨x, find?_eq_some_iff.2 hx⟩

theorem contains_eq_false_iff {t : Table key} {k : κ} :
    t.contains k = false ↔ ∀ x ∈ t.entries, key x ≠ k := by
  rw [← Bool.not_eq_true, contains_eq_true_iff]
  constructor
  · intro h x hx hk
    exact h ⟨x, hx, hk⟩
  · rintro h ⟨x, hx, hk⟩
    exact h x hx hk

/-- Storing an entry takes no key but its own. -/
theorem contains_insert_of_ne {t : Table key} {x : α} {k : κ} (h : k ≠ key x) :
    (t.insert x).contains k = t.contains k := by
  classical
  rw [contains, find?_insert, if_neg (Ne.symm h), contains]

/-- Once the entries under some keys are taken out, these keys lead nowhere. -/
theorem find?_filter_keys [BEq κ] [LawfulBEq κ] (t : Table key) (ks : List κ) (k : κ) :
    (t.filter fun a => !ks.contains (key a)).find? k = if k ∈ ks then none else t.find? k := by
  rw [find?_filter]
  cases ha : t.find? k with
  | none => simp
  | some a =>
      obtain rfl := key_of_find? ha
      by_cases hk : key a ∈ ks <;> simp [hk]

/-! ## Storing one by one -/

/-- Entries with different keys make up the same table in whatever order they are stored. -/
theorem insertAll_perm {t : Table key} {xs ys : List α}
    (hxs : xs.Pairwise fun x x' => key x ≠ key x') (h : xs.Perm ys) :
    t.insertAll xs = t.insertAll ys := by
  have hys : ys.Pairwise fun y y' => key y ≠ key y' := (h.pairwise_iff fun hne => hne.symm).1 hxs
  refine eq_iff_mem.2 fun a => ?_
  simp only [mem_insertAll_iff hxs, mem_insertAll_iff hys, h.mem_iff]

/-- Entries told by their keys make up the same table in whatever order they come. -/
theorem ofList_perm (hkey : ∀ x y, key x = key y → x = y) {xs ys : List α} (h : xs.Perm ys) :
    (ofList xs : Table key) = ofList ys := by
  refine eq_iff_mem.2 fun a => ?_
  rw [mem_ofList_iff hkey, mem_ofList_iff hkey, h.mem_iff]

section Storing

variable {store : Table key → α → Except ε (Table key)} {fit : α → Prop} {xs ys : List α}
  {t t' : Table key}

/-- Entries are stored one by one if each of them is fit and finds its key free. -/
theorem foldlM_store_eq_ok_iff
    (hstore : ∀ t t' x, store t x = .ok t' ↔
      fit x ∧ (∀ y ∈ t.entries, key y ≠ key x) ∧ t' = t.insert x) :
    xs.foldlM store t = .ok t' ↔
      (∀ x ∈ xs, fit x) ∧ (xs.Pairwise fun x x' => key x ≠ key x') ∧
        (∀ x ∈ xs, ∀ y ∈ t.entries, key y ≠ key x) ∧ t' = t.insertAll xs := by
  induction xs generalizing t with
  | nil => simp [insertAll, pure, Except.pure, eq_comm]
  | cons x xs ih =>
      rw [List.foldlM_cons, Except.bind_eq_ok_iff]
      simp only [hstore, ih, List.forall_mem_cons, List.pairwise_cons]
      constructor
      · rintro ⟨_, ⟨hx, hfree, rfl⟩, hxs, hdiffer, hrest, rfl⟩
        -- the entries that follow find the first one's key taken too
        refine ⟨⟨hx, hxs⟩, ⟨fun y hy => ?_, hdiffer⟩, ⟨hfree, fun y hy z hz => ?_⟩, rfl⟩
        · exact hrest y hy x (mem_insert_iff.2 (.inl rfl))
        · exact hrest y hy z (mem_insert_iff.2 (.inr ⟨hz, hfree z hz⟩))
      · rintro ⟨⟨hx, hxs⟩, ⟨hfirst, hdiffer⟩, ⟨hfree, hrest⟩, rfl⟩
        refine ⟨t.insert x, ⟨hx, hfree, rfl⟩, hxs, hdiffer, fun y hy z hz => ?_, rfl⟩
        rcases mem_insert_iff.1 hz with rfl | ⟨hz, -⟩
        · exact hfirst y hy
        · exact hrest y hy z hz

/-- The order in which entries are stored one by one decides neither whether that succeeds nor
which table results. -/
theorem foldlM_store_perm
    (hstore : ∀ t t' x, store t x = .ok t' ↔
      fit x ∧ (∀ y ∈ t.entries, key y ≠ key x) ∧ t' = t.insert x) (h : xs.Perm ys) :
    xs.foldlM store t = .ok t' ↔ ys.foldlM store t = .ok t' := by
  have hone : ∀ {xs ys : List α}, xs.Perm ys → xs.foldlM store t = .ok t' →
      ys.foldlM store t = .ok t' := by
    intro xs ys h hok
    obtain ⟨hfit, hdiffer, hfree, rfl⟩ := (foldlM_store_eq_ok_iff hstore).1 hok
    refine (foldlM_store_eq_ok_iff hstore).2
      ⟨fun y hy => hfit y (h.mem_iff.2 hy), (h.pairwise_iff fun hne => hne.symm).1 hdiffer,
        fun y hy => hfree y (h.mem_iff.2 hy), insertAll_perm hdiffer h⟩
  exact ⟨hone h, hone h.symm⟩

end Storing

/-! ## Rebuilding -/

omit [Std.LawfulEqOrd κ] in
/-- An entry whose key is the greatest goes to the end. -/
theorem insertList_of_lt {x : α} {ys : List α}
    (h : ∀ y ∈ ys, compare (key y) (key x) = .lt) : insertList key x ys = ys ++ [x] := by
  induction ys with
  | nil => rfl
  | cons y ys ih =>
      have hxy : compare (key x) (key y) = .gt :=
        Std.OrientedCmp.gt_of_lt (h y List.mem_cons_self)
      simp only [insertList, hxy, List.cons_append]
      rw [ih fun z hz => h z (List.mem_cons_of_mem y hz)]

/-- Entries that are stored one by one, in the order in which a table keeps them, make up that
table again. The storing operation has to succeed only where the key is still free. -/
theorem foldlM_store_entries {store : Table key → α → Except ε (Table key)} (t : Table key)
    (hstore : ∀ s : Table key, ∀ x ∈ t.entries, (∀ y ∈ s.entries, key y ≠ key x) →
      store s x = .ok (s.insert x)) :
    t.entries.foldlM store ∅ = .ok t := by
  -- The table built so far holds the entries passed so far, in their order.
  have key_lemma : ∀ (rest done : List α) (s : Table key), s.entries = done →
      done ++ rest = t.entries → rest.foldlM store s = .ok t := by
    intro rest
    induction rest with
    | nil =>
        intro done s hs hd
        rw [List.append_nil] at hd
        exact congrArg Except.ok (ext (hs.trans hd))
    | cons x rest ih =>
        intro done s hs hd
        have hx : x ∈ t.entries := by
          rw [← hd]
          exact List.mem_append_right done List.mem_cons_self
        have hlt : ∀ y ∈ s.entries, compare (key y) (key x) = .lt := by
          intro y hy
          have hp := t.ascending
          rw [← hd, List.pairwise_append] at hp
          exact hp.2.2 y (hs ▸ hy) x List.mem_cons_self
        have hne : ∀ y ∈ s.entries, key y ≠ key x := fun y hy => ne_of_compare_lt (hlt y hy)
        rw [List.foldlM_cons, hstore s x hx hne]
        refine ih (done ++ [x]) (s.insert x) ?_ ?_
        · rw [← hs]
          exact insertList_of_lt hlt
        · rw [List.append_assoc]
          exact hd
  exact key_lemma t.entries [] ∅ rfl rfl

/-- A table is made up by the list of its entries. -/
theorem ofList_entries (t : Table key) : ofList t.entries = t := by
  have hpure : ∀ (xs : List α) (s : Table key),
      xs.foldlM (fun s x => (pure (s.insert x) : Except Empty (Table key))) s
        = .ok (s.insertAll xs) := by
    intro xs
    induction xs with
    | nil => intro s; rfl
    | cons x xs ih => intro s; exact ih (s.insert x)
  have h : t.entries.foldlM (fun s x => (pure (s.insert x) : Except Empty (Table key))) ∅
      = .ok t := foldlM_store_entries t fun _ _ _ _ => rfl
  rw [hpure] at h
  exact Except.ok.inj h

/-! ## Keys in order -/

/-- Sorting by a comparison leaves nothing out of order. -/
theorem pairwise_mergeSort_isLE {β : Type} {cmp : β → β → Ordering} [Std.TransCmp cmp]
    (xs : List β) :
    (xs.mergeSort fun a b => (cmp a b).isLE).Pairwise fun a b => (cmp a b).isLE = true := by
  refine List.pairwise_mergeSort (fun a b c => Std.TransCmp.isLE_trans) (fun a b => ?_) xs
  have hswap : cmp b a = (cmp a b).swap := Std.OrientedCmp.eq_swap
  rw [hswap]
  cases cmp a b <;> rfl

/-- The keys of a table, in whatever order they are given, are sorted into the order of the
table. -/
theorem mergeSort_eq_keys {t : Table key} {ks : List κ} (h : ks.Perm (t.entries.map key)) :
    (ks.mergeSort fun a b => (compare a b).isLE) = t.entries.map key := by
  have hkeys : (t.entries.map key).Pairwise fun a b => (compare a b).isLE = true := by
    refine List.pairwise_map.2 (t.ascending.imp fun hlt => ?_)
    rw [hlt]
    rfl
  have hantisymm : ∀ a b : κ, (compare a b).isLE = true → (compare b a).isLE = true → a = b := by
    intro a b hab hba
    have heq : compare a b = .eq := Std.OrientedCmp.isLE_antisymm hab hba
    exact Std.LawfulEqCmp.eq_of_compare heq
  have hperm := (List.mergeSort_perm ks fun a b => (compare a b).isLE).trans h
  exact hperm.eq_of_pairwise (fun a b _ _ => hantisymm a b) (pairwise_mergeSort_isLE ks) hkeys

end Guestkeeper.Table
