import Mathlib.Data.List.Forall2
import Mathlib.Logic.Relator
import Guestkeeper.Proofs.Record.Reading

set_option autoImplicit false

/-! # Readings of related values

Two values are read alike if both are refused, for whatever reasons, or both give something and
the two results are related. A relation between values that a reader turns into a relation
between results is said to be respected by it. Readers are put together from readers of fields, of
lists and of tagged parts, and what they respect is put together in the same way.
-/

namespace Guestkeeper.Record

open scoped Relator

section

variable {ε ε' ε'' α α' β β' γ : Type}

/-- Both fail, or both succeed with related results. -/
inductive Alike (s : α → β → Prop) : Except ε α → Except ε' β → Prop
  | ok {a : α} {b : β} (related : s a b) : Alike s (.ok a) (.ok b)
  | error (e : ε) (e' : ε') : Alike s (.error e) (.error e')

variable {s : α → β → Prop} {t : α' → β' → Prop} {x : Except ε α} {y : Except ε' β}

theorem Alike.refl {s : α → α → Prop} (hs : ∀ a, s a a) (x : Except ε α) : Alike s x x := by
  cases x with
  | ok a => exact .ok (hs a)
  | error e => exact .error e e

theorem Alike.trans {u : β → γ → Prop} {v : α → γ → Prop} {z : Except ε'' γ} (h : Alike s x y)
    (h' : Alike u y z) (hv : ∀ a b c, s a b → u b c → v a c) : Alike v x z := by
  cases h with
  | ok related =>
      cases h' with
      | ok related' => exact .ok (hv _ _ _ related related')
  | error e e' =>
      cases h' with
      | error e' e'' => exact .error e e''

theorem Alike.bind {f : α → Except ε α'} {g : β → Except ε' β'} (h : Alike s x y)
    (hf : ∀ a b, s a b → Alike t (f a) (g b)) : Alike t (x >>= f) (y >>= g) := by
  cases h with
  | ok related => exact hf _ _ related
  | error e e' => exact .error e e'

theorem Alike.map {f : α → α'} {g : β → β'} (h : Alike s x y) (hf : ∀ a b, s a b → t (f a) (g b)) :
    Alike t (x.map f) (y.map g) := by
  cases h with
  | ok related => exact .ok (hf _ _ related)
  | error e e' => exact .error e e'

theorem Alike.mapError (h : Alike s x y) (f : ε → ε'') (g : ε' → ε'') :
    Alike s (x.mapError f) (y.mapError g) := by
  cases h with
  | ok related => exact .ok related
  | error e e' => exact .error (f e) (g e')

/-- Being alike with the same results is to succeed with the same results. -/
theorem alike_eq_iff {x : Except ε α} {y : Except ε' α} :
    Alike Eq x y ↔ ∀ a, x = .ok a ↔ y = .ok a := by
  constructor
  · rintro (⟨rfl⟩ | _) a
    · simp
    · simp
  · intro h
    cases x with
    | ok a =>
        rw [(h a).1 rfl]
        exact .ok rfl
    | error e =>
        cases y with
        | ok b => cases (h b).2 rfl
        | error e' => exact .error e e'

/-! ## Lists -/

theorem alike_mapM {f : α → Except ε γ} {r : α → α → Prop}
    (hf : ∀ a b, r a b → Alike Eq (f a) (f b)) {xs ys : List α} (h : List.Forall₂ r xs ys) :
    Alike Eq (xs.mapM f) (ys.mapM f) := by
  induction h with
  | nil => exact .ok rfl
  | cons hfirst _ ih =>
      rw [List.mapM_cons, List.mapM_cons]
      refine (hf _ _ hfirst).bind fun b _ hb => ih.bind fun bs _ hbs => ?_
      rw [hb, hbs]
      exact .ok rfl

/-- The elements of a list are read in whatever order they stand. -/
theorem alike_mapM_perm {f : α → Except ε γ} {xs ys : List α} (h : xs.Perm ys) :
    Alike List.Perm (xs.mapM f) (ys.mapM f) := by
  induction h with
  | nil => exact .ok (.refl [])
  | cons x _ ih =>
      rw [List.mapM_cons, List.mapM_cons]
      refine (Alike.refl (fun _ => rfl) (f x)).bind fun b _ hb => ih.bind fun bs _ hbs => ?_
      rw [hb]
      exact .ok (hbs.cons _)
  | swap x y l =>
      simp only [List.mapM_cons]
      cases f x with
      | error e => cases f y <;> exact .error _ _
      | ok b =>
          cases f y with
          | error e => exact .error _ _
          | ok c =>
              cases l.mapM f with
              | error e => exact .error _ _
              | ok bs => exact .ok (.swap b c bs)
  | trans _ _ ih ih' => exact ih.trans ih' fun _ _ _ => List.Perm.trans

end

/-- The relations between the values of fields. -/
abbrev Relation := Json → Json → Prop

/-- A reader that reads related values alike. -/
def Respects {α : Type} (r : Relation) (s : α → α → Prop) (read : Json → Read α) : Prop :=
  ∀ j j', r j j' → Alike s (read j) (read j')

/-- The same value, or a list with related elements in another order. -/
inductive Reordered (r : Relation) : Relation
  | same (j : Json) : Reordered r j j
  | list {xs zs ys : List Json} (related : List.Forall₂ r xs zs) (order : zs.Perm ys) :
      Reordered r (.array xs) (.array ys)

section

variable {α β : Type} {r : Relation} {s : α → α → Prop} {read : Json → Read α}

theorem respects_eq (hs : ∀ a, s a a) : Respects Eq s read := by
  rintro j _ rfl
  exact Alike.refl hs _

theorem Respects.list (h : Respects r Eq read) :
    Respects (Reordered r) List.Perm (Record.list read) := by
  rintro _ _ (⟨j⟩ | ⟨related, order⟩)
  · exact Alike.refl List.Perm.refl _
  · refine (alike_mapM h related).trans (alike_mapM_perm order) ?_
    rintro xs _ ys rfl hperm
    exact hperm

/-! ## Fields -/

/-- Members with the same names, and values that are related as the relation of the name says. -/
def MembersAlike (rels : String → Relation) : List (String × Json) → List (String × Json) → Prop :=
  List.Forall₂ fun m m' => m.1 = m'.1 ∧ rels m.1 m.2 m'.2

variable {rels rels' : String → Relation} {ms ms' : List (String × Json)} {name : String}

theorem MembersAlike.refl (hrels : ∀ name j, rels name j j) (ms : List (String × Json)) :
    MembersAlike rels ms ms := List.forall₂_same.2 fun m _ => ⟨rfl, hrels m.1 m.2⟩

theorem MembersAlike.cons {j j' : Json} (hj : rels name j j') (hms : MembersAlike rels ms ms') :
    MembersAlike rels ((name, j) :: ms) ((name, j') :: ms') := List.Forall₂.cons ⟨rfl, hj⟩ hms

theorem MembersAlike.mono (h : MembersAlike rels ms ms')
    (hrels : ∀ name j j', rels name j j' → rels' name j j') : MembersAlike rels' ms ms' :=
  h.imp fun _ _ hm => ⟨hm.1, hrels _ _ _ hm.2⟩

theorem MembersAlike.filter (h : MembersAlike rels ms ms') (keep : String → Bool) :
    MembersAlike rels (ms.filter fun m => keep m.1) (ms'.filter fun m => keep m.1) := by
  induction h with
  | nil => exact .nil
  | cons hm _ ih =>
      rw [List.filter_cons, List.filter_cons, hm.1]
      split
      · exact List.Forall₂.cons hm ih
      · exact ih

/-- A field is found at the same place, with related values, or it is missing from both. -/
theorem MembersAlike.findField (h : MembersAlike rels ms ms') (name : String) (place : Nat) :
    (Record.findField name place ms = none ∧ Record.findField name place ms' = none) ∨
      ∃ i j j', Record.findField name place ms = some (i, j) ∧
        Record.findField name place ms' = some (i, j') ∧ rels name j j' := by
  induction h generalizing place with
  | nil => exact .inl ⟨rfl, rfl⟩
  | @cons m m' _ _ hm _ ih =>
      rw [Record.findField, Record.findField, ← hm.1]
      split
      · next hname =>
          rw [hname] at hm
          exact .inr ⟨place, m.2, m'.2, rfl, rfl, hm.2⟩
      · exact ih (place + 1)

theorem MembersAlike.lookup (h : MembersAlike rels ms ms') (hname : rels name = Eq) :
    ms.lookup name = ms'.lookup name := by
  induction h with
  | nil => rfl
  | @cons m m' _ _ hm _ ih =>
      obtain ⟨n, v⟩ := m
      obtain ⟨n', v'⟩ := m'
      obtain ⟨hn : n = n', hv : rels n v v'⟩ := hm
      rw [Json.lookup_cons_eq_ite, Json.lookup_cons_eq_ite, ih, ← hn]
      by_cases h : name = n
      · rw [← h, hname] at hv
        rw [hv]
      · rw [if_neg h, if_neg h]

/-- A reader of fields that reads related members alike. -/
def RespectsFields {α : Type} (rels : String → Relation) (s : α → α → Prop)
    (reader : FieldReader α) : Prop :=
  ∀ ms ms' positional, MembersAlike rels ms ms' →
    Alike s (reader ⟨ms, positional⟩) (reader ⟨ms', positional⟩)

theorem respectsFields_pure {a : α} (ha : s a a) :
    RespectsFields rels s (pure a) := fun _ _ _ _ => .ok ha

theorem RespectsFields.map {t : β → β → Prop} {f : α → β} {reader : FieldReader α}
    (hf : (s ⇒ t) f f) (h : RespectsFields rels s reader) : RespectsFields rels t (f <$> reader) :=
  fun ms ms' positional hms => (h ms ms' positional hms).map fun _ _ hab => hf hab

theorem RespectsFields.seq {t : β → β → Prop} {f : FieldReader (α → β)} {reader : FieldReader α}
    (hf : RespectsFields rels (s ⇒ t) f) (h : RespectsFields rels s reader) :
    RespectsFields rels t (f <*> reader) := by
  intro ms ms' positional hms
  have hf' := hf ms ms' positional hms
  have h' := h ms ms' positional hms
  show Alike t (FieldReader.seq f reader _) (FieldReader.seq f reader _)
  simp only [FieldReader.seq]
  -- what is read first and what is read second, each of them alike
  generalize f ⟨ms, positional⟩ = x, f ⟨ms', positional⟩ = x' at hf'
  generalize reader ⟨ms, positional⟩ = y, reader ⟨ms', positional⟩ = y' at h'
  cases hf' with
  | ok hg =>
      cases h' with
      | ok ha => exact .ok (hg ha)
      | error e e' => exact .error e e'
  | error e e' =>
      cases h' with
      | ok ha => exact .error e e'
      | error e₁ e₁' => exact .error _ _

theorem RespectsFields.fieldOr (h : Respects (rels name) s read) (hs : ∀ a, s a a)
    (default : Read α) : RespectsFields rels s (Record.fieldOr name read default) := by
  intro ms ms' positional hms
  simp only [Record.fieldOr, hms.length_eq]
  rcases hms.findField name 0 with ⟨hnone, hnone'⟩ | ⟨i, j, j', hsome, hsome', hj⟩
  · rw [hnone, hnone']
    exact Alike.refl hs _
  · rw [hsome, hsome']
    exact (h j j' hj).mapError _ _

theorem respectsFields_field (h : Respects (rels name) s read) (hs : ∀ a, s a a) :
    RespectsFields rels s (field name read) := RespectsFields.fieldOr h hs _

theorem respectsFields_fieldWith (h : Respects (rels name) s read) (hs : ∀ a, s a a)
    (default : α) : RespectsFields rels s (fieldWith name read default) :=
  RespectsFields.fieldOr h hs _

/-- A field that is the same in both is read in whatever way. -/
theorem respectsFields_field_eq (hname : rels name = Eq) :
    RespectsFields rels Eq (field name read) :=
  respectsFields_field (hname ▸ respects_eq fun _ => rfl) fun _ => rfl

theorem respectsFields_fieldWith_eq (hname : rels name = Eq) (default : α) :
    RespectsFields rels Eq (fieldWith name read default) :=
  respectsFields_fieldWith (hname ▸ respects_eq fun _ => rfl) (fun _ => rfl) default

/-! ## Parts -/

/-- Elements that stand for fields, and are related as their fields are. -/
inductive ElementsAlike (rels : String → Relation) : List String → List Json → List Json → Prop
  | same (names : List String) (xs : List Json) : ElementsAlike rels names xs xs
  | next {name : String} {names : List String} {x x' : Json} {xs xs' : List Json}
      (related : rels name x x') (more : ElementsAlike rels names xs xs') :
      ElementsAlike rels (name :: names) (x :: xs) (x' :: xs')

/-- The same value, or parts with related fields, as objects or as arrays. -/
inductive PartAlike (names : List String) (rels : String → Relation) : Relation
  | same (j : Json) : PartAlike names rels j j
  | object {ms ms' : List (String × Json)} (members : MembersAlike rels ms ms') :
      PartAlike names rels (.object ms) (.object ms')
  | array {xs xs' : List Json} (elements : ElementsAlike rels names xs xs') :
      PartAlike names rels (.array xs) (.array xs')

variable {names names' : List String} {xs xs' : List Json}

theorem ElementsAlike.length_eq (h : ElementsAlike rels names xs xs') :
    xs.length = xs'.length := by
  induction h with
  | same names xs => rfl
  | next _ _ ih => rw [List.length_cons, List.length_cons, ih]

/-- Elements that are related as some fields are members of a part with other fields, if these
are related as weakly, place by place. -/
theorem ElementsAlike.zip (h : ElementsAlike rels names xs xs') (hrefl : ∀ name j, rels' name j j)
    (hplaces : ∀ p ∈ names.zip names', ∀ j j', rels p.1 j j' → rels' p.2 j j') :
    MembersAlike rels' (names'.zip xs) (names'.zip xs') := by
  induction h generalizing names' with
  | same names xs => exact MembersAlike.refl hrefl _
  | next related _ ih =>
      cases names' with
      | nil => exact .nil
      | cons name' names' =>
          rw [List.zip_cons_cons, List.forall_mem_cons] at hplaces
          exact .cons (hplaces.1 _ _ related) (ih hplaces.2)

/-- A part with some fields that is read as one with other fields. -/
theorem RespectsFields.part_of {reader : FieldReader α} (h : RespectsFields rels' s reader)
    (hs : ∀ a, s a a) (hrefl : ∀ name j, rels' name j j)
    (hmono : ∀ name j j', rels name j j' → rels' name j j')
    (hplaces : ∀ p ∈ names.zip names', ∀ j j', rels p.1 j j' → rels' p.2 j j') :
    Respects (PartAlike names rels) s (part names' reader) := by
  rintro _ _ (⟨j⟩ | ⟨members⟩ | ⟨elements⟩)
  · exact Alike.refl hs _
  · exact (h _ _ false (members.mono hmono)).mapError _ _
  · simp only [part, elements.length_eq]
    refine ((h _ _ true (elements.zip hrefl hplaces)).mapError _ _).bind fun a b hab => ?_
    split
    · exact .error _ _
    · exact .ok hab

theorem RespectsFields.part {reader : FieldReader α} (h : RespectsFields rels s reader)
    (hs : ∀ a, s a a) (hrefl : ∀ name j, rels name j j) :
    Respects (PartAlike names rels) s (part names reader) := by
  refine h.part_of hs hrefl (fun _ _ _ hj => hj) fun p hp j j' hj => ?_
  obtain ⟨n, n'⟩ := p
  obtain rfl : n = n' := by
    rw [List.zip_eq_zipWith, List.zipWith_self, List.mem_map] at hp
    obtain ⟨_, _, heq⟩ := hp
    exact (congrArg Prod.fst heq).symm.trans (congrArg Prod.snd heq)
  exact hj

/-- A part that is an object wherever it differs. -/
theorem RespectsFields.part_object {reader : FieldReader α} (h : RespectsFields rels s reader)
    (hs : ∀ a, s a a) (hrefl : ∀ name j, rels name j j) :
    Respects (PartAlike [] rels) s (Record.part names' reader) :=
  h.part_of hs hrefl (fun _ _ _ hj => hj) fun _ hp => absurd hp List.not_mem_nil

/-! ## Tagged parts -/

theorem mem_of_lookup_eq_some {variants : List (String × (Json → Read α))} {tag : String}
    (h : variants.lookup tag = some read) : (tag, read) ∈ variants := by
  induction variants with
  | nil => cases h
  | cons v variants ih =>
      obtain ⟨n, read'⟩ := v
      rw [Json.lookup_cons_eq_ite] at h
      split at h
      · next hn =>
          rw [hn, Option.some.inj h]
          exact List.mem_cons_self
      · exact List.mem_cons_of_mem _ (ih h)

/-- The variant of a tag is one of the variants. -/
theorem exists_mem_of_variant {setting : Setting} {variants : List (String × (Json → Read α))}
    {value : Json} (h : variant setting variants value = .ok read) :
    ∃ tag, (tag, read) ∈ variants := by
  unfold variant at h
  split at h
  · split at h
    · next found =>
        obtain rfl := Except.ok.inj h
        exact ⟨_, mem_of_lookup_eq_some found⟩
    · cases h
  · split at h
    · next found =>
        obtain rfl := Except.ok.inj h
        exact ⟨_, List.mem_of_getElem? found⟩
    · cases h
  · cases h

/-- The tag is taken off both parts, or off neither. -/
theorem PartAlike.untag {tag : String} {j j' : Json} (htag : rels tag = Eq)
    (h : PartAlike (tag :: names) rels j j') :
    Alike (fun p p' => p.1 = p'.1 ∧ PartAlike names rels p.2 p'.2) (Record.untag tag j)
      (Record.untag tag j') := by
  cases h with
  | same j => exact Alike.refl (fun p => ⟨rfl, .same p.2⟩) _
  | object members =>
      simp only [Record.untag, members.lookup htag]
      split
      · exact .ok ⟨rfl, .object (members.filter fun n => n ≠ tag)⟩
      · exact .error _ _
  | array elements =>
      cases elements with
      | same names xs => exact Alike.refl (fun p => ⟨rfl, .same p.2⟩) _
      | next related more =>
          rw [htag] at related
          exact .ok ⟨related, .array more⟩

/-- A tagged part is read alike if its tag is the same and every variant reads the rest alike. -/
theorem respects_tagged {setting : Setting} {tag : String}
    {variants : List (String × (Json → Read α))} (htag : rels tag = Eq)
    (hvariants : ∀ v ∈ variants, Respects (PartAlike names rels) s v.2) :
    Respects (PartAlike (tag :: names) rels) s (tagged setting tag variants) := by
  intro j j' h
  refine (h.untag htag).bind ?_
  rintro ⟨value, rest⟩ ⟨value', rest'⟩ ⟨hvalue : value = value', hrest⟩
  subst hvalue
  show Alike s (variant setting variants value >>= fun read => read rest)
    (variant setting variants value >>= fun read => read rest')
  cases hvariant : variant setting variants value with
  | error e => exact .error e e
  | ok read =>
      obtain ⟨n, hmem⟩ := exists_mem_of_variant hvariant
      exact hvariants _ hmem rest rest' hrest

end

end Guestkeeper.Record
