set_option autoImplicit false

/-! # Outcomes

Operations run checks one after another, and the first failure is the failure of the whole. A
success can be taken apart again: every step before the end has succeeded. For a run over a
list this gives the usual induction, with an invariant of the state that each step keeps.
-/

namespace Except

variable {ε ε' α β : Type}

theorem bind_eq_ok_iff {x : Except ε α} {f : α → Except ε β} {b : β} :
    (x >>= f) = .ok b ↔ ∃ a, x = .ok a ∧ f a = .ok b := by
  cases x with
  | error e =>
      constructor
      · intro h
        cases h
      · rintro ⟨a, ha, -⟩
        cases ha
  | ok a =>
      constructor
      · intro h
        exact ⟨a, rfl, h⟩
      · rintro ⟨a', ha, h⟩
        cases ha
        exact h

theorem bind_eq_error_iff {x : Except ε α} {f : α → Except ε β} {e : ε} :
    (x >>= f) = .error e ↔ x = .error e ∨ ∃ a, x = .ok a ∧ f a = .error e := by
  cases x with
  | error e' =>
      constructor
      · intro h
        cases h
        exact .inl rfl
      · rintro (h | ⟨a, ha, -⟩)
        · cases h
          rfl
        · cases ha
  | ok a =>
      constructor
      · intro h
        exact .inr ⟨a, rfl, h⟩
      · rintro (h | ⟨a', ha, h⟩)
        · cases h
        · cases ha
          exact h

/-- Two runs that succeed alike fail alike. -/
theorem exists_eq_error_congr {x : Except ε α} {y : Except ε' α}
    (h : ∀ a, x = .ok a ↔ y = .ok a) : (∃ e, x = .error e) ↔ ∃ e, y = .error e := by
  cases x with
  | ok a =>
      rw [(h a).1 rfl]
      simp
  | error e =>
      cases y with
      | ok a => cases (h a).2 rfl
      | error e' => simp

theorem map_eq_ok_iff {x : Except ε α} {f : α → β} {b : β} :
    x.map f = .ok b ↔ ∃ a, x = .ok a ∧ f a = b := by
  cases x <;> simp [Except.map]

theorem map_eq_error_iff {x : Except ε α} {f : α → β} {e : ε} :
    x.map f = .error e ↔ x = .error e := by
  cases x <;> simp [Except.map]

theorem mapError_eq_ok_iff {x : Except ε α} {f : ε → ε'} {a : α} :
    x.mapError f = .ok a ↔ x = .ok a := by
  cases x with
  | ok b =>
      show (.ok b : Except ε' α) = .ok a ↔ _
      simp
  | error e =>
      show (.error (f e) : Except ε' α) = .ok a ↔ _
      simp

/-- What is read back from its written form is determined by it. -/
theorem injective_of_read {write : α → β} {read : β → Except ε α}
    (h : ∀ a, read (write a) = .ok a) : Function.Injective write := by
  intro a b hwrite
  have hread : read (write b) = .ok a := by rw [← hwrite, h a]
  rw [h b] at hread
  exact (Except.ok.inj hread).symm

theorem map_const_eq_ok_iff {x : Except ε Unit} {a b : α} :
    (x.map fun _ => a) = .ok b ↔ x = .ok () ∧ a = b := by
  cases x <;> simp [Except.map]

/-- A check that fails on a condition is passed when the condition does not hold. -/
theorem ite_error_eq_ok_iff {c : Prop} [Decidable c] {e : ε} {x : Except ε α} {a : α} :
    (if c then .error e else x) = .ok a ↔ ¬c ∧ x = .ok a := by
  by_cases hc : c
  · simp [hc]
  · simp [hc]

/-- What each step of a run keeps, the whole run keeps. The step may use that its element is one
of the run's. -/
theorem foldlM_invariant {f : β → α → Except ε β} (motive : β → Prop) {xs : List α}
    (step : ∀ b b', ∀ x ∈ xs, motive b → f b x = .ok b' → motive b') {b b' : β}
    (hb : motive b) (h : xs.foldlM f b = .ok b') : motive b' := by
  induction xs generalizing b with
  | nil =>
      cases h
      exact hb
  | cons x xs ih =>
      rw [List.foldlM_cons, bind_eq_ok_iff] at h
      obtain ⟨c, hc, h⟩ := h
      have hstep : ∀ b b', ∀ y ∈ xs, motive b → f b y = .ok b' → motive b' :=
        fun b b' y hy => step b b' y (List.mem_cons_of_mem x hy)
      exact ih hstep (step b c x List.mem_cons_self hb hc) h

/-- Where it depends on the element alone whether a step succeeds, a run succeeds when each element
lets it. -/
theorem exists_foldlM_eq_ok_iff {f : β → α → Except ε β} {fit : α → Prop}
    (h : ∀ b x, (∃ b', f b x = .ok b') ↔ fit x) {xs : List α} (b : β) :
    (∃ b', xs.foldlM f b = .ok b') ↔ ∀ x ∈ xs, fit x := by
  induction xs generalizing b with
  | nil => simp [pure, Except.pure]
  | cons x xs ih =>
      simp only [List.foldlM_cons, bind_eq_ok_iff, List.forall_mem_cons]
      constructor
      · rintro ⟨b', c, hc, hrest⟩
        exact ⟨(h b x).1 ⟨c, hc⟩, (ih c).1 ⟨b', hrest⟩⟩
      · rintro ⟨hx, hrest⟩
        obtain ⟨c, hc⟩ := (h b x).2 hx
        obtain ⟨b', hb'⟩ := (ih c).2 hrest
        exact ⟨b', c, hc, hb'⟩

/-- What takes a batch takes it one element at a time, if it takes the first element and then the
rest. This may depend on how the first is related to the others, as long as the whole batch is
pairwise related in that way. -/
theorem foldlM_singles_eq_ok_iff {f : β → List α → Except ε β} {R : α → α → Prop}
    (hnil : ∀ b, f b [] = .ok b)
    (hcons : ∀ b b' x xs, (∀ y ∈ xs, R x y) →
      (f b (x :: xs) = .ok b' ↔ ∃ c, f b [x] = .ok c ∧ f c xs = .ok b'))
    {xs : List α} (hxs : xs.Pairwise R) {b b' : β} :
    xs.foldlM (fun b x => f b [x]) b = .ok b' ↔ f b xs = .ok b' := by
  induction xs generalizing b with
  | nil =>
      rw [hnil]
      rfl
  | cons x xs ih =>
      obtain ⟨hfirst, hrest⟩ := List.pairwise_cons.1 hxs
      rw [List.foldlM_cons, bind_eq_ok_iff, hcons b b' x xs hfirst]
      simp only [ih hrest]

/-- A run over a list fails on one of its elements. -/
theorem exists_of_mapM_eq_error {f : α → Except ε β} {xs : List α} {e : ε}
    (h : xs.mapM f = .error e) : ∃ x ∈ xs, f x = .error e := by
  induction xs with
  | nil => cases h
  | cons x xs ih =>
      rw [List.mapM_cons, bind_eq_error_iff] at h
      rcases h with h | ⟨y, -, h⟩
      · exact ⟨x, List.mem_cons_self, h⟩
      · rcases bind_eq_error_iff.1 h with h | ⟨ys, -, h⟩
        · obtain ⟨z, hz, hfz⟩ := ih h
          exact ⟨z, List.mem_cons_of_mem x hz, hfz⟩
        · cases h

/-- A run over a list that succeeds has succeeded on each element. -/
theorem ok_of_mapM_eq_ok {f : α → Except ε β} {xs : List α} {ys : List β}
    (h : xs.mapM f = .ok ys) : ∀ x ∈ xs, ∃ y, f x = .ok y := by
  induction xs generalizing ys with
  | nil => intro x hx; cases hx
  | cons x xs ih =>
      rw [List.mapM_cons, bind_eq_ok_iff] at h
      obtain ⟨y, hy, h⟩ := h
      obtain ⟨zs, hzs, -⟩ := bind_eq_ok_iff.1 h
      intro z hz
      rcases List.mem_cons.1 hz with rfl | hz
      · exact ⟨y, hy⟩
      · exact ih hzs z hz

/-- What comes out of a run over a list that succeeds are the results on its elements. -/
theorem mem_iff_of_mapM_eq_ok {f : α → Except ε β} {xs : List α} {ys : List β}
    (h : xs.mapM f = .ok ys) (y : β) : y ∈ ys ↔ ∃ x ∈ xs, f x = .ok y := by
  induction xs generalizing ys with
  | nil =>
      cases h
      simp
  | cons x xs ih =>
      rw [List.mapM_cons, bind_eq_ok_iff] at h
      obtain ⟨z, hz, h⟩ := h
      obtain ⟨zs, hzs, h⟩ := bind_eq_ok_iff.1 h
      obtain rfl := Except.ok.inj h
      rw [List.mem_cons, ih hzs]
      simp [hz, eq_comm]

/-- What is read from the results of a run over a list, where each tells of its element. -/
theorem map_eq_of_mapM_eq_ok {γ : Type} {f : α → Except ε β} {g : β → γ} {k : α → γ} {xs : List α}
    {ys : List β} (h : xs.mapM f = .ok ys) (hread : ∀ x ∈ xs, ∀ y, f x = .ok y → g y = k x) :
    ys.map g = xs.map k := by
  induction xs generalizing ys with
  | nil =>
      cases h
      rfl
  | cons x xs ih =>
      rw [List.mapM_cons, bind_eq_ok_iff] at h
      obtain ⟨y, hy, h⟩ := h
      obtain ⟨zs, hzs, h⟩ := bind_eq_ok_iff.1 h
      obtain rfl := Except.ok.inj h
      rw [List.map_cons, List.map_cons, hread x List.mem_cons_self y hy,
        ih hzs fun z hz => hread z (List.mem_cons_of_mem x hz)]

/-- A list is read into a list when each element is. -/
theorem mapM_eq_ok {f : α → Except ε β} {g : β → α} {ys : List β}
    (h : ∀ y ∈ ys, f (g y) = .ok y) : (ys.map g).mapM f = .ok ys := by
  induction ys with
  | nil => rfl
  | cons y ys ih =>
      rw [List.map_cons, List.mapM_cons, h y List.mem_cons_self,
        ih fun z hz => h z (List.mem_cons_of_mem y hz)]
      rfl

end Except

/-! ## Programs with a state -/

namespace ExceptT

variable {ε σ α β : Type} {program : ExceptT ε (StateM σ) α} {next : α → ExceptT ε (StateM σ) β}
  {s s' : σ}

theorem run_bind_of_ok {a : α} (h : Id.run (program.run.run s) = (.ok a, s')) :
    Id.run ((program >>= next).run.run s) = Id.run ((next a).run.run s') := by
  have hrun : program.run.run s = pure (.ok a, s') := h
  rw [ExceptT.run_bind, StateT.run_bind, hrun]
  rfl

theorem run_bind_of_error {e : ε} (h : Id.run (program.run.run s) = (.error e, s')) :
    Id.run ((program >>= next).run.run s) = (.error e, s') := by
  have hrun : program.run.run s = pure (.error e, s') := h
  rw [ExceptT.run_bind, StateT.run_bind, hrun]
  rfl

end ExceptT
