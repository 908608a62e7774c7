import Guestkeeper.Machine.Boots
import Guestkeeper.Proofs.Machine.Devices

set_option autoImplicit false

/-! # What merging and removing boot configurations does

A boot configuration passes the check exactly when it fits the machine's devices
(`Machine.Fits`). A batch is merged exactly when its names are distinct, each of its
configurations fits and each of its names is free or may be taken; the machine then has the
batch stored over its own configurations. A removal succeeds exactly when every name is there.
-/

namespace Guestkeeper

/-! ## The slots of a configuration -/

theorem BootConfiguration.refersTo_eq_true_iff {b : BootConfiguration} {s : Slot} :
    b.refersTo s = true ↔ s ∈ b.disks ∨ s ∈ b.kernelSlots := by
  simp [refersTo]

theorem BootConfiguration.mem_slots_iff {b : BootConfiguration} {s : Slot} :
    s ∈ b.slots.entries ↔ b.refersTo s = true := by
  have hstored : ∀ (xs : List Slot) (t : Table fun s : Slot => s),
      s ∈ (t.insertAll xs).entries ↔ s ∈ xs ∨ s ∈ t.entries := by
    intro xs
    induction xs with
    | nil => simp [Table.insertAll]
    | cons x xs ih =>
        intro t
        show s ∈ ((t.insert x).insertAll xs).entries ↔ _
        rw [ih, Table.mem_insert_iff, List.mem_cons]
        by_cases hx : s = x <;> simp [hx]
  rw [slots, Table.ofList, hstored, refersTo_eq_true_iff, List.mem_append]
  simp

/-! ## The check -/

/-- A boot configuration fits the devices of a machine. -/
structure Machine.Fits (m : Machine) (b : BootConfiguration) : Prop where
  name : Text.isAllBlank b.name = false
  occupied : ∀ s, b.refersTo s = true → (m.device? s).isSome = true
  storage : ∀ s ∈ b.disks, ∃ d, m.device? s = some d ∧ d.kind.storage?.isSome = true
  attached : ∀ s ∈ b.kernelSlots, s ∈ b.disks

namespace Machine

theorem isStorage_eq_true_iff {m : Machine} {s : Slot} :
    m.isStorage s = true ↔ ∃ d, m.device? s = some d ∧ d.kind.storage?.isSome = true := by
  rw [isStorage, Option.any_eq_true]

theorem validateBoot_eq_ok_iff {m : Machine} {b : BootConfiguration} :
    m.validateBoot b = .ok () ↔ m.Fits b := by
  have hname : ¬Text.isAllBlank b.name = true ↔ Text.isAllBlank b.name = false := by
    simp
  simp only [validateBoot, invalid, Except.ite_error_eq_ok_iff]
  rw [hname, nothing_missing_iff]
  simp only [BootConfiguration.mem_slots_iff]
  -- the checks of the disks and then of the kernel, each by the first slot that fails it
  cases hother : b.disks.find? fun s => !m.isStorage s with
  | some s =>
      have hs : m.isStorage s = false := by simpa using List.find?_some hother
      constructor
      · rintro ⟨-, -, h⟩
        cases h
      · intro h
        have hstorage := isStorage_eq_true_iff.2 (h.storage s (List.mem_of_find?_eq_some hother))
        rw [hs] at hstorage
        cases hstorage
  | none =>
      have hdisks : ∀ s ∈ b.disks, m.isStorage s = true := by
        simpa using List.find?_eq_none.1 hother
      cases hloose : b.kernelSlots.find? fun s => !b.disks.contains s with
      | some s =>
          have hs : s ∉ b.disks := by simpa using List.find?_some hloose
          constructor
          · rintro ⟨-, -, h⟩
            cases h
          · intro h
            exact absurd (h.attached s (List.mem_of_find?_eq_some hloose)) hs
      | none =>
          have hkernel : ∀ s ∈ b.kernelSlots, s ∈ b.disks := by
            simpa using List.find?_eq_none.1 hloose
          constructor
          · rintro ⟨hblank, hoccupied, -⟩
            exact ⟨hblank, hoccupied, fun s hs => isStorage_eq_true_iff.1 (hdisks s hs), hkernel⟩
          · intro h
            exact ⟨h.name, h.occupied, rfl⟩

/-- Whether a configuration fits depends on nothing but the disks in the slots it refers to. -/
theorem Fits.of_devices {m m' : Machine} {b : BootConfiguration} (h : m.Fits b)
    (hsome : ∀ s, b.refersTo s = true → (m.device? s).isSome = true →
      (m'.device? s).isSome = true)
    (hdisk : ∀ s d, b.refersTo s = true → m.device? s = some d →
      d.kind.storage?.isSome = true → ∃ e, m'.device? s = some e ∧
        e.kind.storage?.isSome = true) : m'.Fits b := by
  refine ⟨h.name, fun s hs => hsome s hs (h.occupied s hs), fun s hs => ?_, h.attached⟩
  obtain ⟨d, hd, hk⟩ := h.storage s hs
  exact hdisk s d (BootConfiguration.refersTo_eq_true_iff.2 (.inl hs)) hd hk

/-! ## Merging -/

theorem mergeOne_eq_ok_iff {m : Machine} {update : Bool} {acc acc' : Merge}
    {b : BootConfiguration} :
    m.mergeOne update acc b = .ok acc' ↔
      b.name ∉ acc.seen ∧ (update = true ∨ acc.boots.contains b.name = false) ∧ m.Fits b ∧
        acc' = ⟨acc.boots.insert b, b.name :: acc.seen⟩ := by
  have hnew : ¬acc.seen.contains b.name = true ↔ b.name ∉ acc.seen := by
    simp
  have hfree : ¬(acc.boots.contains b.name && !update) = true ↔
      update = true ∨ acc.boots.contains b.name = false := by
    cases update <;> simp
  simp only [mergeOne, Except.ite_error_eq_ok_iff, Except.map_const_eq_ok_iff,
    validateBoot_eq_ok_iff]
  rw [hnew, hfree, eq_comm (a := acc')]

/-- Once `b` is stored, its name is taken. Nothing else changes for configurations with other
names. -/
theorem mergeable_insert_iff {m : Machine} {update : Bool} {acc : Merge} {b c : BootConfiguration}
    (hc : c.name ≠ b.name) :
    (c.name ∉ b.name :: acc.seen ∧
        (update = true ∨ (acc.boots.insert b).contains c.name = false) ∧ m.Fits c) ↔
      c.name ∉ acc.seen ∧ (update = true ∨ acc.boots.contains c.name = false) ∧ m.Fits c := by
  rw [Table.contains_insert_of_ne hc, List.mem_cons, or_iff_right hc]

/-- A run of the merge, from any state of it. -/
theorem foldlM_mergeOne_eq_ok_iff {m : Machine} {update : Bool} {batch : List BootConfiguration}
    {acc acc' : Merge} :
    batch.foldlM (m.mergeOne update) acc = .ok acc' ↔
      (batch.map BootConfiguration.name).Nodup ∧
        (∀ b ∈ batch, b.name ∉ acc.seen ∧
          (update = true ∨ acc.boots.contains b.name = false) ∧ m.Fits b) ∧
        acc' = ⟨acc.boots.insertAll batch,
          (batch.map BootConfiguration.name).reverse ++ acc.seen⟩ := by
  induction batch generalizing acc with
  | nil =>
      simp only [List.foldlM_nil, List.map_nil, List.nodup_nil, List.not_mem_nil, true_and,
        false_imp_iff, implies_true]
      constructor
      · intro h
        exact (Except.ok.inj h).symm
      · rintro rfl
        rfl
  | cons b batch ih =>
      rw [List.foldlM_cons, Except.bind_eq_ok_iff, List.map_cons, List.nodup_cons,
        List.forall_mem_cons]
      constructor
      · rintro ⟨mid, hone, hrest⟩
        obtain ⟨hseen, hfree, hfits, rfl⟩ := mergeOne_eq_ok_iff.1 hone
        obtain ⟨hnodup, hall, rfl⟩ := ih.1 hrest
        -- the later configurations do not meet this one in the table
        have hother : ∀ c ∈ batch, c.name ≠ b.name := fun c hc heq =>
          (hall c hc).1 (heq ▸ List.mem_cons_self)
        refine ⟨⟨fun hmem => ?_, hnodup⟩, ⟨⟨hseen, hfree, hfits⟩, fun c hc => ?_⟩, ?_⟩
        · obtain ⟨c, hc, heq⟩ := List.mem_map.1 hmem
          exact hother c hc heq
        · exact (mergeable_insert_iff (hother c hc)).1 (hall c hc)
        · simp [Table.insertAll]
      · rintro ⟨⟨hfirst, hnodup⟩, ⟨⟨hseen, hfree, hfits⟩, hall⟩, rfl⟩
        have hother : ∀ c ∈ batch, c.name ≠ b.name := fun c hc heq =>
          hfirst (List.mem_map.2 ⟨c, hc, heq⟩)
        refine ⟨_, mergeOne_eq_ok_iff.2 ⟨hseen, hfree, hfits, rfl⟩,
          ih.2 ⟨hnodup, fun c hc => ?_, ?_⟩⟩
        · exact (mergeable_insert_iff (hother c hc)).2 (hall c hc)
        · simp [Table.insertAll]

/-- A batch is merged exactly when its names are distinct, each of its configurations fits and
each of its names is free or may be taken. -/
theorem mergeBoots_eq_ok_iff {m m' : Machine} {batch : List BootConfiguration} {update : Bool} :
    m.mergeBoots batch update = .ok m' ↔
      (batch.map BootConfiguration.name).Nodup ∧ (∀ b ∈ batch, m.Fits b) ∧
        (update = true ∨ ∀ b ∈ batch, m.boot? b.name = none) ∧
        m' = { m with boots := m.boots.insertAll batch } := by
  have hfree : ∀ b : BootConfiguration, m.boots.contains b.name = false ↔
      m.boot? b.name = none := fun b => by simp [Table.contains, boot?]
  rw [mergeBoots, Except.map_eq_ok_iff]
  constructor
  · rintro ⟨acc, hrun, rfl⟩
    obtain ⟨hnodup, hall, rfl⟩ := foldlM_mergeOne_eq_ok_iff.1 hrun
    refine ⟨hnodup, fun b hb => (hall b hb).2.2, ?_, rfl⟩
    by_cases hu : update = true
    · exact .inl hu
    · exact .inr fun b hb => (hfree b).1 ((hall b hb).2.1.resolve_left hu)
  · rintro ⟨hnodup, hfits, hu, rfl⟩
    refine ⟨_, foldlM_mergeOne_eq_ok_iff.2 ⟨hnodup, fun b hb => ?_, rfl⟩, rfl⟩
    exact ⟨List.not_mem_nil, hu.imp (fun h => h) fun h => (hfree b).2 (h b hb), hfits b hb⟩

/-! ## Removing -/

/-- A removal succeeds exactly when every name is there. -/
theorem removeBoots_eq_ok_iff {m m' : Machine} {names : List String} :
    m.removeBoots names = .ok m' ↔
      (∀ name ∈ names, (m.boot? name).isSome = true) ∧
        m' = { m with boots := m.boots.filter fun b => !names.contains b.name } := by
  simp only [removeBoots, Except.ite_error_eq_ok_iff]
  rw [nothing_missing_iff, Except.ok.injEq, eq_comm]

end Machine

end Guestkeeper
