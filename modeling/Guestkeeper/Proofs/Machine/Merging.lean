import Guestkeeper.Proofs.Machine.Soundness

set_option autoImplicit false

/-! # The contract of a merge

A merge takes a batch of boot configurations with pairwise different names, each of which fits the
machine's devices and, unless it may update, finds its name free. The devices stay as they are
and no other name is touched, so what one member of the batch does is nothing to the others: the
order of the batch does not matter, and its members can as well be merged one at a time.
-/

namespace Guestkeeper.Machine

/-! ## The contract -/

/-- The conditions for merging a batch. -/
structure Mergeable (m : Machine) (batch : List BootConfiguration) (update : Bool) : Prop where
  distinct : (batch.map BootConfiguration.name).Nodup
  valid : ∀ b ∈ batch, m.validateBoot b = .ok ()
  free : update = true ∨ ∀ b ∈ batch, m.boot? b.name = none

/-- The machine with the batch instead of its own configurations of the same names. -/
structure Merged (m : Machine) (batch : List BootConfiguration) (m' : Machine) : Prop where
  boots : ∀ name b, m'.boot? name = some b ↔
    (b ∈ batch ∧ b.name = name) ∨
      (m.boot? name = some b ∧ name ∉ batch.map BootConfiguration.name)
  rest : m' = { m with boots := m'.boots }

/-- Storing a batch with different names merges it. -/
theorem merged_insertAll {m : Machine} {batch : List BootConfiguration}
    (hbatch : (batch.map BootConfiguration.name).Nodup) :
    m.Merged batch { m with boots := m.boots.insertAll batch } := by
  refine ⟨fun name b => ?_, rfl⟩
  rw [boot?_eq_some_iff, Table.mem_insertAll_iff (List.pairwise_map.1 hbatch), boot?_eq_some_iff,
    List.mem_map]
  constructor
  · rintro ⟨hb | ⟨hb, hne⟩, rfl⟩
    · exact .inl ⟨hb, rfl⟩
    · exact .inr ⟨⟨hb, rfl⟩, fun ⟨c, hc, heq⟩ => hne c hc heq.symm⟩
  · rintro (⟨hb, rfl⟩ | ⟨⟨hb, rfl⟩, hne⟩)
    · exact ⟨.inl hb, rfl⟩
    · exact ⟨.inr ⟨hb, fun c hc heq => hne ⟨c, hc, heq.symm⟩⟩, rfl⟩

theorem mergeBoots_eq_ok_iff_merged {m m' : Machine} {batch : List BootConfiguration}
    {update : Bool} :
    m.mergeBoots batch update = .ok m' ↔ m.Mergeable batch update ∧ m.Merged batch m' := by
  rw [mergeBoots_eq_ok_iff]
  constructor
  · rintro ⟨hbatch, hfits, hfree, rfl⟩
    exact ⟨⟨hbatch, fun b hb => validateBoot_eq_ok_iff.2 (hfits b hb), hfree⟩,
      merged_insertAll hbatch⟩
  · rintro ⟨h, hmerged⟩
    refine ⟨h.distinct, fun b hb => validateBoot_eq_ok_iff.1 (h.valid b hb), h.free, ?_⟩
    have hstored := merged_insertAll (m := m) h.distinct
    refine eq_of_boot? (fun name => Option.ext fun b => ?_) hmerged.rest rfl
    rw [hmerged.boots, hstored.boots]

/-! ## The order of a batch -/

/-- A batch is merged in any order of its members, or in none. -/
theorem mergeBoots_perm {m m' : Machine} {batch order : List BootConfiguration} {update : Bool}
    (h : order.Perm batch) :
    m.mergeBoots order update = .ok m' ↔ m.mergeBoots batch update = .ok m' := by
  have hone : ∀ {xs ys : List BootConfiguration}, xs.Perm ys →
      m.mergeBoots xs update = .ok m' → m.mergeBoots ys update = .ok m' := by
    intro xs ys hperm hok
    obtain ⟨hmergeable, hmerged⟩ := mergeBoots_eq_ok_iff_merged.1 hok
    refine mergeBoots_eq_ok_iff_merged.2 ⟨⟨?_, fun b hb => ?_, ?_⟩, fun name b => ?_, hmerged.rest⟩
    · exact (hperm.map _).nodup_iff.1 hmergeable.distinct
    · exact hmergeable.valid b (hperm.mem_iff.2 hb)
    · exact hmergeable.free.imp_right fun hfree b hb => hfree b (hperm.mem_iff.2 hb)
    · rw [hmerged.boots, hperm.mem_iff, (hperm.map _).mem_iff]
  exact ⟨hone h, hone h.symm⟩

/-! ## One member at a time -/

/-- The machine with a boot configuration under its name, without any check. -/
def withBoot (m : Machine) (b : BootConfiguration) : Machine := { m with boots := m.boots.insert b }

theorem boot?_withBoot (m : Machine) (b : BootConfiguration) (name : String) :
    (m.withBoot b).boot? name = if b.name = name then some b else m.boot? name :=
  Table.find?_insert m.boots b name

/-- A boot configuration that is there does not decide whether another one fits. -/
theorem fits_withBoot_iff {m : Machine} {b c : BootConfiguration} :
    (m.withBoot b).Fits c ↔ m.Fits c :=
  ⟨fun h => h.congr rfl, fun h => h.congr rfl⟩

theorem mergeBoots_single_eq_ok_iff {m n : Machine} {b : BootConfiguration} {update : Bool} :
    m.mergeBoots [b] update = .ok n ↔
      m.Fits b ∧ (update = true ∨ m.boot? b.name = none) ∧ n = m.withBoot b := by
  rw [mergeBoots_eq_ok_iff]
  simp only [List.map_cons, List.map_nil, List.nodup_singleton, List.mem_singleton, forall_eq,
    true_and]
  rfl

/-- A batch is merged by merging its first member and then the others. -/
theorem mergeBoots_cons_eq_ok_iff {m m' : Machine} {b : BootConfiguration}
    {batch : List BootConfiguration} {update : Bool} (hb : ∀ c ∈ batch, b.name ≠ c.name) :
    m.mergeBoots (b :: batch) update = .ok m' ↔
      ∃ n, m.mergeBoots [b] update = .ok n ∧ n.mergeBoots batch update = .ok m' := by
  have hdistinct : b.name ∉ batch.map BootConfiguration.name := by
    intro hmem
    obtain ⟨c, hc, heq⟩ := List.mem_map.1 hmem
    exact hb c hc heq.symm
  -- that `b` is there already is nothing to the names that follow
  have hfree : (∀ c ∈ batch, (m.withBoot b).boot? c.name = none) ↔
      ∀ c ∈ batch, m.boot? c.name = none :=
    forall₂_congr fun c hc => by rw [boot?_withBoot, if_neg (hb c hc)]
  simp only [mergeBoots_single_eq_ok_iff]
  simp only [mergeBoots_eq_ok_iff, List.map_cons, List.nodup_cons, List.forall_mem_cons]
  constructor
  · rintro ⟨⟨-, hbatch⟩, ⟨hfits, hothers⟩, hu, rfl⟩
    refine ⟨m.withBoot b, ⟨hfits, hu.imp_right And.left, rfl⟩, hbatch, ?_, ?_, rfl⟩
    · exact fun c hc => fits_withBoot_iff.2 (hothers c hc)
    · exact hu.imp_right fun h => hfree.2 h.2
  · rintro ⟨n, ⟨hfits, hu, rfl⟩, hbatch, hothers, hu', rfl⟩
    refine ⟨⟨hdistinct, hbatch⟩, ⟨hfits, fun c hc => fits_withBoot_iff.1 (hothers c hc)⟩, ?_, rfl⟩
    rcases hu with hu | hname
    · exact .inl hu
    · exact hu'.imp_right fun h => ⟨hname, hfree.1 h⟩

theorem performAll_mergeBoots_eq_ok_iff {m m' : Machine} {batch order : List BootConfiguration}
    {update : Bool} (hbatch : (batch.map BootConfiguration.name).Nodup)
    (horder : order.Perm batch) :
    m.performAll (order.map fun b => .mergeBoots [b] update) = .ok m' ↔
      m.mergeBoots batch update = .ok m' := by
  have hdistinct : (order.map BootConfiguration.name).Nodup :=
    (horder.map _).nodup_iff.2 hbatch
  rw [← mergeBoots_perm horder, performAll, List.foldlM_map]
  exact Except.foldlM_singles_eq_ok_iff (f := fun n bs => mergeBoots n bs update) (fun n => rfl)
    (fun n n' b rest hb => mergeBoots_cons_eq_ok_iff hb) (List.pairwise_map.1 hdistinct)

/-- **The contract of a merge.** It succeeds exactly when the names of the batch are distinct,
each of its boot configurations is valid on the machine, and, unless it may update, each name is
free. The machine then has the batch and its own configurations with other names, and nothing
else has changed. The batch may be in any order; and if its names are distinct, its members may
be merged one at a time, in any order, which comes to the same machine or fails alike. -/
theorem mergeBoots_contract (m : Machine) (batch : List BootConfiguration) (update : Bool) :
    ((∃ m', m.mergeBoots batch update = .ok m') ↔ m.Mergeable batch update) ∧
      (∀ m', m.mergeBoots batch update = .ok m' ↔
        m.Mergeable batch update ∧ m.Merged batch m') ∧
      (∀ order : List BootConfiguration, order.Perm batch → ∀ m',
        m.mergeBoots order update = .ok m' ↔ m.mergeBoots batch update = .ok m') ∧
      ((batch.map BootConfiguration.name).Nodup →
        ∀ order : List BootConfiguration, order.Perm batch →
          (∀ m', m.performAll (order.map fun b => .mergeBoots [b] update) = .ok m' ↔
            m.mergeBoots batch update = .ok m') ∧
          ((∃ e, m.performAll (order.map fun b => .mergeBoots [b] update) = .error e) ↔
            ∃ e, m.mergeBoots batch update = .error e)) := by
  refine ⟨⟨?_, fun h => ?_⟩, fun m' => mergeBoots_eq_ok_iff_merged,
    fun order horder m' => mergeBoots_perm horder, fun hbatch order horder => ?_⟩
  · rintro ⟨m', h⟩
    exact (mergeBoots_eq_ok_iff_merged.1 h).1
  · exact ⟨_, mergeBoots_eq_ok_iff_merged.2 ⟨h, merged_insertAll h.distinct⟩⟩
  · have hsame : ∀ m', m.performAll (order.map fun b => .mergeBoots [b] update) = .ok m' ↔
        m.mergeBoots batch update = .ok m' := fun m' =>
      performAll_mergeBoots_eq_ok_iff hbatch horder
    exact ⟨hsame, Except.exists_eq_error_congr hsame⟩

/-- Ways to boot from a disk. -/
def bootsFrom (disk : Slot) (named : List (String × String)) : List BootConfiguration :=
  named.map fun b => ⟨b.1, b.2, .grub (.openBsd "/bsd" disk), [disk]⟩

/-- One of the two configurations is there already. It is replaced and the other one is added, in
either order, or it stands in the way. -/
theorem mergeBoots_contract_rescue : ∃ m₀ m m' : Machine, define guest = .ok m₀ ∧
    m₀.performAll [.addDevice { kind := .ahciDisk (.volume none), slot := some ⟨0, 1, 0⟩ },
      .mergeBoots (bootsFrom ⟨0, 1, 0⟩ [("install", "")]) false] = .ok m ∧
    m.mergeBoots (bootsFrom ⟨0, 1, 0⟩ [("install", "again"), ("rescue", "")]) true = .ok m' ∧
    m.performAll ((bootsFrom ⟨0, 1, 0⟩ [("rescue", ""), ("install", "again")]).map fun b =>
      .mergeBoots [b] true) = .ok m' ∧
    ∃ e, m.performAll ((bootsFrom ⟨0, 1, 0⟩ [("rescue", ""), ("install", "again")]).map fun b =>
      .mergeBoots [b] false) = .error e := by
  refine ⟨_, _, _, rfl, rfl, rfl, ?_, ?_⟩
  · exact (((mergeBoots_contract _ _ true).2.2.2 (by decide) _ (.swap _ _ [])).1 _).2 rfl
  · exact ((mergeBoots_contract _ _ false).2.2.2 (by decide) _ (.swap _ _ [])).2.2 ⟨_, rfl⟩

end Guestkeeper.Machine
