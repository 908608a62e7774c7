import Guestkeeper.Proofs.Machine.History
import Guestkeeper.Proofs.Text.Fields

set_option autoImplicit false

/-! # Assignments to flags

The changes to a machine's flags are kept with one assignment to each flag at most: a new one takes
the place of an earlier one. What they do to flags is what all the assignments do, one after
another, so the last one to a flag counts, and changes that are applied one after the other do what
the changes made from both lists of assignments do.
-/

namespace Guestkeeper

open Guestkeeper.Text

/-! ## Names and switches -/

namespace Flag

theorem mem_all (f : Flag) : f ∈ all := by
  cases f <;> decide

theorem nodup_switches : (all.map switch).Nodup := by decide

theorem switch_injective : Function.Injective switch := fun f g h =>
  List.inj_on_of_nodup_map nodup_switches (mem_all f) (mem_all g) h

theorem nodup_names : (all.map name).Nodup := by decide

theorem name_injective : Function.Injective name := fun f g h =>
  List.inj_on_of_nodup_map nodup_names (mem_all f) (mem_all g) h

theorem notMem_name (f : Flag) : '=' ∉ f.name.toList := by
  cases f <;> decide

theorem ofName_eq_ok_iff {name : String} {f : Flag} : ofName name = .ok f ↔ name = f.name := by
  rw [ofName]
  split
  · next g hg =>
      obtain rfl : g.name = name := by simpa using List.find?_some hg
      rw [Except.ok.injEq]
      exact ⟨congrArg Flag.name, fun h => name_injective h⟩
  · next hnone =>
      constructor
      · intro h
        cases h
      · rintro rfl
        simpa using List.find?_eq_none.1 hnone f f.mem_all

end Flag

namespace Flags

/-- The switches that are there are those of the enabled flags. -/
theorem mem_switches_iff {flags : Flags} {f : Flag} :
    f.switch ∈ flags.switches ↔ flags.get f = true := by
  rw [switches, List.mem_map_of_injective Flag.switch_injective, enabled, List.mem_filter]
  exact and_iff_right f.mem_all

theorem sublist_switches (flags : Flags) : flags.switches.Sublist (Flag.all.map Flag.switch) :=
  List.filter_sublist.map Flag.switch

theorem nodup_switches (flags : Flags) : flags.switches.Nodup :=
  Flag.nodup_switches.sublist flags.sublist_switches

/-- Flags are told by their values. -/
theorem ext_get {f g : Flags} (h : ∀ flag, f.get flag = g.get flag) : f = g := by
  have hyield := h .yieldCpuOnHlt
  have hacpi := h .generateAcpiTables
  have hwire := h .wireGuestMemory
  have hclock := h .rtcIsUtc
  have hapic := h .guestApicIsX2apic
  have htable := h .disableMptableGeneration
  have hmsi := h .forceVirtioPciMsi
  have hcore := h .includeGuestMemoryInCoreFiles
  cases f
  cases g
  simp only [get] at *
  simp only [*]

/-! ## One assignment in place of another -/

/-- An assignment to another flag makes no difference to what follows it for this one. -/
theorem get_foldl_filter {flag other : Flag} (h : other ≠ flag) (as : List (Flag × Bool))
    {f g : Flags} (hfg : f.get other = g.get other) :
    ((as.filter fun a => a.1 ≠ flag).foldl (fun f a => f.set a.1 a.2) f).get other =
      (as.foldl (fun f a => f.set a.1 a.2) g).get other := by
  induction as generalizing f g with
  | nil => exact hfg
  | cons a as ih =>
      by_cases ha : a.1 = flag
      · rw [List.filter_cons_of_neg (by simpa using ha), List.foldl_cons]
        apply ih
        rw [get_set, if_neg (ha ▸ h.symm), hfg]
      · rw [List.filter_cons_of_pos (by simpa using ha), List.foldl_cons, List.foldl_cons]
        apply ih
        rw [get_set, get_set, hfg]

/-- To assign among the changes is to assign afterwards. -/
theorem apply_set (f : Flags) (c : FlagChanges) (flag : Flag) (value : Bool) :
    f.apply (c.set flag value) = (f.apply c).set flag value := by
  rw [apply, FlagChanges.set, List.foldl_append, List.foldl_cons, List.foldl_nil]
  refine ext_get fun other => ?_
  rw [get_set, get_set]
  split
  · rfl
  · next h => exact get_foldl_filter (Ne.symm h) c.assignments rfl

end Flags

/-! ## Assignments read -/

/-- The word for a value. -/
def FlagChanges.word : Bool → String
  | true => "true"
  | false => "false"

theorem FlagChanges.word_injective : ∀ value given, word value = word given → value = given := by
  decide

/-- The text gives the flag this value: it is the flag's name, an equals sign, and the word for
the value. -/
def Assigns (text : String) (flag : Flag) (value : Bool) : Prop :=
  text = flag.name ++ "=" ++ FlagChanges.word value

instance (text : String) (flag : Flag) (value : Bool) : Decidable (Assigns text flag value) :=
  inferInstanceAs (Decidable (text = _))

theorem assigns_iff {text : String} {flag : Flag} {value : Bool} :
    Assigns text flag value ↔ cut '=' text = some (flag.name, FlagChanges.word value) := by
  rw [cut_eq_some_iff, and_iff_left flag.notMem_name]
  exact Iff.rfl

/-- A text is an assignment when, cut at its first equals sign, it is the name of a flag and one of
the two words. -/
theorem exists_assigns_iff {text : String} : (∃ flag value, Assigns text flag value) ↔
    ∃ name word, (text = name ++ "=" ++ word ∧ '=' ∉ name.toList) ∧
      (∃ flag : Flag, flag.name = name) ∧ (word = "true" ∨ word = "false") := by
  constructor
  · rintro ⟨flag, value, h⟩
    refine ⟨_, _, ⟨h, flag.notMem_name⟩, ⟨flag, rfl⟩, ?_⟩
    cases value
    · exact .inr rfl
    · exact .inl rfl
  · rintro ⟨_, _, ⟨rfl, -⟩, ⟨flag, rfl⟩, rfl | rfl⟩
    · exact ⟨flag, true, rfl⟩
    · exact ⟨flag, false, rfl⟩

/-- A text assigns at most one value, and to one flag at most. -/
theorem Assigns.unique {text : String} {flag other : Flag} {value given : Bool}
    (h : Assigns text flag value) (h' : Assigns text other given) :
    flag = other ∧ value = given := by
  have hparts := (assigns_iff.1 h).symm.trans (assigns_iff.1 h')
  obtain ⟨hname, hword⟩ := Prod.mk.inj (Option.some.inj hparts)
  exact ⟨Flag.name_injective hname, FlagChanges.word_injective _ _ hword⟩

namespace FlagChanges

theorem assignment_eq_ok_iff {text : String} {flag : Flag} {value : Bool} :
    assignment text = .ok (flag, value) ↔ Assigns text flag value := by
  have hnamed : ∀ (name : String) (given : Bool),
      (Flag.ofName name).map (·, given) = .ok (flag, value) ↔ name = flag.name ∧ given = value := by
    intro name given
    simp only [Except.map_eq_ok_iff, Flag.ofName_eq_ok_iff, Prod.mk.injEq]
    constructor
    · rintro ⟨f, hf, rfl, rfl⟩
      exact ⟨hf, rfl⟩
    · rintro ⟨hname, rfl⟩
      exact ⟨flag, hname, rfl, rfl⟩
  rw [assigns_iff, assignment]
  split
  · next hcut => simp [hcut, invalid]
  next name rest hcut =>
  rw [hcut, Option.some.injEq, Prod.mk.injEq]
  split
  · rw [hnamed]
    cases value <;> simp [word]
  · rw [hnamed]
    cases value <;> simp [word]
  -- any other word is no value
  · next htrue hfalse =>
      have hword : ∀ given, rest ≠ word given := by
        intro given
        cases given
        · exact hfalse
        · exact htrue
      constructor
      · intro h
        cases h
      · rintro ⟨-, h⟩
        exact absurd h (hword value)

theorem assign_eq_ok_iff {c c' : FlagChanges} {text : String} : c.assign text = .ok c' ↔
    ∃ flag value, Assigns text flag value ∧ c' = c.set flag value := by
  rw [assign, Except.map_eq_ok_iff]
  constructor
  · rintro ⟨⟨flag, value⟩, h, rfl⟩
    exact ⟨flag, value, assignment_eq_ok_iff.1 h, rfl⟩
  · rintro ⟨flag, value, h, rfl⟩
    exact ⟨(flag, value), assignment_eq_ok_iff.2 h, rfl⟩

theorem isEmpty_set (c : FlagChanges) (flag : Flag) (value : Bool) :
    (c.set flag value).isEmpty = false := by
  simp [isEmpty, set]

/-! ## Lists of assignments -/

/-- A list of texts is read to the end when each of them is an assignment. -/
theorem exists_foldlM_assign_iff {texts : List String} (c : FlagChanges) :
    (∃ c', texts.foldlM assign c = .ok c') ↔
      ∀ text ∈ texts, ∃ flag value, Assigns text flag value := by
  refine Except.exists_foldlM_eq_ok_iff (fun d text => ?_) c
  simp only [assign_eq_ok_iff]
  constructor
  · rintro ⟨_, flag, value, h, -⟩
    exact ⟨flag, value, h⟩
  · rintro ⟨flag, value, h⟩
    exact ⟨_, flag, value, h, rfl⟩

/-- A flag that none of the texts assigns keeps what it has. -/
theorem get_apply_of_forall_not {texts : List String} {flag : Flag}
    (hflag : ∀ text ∈ texts, ∀ value, ¬Assigns text flag value) (f : Flags) {c c' : FlagChanges}
    (h : texts.foldlM assign c = .ok c') : (f.apply c').get flag = (f.apply c).get flag := by
  refine Except.foldlM_invariant (fun d => (f.apply d).get flag = (f.apply c).get flag) ?_ rfl h
  intro d d' text htext hd hd'
  obtain ⟨other, value, hassigns, rfl⟩ := assign_eq_ok_iff.1 hd'
  have hother : other ≠ flag := by
    rintro rfl
    exact hflag text htext value hassigns
  rw [Flags.apply_set, Flags.get_set, if_neg hother, hd]

/-- Where changes applied to some flags come to the same as other changes applied to other flags,
they still do when the same texts are read into both. -/
theorem apply_eq_of_foldlM_assign {texts : List String} {f g : Flags} {c d c' d' : FlagChanges}
    (hc : texts.foldlM assign c = .ok c') (hd : texts.foldlM assign d = .ok d')
    (h : f.apply c = g.apply d) : f.apply c' = g.apply d' := by
  induction texts generalizing c d with
  | nil =>
      cases hc
      cases hd
      exact h
  | cons text texts ih =>
      rw [List.foldlM_cons, Except.bind_eq_ok_iff] at hc hd
      obtain ⟨_, hc₁, hc⟩ := hc
      obtain ⟨_, hd₁, hd⟩ := hd
      obtain ⟨flag, value, hassigns, rfl⟩ := assign_eq_ok_iff.1 hc₁
      obtain ⟨other, given, hassigns', rfl⟩ := assign_eq_ok_iff.1 hd₁
      obtain ⟨rfl, rfl⟩ := hassigns.unique hassigns'
      refine ih hc hd ?_
      rw [Flags.apply_set, Flags.apply_set, h]

theorem isEmpty_iff_of_ofTexts {texts : List String} {c : FlagChanges} (h : ofTexts texts = .ok c) :
    c.isEmpty = true ↔ texts = [] := by
  cases texts with
  | nil =>
      cases h
      simp [isEmpty]
  | cons text texts =>
      have hfull : c.isEmpty = false := by
        rw [ofTexts, List.foldlM_cons, Except.bind_eq_ok_iff] at h
        obtain ⟨_, hfirst, hrest⟩ := h
        obtain ⟨flag, value, -, rfl⟩ := assign_eq_ok_iff.1 hfirst
        refine Except.foldlM_invariant (fun d => d.isEmpty = false) ?_
          (isEmpty_set _ flag value) hrest
        intro d d' text _ _ hd'
        obtain ⟨flag, value, -, rfl⟩ := assign_eq_ok_iff.1 hd'
        exact isEmpty_set d flag value
      simp [hfull]

/-- Of several assignments to one flag the last counts. -/
theorem get_apply_of_last {before after : List String} {text : String} {flag : Flag}
    {value : Bool} (htext : Assigns text flag value)
    (hafter : ∀ t ∈ after, ∀ v, ¬Assigns t flag v) (f : Flags) {c c' : FlagChanges}
    (h : (before ++ text :: after).foldlM assign c = .ok c') : (f.apply c').get flag = value := by
  rw [List.foldlM_append, Except.bind_eq_ok_iff] at h
  obtain ⟨d, -, h⟩ := h
  rw [List.foldlM_cons, Except.bind_eq_ok_iff] at h
  obtain ⟨_, hlast, h⟩ := h
  obtain ⟨other, given, hassigns, rfl⟩ := assign_eq_ok_iff.1 hlast
  obtain ⟨rfl, rfl⟩ := htext.unique hassigns
  rw [get_apply_of_forall_not hafter f h, Flags.apply_set, Flags.get_set, if_pos rfl]

theorem ofTexts_append {as bs : List String} {a b : FlagChanges} (ha : ofTexts as = .ok a)
    (hb : ofTexts bs = .ok b) :
    ∃ c, ofTexts (as ++ bs) = .ok c ∧ ∀ f : Flags, (f.apply a).apply b = f.apply c := by
  obtain ⟨c, hc⟩ := (exists_foldlM_assign_iff a).2 ((exists_foldlM_assign_iff {}).1 ⟨b, hb⟩)
  refine ⟨c, ?_, fun f => apply_eq_of_foldlM_assign hb hc rfl⟩
  rw [ofTexts, List.foldlM_append, Except.bind_eq_ok_iff]
  exact ⟨a, ha, hc⟩

end FlagChanges

/-- Changes to a machine's flags, one after the other. -/
theorem Machine.performAll_flags {a b c : FlagChanges}
    (h : ∀ f : Flags, (f.apply a).apply b = f.apply c) (m : Machine) :
    m.performAll [.apply { flags := a }, .apply { flags := b }] =
      m.performAll [.apply { flags := c }] := by
  have htwo : m.performAll [.apply { flags := a }, .apply { flags := b }] =
      .ok { m with flags := (m.flags.apply a).apply b } := rfl
  rw [htwo, h]
  rfl

/-- **Assignments to flags.** A list of texts is accepted exactly when each of them, cut at its
first equals sign, is the name of a flag and one of the words `true` and `false`. The changes that
it makes are empty only if it is; applied to flags, they give every flag the value of its last
assignment in the list and leave a flag without one as it is. Two lists, applied one after the
other, to flags or to a machine, do what they do as one list. The switches of flags are those of the
enabled ones, in the order of the table and each once. -/
theorem flag_assignments :
    (∀ texts, (∃ c, FlagChanges.ofTexts texts = .ok c) ↔ ∀ text ∈ texts, ∃ name word,
      (text = name ++ "=" ++ word ∧ '=' ∉ name.toList) ∧
        (∃ flag : Flag, flag.name = name) ∧ (word = "true" ∨ word = "false")) ∧
    (∀ texts c, FlagChanges.ofTexts texts = .ok c → (c.isEmpty = true ↔ texts = []) ∧
      ∀ (f : Flags) (flag : Flag),
        (∀ before text after value, texts = before ++ text :: after → Assigns text flag value →
          (∀ t ∈ after, ∀ v, ¬Assigns t flag v) → (f.apply c).get flag = value) ∧
        ((∀ text ∈ texts, ∀ value, ¬Assigns text flag value) →
          (f.apply c).get flag = f.get flag)) ∧
    (∀ as bs a b, FlagChanges.ofTexts as = .ok a → FlagChanges.ofTexts bs = .ok b →
      ∃ c, FlagChanges.ofTexts (as ++ bs) = .ok c ∧
        (∀ f : Flags, (f.apply a).apply b = f.apply c) ∧
        ∀ m : Machine, m.performAll [.apply { flags := a }, .apply { flags := b }] =
          m.performAll [.apply { flags := c }]) ∧
    ∀ f : Flags, f.switches.Sublist (Flag.all.map Flag.switch) ∧ f.switches.Nodup ∧
      ∀ s, s ∈ f.switches ↔ ∃ flag, f.get flag = true ∧ flag.switch = s := by
  refine ⟨fun texts => ?_, fun texts c hc => ⟨FlagChanges.isEmpty_iff_of_ofTexts hc, ?_⟩, ?_,
    fun f => ⟨f.sublist_switches, f.nodup_switches, fun s => ?_⟩⟩
  · simp only [← exists_assigns_iff]
    exact FlagChanges.exists_foldlM_assign_iff {}
  · intro f flag
    refine ⟨?_, fun hnone => FlagChanges.get_apply_of_forall_not hnone f hc⟩
    rintro before text after value rfl htext hafter
    exact FlagChanges.get_apply_of_last htext hafter f hc
  · intro as bs a b ha hb
    obtain ⟨c, hc, happly⟩ := FlagChanges.ofTexts_append ha hb
    exact ⟨c, hc, happly, Machine.performAll_flags happly⟩
  · simp [Flags.switches, Flags.enabled, Flag.mem_all]

/-- A flag that is turned on and off again is off, and one that was off before and was not
mentioned stays so. -/
theorem flag_assignments_twice : ∃ c,
    FlagChanges.ofTexts ["rtc-is-utc=true", "wire-guest-memory=true", "rtc-is-utc=false"] = .ok c ∧
      (Flags.apply {} c).get .rtcIsUtc = false ∧
      (Flags.apply {} c).get .forceVirtioPciMsi = false := by
  obtain ⟨c, hc⟩ : ∃ c, FlagChanges.ofTexts
      ["rtc-is-utc=true", "wire-guest-memory=true", "rtc-is-utc=false"] = .ok c := ⟨_, rfl⟩
  obtain ⟨hlast, -⟩ := (flag_assignments.2.1 _ c hc).2 {} .rtcIsUtc
  obtain ⟨-, hkept⟩ := (flag_assignments.2.1 _ c hc).2 {} .forceVirtioPciMsi
  refine ⟨c, hc, ?_, hkept (by decide)⟩
  exact hlast ["rtc-is-utc=true", "wire-guest-memory=true"] "rtc-is-utc=false" [] false rfl
    (by decide) (by simp)

end Guestkeeper
