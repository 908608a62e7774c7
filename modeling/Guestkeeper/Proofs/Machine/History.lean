import Guestkeeper.Proofs.Machine.Boots

set_option autoImplicit false

/-! # Histories of machines

A machine comes about by operations, one after another, each of which may be refused. What an
operation can do to a machine is said once, in `Machine.Step`: it describes the machine anew and
leaves its devices and boot configurations alone, or puts an accepted device into its slot, or
clears slots that nothing refers to, or changes the boot configurations to ones that were there
or fit. Every invariant of machines is proved along these four steps.
-/

namespace Guestkeeper

/-- A change that is asked of a machine. -/
inductive Operation
  | apply (changes : Changes)
  | addDevice (addition : Addition)
  | deleteDevices (slots : List Slot)
  | mergeBoots (batch : List BootConfiguration) (update : Bool)
  | removeBoots (names : List String)
  | withSource (path : String)

/-- The name that an operation gives, if it gives one. -/
def Operation.name? : Operation → Option String
  | .apply changes => changes.name
  | .addDevice _ | .deleteDevices _ | .mergeBoots _ _ | .removeBoots _ | .withSource _ => none

namespace Machine

def perform (m : Machine) : Operation → Except Error Machine
  | .apply changes => m.apply changes
  | .addDevice addition => (m.addDevice addition).map Prod.fst
  | .deleteDevices slots => m.deleteDevices slots
  | .mergeBoots batch update => m.mergeBoots batch update
  | .removeBoots names => m.removeBoots names
  | .withSource path => .ok (m.withSource path)

/-- Performs operations in order; the first that is refused ends it. -/
def performAll (m : Machine) (operations : List Operation) : Except Error Machine :=
  operations.foldlM perform m

/-- What an operation that succeeds has done. -/
inductive Step (m : Machine) : Machine → Prop
  | described (m' : Machine) (devices : m'.devices = m.devices) (boots : m'.boots = m.boots)
      (name : m'.name = m.name ∨ checkName m'.name = .ok ()) : Step m m'
  | placed (d : Device) (accepted : m.Accepts d) : Step m (m.withDevice d)
  | cleared (slots : List Slot) (bridge : .hostBridge ∉ slots)
      (free : ∀ s ∈ slots, m.Unreferenced s) : Step m (m.withoutDevices slots)
  | rebooted (boots : Table BootConfiguration.name)
      (fit : ∀ b ∈ boots.entries, b ∈ m.boots.entries ∨ m.Fits b) :
      Step m { m with boots := boots }

theorem define_eq_ok_iff {d : Definition} {m : Machine} :
    define d = .ok m ↔ checkName d.name = .ok () ∧ m = {
      id := d.id
      name := d.name
      comment := d.comment
      cpu := d.cpu
      memory := d.memory
      flags := Flags.apply {} d.flags
      devices := (∅ : Table Device.slot).insert firstBridge
      boots := ∅
      source := none } := by
  rw [define, Except.bind_eq_ok_iff]
  constructor
  · rintro ⟨_, hname, h⟩
    exact ⟨hname, (Except.ok.inj h).symm⟩
  · rintro ⟨hname, rfl⟩
    exact ⟨(), hname, rfl⟩

/-- A new machine has the identifier and the name that it was defined with. -/
theorem id_and_name_of_define {d : Definition} {m : Machine} (h : define d = .ok m) :
    m.id = d.id ∧ m.name = d.name := by
  rw [(define_eq_ok_iff.1 h).2]
  exact ⟨rfl, rfl⟩

theorem apply_eq_ok_iff {m m' : Machine} {c : Changes} :
    m.apply c = .ok m' ↔ (∀ name, c.name = some name → checkName name = .ok ()) ∧ m' = { m with
      name := c.name.getD m.name
      comment := c.comment.getD m.comment
      cpu := c.cpu.getD m.cpu
      memory := c.memory.getD m.memory
      flags := m.flags.apply c.flags } := by
  rw [apply]
  cases hname : c.name with
  | none =>
      constructor
      · intro h
        exact ⟨fun _ hsome => (nomatch hsome), (Except.ok.inj h).symm⟩
      · rintro ⟨-, rfl⟩
        rfl
  | some name =>
      constructor
      · intro h
        obtain ⟨_, hcheck, h⟩ := Except.bind_eq_ok_iff.1 h
        refine ⟨fun other hother => ?_, (Except.ok.inj h).symm⟩
        cases hother
        exact hcheck
      · rintro ⟨hcheck, rfl⟩
        exact Except.bind_eq_ok_iff.2 ⟨(), hcheck name rfl, rfl⟩

/-- Every operation that succeeds is one of the four steps. -/
theorem step_of_perform {m m' : Machine} {op : Operation} (h : m.perform op = .ok m') :
    m.Step m' := by
  cases op with
  | apply c =>
      obtain ⟨hname, rfl⟩ := apply_eq_ok_iff.1 h
      refine .described _ rfl rfl ?_
      cases hc : c.name with
      | none => exact .inl rfl
      | some name => exact .inr (hname name hc)
  | addDevice a =>
      obtain ⟨⟨m', s⟩, hadd, rfl⟩ := Except.map_eq_ok_iff.1 h
      obtain ⟨-, haccepts, rfl⟩ := addDevice_eq_ok_iff.1 hadd
      exact .placed _ haccepts
  | deleteDevices slots =>
      obtain ⟨-, hbridge, hfree, rfl⟩ := deleteDevices_eq_ok_iff.1 h
      exact .cleared slots hbridge hfree
  | mergeBoots batch update =>
      obtain ⟨-, hfits, -, rfl⟩ := mergeBoots_eq_ok_iff.1 h
      refine .rebooted _ fun b hb => ?_
      rcases Table.mem_insertAll hb with hb | hb
      · exact .inr (hfits b hb)
      · exact .inl hb
  | removeBoots names =>
      obtain ⟨-, rfl⟩ := removeBoots_eq_ok_iff.1 h
      exact .rebooted _ fun b hb => .inl (List.mem_of_mem_filter hb)
  | withSource path =>
      cases h
      exact .described _ rfl rfl (.inl rfl)

/-- An operation makes no other machine of a machine, and a new name is one that it gives. -/
theorem identity_of_perform {m m' : Machine} {op : Operation} (h : m.perform op = .ok m') :
    m'.id = m.id ∧ m'.name = op.name?.getD m.name := by
  cases op with
  | apply c =>
      obtain ⟨-, rfl⟩ := apply_eq_ok_iff.1 h
      exact ⟨rfl, rfl⟩
  | addDevice a =>
      obtain ⟨⟨m', s⟩, hadd, rfl⟩ := Except.map_eq_ok_iff.1 h
      obtain ⟨-, -, rfl⟩ := addDevice_eq_ok_iff.1 hadd
      exact ⟨rfl, rfl⟩
  | deleteDevices slots =>
      obtain ⟨-, -, -, rfl⟩ := deleteDevices_eq_ok_iff.1 h
      exact ⟨rfl, rfl⟩
  | mergeBoots batch update =>
      obtain ⟨-, -, -, rfl⟩ := mergeBoots_eq_ok_iff.1 h
      exact ⟨rfl, rfl⟩
  | removeBoots names =>
      obtain ⟨-, rfl⟩ := removeBoots_eq_ok_iff.1 h
      exact ⟨rfl, rfl⟩
  | withSource path =>
      cases h
      exact ⟨rfl, rfl⟩

/-- What every step keeps, every history keeps. -/
theorem performAll_invariant (motive : Machine → Prop)
    (step : ∀ m m' : Machine, motive m → m.Step m' → motive m') {m m' : Machine}
    {ops : List Operation} (hm : motive m) (h : m.performAll ops = .ok m') : motive m' :=
  Except.foldlM_invariant motive (fun m m' _ _ hm hop => step m m' hm (step_of_perform hop)) hm h

end Machine

end Guestkeeper
