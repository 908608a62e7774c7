import Guestkeeper.Launch.Console
import Guestkeeper.Proofs.Launch.Hypervisor

set_option autoImplicit false

/-! # The console and the guest on one line

The console is looked for on every bridge of a machine, and the hypervisor is given the lines of the
first. Where there is one bridge at most, both mean the same lines. So the terminal opens one side
of the null-modem pair of which the guest has the other.
-/

namespace Guestkeeper.Console

open Guestkeeper.Launch

/-- The console lines are looked for among all lines. -/
theorem map_line_candidates (m : Machine) :
    (candidates m).map Candidate.line = m.serialLines.filter TtyBackend.isConsole := by
  have hdevice : ∀ d : Device, (candidatesOf d).map Candidate.line =
      ((d.kind.lpc?.map Lpc.backends).getD []).filter TtyBackend.isConsole := by
    intro d
    rw [candidatesOf]
    cases d.kind.lpc? with
    | none => rfl
    | some lpc =>
        have hline : (Candidate.line ∘ fun line => (⟨d.slot, line⟩ : Candidate)) = id := rfl
        simp only [List.map_map, hline, List.map_id]
        rfl
  simp only [candidates, Machine.serialLines, List.map_flatMap, List.filter_flatMap, hdevice]

theorem isNmdm_iff {line : TtyBackend} : line.isNmdm = true ↔ ∃ name, line = .nmdm name := by
  cases line with
  | file name path => simp [TtyBackend.isNmdm]
  | nmdm name => simp [TtyBackend.isNmdm]
  | stdio name => simp [TtyBackend.isNmdm]

/-- There is a command for the console exactly where the only console line is a null-modem pair. -/
theorem command?_eq_some_iff {c : Configuration} {m : Machine} {p : Command} :
    command? c m = some p ↔ p = ⟨c.terminal, ["-l", hostLine m.id]⟩ ∧
      ∃ name, m.serialLines.filter TtyBackend.isConsole = [.nmdm name] := by
  rw [← map_line_candidates, command?, find?]
  cases candidates m with
  | nil => simp
  | cons first rest =>
      cases rest with
      | nil =>
          show (if first.line.isNmdm then some _ else none) = some p ↔ _
          simp only [List.map_cons, List.map_nil, List.cons.injEq, and_true]
          rw [← isNmdm_iff]
          split
          · next hpair => simp [hpair, eq_comm]
          · next hpair => simp [hpair]
      | cons second more => simp

/-- With one bridge at most, its console lines are all console lines. -/
theorem exists_console_iff {m : Machine} (hm : m.LpcAlone) {name : TtyName} :
    m.serialLines.filter TtyBackend.isConsole = [.nmdm name] ↔
      ∃ s d lpc, m.device? s = some d ∧ d.kind.lpc? = some lpc ∧
        lpc.backends.filter TtyBackend.isConsole = [.nmdm name] := by
  rw [m.serialLines_eq hm]
  constructor
  · intro h
    cases hlpc : m.lpc? with
    | none =>
        rw [hlpc] at h
        cases h
    | some lpc =>
        rw [hlpc] at h
        obtain ⟨s, d, hd, hbridge⟩ := exists_of_lpc?_eq_some hlpc
        exact ⟨s, d, lpc, hd, hbridge, h⟩
  · rintro ⟨s, d, lpc, hd, hbridge, h⟩
    rw [lpc?_eq_some_of_device hm hd hbridge]
    exact h

/-- **The console and the guest meet.** Whatever operations built the machine, there is a command
for its console exactly where its bridge has one console line, a null-modem pair. The two ends of
the pair are devices whose names differ in the last letter only. The command opens the end `B`, and
whenever the machine can be started, the guest's line of that name is the end `A`. -/
theorem console_meets_guest (d : Definition) (ops : List Operation) (c : Configuration)
    {m₀ m : Machine} (hd : Machine.define d = .ok m₀) (h : m₀.performAll ops = .ok m) :
    ((∃ p, command? c m = some p) ↔
      ∃ name s e lpc, m.device? s = some e ∧ e.kind.lpc? = some lpc ∧
        lpc.backends.filter TtyBackend.isConsole = [.nmdm name]) ∧
    ∀ name s e lpc, m.device? s = some e → e.kind.lpc? = some lpc →
      lpc.backends.filter TtyBackend.isConsole = [.nmdm name] →
        command? c m = some ⟨c.terminal, ["-l", "/dev/nmdm_" ++ m.id.text ++ "_B"]⟩ ∧
        ∀ b arguments, hypervisorArguments c m b = .ok arguments →
          ["-l", name.text ++ "," ++ ("/dev/nmdm_" ++ m.id.text ++ "_A")] <:+: arguments ∧
          ∃ parts, readParts arguments = some parts ∧
            .option "-l" (name.text ++ "," ++ ("/dev/nmdm_" ++ m.id.text ++ "_A")) ∈ parts := by
  have hm : m.Sound := (Machine.sound_of_define hd).performAll h
  refine ⟨?_, fun name s e lpc he hlpc honly => ?_⟩
  · simp only [command?_eq_some_iff, exists_eq_left, exists_console_iff hm.lpc]
  · have hlines : m.serialLines.filter TtyBackend.isConsole = [.nmdm name] :=
      (exists_console_iff hm.lpc).2 ⟨s, e, lpc, he, hlpc, honly⟩
    refine ⟨command?_eq_some_iff.2 ⟨rfl, name, hlines⟩, fun b arguments harguments => ?_⟩
    obtain ⟨parts, hread, hdescribes⟩ := exists_reading hm harguments
    have hline : .nmdm name ∈ m.serialLines.filter TtyBackend.isConsole := by
      rw [hlines]
      exact List.mem_cons_self
    have hvalue : (TtyBackend.nmdm name).argument m.id ∈ values "-l" parts := by
      rw [hdescribes.lines]
      exact List.mem_map_of_mem (List.mem_append_left _ (List.mem_filter.1 hline).1)
    have hpart : .option "-l" (name.text ++ "," ++ ("/dev/nmdm_" ++ m.id.text ++ "_A")) ∈ parts :=
      mem_values_iff.1 hvalue
    have hwords := words_infix_of_mem hpart
    rw [(readParts_eq_some_iff.1 hread).2] at hwords
    exact ⟨hwords, parts, hread, hpart⟩

theorem console_meets_guest_furnishing : ∃ m₀ m arguments,
    Machine.define Machine.guest = .ok m₀ ∧
    m₀.performAll (furnishing ⟨0, 1, 0⟩ ⟨0, 31, 0⟩
      ⟨Table.ofList [.nmdm .com1, .file .com2 "/log"], rfl, by decide⟩) = .ok m ∧
    hypervisorArguments {} m ⟨"boot", "", .uefi "/fw", []⟩ = .ok arguments ∧
    command? {} m =
      some ⟨"/usr/bin/cu", ["-l", "/dev/nmdm_00000000-0000-0000-0000-000000000001_B"]⟩ ∧
    ["-l", "com1,/dev/nmdm_00000000-0000-0000-0000-000000000001_A"] <:+: arguments := by
  have hmeets := (console_meets_guest Machine.guest (furnishing ⟨0, 1, 0⟩ ⟨0, 31, 0⟩
    ⟨Table.ofList [.nmdm .com1, .file .com2 "/log"], rfl, by decide⟩) {} rfl rfl).2 .com1
    ⟨0, 31, 0⟩ _ _ rfl rfl rfl
  obtain ⟨hcommand, hline⟩ := hmeets
  exact ⟨_, _, _, rfl, rfl, rfl, hcommand, (hline ⟨"boot", "", .uefi "/fw", []⟩ _ rfl).1⟩

end Guestkeeper.Console
