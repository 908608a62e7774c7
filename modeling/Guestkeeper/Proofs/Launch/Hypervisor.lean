import Guestkeeper.Proofs.Launch.Options
import Guestkeeper.Proofs.Launch.Plan
import Guestkeeper.Proofs.Launch.Values
import Guestkeeper.Proofs.Machine.Flags
import Guestkeeper.Proofs.Machine.Topology

set_option autoImplicit false

/-! # The hypervisor's arguments describe the machine

The arguments that a machine is started with have one reading, and it says what the machine is:
its processors and memory, its flags and pins, each of its devices in slot order, each of its serial
lines in the order of their names, and its identifier. Every number and name is read back from the
values of the options by readers that know nothing of the machine.
-/

namespace Guestkeeper

/-! ## Serial lines -/

/-- The serial lines of all LPC bridges, by slot and name. -/
def Machine.serialLines (m : Machine) : List TtyBackend :=
  m.devices.entries.flatMap fun d => (d.kind.lpc?.map Lpc.backends).getD []

/-- The line for the firmware, where a boot configuration has one. -/
def BootConfiguration.firmwareLines (b : BootConfiguration) : List TtyBackend :=
  match b.method with
  | .grub _ => []
  | .uefi firmware => [.file .bootrom firmware]

/-- With one bridge at most, its lines are all lines. -/
theorem flatMap_backends {ds : List Device}
    (h : ds.Pairwise fun d e => d.kind.lpc?.isSome = true → e.kind.lpc? = none) :
    (ds.flatMap fun d => (d.kind.lpc?.map Lpc.backends).getD []) =
      ((ds.findSome? fun d => d.kind.lpc?).map Lpc.backends).getD [] := by
  induction ds with
  | nil => rfl
  | cons d ds ih =>
      obtain ⟨hfirst, hrest⟩ := List.pairwise_cons.1 h
      rw [List.flatMap_cons, List.findSome?_cons, ih hrest]
      cases hlpc : d.kind.lpc? with
      | none => rfl
      | some lpc =>
          have hnone : ds.findSome? (fun e => e.kind.lpc?) = none := by
            rw [List.findSome?_eq_none_iff]
            intro e he
            exact hfirst e he (by rw [hlpc]; rfl)
          rw [hnone]
          exact List.append_nil _

theorem Machine.serialLines_eq {m : Machine} (hm : m.LpcAlone) :
    m.serialLines = (m.lpc?.map Lpc.backends).getD [] := by
  apply flatMap_backends
  refine m.devices.ascending.imp_of_mem fun {d e} hd he hlt hbridge => ?_
  -- two bridges would be in one slot, but the slots ascend
  by_contra hother
  have hother : e.kind.lpc?.isSome = true := Option.isSome_iff_ne_none.2 hother
  have hslot := hm.2 d.slot e.slot d e (device?_slot hd) (device?_slot he) hbridge hother
  exact Table.ne_of_compare_lt hlt hslot

namespace Launch

open Guestkeeper.Text

/-! ## Values read -/

/-- Reads `<name>=<number>`. -/
def readSetting (text : String) : Option (String × Nat) :=
  (cut '=' text).bind fun s => (readNatural UInt32.size s.2).toOption.map fun n => (s.1, n)

/-- Reads settings with commas between them. -/
def readSettings (value : String) : Option (List (String × Nat)) :=
  (fields ',' value).mapM readSetting

/-- Reads `<number>M`. -/
def readMegabytes (value : String) : Option Nat :=
  match fields 'M' value with
  | [number, ""] => (readNatural UInt64.size number).toOption
  | _ => none

/-- Reads `<guest>:<host>`. -/
def readPin (value : String) : Option (UInt32 × UInt32) :=
  match (fields ':' value).map readWord32 with
  | [.ok guest, .ok host] => some (guest, host)
  | _ => none

/-- Reads the slot and the name that a device begins with. -/
def readDevice (value : String) : Option (Slot × String) :=
  match fields ',' value with
  | slot :: name :: _ => (Slot.ofText slot).toOption.map fun s => (s, name)
  | _ => none

/-- Reads the name that a serial line begins with. -/
def readLineName (value : String) : Option TtyName :=
  (cut ',' value).bind fun s => (TtyName.ofText s.1).toOption

theorem readSetting_decimal {name : String} {n : Nat} (hname : '=' ∉ name.toList)
    (hn : n < UInt32.size) : readSetting (name ++ "=" ++ decimal n) = some (name, n) := by
  have hcut : cut '=' (name ++ "=" ++ decimal n) = some (name, decimal n) := cut_append hname _
  rw [readSetting, hcut, Option.bind_some, readNatural_decimal hn]
  rfl

/-- The settings of the processors. -/
def settings (t : Topology) : List (String × Nat) :=
  [("cpus", t.cpus), ("sockets", t.sockets.toNat), ("cores", t.cores.toNat),
    ("threads", t.threads.toNat)]

theorem cpuArgument_eq (t : Topology) : cpuArgument t =
    String.intercalate "," ((settings t).map fun s => s.1 ++ "=" ++ decimal s.2) := by
  have hword : ∀ n : UInt32, toString n = decimal n.toNat := fun _ => rfl
  have htext : ∀ text : String, toString text = text := fun _ => rfl
  simp only [cpuArgument, hword, htext, t.count_eq_cpus, settings, List.map_cons, List.map_nil]
  apply String.toList_inj.1
  simp

theorem readSettings_cpuArgument (t : Topology) :
    readSettings (cpuArgument t) = some (settings t) := by
  have hfields : fields ',' (cpuArgument t) =
      ((settings t).map fun s => s.1 ++ "=" ++ decimal s.2).flatMap (fields ',') := by
    rw [cpuArgument_eq]
    exact fields_intercalate ',' _ _
  have hcomma : ∀ text ∈ (settings t).map fun s => s.1 ++ "=" ++ decimal s.2,
      ',' ∉ text.toList := by
    simp [settings, comma_notMem_decimal]
  rw [readSettings, hfields, flatMap_fields_of_notMem hcomma]
  refine mapM_map_eq_some fun s hs => ?_
  simp only [settings, List.mem_cons, List.not_mem_nil, or_false] at hs
  rcases hs with rfl | rfl | rfl | rfl
  · exact readSetting_decimal (show '=' ∉ "cpus".toList by decide) t.cpus_lt
  · exact readSetting_decimal (show '=' ∉ "sockets".toList by decide) t.sockets.toNat_lt
  · exact readSetting_decimal (show '=' ∉ "cores".toList by decide) t.cores.toNat_lt
  · exact readSetting_decimal (show '=' ∉ "threads".toList by decide) t.threads.toNat_lt

theorem readMegabytes_memoryArgument (m : Memory) :
    readMegabytes (memoryArgument m) = some m.total := by
  have hfields : fields 'M' (decimal m.total ++ "M" ++ "") =
      fields 'M' (decimal m.total) ++ fields 'M' "" := fields_append_sep 'M' _ _
  rw [fields_of_notMem (notMem_decimal rfl m.total), String.append_empty] at hfields
  have hread : readNatural UInt64.size (decimal m.total) = .ok m.total :=
    readNatural_decimal m.total_lt
  rw [readMegabytes, memoryArgument, m.toNat_size, hfields]
  show (readNatural UInt64.size (decimal m.total)).toOption = some m.total
  rw [hread]
  rfl

theorem readPin_pinArgument (p : CpuPin) : readPin (pinArgument p) = some (p.guest, p.host) := by
  have hfields : fields ':' (pinArgument p) =
      fields ':' (decimal p.guest.toNat) ++ fields ':' (decimal p.host.toNat) :=
    fields_append_sep ':' _ _
  rw [fields_of_notMem (notMem_decimal rfl _), fields_of_notMem (notMem_decimal rfl _)] at hfields
  simp only [readPin, hfields, List.cons_append, List.nil_append, List.map_cons, List.map_nil,
    readWord32_decimal]

theorem readDevice_deviceArgument {root : String} {id : Uuid} {d : Device} {value : String}
    (hvalid : d.kind.validate = .ok ()) (h : deviceArgument root id d = .ok value) :
    readDevice value = some (d.slot, d.kind.emulation) := by
  obtain ⟨storage, -, hfields⟩ := fields_deviceArgument hvalid h
  rw [readDevice, hfields]
  show (Slot.ofText d.slot.text).toOption.map _ = _
  rw [Slot.ofText_text]
  rfl

theorem readLineName_argument (id : Uuid) (b : TtyBackend) :
    readLineName (b.argument id) = some b.name := by
  rw [readLineName, b.cut_argument id, Option.bind_some, TtyName.ofText_text]
  rfl

/-! ## The parts of the arguments -/

/-- The parts that the arguments are made of, where the devices have these texts. -/
def argumentParts (m : Machine) (devices : List String) (lines : List TtyBackend) : List Part :=
  [.option "-c" (cpuArgument m.cpu), .option "-m" (memoryArgument m.memory)] ++
    m.flags.switches.map .switch ++ Part.options "-p" (m.cpu.pins.entries.map pinArgument) ++
    Part.options "-s" devices ++ Part.options "-l" (lines.map (TtyBackend.argument m.id)) ++
    [.option "-U" m.id.text, .operand m.hypervisorName]

theorem words_options (option : String) (texts : List String) :
    (Part.options option texts).flatMap Part.words = repeated option texts := by
  rw [Part.options, List.flatMap_map]
  rfl

theorem words_switches (names : List String) :
    (names.map Part.switch).flatMap Part.words = names := by
  rw [List.flatMap_map]
  exact List.flatMap_singleton' names

theorem repeated_append (option : String) (texts others : List String) :
    repeated option (texts ++ others) = repeated option texts ++ repeated option others :=
  List.flatMap_append

/-- Where the firmware is accepted, it is a line under a name that is free. -/
theorem firmwareArguments_eq_ok {lpc? : Option Lpc} {b : BootConfiguration}
    {firmware : List String} (id : Uuid) (h : firmwareArguments lpc? b = .ok firmware) :
    firmware = repeated "-l" (b.firmwareLines.map (TtyBackend.argument id)) ∧
      ∀ line ∈ b.firmwareLines, line.name = .bootrom ∧
        ∀ lpc, lpc? = some lpc → lpc.get? .bootrom = none := by
  rw [firmwareArguments] at h
  rw [BootConfiguration.firmwareLines]
  cases hmethod : b.method with
  | grub kernel =>
      rw [hmethod] at h
      cases h
      simp [repeated]
  | uefi path =>
      rw [hmethod] at h
      cases hlpc : lpc? with
      | none =>
          rw [hlpc] at h
          cases h
      | some lpc =>
          simp only [hlpc] at h
          split at h
          · cases h
          · next hfree =>
              cases h
              refine ⟨rfl, fun line hline => ?_⟩
              rw [List.mem_singleton.1 hline]
              refine ⟨rfl, fun other hother => ?_⟩
              cases hother
              simpa using hfree

/-- The firmware has the last name, so the names ascend where that name is free. -/
theorem ascending_lines {m : Machine} {b : BootConfiguration} (hm : m.LpcAlone)
    (hfree : ∀ line ∈ b.firmwareLines, line.name = .bootrom ∧
      ∀ lpc, m.lpc? = some lpc → lpc.get? .bootrom = none) :
    (m.serialLines ++ b.firmwareLines).Pairwise fun x y => compare x.name y.name = .lt := by
  have hfirmware : b.firmwareLines.Pairwise fun x y => compare x.name y.name = .lt := by
    rw [BootConfiguration.firmwareLines]
    split
    · exact List.Pairwise.nil
    · exact List.pairwise_singleton _ _
  rw [m.serialLines_eq hm]
  cases hlpc : m.lpc? with
  | none => exact hfirmware
  | some lpc =>
      refine List.pairwise_append.2 ⟨lpc.lines.ascending, hfirmware, fun x hx y hy => ?_⟩
      obtain ⟨hlast, hnone⟩ := hfree y hy
      have hother : x.name ≠ .bootrom := by
        intro hname
        have hfind : lpc.get? x.name = some x := Table.find?_of_mem hx
        rw [hname, hnone lpc hlpc] at hfind
        cases hfind
      rw [hlast]
      cases hname : x.name with
      | com1 => rfl
      | com2 => rfl
      | bootrom => exact absurd hname hother

theorem exists_argumentParts {c : Configuration} {m : Machine} {b : BootConfiguration}
    {arguments : List String} (hm : m.LpcAlone) (h : hypervisorArguments c m b = .ok arguments) :
    ∃ devices, m.devices.entries.mapM (deviceArgument c.volumeRoot m.id) = .ok devices ∧
      (argumentParts m devices (m.serialLines ++ b.firmwareLines)).flatMap Part.words =
        arguments ∧
      (m.serialLines ++ b.firmwareLines).Pairwise fun x y => compare x.name y.name = .lt := by
  obtain ⟨devices, hdevices, h⟩ := Except.bind_eq_ok_iff.1 h
  obtain ⟨firmware, hfirmware, h⟩ := Except.bind_eq_ok_iff.1 h
  obtain ⟨hoption, hfree⟩ := firmwareArguments_eq_ok m.id hfirmware
  refine ⟨devices, hdevices, ?_, ascending_lines hm hfree⟩
  rw [← Except.ok.inj h, hoption]
  simp only [argumentParts, List.flatMap_append, words_options, words_switches, List.map_append,
    repeated_append, m.serialLines_eq hm, List.append_assoc]
  rfl

/-! ## Clear parts -/

theorem isDashed_append {first : String} (h : first ≠ "") (rest : String) :
    isDashed (first ++ rest) = isDashed first := by
  have hne : first.toList ≠ [] := fun hnil => h (String.toList_eq_nil_iff.1 hnil)
  simp only [isDashed, String.toList_append, List.head?_append_of_ne_nil _ hne]

theorem isDashed_decimal_append (n : Nat) (rest : String) :
    isDashed (decimal n ++ rest) = false := by
  obtain ⟨c, cs, hcs, hc⟩ := exists_toDigits_eq_cons n
  have hdash : c ≠ '-' := ne_of_isDigit hc rfl
  simp [isDashed, toList_decimal, hcs, hdash]

theorem isDashed_text (id : Uuid) : isDashed id.text = false := by
  obtain ⟨d, cs, hd, hcs⟩ := id.exists_hyphenated_eq
  have hall : ∀ d, d < 16 → Nat.digitChar d ≠ '-' := by decide
  simp [isDashed, Uuid.text, hcs, hall d hd]

theorem isDashed_argument (id : Uuid) (b : TtyBackend) : isDashed (b.argument id) = false := by
  rw [b.argument_eq, String.append_assoc]
  cases b.name with
  | com1 => exact isDashed_append (by decide) _
  | com2 => exact isDashed_append (by decide) _
  | bootrom => exact isDashed_append (by decide) _

theorem isDashed_deviceArgument {root : String} {id : Uuid} {d : Device} {value : String}
    (h : deviceArgument root id d = .ok value) : isDashed value = false := by
  obtain ⟨storage, -, h⟩ := Except.bind_eq_ok_iff.1 h
  rw [← Except.ok.inj h, List.cons_append, List.cons_append, String.intercalate_cons_cons,
    Slot.text]
  simp only [String.append_assoc]
  exact isDashed_decimal_append _ _

theorem isDashed_cpuArgument (t : Topology) : isDashed (cpuArgument t) = false := by
  rw [cpuArgument_eq]
  simp [settings, isDashed]

theorem isDashed_switch (f : Flag) : isDashed f.switch = true := by
  cases f <;> rfl

theorem switch_notMem_valued (f : Flag) : f.switch ∉ valued := by
  cases f <;> decide

/-- What holds of each sort of part holds of all parts. -/
theorem forall_argumentParts {motive : Part → Prop} {m : Machine} {devices : List String}
    {lines : List TtyBackend} (cpu : motive (.option "-c" (cpuArgument m.cpu)))
    (memory : motive (.option "-m" (memoryArgument m.memory)))
    (flag : ∀ f : Flag, motive (.switch f.switch))
    (pin : ∀ p, motive (.option "-p" (pinArgument p)))
    (device : ∀ value ∈ devices, motive (.option "-s" value))
    (line : ∀ b : TtyBackend, motive (.option "-l" (b.argument m.id)))
    (identifier : motive (.option "-U" m.id.text)) (name : motive (.operand m.id.text)) :
    ∀ p ∈ argumentParts m devices lines, motive p := by
  have hswitches : ∀ p ∈ m.flags.switches.map Part.switch, motive p := by
    simp only [Flags.switches, List.forall_mem_map]
    exact fun f _ => flag f
  have hpins : ∀ p ∈ Part.options "-p" (m.cpu.pins.entries.map pinArgument), motive p := by
    simp only [Part.options, List.forall_mem_map]
    exact fun p _ => pin p
  have hdevices : ∀ p ∈ Part.options "-s" devices, motive p := by
    simp only [Part.options, List.forall_mem_map]
    exact device
  have hlines : ∀ p ∈ Part.options "-l" (lines.map (TtyBackend.argument m.id)), motive p := by
    simp only [Part.options, List.forall_mem_map]
    exact fun b _ => line b
  simp only [argumentParts, List.forall_mem_append, List.forall_mem_cons]
  exact ⟨⟨⟨⟨⟨⟨cpu, memory, by simp⟩, hswitches⟩, hpins⟩, hdevices⟩, hlines⟩, identifier, name,
    by simp⟩

theorem clear_argumentParts (m : Machine) (devices : List String) (lines : List TtyBackend) :
    ∀ p ∈ argumentParts m devices lines, p.Clear := by
  have hvalued : ∀ name ∈ valued, ∀ value, (Part.option name value).Clear :=
    fun _ hname _ => hname
  apply forall_argumentParts
  case flag => exact fun f => ⟨isDashed_switch f, switch_notMem_valued f⟩
  case name => exact isDashed_text m.id
  all_goals
    intros
    exact hvalued _ (by decide) _

theorem undashed_argumentParts {m : Machine} {devices : List String} {lines : List TtyBackend}
    (hdevices : ∀ value ∈ devices, isDashed value = false) :
    ∀ p ∈ argumentParts m devices lines, p.Undashed := by
  apply forall_argumentParts
  case cpu => exact isDashed_cpuArgument m.cpu
  case memory => exact isDashed_decimal_append m.memory.size.toNat "M"
  case flag => exact fun f => trivial
  case pin =>
    intro p
    show isDashed (pinArgument p) = false
    rw [pinArgument, String.append_assoc]
    exact isDashed_decimal_append _ _
  case device => exact hdevices
  case line => exact isDashed_argument m.id
  case identifier => exact isDashed_text m.id
  case name => trivial

/-! ## The arguments read -/

section Picking

variable (m : Machine) (devices : List String) (lines : List TtyBackend)

theorem values_cpus : values "-c" (argumentParts m devices lines) = [cpuArgument m.cpu] := by
  simp [argumentParts, values, Part.value?, Part.options, Function.comp_def]

theorem values_memory :
    values "-m" (argumentParts m devices lines) = [memoryArgument m.memory] := by
  simp [argumentParts, values, Part.value?, Part.options, Function.comp_def]

theorem values_pins :
    values "-p" (argumentParts m devices lines) = m.cpu.pins.entries.map pinArgument := by
  simp [argumentParts, values, Part.value?, Part.options, Function.comp_def]

theorem values_devices : values "-s" (argumentParts m devices lines) = devices := by
  simp [argumentParts, values, Part.value?, Part.options, Function.comp_def]

theorem values_lines :
    values "-l" (argumentParts m devices lines) = lines.map (TtyBackend.argument m.id) := by
  simp [argumentParts, values, Part.value?, Part.options, Function.comp_def]

theorem values_identifier : values "-U" (argumentParts m devices lines) = [m.id.text] := by
  simp [argumentParts, values, Part.value?, Part.options, Function.comp_def]

theorem switches_argumentParts : switches (argumentParts m devices lines) = m.flags.switches := by
  simp [argumentParts, switches, Part.switch?, Part.options, List.filterMap_cons,
    Function.comp_def]

theorem operands_argumentParts : operands (argumentParts m devices lines) = [m.id.text] := by
  simp [argumentParts, Machine.hypervisorName, operands, Part.operand?, Part.options,
    List.filterMap_cons, Function.comp_def]

theorem getLast?_argumentParts :
    (argumentParts m devices lines).getLast? = some (.operand m.id.text) := by
  rw [argumentParts, List.getLast?_append]
  rfl

end Picking

/-- What a reading of the arguments says, where it describes a machine and a boot configuration. -/
structure Describes (c : Configuration) (m : Machine) (b : BootConfiguration) (parts : List Part) :
    Prop where
  processors : (values "-c" parts).map readSettings = [some
    [("cpus", m.cpu.sockets.toNat * m.cpu.cores.toNat * m.cpu.threads.toNat),
      ("sockets", m.cpu.sockets.toNat), ("cores", m.cpu.cores.toNat),
      ("threads", m.cpu.threads.toNat)]]
  memory : (values "-m" parts).map readMegabytes =
    [some (1024 * m.memory.gigabytes.toNat + m.memory.megabytes.toNat)]
  /-- The enabled flags have their switches, in the order of the table. -/
  switches : switches parts = (Flag.all.filter m.flags.get).map Flag.switch
  flags : ∀ f : Flag, f.switch ∈ Launch.switches parts ↔ m.flags.get f = true
  distinct : (Launch.switches parts).Nodup
  pins : (values "-p" parts).map readPin =
    m.cpu.pins.entries.map fun p => some (p.guest, p.host)
  /-- There is one text for each device, in the order of their slots. -/
  texts : m.devices.entries.mapM (deviceArgument c.volumeRoot m.id) = .ok (values "-s" parts)
  devices : (values "-s" parts).map readDevice =
    m.devices.entries.map fun d => some (d.slot, d.kind.emulation)
  slots : m.devices.entries.Pairwise fun d e => compare d.slot e.slot = .lt
  lines : values "-l" parts = (m.serialLines ++ b.firmwareLines).map (TtyBackend.argument m.id)
  names : (values "-l" parts).map readLineName =
    (m.serialLines ++ b.firmwareLines).map fun line => some line.name
  /-- The names of the lines ascend, so no name is used by two lines. -/
  ascending : (m.serialLines ++ b.firmwareLines).Pairwise fun x y => compare x.name y.name = .lt
  identifier : values "-U" parts = [m.id.text]
  operands : operands parts = [m.id.text]
  last : parts.getLast? = some (.operand m.id.text)
  undashed : ∀ p ∈ parts, p.Undashed

theorem describes_argumentParts {c : Configuration} {m : Machine} {b : BootConfiguration}
    {devices : List String} (hm : m.Sound)
    (hdevices : m.devices.entries.mapM (deviceArgument c.volumeRoot m.id) = .ok devices)
    (hlines : (m.serialLines ++ b.firmwareLines).Pairwise
      fun x y => compare x.name y.name = .lt) :
    Describes c m b (argumentParts m devices (m.serialLines ++ b.firmwareLines)) where
  processors := by
    rw [values_cpus, List.map_singleton, readSettings_cpuArgument]
    rfl
  memory := by
    rw [values_memory, List.map_singleton, readMegabytes_memoryArgument]
    rfl
  switches := switches_argumentParts m devices _
  flags f := by
    rw [switches_argumentParts]
    exact Flags.mem_switches_iff
  distinct := by
    rw [switches_argumentParts]
    exact m.flags.nodup_switches
  pins := by
    rw [values_pins, List.map_map]
    exact List.map_congr_left fun p _ => readPin_pinArgument p
  texts := by
    rw [values_devices]
    exact hdevices
  devices := by
    rw [values_devices]
    refine Except.map_eq_of_mapM_eq_ok hdevices fun d hd value hvalue => ?_
    exact readDevice_deviceArgument (hm.kinds d.slot d (Machine.device?_slot hd)) hvalue
  slots := m.devices.ascending
  lines := values_lines m devices _
  names := by
    rw [values_lines, List.map_map]
    exact List.map_congr_left fun line _ => readLineName_argument m.id line
  ascending := hlines
  identifier := values_identifier m devices _
  operands := operands_argumentParts m devices _
  last := getLast?_argumentParts m devices _
  undashed := by
    refine undashed_argumentParts fun value hvalue => ?_
    obtain ⟨d, -, hd⟩ := (Except.mem_iff_of_mapM_eq_ok hdevices value).1 hvalue
    exact isDashed_deviceArgument hd

theorem exists_reading {c : Configuration} {m : Machine} {b : BootConfiguration}
    {arguments : List String} (hm : m.Sound) (h : hypervisorArguments c m b = .ok arguments) :
    ∃ parts, readParts arguments = some parts ∧ Describes c m b parts := by
  obtain ⟨devices, hdevices, hwords, hlines⟩ := exists_argumentParts hm.lpc h
  have hread : readParts arguments =
      some (argumentParts m devices (m.serialLines ++ b.firmwareLines)) :=
    readParts_eq_some_iff.2 ⟨clear_argumentParts m devices _, hwords⟩
  exact ⟨_, hread, describes_argumentParts hm hdevices hlines⟩

/-- **The arguments say what the machine is.** Whatever operations built the machine, the arguments
have one reading from left to right, and it describes the machine and the boot configuration. -/
theorem arguments_describe (d : Definition) (ops : List Operation) (c : Configuration)
    (b : BootConfiguration) {m₀ m : Machine} {arguments : List String}
    (hd : Machine.define d = .ok m₀) (h : m₀.performAll ops = .ok m)
    (harguments : hypervisorArguments c m b = .ok arguments) :
    ∃ parts, readParts arguments = some parts ∧ Describes c m b parts ∧
      ∀ others, ((∀ p ∈ others, p.Clear) ∧ others.flatMap Part.words = arguments) ↔
        others = parts := by
  have hm : m.Sound := (Machine.sound_of_define hd).performAll h
  obtain ⟨parts, hread, hdescribes⟩ := exists_reading hm harguments
  refine ⟨parts, hread, hdescribes, fun others => ?_⟩
  rw [← readParts_eq_some_iff, hread, Option.some.injEq, eq_comm]

/-- A second processor is bound to one of the host's, and a disk and an LPC bridge come in. -/
def furnishing (disk bridge : Slot) (lines : Lpc) : List Operation :=
  [.apply { cpu := some ⟨1, 2, 1, 2, Table.ofList [⟨5, 1⟩], by decide, by decide, by decide⟩ },
   .addDevice { kind := .lpc lines, slot := some bridge },
   .addDevice { kind := .ahciDisk (.file "/disk" ∅ none), slot := some disk }]

theorem arguments_describe_furnishing : ∃ m₀ m arguments, Machine.define Machine.guest = .ok m₀ ∧
    m₀.performAll (furnishing ⟨0, 1, 0⟩ ⟨0, 31, 0⟩
      ⟨Table.ofList [.nmdm .com1, .file .com2 "/log"], rfl, by decide⟩) = .ok m ∧
    hypervisorArguments {} m ⟨"boot", "", .uefi "/fw", []⟩ = .ok arguments ∧
    arguments.length = 23 ∧
    ∃ parts, readParts arguments = some parts ∧
      Describes {} m ⟨"boot", "", .uefi "/fw", []⟩ parts := by
  refine ⟨_, _, _, rfl, rfl, rfl, rfl, ?_⟩
  obtain ⟨parts, hread, hdescribes, -⟩ := arguments_describe Machine.guest
    (furnishing ⟨0, 1, 0⟩ ⟨0, 31, 0⟩ ⟨Table.ofList [.nmdm .com1, .file .com2 "/log"], rfl,
      by decide⟩) {} ⟨"boot", "", .uefi "/fw", []⟩ rfl rfl rfl
  exact ⟨parts, hread, hdescribes⟩

end Launch

end Guestkeeper
