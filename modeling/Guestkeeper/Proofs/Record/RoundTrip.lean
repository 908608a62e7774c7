import Guestkeeper.Proofs.Json.Lexing
import Guestkeeper.Proofs.Json.Reading
import Guestkeeper.Proofs.Record.Machine
import Guestkeeper.Proofs.Text.Symbols

set_option autoImplicit false

/-! # Records read back

A record is the text of an envelope with the schema and the machine. Opening the envelope that
was written gives both back, and so reading a record is the inverse of writing it on every machine
that keeps the rules of records. Operations keep these rules, wherever a machine comes from. What
reading does not make sure of are the other rules that operations keep.
-/

namespace Guestkeeper.Record

open Guestkeeper.Text

/-! ## The envelope -/

/-- The value whose text is the record with a machine. -/
def envelope (machine : Json) : Json :=
  .object [("schema", .text schema), ("machine", machine)]

/-- The record in which a value stands for the machine. -/
def record (machine : Json) : ByteArray := ((envelope machine).lines ++ "\n").toUTF8

section Envelope

variable {machine : Json}

theorem fits_envelope {depth : Nat} (h : machine.Fits depth) :
    (envelope machine).Fits (depth + 1) := by
  simp [envelope, h]

theorem tokens?_record {depth : Nat} (h : machine.Fits depth) :
    Json.tokens? (symbols (record machine)) = some (envelope machine).tokens := by
  rw [record, symbols_toUTF8]
  exact Json.tokens?_lines (fits_envelope h)

theorem tokens_envelope (machine : Json) : (envelope machine).tokens =
    .leftBrace :: ([.text "schema", .colon, .text schema, .comma, .text "machine", .colon] ++
      machine.tokens ++ [.rightBrace]) := by
  simp [envelope, Json.tokens, Json.memberTokens]

/-- The members are told apart at the comma between them. -/
theorem pieces_members (machine : Json) :
    Json.pieces ([.text "schema", .colon, .text schema, .comma, .text "machine", .colon] ++
      machine.tokens) = [[.text "schema", .colon, .text schema],
        .text "machine" :: .colon :: machine.tokens] := by
  -- the machine's tokens add to the last piece and cut it nowhere
  have hfirst : [.text "schema", .colon, .text schema, .comma, .text "machine", .colon].foldl
      Json.cutStep (0, [], [])
      = (0, [.colon, .text "machine"], [[.text schema, .colon, .text "schema"]]) := rfl
  rw [Json.pieces, if_neg (by simp), List.foldl_append, hfirst, Json.foldl_cutStep_tokens]
  simp

theorem envelope?_tokens (machine : Json) :
    envelope? (envelope machine).tokens = some ⟨[.text schema], machine.tokens⟩ := by
  rw [tokens_envelope, envelope?]
  have hlast : ([Json.Token.text "schema", .colon, .text schema, .comma, .text "machine", .colon]
      ++ machine.tokens ++ [Json.Token.rightBrace]).getLast? = some .rightBrace :=
    List.getLast?_concat
  rw [if_pos hlast, List.dropLast_concat, pieces_members]
  rfl

/-- What nests no deeper than a machine may is found in its record. -/
theorem open?_record (h : machine.Fits machineDepth) :
    open? (record machine) = some (schema, machine.canonical) := by
  have hmachine : Json.ofTokens? (.full machineDepth) machine.tokens = some machine.canonical :=
    Json.ofTokens?_tokens h
  simp only [open?, tokens?_record h, envelope?_tokens, hmachine, Option.bind_eq_bind,
    Option.bind_some]
  rfl

end Envelope

/-- A machine nests far less than a record may. -/
theorem open?_encode (m : Machine) :
    open? (encode m) = some (schema, m.toJson.canonical) := open?_record (Machine.fits_toJson 121 m)

/-! ## Reading -/

theorem decode_eq_ok_iff {bytes : ByteArray} {m : Machine} : decode bytes = .ok m ↔
    ∃ j, open? bytes = some (schema, j) ∧ Machine.ofJson j = .ok m := by
  constructor
  · intro h
    unfold decode at h
    split at h
    · cases h
    · next s j hopen =>
        split at h
        · cases h
        · next hs =>
            rw [Decidable.not_not.1 hs] at hopen
            split at h
            · next m' hmachine =>
                cases h
                exact ⟨j, hopen, hmachine⟩
            · cases h
            · cases h
  · rintro ⟨j, hopen, hmachine⟩
    simp only [decode, hopen, hmachine, ne_eq, not_true_eq_false, if_false]

/-- **Reading takes back what was written**, except for the path a machine came from. -/
theorem decode_encode {m : Machine} (h : m.Recordable) :
    decode (encode m) = .ok { m with source := none } :=
  decode_eq_ok_iff.2 ⟨_, open?_encode m, Machine.ofJson_toJson h⟩

/-- A new machine came from no path. -/
theorem decode_encode_of_define {d : Definition} {m : Machine} (h : Machine.define d = .ok m) :
    decode (encode m) = .ok m := by
  rw [decode_encode (Machine.sound_of_define h).toRecordable, (Machine.define_eq_ok_iff.1 h).2]

/-- Different new machines have different records. -/
theorem encode_injective_of_define {d d' : Definition} {m m' : Machine}
    (h : Machine.define d = .ok m) (h' : Machine.define d' = .ok m')
    (hsame : encode m = encode m') : m = m' := by
  have hread := decode_encode_of_define h
  rw [hsame, decode_encode_of_define h'] at hread
  exact (Except.ok.inj hread).symm

theorem recordable_of_decode {bytes : ByteArray} {m : Machine} (h : decode bytes = .ok m) :
    m.source = none ∧ m.Recordable := by
  obtain ⟨j, -, hj⟩ := decode_eq_ok_iff.1 h
  exact Machine.recordable_of_ofJson hj

/-! ## Machines that come about -/

/-- A machine that was defined or read from a record and then went through operations. -/
def Arises (m : Machine) : Prop :=
  ∃ (m₀ : Machine) (ops : List Operation),
    ((∃ d, Machine.define d = .ok m₀) ∨ ∃ bytes, decode bytes = .ok m₀) ∧
      m₀.performAll ops = .ok m

theorem arises_of_define {d : Definition} {m : Machine} (h : Machine.define d = .ok m) :
    Arises m := ⟨m, [], .inl ⟨d, h⟩, rfl⟩

theorem recordable_of_arises {m : Machine} (h : Arises m) : m.Recordable := by
  obtain ⟨m₀, ops, hstart, hops⟩ := h
  -- the two starts have these rules in common, and no more
  have hm₀ : m₀.Recordable := by
    rcases hstart with ⟨d, hd⟩ | ⟨bytes, hbytes⟩
    · exact (Machine.sound_of_define hd).toRecordable
    · exact (recordable_of_decode hbytes).2
  exact hm₀.performAll hops

/-- **Records of machines that come about are read back exactly**, but for the path. So machines
with the same record differ in nothing else, and a record that is read and written again is the
same record. -/
theorem decode_encode_of_arises {m : Machine} (h : Arises m) :
    decode (encode m) = .ok { m with source := none } ∧
      (∀ m', Arises m' →
        (encode m' = encode m ↔ { m' with source := none } = { m with source := none })) ∧
      (decode (encode m)).map encode = .ok (encode m) := by
  have hread := decode_encode (recordable_of_arises h)
  refine ⟨hread, fun m' h' => ⟨fun hsame => ?_, fun hsame => ?_⟩, ?_⟩
  · have hread' := decode_encode (recordable_of_arises h')
    rw [hsame, hread] at hread'
    exact (Except.ok.inj hread').symm
  · -- the path is no part of the record
    calc encode m'
        = encode { m' with source := none } := rfl
      _ = encode { m with source := none } := congrArg encode hsame
      _ = encode m := rfl
  · rw [hread]
    rfl

theorem decode_encode_replacement : ∃ m₀ m : Machine,
    Machine.define Machine.guest = .ok m₀ ∧
      m₀.performAll (Machine.replacement ⟨0, 1, 0⟩ ⟨0, 2, 0⟩ ⟨∅, rfl, by decide⟩) = .ok m ∧
      Arises m ∧ decode (encode m) = .ok { m with source := none } ∧
      (∀ m', Arises m' →
        (encode m' = encode m ↔ { m' with source := none } = { m with source := none })) ∧
      (decode (encode m)).map encode = .ok (encode m) := by
  have harises : ∀ m₀ m, Machine.define Machine.guest = .ok m₀ →
      m₀.performAll (Machine.replacement ⟨0, 1, 0⟩ ⟨0, 2, 0⟩ ⟨∅, rfl, by decide⟩) = .ok m →
      Arises m := fun m₀ _ hd h => ⟨m₀, _, .inl ⟨Machine.guest, hd⟩, h⟩
  refine ⟨_, _, rfl, rfl, harises _ _ rfl rfl, ?_⟩
  exact decode_encode_of_arises (harises _ _ rfl rfl)

/-! ## What reading makes sure of -/

/-- **The machines that records yield are those that keep the rules of records.** The rules for
the host bridge, the LPC bridge and the boot configurations are not among them: a machine that
was read is sound just when it happens to keep these too. -/
theorem exists_decode_iff (m : Machine) :
    ((∃ bytes, decode bytes = .ok m) ↔ m.source = none ∧ m.Recordable) ∧
      ∀ bytes, decode bytes = .ok m →
        (m.Sound ↔ m.BridgeAlone ∧ m.LpcAlone ∧ m.BootsFit) := by
  refine ⟨⟨?_, ?_⟩, fun bytes h => ⟨?_, ?_⟩⟩
  · rintro ⟨bytes, h⟩
    exact recordable_of_decode h
  · rintro ⟨hsource, hrec⟩
    refine ⟨encode m, ?_⟩
    rw [decode_encode hrec, ← hsource]
  · intro hsound
    exact ⟨hsound.bridge, hsound.lpc, hsound.boots⟩
  · rintro ⟨hbridge, hlpc, hboots⟩
    exact ⟨(recordable_of_decode h).2, hbridge, hlpc, hboots⟩

/-- A disk, an LPC bridge and a boot configuration for the disk are added. -/
def bootable (disk bridge : Slot) (lines : Lpc) : List Operation :=
  [.addDevice { kind := .ahciDisk (.file "/tmp/disk" ∅ none), slot := some disk },
   .addDevice { kind := .lpc lines, slot := some bridge },
   .mergeBoots [⟨"install", "", .grub (.openBsd "/bsd" disk), [disk]⟩] false]

theorem exists_decode_guest : ∃ m₀ m, Machine.define Machine.guest = .ok m₀ ∧
    m₀.performAll (bootable ⟨0, 1, 0⟩ ⟨0, 31, 0⟩
      ⟨Table.ofList [.nmdm .com1], rfl, by decide⟩) = .ok m ∧
    m.devices.entries.length = 3 ∧ m.boots.entries.length = 1 ∧
    ∃ bytes, decode bytes = .ok m ∧ m.Sound ∧
      (m.Sound ↔ m.BridgeAlone ∧ m.LpcAlone ∧ m.BootsFit) := by
  have hsound : ∀ m₀ m, Machine.define Machine.guest = .ok m₀ →
      m₀.performAll (bootable ⟨0, 1, 0⟩ ⟨0, 31, 0⟩
        ⟨Table.ofList [.nmdm .com1], rfl, by decide⟩) = .ok m → m.Sound :=
    fun _ _ hd h => (Machine.sound_of_define hd).performAll h
  have hm := hsound _ _ rfl rfl
  refine ⟨_, _, rfl, rfl, rfl, rfl, ?_⟩
  obtain ⟨bytes, h⟩ := (exists_decode_iff _).1.2 ⟨rfl, hm.toRecordable⟩
  exact ⟨bytes, h, hm, (exists_decode_iff _).2 bytes h⟩

/-! ## Machines with one device -/

section Single

variable {m : Machine} {d : Device}

theorem device?_of_single (h : m.devices = (∅ : Table Device.slot).insert d) {s : Slot}
    {e : Device} (he : m.device? s = some e) : e = d ∧ s = d.slot := by
  obtain ⟨hmem, rfl⟩ := Machine.device?_eq_some_iff.1 he
  rw [h] at hmem
  rcases Table.mem_insert_iff.1 hmem with rfl | ⟨hmem, -⟩
  · exact ⟨rfl, rfl⟩
  · exact absurd hmem List.not_mem_nil

theorem recordable_of_single (h : m.devices = (∅ : Table Device.slot).insert d)
    (hname : Machine.checkName m.name = .ok ()) (hkind : d.kind.validate = .ok ()) :
    m.Recordable := by
  refine ⟨hname, fun s e he => ?_, fun s t e f he hf _ _ _ => ?_⟩
  · rw [(device?_of_single h he).1]
    exact hkind
  · rw [(device?_of_single h he).2, (device?_of_single h hf).2]

end Single

/-- A machine without a host bridge, with an LPC bridge and with a boot configuration that refers
to a disk. No operations can build it. -/
def stray (bridge disk : Slot) (lines : Lpc) : Machine where
  id := Machine.guest.id
  name := "guest"
  comment := ""
  cpu := Topology.single
  memory := Memory.none
  flags := {}
  devices := (∅ : Table Device.slot).insert ⟨bridge, "", .lpc lines⟩
  boots := (∅ : Table BootConfiguration.name).insert ⟨"boot", "", .uefi "/fw", [disk]⟩
  source := none

section Stray

variable {bridge disk : Slot} {lines : Lpc}

theorem device?_stray {s : Slot} {d : Device}
    (h : (stray bridge disk lines).device? s = some d) :
    d = ⟨bridge, "", .lpc lines⟩ ∧ s = bridge := device?_of_single rfl h

theorem recordable_stray : (stray bridge disk lines).Recordable := by
  have hname : Machine.checkName "guest" = .ok () := rfl
  exact recordable_of_single rfl hname rfl

end Stray

/-- A record may hold a bridge that is off bus 0 and a boot from an empty slot. -/
theorem decode_stray : ∃ m, m = stray ⟨1, 3, 0⟩ ⟨0, 9, 0⟩ ⟨∅, rfl, by decide⟩ ∧
    decode (encode m) = .ok m ∧ ¬m.BridgeAlone ∧ ¬m.LpcAlone ∧ ¬m.BootsFit := by
  refine ⟨_, rfl, decode_encode recordable_stray, ?_, ?_, ?_⟩
  · rintro ⟨⟨d, hd, -⟩, -⟩
    exact absurd (device?_stray hd).2 (by decide)
  · rintro ⟨hbus, -⟩
    exact absurd (hbus ⟨1, 3, 0⟩ _ rfl rfl) (by decide)
  · intro hboots
    obtain ⟨d, hd, -⟩ := (hboots "boot" _ rfl).storage ⟨0, 9, 0⟩ List.mem_cons_self
    exact absurd (device?_stray hd).2 (by decide)

end Guestkeeper.Record
