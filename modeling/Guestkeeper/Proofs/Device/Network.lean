import Guestkeeper.CommandLine.Building
import Guestkeeper.Proofs.Device
import Guestkeeper.Proofs.Record.RoundTrip

set_option autoImplicit false

/-! # Network backends from requests and from records

A backend comes from the text of a request or from a record. The text is checked as it is read, and
a record when its machine is made. Both checks are the same, and so both sources yield the same
backends, which are told by what their names are made of. The names of a valid backend hold neither
of the two separators, and so the backend is read back from its text.
-/

namespace Guestkeeper

open Guestkeeper.Text

namespace NetworkBackend

/-! ## Backends read from their text -/

/-- The groups that a field names. -/
def groupsOf (list : String) : List String := if list.isEmpty then [] else fields ',' list

/-- The backend that its fields stand for. A field that is left out is an empty one. -/
def ofFields (kind name host guest list : String) : Except Error NetworkBackend := do
  let hostMac ← MacAddress.ofText host
  let guestMac ← MacAddress.ofText guest
  let interface : Interface := ⟨name, hostMac, guestMac, groupsOf list⟩
  match kind with
  | "tap" => ofInterface .tap interface
  | "vmnet" => ofInterface .vmnet interface
  | _ => invalid (.unknownNetworkKind kind)

theorem ofText_eq (text : String) : ofText text = match fields ';' text with
    | [kind, name, host, guest] => ofFields kind name host guest ""
    | [kind, name, host, guest, list] => ofFields kind name host guest list
    | _ => invalid (.networkForm text) := rfl

/-- What is read from fields is told by what is read from each, and it has been checked. -/
theorem ofFields_eq_ok_iff {kind name host guest list : String} {b : NetworkBackend} :
    ofFields kind name host guest list = .ok b ↔
      kind = b.kind.start ∧ name = b.interface.name ∧
        MacAddress.ofText host = .ok b.interface.hostMac ∧
        MacAddress.ofText guest = .ok b.interface.guestMac ∧
        groupsOf list = b.interface.groups ∧ b.validate = .ok () := by
  simp only [ofFields, Except.bind_eq_ok_iff]
  constructor
  · rintro ⟨hostMac, hhost, guestMac, hguest, h⟩
    split at h
    · obtain ⟨hcheck, rfl⟩ := Except.map_const_eq_ok_iff.1 h
      exact ⟨rfl, rfl, hhost, hguest, rfl, hcheck⟩
    · obtain ⟨hcheck, rfl⟩ := Except.map_const_eq_ok_iff.1 h
      exact ⟨rfl, rfl, hhost, hguest, rfl, hcheck⟩
    · cases h
  · obtain ⟨kind', name', hostMac, guestMac, groups⟩ := b
    rintro ⟨rfl, rfl, hhost, hguest, rfl, hvalid⟩
    refine ⟨hostMac, hhost, guestMac, hguest, ?_⟩
    cases kind' with
    | tap => exact Except.map_const_eq_ok_iff.2 ⟨hvalid, rfl⟩
    | vmnet => exact Except.map_const_eq_ok_iff.2 ⟨hvalid, rfl⟩

/-- An accepted text has four fields, and perhaps one for the groups. -/
theorem exists_ofFields_of_ofText {text : String} {b : NetworkBackend} (h : ofText text = .ok b) :
    ∃ kind name host guest rest, fields ';' text = kind :: name :: host :: guest :: rest ∧
      ofFields kind name host guest (rest.headD "") = .ok b := by
  rw [ofText_eq] at h
  split at h
  · next hfields => exact ⟨_, _, _, _, [], hfields, h⟩
  · next hfields => exact ⟨_, _, _, _, [_], hfields, h⟩
  · cases h

theorem validate_of_ofText {text : String} {b : NetworkBackend} (h : ofText text = .ok b) :
    b.validate = .ok () := by
  obtain ⟨_, _, _, _, _, -, h⟩ := exists_ofFields_of_ofText h
  exact (ofFields_eq_ok_iff.1 h).2.2.2.2.2

/-- The field that names the groups. It is left out when there are none. -/
def groupFields (b : NetworkBackend) : List String :=
  if b.interface.groups = [] then [] else [joinFields ',' b.interface.groups]

/-- The text that stands for a backend. -/
def joined (b : NetworkBackend) : String :=
  joinFields ';' ([b.kind.start, b.interface.name, b.interface.hostMac.text,
    b.interface.guestMac.text] ++ b.groupFields)

/-- The groups are read back from their field, also when it is left out. -/
theorem groupsOf_groupFields {b : NetworkBackend} (h : b.WellNamed) :
    groupsOf (b.groupFields.headD "") = b.interface.groups := by
  rw [groupFields]
  split
  · next hnone =>
      rw [hnone]
      rfl
  · next hsome =>
      have hcomma : ∀ group ∈ b.interface.groups, ',' ∉ group.toList := fun group hmem =>
        h.notMem rfl (by decide) group (List.mem_cons_of_mem _ hmem)
      -- an empty field would be read as no groups, but the first group is not empty
      obtain ⟨first, rest, hgroups⟩ := List.exists_cons_of_ne_nil hsome
      have hfirst : first ≠ "" := by
        rintro rfl
        have hlength := (h.groups "" (hgroups ▸ List.mem_cons_self)).length.1
        exact absurd hlength (by decide)
      have hfull : (joinFields ',' b.interface.groups).isEmpty = false := by
        rw [hgroups, ← Bool.not_eq_true, String.isEmpty_iff]
        exact joinFields_ne_empty hfirst rest
      rw [List.headD_cons, groupsOf, hfull, if_neg Bool.false_ne_true,
        fields_joinFields hsome hcomma]

theorem fields_joined {b : NetworkBackend} (h : b.WellNamed) :
    fields ';' b.joined = [b.kind.start, b.interface.name, b.interface.hostMac.text,
      b.interface.guestMac.text] ++ b.groupFields := by
  have hname : ';' ∉ b.interface.name.toList := h.notMem rfl (by decide) _ List.mem_cons_self
  have hmac : ∀ a : MacAddress, ';' ∉ a.text.toList :=
    MacAddress.notMem_text (by decide) (by decide)
  have hkind : ';' ∉ b.kind.start.toList := by
    cases b.kind with
    | tap => decide
    | vmnet => decide
  have hgroups : ∀ list ∈ b.groupFields, ';' ∉ list.toList := by
    intro list hlist
    rw [groupFields] at hlist
    split at hlist
    · cases hlist
    · rw [List.mem_singleton.1 hlist]
      exact notMem_joinFields (by decide) fun group hmem =>
        h.notMem rfl (by decide) group (List.mem_cons_of_mem _ hmem)
  refine fields_joinFields (by simp) fun part hpart => ?_
  rcases List.mem_append.1 hpart with hpart | hpart
  · simp only [List.mem_cons, List.not_mem_nil, or_false] at hpart
    rcases hpart with rfl | rfl | rfl | rfl
    · exact hkind
    · exact hname
    · exact hmac _
    · exact hmac _
  · exact hgroups part hpart

/-- A valid backend is read back from its text. -/
theorem ofText_joined {b : NetworkBackend} (h : b.validate = .ok ()) : ofText b.joined = .ok b := by
  have hwell := validate_eq_ok_iff.1 h
  have hread : ofFields b.kind.start b.interface.name b.interface.hostMac.text
      b.interface.guestMac.text (b.groupFields.headD "") = .ok b :=
    ofFields_eq_ok_iff.2 ⟨rfl, rfl, MacAddress.ofText_text _, MacAddress.ofText_text _,
      groupsOf_groupFields hwell, h⟩
  rw [ofText_eq, fields_joined hwell]
  by_cases hnone : b.interface.groups = []
  · rw [groupFields, if_pos hnone] at hread ⊢
    exact hread
  · rw [groupFields, if_neg hnone] at hread ⊢
    exact hread

/-! ## Where backends come from -/

open Guestkeeper.CommandLine

/-- A request asks for the backend. -/
def Requested (b : NetworkBackend) : Prop :=
  ∃ (r : DeviceRequest) (k : DeviceKind), r.build = .ok k ∧ k.network? = some b

/-- A record holds the backend. -/
def Recorded (b : NetworkBackend) : Prop :=
  ∃ (bytes : ByteArray) (m : Machine) (s : Slot) (d : Device),
    Record.decode bytes = .ok m ∧ m.device? s = some d ∧ d.kind.network? = some b

theorem network_eq_ok_iff {r : DeviceRequest} {b : NetworkBackend} :
    r.network = .ok b ↔ ∃ text, r.backend = some text ∧ ofText text = .ok b := by
  rw [DeviceRequest.network, Except.bind_eq_ok_iff, DeviceRequest.backendText]
  cases r.backend with
  | none => simp
  | some text => simp [Except.mapError_eq_ok_iff]

/-- Only the kinds that need a network backend yield one, and they yield the one that was read. -/
theorem network_of_build {r : DeviceRequest} {k : DeviceKind} {b : NetworkBackend}
    (h : r.build = .ok k) (hk : k.network? = some b) : r.network = .ok b := by
  cases hkind : r.kind with
  | virtioNetwork | e1000Network =>
      rw [DeviceRequest.build, hkind] at h
      obtain ⟨n, hn, rfl⟩ := Except.map_eq_ok_iff.1 h
      cases hk
      exact hn
  | virtioBlock | ahciDisk | ahciOpticalDisk | lpc =>
      rw [DeviceRequest.build, hkind] at h
      obtain ⟨_, -, rfl⟩ := Except.map_eq_ok_iff.1 h
      cases hk
  | hostBridge | framebuffer | xhciUsbTablet =>
      rw [DeviceRequest.build, hkind] at h
      cases h
      cases hk
  | passthru =>
      rw [DeviceRequest.build, hkind] at h
      dsimp only at h
      split at h
      · cases h
        cases hk
      · cases h

/-- A request for a network card. -/
def request (b : NetworkBackend) : DeviceRequest where
  kind := .virtioNetwork
  slot := none
  replace := false
  comment := ""
  backend := some b.joined
  ttys := []
  hostSlot := none
  vendor := .default
  screen := ⟨1024, 768, IpAddress.loopback, 5900, .io, false⟩

theorem requested_iff {b : NetworkBackend} : b.Requested ↔ b.validate = .ok () := by
  constructor
  · rintro ⟨r, k, hbuild, hk⟩
    obtain ⟨text, -, hread⟩ := network_eq_ok_iff.1 (network_of_build hbuild hk)
    exact validate_of_ofText hread
  · intro h
    have hread : b.request.network = .ok b := network_eq_ok_iff.2 ⟨b.joined, rfl, ofText_joined h⟩
    have hbuild : b.request.build = b.request.network.map .virtioNetwork := by
      rw [DeviceRequest.build]
      rfl
    refine ⟨b.request, .virtioNetwork b, ?_, rfl⟩
    rw [hbuild, hread]
    rfl

/-- A machine whose only device is a network card. -/
def solitary (b : NetworkBackend) (slot : Slot) : Machine where
  id := Machine.guest.id
  name := "guest"
  comment := ""
  cpu := Topology.single
  memory := Memory.none
  flags := {}
  devices := (∅ : Table Device.slot).insert ⟨slot, "", .virtioNetwork b⟩
  boots := ∅
  source := none

theorem recorded_iff {b : NetworkBackend} : b.Recorded ↔ b.validate = .ok () := by
  constructor
  · rintro ⟨bytes, m, s, d, hdecode, hd, hk⟩
    have hkinds := (Record.recordable_of_decode hdecode).2.kinds
    exact DeviceKind.validate_of_network? (hkinds s d hd) hk
  · intro h
    have hname : Machine.checkName "guest" = .ok () := rfl
    have hrec : (b.solitary ⟨0, 1, 0⟩).Recordable := Record.recordable_of_single rfl hname h
    exact ⟨_, _, ⟨0, 1, 0⟩, ⟨⟨0, 1, 0⟩, "", .virtioNetwork b⟩, Record.decode_encode hrec, rfl, rfl⟩

/-- **Requests and records yield just the valid backends.** A valid backend is read back from its
text, with its groups in order. It is told by what its names are made of, and none of them holds
one of the separators. -/
theorem sources_agree (b : NetworkBackend) :
    ((∃ text, ofText text = .ok b) ↔ b.validate = .ok ()) ∧
      (b.validate = .ok () → ofText b.joined = .ok b) ∧
      (b.validate = .ok () ↔ b.WellNamed) ∧
      (b.Recorded ↔ b.Requested) ∧ (b.Requested ↔ b.validate = .ok ()) ∧
      (b.validate = .ok () → ∀ name ∈ b.interface.name :: b.interface.groups,
        ';' ∉ name.toList ∧ ',' ∉ name.toList) := by
  refine ⟨⟨?_, fun h => ⟨b.joined, ofText_joined h⟩⟩, ofText_joined, validate_eq_ok_iff,
    recorded_iff.trans requested_iff.symm, requested_iff, fun h name hname => ?_⟩
  · rintro ⟨text, htext⟩
    exact validate_of_ofText htext
  · have hwell := validate_eq_ok_iff.1 h
    exact ⟨hwell.notMem rfl (by decide) name hname, hwell.notMem rfl (by decide) name hname⟩

/-- An interface that joins two groups. -/
theorem sources_agree_tap : ∃ b : NetworkBackend, b.kind = .tap ∧
    b.interface.groups = ["vm_net", "lan"] ∧
    b.joined = "tap;tap10;02:00:00:00:00:01;02:00:00:00:00:02;vm_net,lan" ∧
    ofText "tap;tap10;02:00:00:00:00:01;02:00:00:00:00:02;vm_net,lan" = .ok b ∧
    b.WellNamed ∧ b.Recorded ∧ b.Requested := by
  obtain ⟨b, hb⟩ : ∃ b : NetworkBackend, b = ⟨.tap, "tap10", ⟨[2, 0, 0, 0, 0, 1], rfl⟩,
    ⟨[2, 0, 0, 0, 0, 2], rfl⟩, ["vm_net", "lan"]⟩ := ⟨_, rfl⟩
  have hvalid : b.validate = .ok () := by
    rw [hb]
    rfl
  have htext : b.joined = "tap;tap10;02:00:00:00:00:01;02:00:00:00:00:02;vm_net,lan" := by
    rw [hb]
    rfl
  obtain ⟨-, hread, hwell, hboth, hrequest, -⟩ := sources_agree b
  have hrequested := hrequest.2 hvalid
  refine ⟨b, ?_, ?_, htext, ?_, hwell.1 hvalid, hboth.2 hrequested, hrequested⟩
  · rw [hb]
  · rw [hb]
  · rw [← htext]
    exact hread hvalid

end NetworkBackend

end Guestkeeper
