import Guestkeeper.IpAddress
import Guestkeeper.Proofs.Text.Fields

set_option autoImplicit false

/-! # Internet addresses read back

An address is read back from its text. For version 6 the text has three shapes. Where a run of
zero groups is left out, the first double colon is the one that was written for the run, since
groups are never empty; what was left out is as long as what is missing from eight groups. A
mapped address ends in the text of a version 4 address. None of the three is also the text of a
version 4 address, because there is a colon in it.
-/

namespace Guestkeeper

open Guestkeeper.Text

/-! ## Version 4 -/

namespace Ipv4Address

theorem octet?_toDigits (o : UInt8) : octet? (Nat.toDigits 10 o.toNat) = some o := by
  have hread : readDigits 256 0 (Nat.toDigits 10 o.toNat) = .ok o.toNat :=
    readDigits_toDigits o.toNat_lt
  obtain ⟨c, cs, hcs, -⟩ := exists_toDigits_eq_cons o.toNat
  have hzero : (c = '0' && !cs.isEmpty) = false := by
    by_cases hc : c = '0'
    · rw [hc] at hcs
      have ho := hcs
      rw [eq_zero_of_toDigits hcs, show Nat.toDigits 10 0 = ['0'] from rfl] at ho
      have hnil : cs = [] := (List.cons.inj ho).2.symm
      simp [hnil]
    · simp [hc]
  rw [hcs] at hread ⊢
  simp only [octet?, hzero, hread]
  exact congrArg some UInt8.ofNat_toNat

theorem isDigit_of_octet? {cs : List Char} {o : UInt8} (h : octet? cs = some o) :
    ∀ c ∈ cs, c.isDigit = true := by
  unfold octet? at h
  split at h
  · cases h
  · next c rest =>
      split at h
      · cases h
      · split at h
        · next n hread => exact (of_readDigits hread).1
        · cases h

/-- The text of a version 4 address is made of digits and points. -/
theorem ofList?_eq_none {cs : List Char} {c : Char} (hmem : c ∈ cs) (hdigit : c.isDigit = false)
    (hpoint : c ≠ '.') : ofList? cs = none := by
  obtain ⟨part, hpart, hc⟩ := exists_mem_splitOn hmem hpoint
  have hnone : octet? part = none := by
    cases hoctet : octet? part with
    | none => rfl
    | some o =>
        rw [isDigit_of_octet? hoctet c hc] at hdigit
        cases hdigit
  have hfields : (cs.splitOn '.').mapM octet? = none := mapM_eq_none_of_mem hpart hnone
  simp only [ofList?, hfields]

theorem chars_splitOn (a : Ipv4Address) :
    a.chars.splitOn '.' = a.octets.map fun o => Nat.toDigits 10 o.toNat := by
  have hne : a.octets ≠ [] := by
    intro h
    have hlength := a.length_octets
    rw [h] at hlength
    cases hlength
  refine splitOn_intercalate_map hne fun o _ hmem => ?_
  exact absurd (isDigit_of_mem_decimal hmem) (by decide)

theorem ofList?_chars (a : Ipv4Address) : ofList? a.chars = some a := by
  have hoctets : (a.octets.map fun o => Nat.toDigits 10 o.toNat).mapM octet? = some a.octets :=
    mapM_map_eq_some fun o _ => octet?_toDigits o
  simp only [ofList?, chars_splitOn, hoctets, dif_pos a.length_octets]

theorem colon_notMem_chars (a : Ipv4Address) : ':' ∉ a.chars := by
  intro hmem
  have hnone := ofList?_eq_none hmem (by decide) (by decide)
  rw [a.ofList?_chars] at hnone
  cases hnone

end Ipv4Address

/-! ## Groups -/

namespace Ipv6Address

theorem toDigits_ne_colon {n : Nat} : ':' ∉ Nat.toDigits 16 n := by
  intro h
  obtain ⟨d, hd, hc⟩ := exists_digitChar_of_mem_hexadecimal h
  exact (by decide : ∀ d, d < 16 → ':' ≠ Nat.digitChar d) d hd hc

theorem group?_toDigits (g : UInt16) : group? (Nat.toDigits 16 g.toNat) = some g := by
  have hlength : (Nat.toDigits 16 g.toNat).length ≤ 4 :=
    (Nat.length_toDigits_le_iff (by decide) (by decide)).2 g.toNat_lt
  have hempty : (Nat.toDigits 16 g.toNat).isEmpty = false := by
    rw [List.isEmpty_eq_false_iff]
    exact Nat.toDigits_ne_nil
  have hlong : ¬4 < (Nat.toDigits 16 g.toNat).length := by omega
  simp only [group?, hempty, Bool.false_or, decide_eq_true_eq, if_neg hlong, readHex?_toDigits,
    Option.map_some]
  exact congrArg some UInt16.ofNat_toNat

theorem groupChars_cons_cons (g g' : UInt16) (gs : List UInt16) :
    groupChars (g :: g' :: gs) = Nat.toDigits 16 g.toNat ++ ':' :: groupChars (g' :: gs) := by
  simp only [groupChars, List.map_cons, List.intercalate_cons_cons, List.append_assoc,
    List.singleton_append]

/-- The text of groups begins with a digit. -/
theorem exists_groupChars_eq_cons (g : UInt16) (gs : List UInt16) :
    ∃ c cs, groupChars (g :: gs) = c :: cs ∧ c ≠ ':' := by
  cases hdigits : Nat.toDigits 16 g.toNat with
  | nil => exact absurd hdigits Nat.toDigits_ne_nil
  | cons c cs =>
      have hc : c ≠ ':' := by
        rintro rfl
        exact toDigits_ne_colon (hdigits ▸ List.mem_cons_self)
      cases gs with
      | nil =>
          refine ⟨c, cs, ?_, hc⟩
          rw [groupChars, List.map_singleton, List.intercalate_singleton, hdigits]
      | cons g' gs =>
          refine ⟨c, cs ++ ':' :: groupChars (g' :: gs), ?_, hc⟩
          rw [groupChars_cons_cons, hdigits, List.cons_append]

theorem groups?_groupChars (tail : Bool) (gs : List UInt16) :
    groups? tail (groupChars gs) = some gs := by
  cases gs with
  | nil => rfl
  | cons g gs =>
      have hempty : (groupChars (g :: gs)).isEmpty = false := by
        obtain ⟨c, cs, hcs, -⟩ := exists_groupChars_eq_cons g gs
        rw [hcs]
        rfl
      have hsplit : (groupChars (g :: gs)).splitOn ':'
          = (g :: gs).map fun g => Nat.toDigits 16 g.toNat :=
        splitOn_intercalate_map (List.cons_ne_nil g gs) fun _ _ => toDigits_ne_colon
      have hgroups : ((g :: gs).map fun g => Nat.toDigits 16 g.toNat).mapM group?
          = some (g :: gs) := mapM_map_eq_some fun g _ => group?_toDigits g
      simp only [groups?, hempty, hsplit, hgroups]
      rfl

/-! ## The double colon -/

theorem cutGap_cons_of_ne {c : Char} (hc : c ≠ ':') (cs : List Char) :
    cutGap (c :: cs) = (cutGap cs).map fun p => (c :: p.1, p.2) := by
  rw [cutGap]
  · intro rest hcolon _
    exact hc hcolon

theorem cutGap_append_of_notMem {cs : List Char} (h : ':' ∉ cs) (rest : List Char) :
    cutGap (cs ++ rest) = (cutGap rest).map fun p => (cs ++ p.1, p.2) := by
  induction cs with
  | nil => simp
  | cons c cs ih =>
      rw [List.mem_cons, not_or] at h
      rw [List.cons_append, cutGap_cons_of_ne (fun hc => h.1 hc.symm), ih h.2, Option.map_map]
      rfl

theorem cutGap_single {c : Char} (hc : c ≠ ':') (cs : List Char) :
    cutGap (':' :: c :: cs) = (cutGap (c :: cs)).map fun p => (':' :: p.1, p.2) := by
  rw [cutGap]
  · intro rest _ heq
    exact hc (List.cons.inj heq).1

/-- There is no double colon between groups. -/
theorem cutGap_groupChars_append (gs : List UInt16) (rest : List Char) :
    cutGap (groupChars gs ++ rest) = (cutGap rest).map fun p => (groupChars gs ++ p.1, p.2) := by
  induction gs with
  | nil => simp [groupChars]
  | cons g gs ih =>
      cases gs with
      | nil =>
          rw [groupChars, List.map_singleton, List.intercalate_singleton]
          exact cutGap_append_of_notMem toDigits_ne_colon rest
      | cons g' gs =>
          obtain ⟨c, cs, hcs, hc⟩ := exists_groupChars_eq_cons g' gs
          rw [groupChars_cons_cons, List.append_assoc, List.cons_append,
            cutGap_append_of_notMem toDigits_ne_colon]
          -- after the colon comes the first digit of the next group
          rw [hcs] at ih ⊢
          rw [List.cons_append] at ih ⊢
          rw [cutGap_single hc, ih, Option.map_map, Option.map_map]
          simp only [Function.comp_def, List.cons_append, List.append_assoc]

/-- A run that is left out consists of zeros. -/
theorem longestZeros_cases (gs : List UInt16) :
    (longestZeros gs).2 = 0 ∨ (longestZeros gs).2 = zerosFrom gs (longestZeros gs).1 := by
  have hfold : ∀ (starts : List Nat) (best : Nat × Nat),
      best.2 = 0 ∨ best.2 = zerosFrom gs best.1 →
      let found := starts.foldl
        (fun best i => if best.2 < zerosFrom gs i then (i, zerosFrom gs i) else best) best
      found.2 = 0 ∨ found.2 = zerosFrom gs found.1 := by
    intro starts
    induction starts with
    | nil => intro best hbest; exact hbest
    | cons i starts ih =>
        intro best hbest
        refine ih _ ?_
        dsimp only
        split
        · exact .inr rfl
        · exact hbest
  exact hfold (List.range gs.length) (0, 0) (.inl rfl)

theorem takeWhile_zero_eq_replicate (gs : List UInt16) :
    gs.takeWhile (· == 0) = List.replicate (gs.takeWhile (· == 0)).length 0 := by
  refine List.eq_replicate_iff.2 ⟨rfl, fun g hg => ?_⟩
  have hzero : (g == 0) = true := List.all_eq_true.1 List.all_takeWhile g hg
  simpa using hzero

/-- Zeros in place of the run that was left out give the groups back. -/
theorem take_append_replicate_append_drop {gs : List UInt16} {start count : Nat}
    (h : count = zerosFrom gs start) :
    gs.take start ++ List.replicate count 0 ++ gs.drop (start + count) = gs := by
  have hzeros : List.replicate count 0 = (gs.drop start).takeWhile (· == 0) := by
    rw [takeWhile_zero_eq_replicate, h, zerosFrom]
  have hrest : gs.drop (start + count) = (gs.drop start).dropWhile (· == 0) := by
    have hsplit : (gs.drop start).takeWhile (· == 0) ++ (gs.drop start).dropWhile (· == 0)
        = gs.drop start := List.takeWhile_append_dropWhile
    calc gs.drop (start + count)
        = (gs.drop start).drop count := (List.drop_drop).symm
      _ = ((gs.drop start).takeWhile (· == 0) ++ (gs.drop start).dropWhile (· == 0)).drop count :=
          congrArg (List.drop count) hsplit.symm
      _ = (gs.drop start).dropWhile (· == 0) := List.drop_left' h.symm
  rw [hzeros, hrest, List.append_assoc, List.takeWhile_append_dropWhile, List.take_append_drop]

/-! ## Version 6 -/

/-- With a run left out, the groups around it are read, and the run is as long as what is
missing. -/
theorem ofList?_gap (a : Ipv6Address) {start count : Nat} (hcount : 2 ≤ count)
    (hzeros : count = zerosFrom a.groups start) :
    ofList? (groupChars (a.groups.take start) ++ [':', ':'] ++
      groupChars (a.groups.drop (start + count))) = some a := by
  have hwhole := take_append_replicate_append_drop hzeros
  have hlength := congrArg List.length hwhole
  rw [List.length_append, List.length_append, List.length_replicate, a.length_groups] at hlength
  have hmissing : 8 - ((a.groups.take start).length
      + (a.groups.drop (start + count)).length) = count := by omega
  have hcut : cutGap (groupChars (a.groups.take start) ++
      (':' :: ':' :: groupChars (a.groups.drop (start + count))))
      = some (groupChars (a.groups.take start), groupChars (a.groups.drop (start + count))) := by
    rw [cutGap_groupChars_append, cutGap, Option.map_some, List.append_nil]
  have hnonzero : count ≠ 0 := by omega
  simp only [List.append_assoc, List.cons_append, List.nil_append, ofList?, hcut,
    groups?_groupChars, hmissing, if_neg hnonzero]
  rw [List.append_assoc] at hwhole
  simp only [hwhole, ofGroups?, dif_pos a.length_groups]

theorem ofList?_groupChars (a : Ipv6Address) : ofList? (groupChars a.groups) = some a := by
  have hcut : cutGap (groupChars a.groups) = none := by
    have happend := cutGap_groupChars_append a.groups []
    rw [List.append_nil, cutGap, Option.map_none] at happend
    exact happend
  simp only [ofList?, hcut, groups?_groupChars, Option.bind_some, ofGroups?,
    dif_pos a.length_groups]

/-- Two octets make up a group. -/
theorem group_of_octets (g : UInt16) :
    (g / 256).toUInt8.toUInt16 * 256 + g.toUInt8.toUInt16 = g := by
  have hg := g.toNat_lt
  rw [← UInt16.toNat_inj]
  simp
  omega

theorem asGroups_mapped {a : Ipv6Address} {inner : Ipv4Address} (h : a.mapped? = some inner) :
    [0, 0, 0, 0, 0, 0xffff] ++ inner.asGroups = a.groups := by
  unfold mapped? at h
  split at h
  · next g g' heq =>
      cases h
      rw [heq]
      simp only [Ipv4Address.asGroups, group_of_octets, List.cons_append, List.nil_append]
  · cases h

theorem hexValue?_of_readHex? {cs : List Char} {value n : Nat} (h : readHex? value cs = some n) :
    ∀ c ∈ cs, (hexValue? c).isSome = true := by
  induction cs generalizing value with
  | nil =>
      intro c hc
      cases hc
  | cons c cs ih =>
      simp only [readHex?] at h
      split at h
      · next d hd =>
          intro e he
          rcases List.mem_cons.1 he with rfl | he
          · rw [hd]
            rfl
          · exact ih h e he
      · cases h

/-- The points of a version 4 address are in no group. -/
theorem group?_ipv4 (a : Ipv4Address) : group? a.chars = none := by
  have hpoint : '.' ∈ a.chars := by
    match ha : a.octets, a.length_octets with
    | [p, q, r, s], _ => simp [Ipv4Address.chars, ha]
  have hread : readHex? 0 a.chars = none := by
    cases hvalue : readHex? 0 a.chars with
    | none => rfl
    | some n => exact absurd (hexValue?_of_readHex? hvalue '.' hpoint) (by decide)
  simp only [group?, hread, Option.map_none, ite_self]

/-- What ends in the text of a version 4 address is read as groups with the address in them. -/
theorem groups?_mapped (inner : Ipv4Address) :
    groups? true ("ffff:".toList ++ inner.chars) = some (0xffff :: inner.asGroups) := by
  have hsplit : ("ffff:".toList ++ inner.chars).splitOn ':' = ["ffff".toList, inner.chars] := by
    have hjoin : "ffff:".toList ++ inner.chars
        = [':'].intercalate ["ffff".toList, inner.chars] := by
      rw [List.intercalate_cons_cons, List.intercalate_singleton]
      rfl
    rw [hjoin]
    refine List.splitOn_intercalate ':' (fun part hpart => ?_) (List.cons_ne_nil _ _)
    rw [List.mem_cons, List.mem_singleton] at hpart
    rcases hpart with rfl | rfl
    · decide
    · exact inner.colon_notMem_chars
  -- the fields are not all groups, but those before the last are
  have hfields : ["ffff".toList, inner.chars].mapM group? = none :=
    mapM_eq_none_of_mem (List.mem_cons_of_mem _ List.mem_cons_self) (group?_ipv4 inner)
  have hempty : ("ffff:".toList ++ inner.chars).isEmpty = false := rfl
  have hfront : ["ffff".toList].mapM group? = some [0xffff] := by decide
  simp only [groups?, hempty, hsplit, hfields, List.getLastD_cons, List.getLastD_nil,
    Ipv4Address.ofList?_chars, List.dropLast_cons_cons, List.dropLast_singleton, hfront]
  rfl

/-- A mapped address is read back. -/
theorem ofList?_mapped {a : Ipv6Address} {inner : Ipv4Address} (h : a.mapped? = some inner) :
    ofList? ("::ffff:".toList ++ inner.chars) = some a := by
  have hcut : cutGap ("::ffff:".toList ++ inner.chars)
      = some ([], "ffff:".toList ++ inner.chars) := rfl
  have hwhole := asGroups_mapped h
  have hlength := congrArg List.length hwhole
  rw [List.length_append, a.length_groups] at hlength
  have hmissing : 8 - (([] : List UInt16).length + (0xffff :: inner.asGroups).length) = 5 := by
    simp only [List.length_cons, List.length_nil] at hlength ⊢
    omega
  have hfront : groups? false [] = some [] := rfl
  simp only [ofList?, hcut, hfront, groups?_mapped, hmissing]
  show ofGroups? ([0, 0, 0, 0, 0, 0xffff] ++ inner.asGroups) = some a
  rw [hwhole, ofGroups?, dif_pos a.length_groups]

theorem ofList?_chars (a : Ipv6Address) : ofList? a.chars = some a := by
  unfold chars
  split
  · next inner h => exact ofList?_mapped h
  · next h =>
      by_cases hcount : (longestZeros a.groups).2 < 2
      · simp only [if_pos hcount]
        exact ofList?_groupChars a
      · simp only [if_neg hcount]
        refine ofList?_gap a (by omega) ?_
        rcases longestZeros_cases a.groups with hzero | hzeros
        · omega
        · exact hzeros

/-- There is a colon in the text of a version 6 address. -/
theorem colon_mem_chars (a : Ipv6Address) : ':' ∈ a.chars := by
  unfold chars
  split
  · exact List.mem_append_left _ (by decide)
  · by_cases hcount : (longestZeros a.groups).2 < 2
    · simp only [if_pos hcount]
      match a.groups, a.length_groups with
      | g :: g' :: gs, _ =>
          rw [groupChars_cons_cons]
          exact List.mem_append_right _ List.mem_cons_self
    · simp only [if_neg hcount]
      simp

end Ipv6Address

/-- An address is read back from its text, with its version. -/
theorem IpAddress.ofText?_text (a : IpAddress) : IpAddress.ofText? a.text = some a := by
  cases a with
  | v4 a => simp only [text, ofText?, String.toList_ofList, Ipv4Address.ofList?_chars]
  | v6 a =>
      have hnone : Ipv4Address.ofList? a.chars = none :=
        Ipv4Address.ofList?_eq_none a.colon_mem_chars (by decide) (by decide)
      simp only [text, ofText?, String.toList_ofList, hnone, Ipv6Address.ofList?_chars,
        Option.map_some]

end Guestkeeper
