import Guestkeeper.Proofs.Json.Canonical
import Guestkeeper.Proofs.Text.Numeral
import Guestkeeper.Json.Writer
import Mathlib.Data.List.Forall2

set_option autoImplicit false

/-! # Tokens of written values

A value that is written over several lines is cut into its tokens again. The lexer sees the end of
a number only at the character after it, so the statements go on with the characters that follow
a value, of which the first must be none that numbers are made of.
-/

namespace Guestkeeper.Json

open Guestkeeper.Text

/-! ## Runs of the lexer -/

namespace Lexer

/-- The lexer after some characters. -/
def run (l : Lexer) (cs : List Char) : Option Lexer := (cs.map some).foldlM step l

theorem run_nil (l : Lexer) : l.run [] = some l := rfl

theorem run_cons (l : Lexer) (c : Char) (cs : List Char) :
    l.run (c :: cs) = (l.step (some c)).bind fun l => l.run cs := by
  rw [run, List.map_cons, List.foldlM_cons]
  rfl

theorem run_append (l : Lexer) (cs ds : List Char) :
    l.run (cs ++ ds) = (l.run cs).bind fun l => l.run ds := by
  rw [run, List.map_append, List.foldlM_append]
  rfl

theorem run_append_of_run {l l' : Lexer} {cs : List Char} (h : l.run cs = some l')
    (ds : List Char) : l.run (cs ++ ds) = l'.run ds := by
  rw [run_append, h, Option.bind_some]

theorem run_cons_of_step {l l' : Lexer} {c : Char} (h : l.step (some c) = some l')
    (cs : List Char) : l.run (c :: cs) = l'.run cs := by
  rw [run_cons, h, Option.bind_some]

/-- Indentation goes by. -/
theorem run_newLine (ts : List Token) (depth : Nat) :
    run ⟨.between, ts⟩ (newLine depth) = some ⟨.between, ts⟩ := by
  have hblank : ∀ n, run ⟨.between, ts⟩ (List.replicate n ' ') = some ⟨.between, ts⟩ := by
    intro n
    induction n with
    | zero => rfl
    | succ n ih =>
        rw [List.replicate_succ, run_cons_of_step rfl]
        exact ih
  rw [newLine, run_cons_of_step rfl]
  exact hblank (2 * depth)

end Lexer

/-! ## Numbers -/

/-- The characters go on with one that ends a number. -/
def EndsNumber (rest : List Char) : Prop := ∃ c cs, rest = c :: cs ∧ isNumberChar c = false

theorem takeWhile_isDigit {cs : List Char} (h : ∀ c ∈ cs, c.isDigit = true) :
    leadingDigits cs = cs := by
  have happend : (cs ++ []).takeWhile Char.isDigit = cs ++ [].takeWhile Char.isDigit :=
    List.takeWhile_append_of_pos h
  rw [List.append_nil, List.takeWhile_nil, List.append_nil] at happend
  exact happend

/-- All digits of a number below `UInt64.size` go into the significand. -/
theorem Significand.take_eq {cs : List Char} {value count : Nat}
    (h : Nat.ofDigitChars 10 cs value < UInt64.size) :
    Significand.take ⟨value, count⟩ cs = ⟨Nat.ofDigitChars 10 cs value, count + cs.length⟩ := by
  induction cs generalizing value count with
  | nil => rfl
  | cons c cs ih =>
      rw [Nat.ofDigitChars_cons] at h ⊢
      have hnext : 10 * value + digitValue c < UInt64.size :=
        Nat.lt_of_le_of_lt (le_ofDigitChars cs _) h
      rw [Significand.take, if_pos hnext]
      rw [show 10 * value + digitValue c = 10 * value + (c.toNat - '0'.toNat) from rfl, ih h,
        List.length_cons, Nat.add_assoc, Nat.add_comm 1]

theorem isIntegerPart_toDigits (n : Nat) : isIntegerPart (Nat.toDigits 10 n) = true := by
  unfold isIntegerPart
  split
  · next heq => exact absurd heq Nat.toDigits_ne_nil
  · rfl
  · next cs hcs heq =>
      have hn : n = 0 := eq_zero_of_toDigits heq
      rw [hn, show Nat.toDigits 10 0 = ['0'] from rfl] at heq
      exact absurd (List.cons.inj heq).2.symm hcs
  · rfl

/-- The digits of an integer of 64 bits are read as that integer. -/
theorem unsignedNumber?_toDigits {negative : Bool} {n : Nat} (h : n < UInt64.size) :
    unsignedNumber? negative (Nat.toDigits 10 n) =
      if negative = false then some (.natural n)
      else if 0 < n ∧ n ≤ 1 <<< 63 then some (.negative n)
      else some (inexactNumber ⟨n, (Nat.toDigits 10 n).length⟩ 0 [] 0) := by
  have hvalue : Nat.ofDigitChars 10 (Nat.toDigits 10 n) 0 = n := Nat.ofDigitChars_ten_toDigits
  have hwhole : leadingDigits (Nat.toDigits 10 n) = Nat.toDigits 10 n :=
    takeWhile_isDigit fun c hc => isDigit_of_mem_decimal hc
  have hkept : Significand.take {} (Nat.toDigits 10 n) = ⟨n, (Nat.toDigits 10 n).length⟩ := by
    have htake : Significand.take ⟨0, 0⟩ (Nat.toDigits 10 n) = ⟨_, _⟩ :=
      Significand.take_eq (by rw [hvalue]; exact h)
    rw [hvalue, Nat.zero_add] at htake
    exact htake
  unfold unsignedNumber?
  simp only [hwhole, isIntegerPart_toDigits, List.drop_length, fraction?, exponent?, hkept,
    exponentPower, Nat.sub_self]
  cases negative with
  | false => simp
  | true => simp

theorem number?_toDigits {n : Nat} (h : n < UInt64.size) :
    number? (Nat.toDigits 10 n) = some (.natural n) := by
  obtain ⟨c, cs, hcs, hc⟩ := exists_toDigits_eq_cons n
  have hminus : c ≠ '-' := ne_of_isDigit hc (by decide)
  unfold number?
  split
  · next heq =>
      rw [hcs] at heq
      exact absurd (List.cons.inj heq).1 hminus
  · rw [unsignedNumber?_toDigits h, if_pos rfl]

theorem number?_negative {n : Nat} (hpos : 0 < n) (h : n ≤ 1 <<< 63) :
    number? ('-' :: Nat.toDigits 10 n) = some (.negative n) := by
  have hlt : n < UInt64.size := Nat.lt_of_le_of_lt h (by decide)
  rw [number?, unsignedNumber?_toDigits hlt, if_neg (by decide), if_pos ⟨hpos, h⟩]

namespace Lexer

/-- Characters of a number are gathered. -/
theorem run_number {cs : List Char} (h : ∀ c ∈ cs, isNumberChar c = true) (done : List Char)
    (ts : List Token) : run ⟨.number done, ts⟩ cs = some ⟨.number (cs.reverse ++ done), ts⟩ := by
  induction cs generalizing done with
  | nil => rfl
  | cons c cs ih =>
      have hstep : step ⟨.number done, ts⟩ (some c) = some ⟨.number (c :: done), ts⟩ := by
        simp only [step, if_pos (h c List.mem_cons_self)]
      rw [run_cons_of_step hstep, ih (fun d hd => h d (List.mem_cons_of_mem c hd)),
        List.reverse_cons, List.append_assoc, List.singleton_append]

/-- A number is over when a character follows that numbers are not made of. -/
theorem run_of_number? {c : Char} {cs rest : List Char} {t : Token}
    (hfirst : (isNumberChar c && c ≠ 'e' && c ≠ 'E') = true) (hblank : c.isDigit = true ∨ c = '-')
    (hcs : ∀ d ∈ cs, isNumberChar d = true) (ht : number? (c :: cs) = some t)
    (hrest : EndsNumber rest) (ts : List Token) :
    run ⟨.between, ts⟩ (c :: cs ++ rest) = run ⟨.between, t :: ts⟩ rest := by
  obtain ⟨d, ds, rfl, hd⟩ := hrest
  have hwhite : (c = ' ' || c = '\n' || c = '\t' || c = '\r') = false := by
    rcases hblank with hc | rfl
    · have hne : ∀ e : Char, e.isDigit = false → c ≠ e := fun _ => ne_of_isDigit hc
      simp [hne ' ' (by decide), hne '\n' (by decide), hne '\t' (by decide), hne '\r' (by decide)]
    · decide
  -- `c` opens the number and `d`, the first character of the rest, closes it
  have hstart : step ⟨.between, ts⟩ (some c) = some ⟨.number [c], ts⟩ := by
    simp only [step, start, hwhite, hfirst]
    simp
  have hover : step ⟨.number (cs.reverse ++ [c]), ts⟩ (some d)
      = step ⟨.between, t :: ts⟩ (some d) := by
    have hdone : (cs.reverse ++ [c]).reverse = c :: cs := by simp
    simp only [step, hd, hdone, ht, Option.bind_some]
    simp
  rw [List.cons_append, run_cons_of_step hstart, run_append_of_run (run_number hcs [c] ts),
    run_cons, run_cons, hover]

end Lexer

/-! ## Strings -/

/-- How the lexer may see a character of a string: as it is, or as an escape of its code. -/
inductive Piece.Spells : Piece → Char → Prop
  | char (c : Char) : Spells (.char c) c
  | unit (c : Char) (control : c.toNat < 0x20) : Spells (.unit c.toNat) c

theorem scalar?_toNat (c : Char) : scalar? c.toNat = some c := by
  have hvalid : c.toNat.isValidChar := c.valid
  have hchar : Char.ofNat c.toNat = c := Char.ofNat_toNat c
  rw [Char.ofNat, dif_pos hvalid] at hchar
  rw [scalar?, dif_pos hvalid, hchar]

/-- The code of a control character is no half of a pair. -/
theorem characters?_unit_cons {n : Nat} (h : n < 0x20) (ps : List Piece) :
    characters? (.unit n :: ps) =
      (scalar? n).bind fun c => (characters? ps).bind fun cs => some (c :: cs) := by
  cases ps with
  | nil => rfl
  | cons p ps =>
      cases p with
      | char c => rfl
      | gap => rfl
      | unit low =>
          -- a pair needs a high half before `low`
          have hhigh : ¬(0xD800 ≤ n ∧ n < 0xDC00 ∧ 0xDC00 ≤ low ∧ low < 0xE000) := by omega
          rw [characters?, if_neg hhigh]
          rfl

theorem characters?_of_spells {ps : List Piece} {cs : List Char}
    (h : List.Forall₂ Piece.Spells ps cs) : characters? ps = some cs := by
  induction h with
  | nil => rfl
  | cons hp _ ih =>
      cases hp with
      | char c =>
          rw [characters?, ih]
          rfl
      | unit c control =>
          rw [characters?_unit_cons control, ih, scalar?_toNat]
          rfl

namespace Lexer

/-- The four digits of an escape are read as its code. -/
theorem run_fixedHex {n : Nat} (h : n < 1 <<< 16) (done : List Piece) (ts : List Token) :
    run ⟨.unit done [], ts⟩ (fixedHex 4 n) = some ⟨.string (.unit n :: done), ts⟩ := by
  have hread : readHex? 0 (fixedHex 4 n) = some n := readHex?_zero_fixedHex h
  have hdigit : ∀ k, (hexValue? (Nat.digitChar (k % 16))).isNone = false := by
    intro k
    rw [hexValue?_digitChar (k % 16) (Nat.mod_lt k (by decide))]
    rfl
  simp only [fixedHex, List.nil_append, List.cons_append] at hread ⊢
  simp only [run_cons, run_nil, step, hdigit, List.length_nil, List.nil_append]
  simpa using hread

/-- A written character is one piece. -/
theorem run_escapeChar (c : Char) (done : List Piece) (ts : List Token) :
    ∃ p, Piece.Spells p c ∧
      run ⟨.string done, ts⟩ (escapeChar c) = some ⟨.string (p :: done), ts⟩ := by
  unfold escapeChar
  split
  -- the seven characters with escapes of their own
  · exact ⟨_, .char _, rfl⟩
  · exact ⟨_, .char _, rfl⟩
  · exact ⟨_, .char _, rfl⟩
  · exact ⟨_, .char _, rfl⟩
  · exact ⟨_, .char _, rfl⟩
  · exact ⟨_, .char _, rfl⟩
  · exact ⟨_, .char _, rfl⟩
  · next hquote hbackslash _ _ _ _ _ =>
      by_cases hcontrol : c.toNat < 0x20
      · refine ⟨.unit c.toNat, .unit c hcontrol, ?_⟩
        rw [if_pos hcontrol]
        have hopen : run ⟨.string done, ts⟩ ['\\', 'u'] = some ⟨.unit done [], ts⟩ := rfl
        rw [run_append_of_run hopen]
        exact run_fixedHex (by omega) done ts
      · refine ⟨.char c, .char c, ?_⟩
        rw [if_neg hcontrol]
        have hstep : step ⟨.string done, ts⟩ (some c) = some ⟨.string (.char c :: done), ts⟩ := by
          simp only [step, if_neg hquote, if_neg hbackslash, if_neg hcontrol]
        rw [run_cons_of_step hstep, run_nil]

theorem run_escapeChars (cs : List Char) (done : List Piece) (ts : List Token) :
    ∃ ps, List.Forall₂ Piece.Spells ps cs ∧
      run ⟨.string done, ts⟩ (cs.flatMap escapeChar) = some ⟨.string (ps.reverse ++ done), ts⟩ := by
  induction cs generalizing done with
  | nil => exact ⟨[], .nil, rfl⟩
  | cons c cs ih =>
      obtain ⟨p, hp, hrun⟩ := run_escapeChar c done ts
      obtain ⟨ps, hps, hruns⟩ := ih (p :: done)
      refine ⟨p :: ps, .cons hp hps, ?_⟩
      rw [List.flatMap_cons, run_append_of_run hrun, hruns, List.reverse_cons, List.append_assoc,
        List.singleton_append]

/-- A written text is one token. -/
theorem run_writeText (s : String) (ts : List Token) :
    run ⟨.between, ts⟩ (writeText s) = some ⟨.between, .text s :: ts⟩ := by
  obtain ⟨ps, hps, hrun⟩ := run_escapeChars s.toList [] ts
  have hquote : step ⟨.between, ts⟩ (some '"') = some ⟨.string [], ts⟩ := rfl
  have htoken : stringToken ps = .text s := by
    simp only [stringToken, characters?_of_spells hps, String.ofList_toList]
  rw [writeText, List.cons_append, run_cons_of_step hquote, run_append_of_run hrun, run_cons]
  simp only [step, List.append_nil, List.reverse_reverse, htoken]
  rfl

end Lexer

/-! ## Values -/

theorem endsNumber_cons {c : Char} (h : isNumberChar c = false) (cs : List Char) :
    EndsNumber (c :: cs) := ⟨c, cs, rfl, h⟩

theorem endsNumber_newLine (depth : Nat) (rest : List Char) :
    EndsNumber (newLine depth ++ rest) := endsNumber_cons (by decide) _

theorem endsNumber_elementLines (depth inner : Nat) (xs : List Json) (rest : List Char) :
    EndsNumber (elementLines inner xs ++ (newLine depth ++ rest)) := by
  cases xs with
  | nil => exact endsNumber_newLine depth rest
  | cons x xs => exact endsNumber_cons (by decide) _

theorem endsNumber_memberLines (depth inner : Nat) (ms : List (String × Json))
    (rest : List Char) : EndsNumber (memberLines inner ms ++ (newLine depth ++ rest)) := by
  cases ms with
  | nil => exact endsNumber_newLine depth rest
  | cons m ms => exact endsNumber_cons (by decide) _

theorem isNumberChar_of_isDigit {c : Char} (h : c.isDigit = true) : isNumberChar c = true := by
  simp only [isNumberChar, h, Bool.true_or]

namespace Lexer

theorem run_natural {n : Nat} (h : n < UInt64.size) (ts : List Token) {rest : List Char}
    (hrest : EndsNumber rest) : run ⟨.between, ts⟩ (Nat.toDigits 10 n ++ rest)
      = run ⟨.between, .natural n :: ts⟩ rest := by
  have hall : ∀ c ∈ Nat.toDigits 10 n, c.isDigit = true := fun c hc => isDigit_of_mem_decimal hc
  have hread := number?_toDigits h
  obtain ⟨c, cs, hcs, hc⟩ := exists_toDigits_eq_cons n
  rw [hcs] at hall hread ⊢
  have hfirst : (isNumberChar c && c ≠ 'e' && c ≠ 'E') = true := by
    have he : c ≠ 'e' := ne_of_isDigit hc (by decide)
    have hE : c ≠ 'E' := ne_of_isDigit hc (by decide)
    simp [isNumberChar_of_isDigit hc, he, hE]
  exact run_of_number? hfirst (.inl hc)
    (fun d hd => isNumberChar_of_isDigit (hall d (List.mem_cons_of_mem c hd))) hread hrest ts

theorem run_negative {n : Nat} (hpos : 0 < n) (h : n ≤ 1 <<< 63) (ts : List Token)
    {rest : List Char} (hrest : EndsNumber rest) :
    run ⟨.between, ts⟩ ('-' :: Nat.toDigits 10 n ++ rest)
      = run ⟨.between, .negative n :: ts⟩ rest :=
  run_of_number? (by decide) (.inr rfl)
    (fun _ hd => isNumberChar_of_isDigit (isDigit_of_mem_decimal hd)) (number?_negative hpos h)
    hrest ts

theorem run_otherNumber (ts : List Token) {rest : List Char} (hrest : EndsNumber rest) :
    run ⟨.between, ts⟩ ("-0".toList ++ rest) = run ⟨.between, .otherNumber :: ts⟩ rest :=
  run_of_number? (by decide) (.inr rfl) (fun _ hd => List.mem_singleton.1 hd ▸ rfl) rfl hrest ts

theorem step_colon (ts : List Token) :
    step ⟨.between, ts⟩ (some ':') = some ⟨.between, .colon :: ts⟩ := rfl

theorem step_blank (ts : List Token) :
    step ⟨.between, ts⟩ (some ' ') = some ⟨.between, ts⟩ := rfl

mutual

/-- **The text of a value is cut into the tokens of the value**, at whatever depth it stands. -/
theorem run_writeLines : ∀ (j : Json) {limit : Nat} (depth : Nat) (ts : List Token)
    {rest : List Char}, Fits limit j → EndsNumber rest →
    run ⟨.between, ts⟩ (writeLines depth j ++ rest) = run ⟨.between, j.tokens.reverse ++ ts⟩ rest
  | .null, _, _, _, _, _, _ => rfl
  | .bool true, _, _, _, _, _, _ => rfl
  | .bool false, _, _, _, _, _, _ => rfl
  | .natural n, limit, depth, ts, rest, hfits, hrest => by
      have hn : n < UInt64.size := by
        cases limit <;> exact hfits
      exact run_natural hn ts hrest
  | .negative n, limit, depth, ts, rest, hfits, hrest => by
      have hn : 0 < n ∧ n ≤ 1 <<< 63 := by
        cases limit <;> exact hfits
      exact run_negative hn.1 hn.2 ts hrest
  | .otherNumber, _, _, ts, _, _, hrest => run_otherNumber ts hrest
  | .text s, _, _, ts, rest, _, _ => run_append_of_run (run_writeText s ts) rest
  | .array [], _, _, _, _, _, _ => rfl
  | .array (x :: xs), 0, _, _, _, hfits, _ => hfits.elim
  | .array (x :: xs), limit + 1, depth, ts, rest, hfits, hrest => by
      have hx : Fits limit x := hfits x List.mem_cons_self
      have hxs : ∀ y ∈ xs, Fits limit y := fun y hy => hfits y (List.mem_cons_of_mem x hy)
      -- a number ends where the rest of the array begins
      have hends := endsNumber_elementLines depth (depth + 1) xs (']' :: rest)
      have hopen : step ⟨.between, ts⟩ (some '[') = some ⟨.between, .leftBracket :: ts⟩ := rfl
      simp only [writeLines, List.cons_append, List.append_assoc, List.nil_append]
      rw [run_cons_of_step hopen, run_append_of_run (run_newLine _ _),
        run_writeLines x (depth + 1) _ hx hends, run_elementLines xs depth (depth + 1) _ hxs]
      simp [Json.tokens]
  | .object [], _, _, _, _, _, _ => rfl
  | .object ((name, x) :: ms), 0, _, _, _, hfits, _ => hfits.elim
  | .object ((name, x) :: ms), limit + 1, depth, ts, rest, hfits, hrest => by
      have hx : Fits limit x := hfits (name, x) List.mem_cons_self
      have hms : ∀ m ∈ ms, Fits limit m.2 := fun m hm => hfits m (List.mem_cons_of_mem _ hm)
      have hends := endsNumber_memberLines depth (depth + 1) ms ('\x7d' :: rest)
      have hopen : step ⟨.between, ts⟩ (some '\x7b') = some ⟨.between, .leftBrace :: ts⟩ := rfl
      simp only [writeLines, List.cons_append, List.append_assoc, List.nil_append]
      rw [run_cons_of_step hopen, run_append_of_run (run_newLine _ _),
        run_append_of_run (run_writeText name _), run_cons_of_step (step_colon _),
        run_cons_of_step (step_blank _), run_writeLines x (depth + 1) _ hx hends,
        run_memberLines ms depth (depth + 1) _ hms]
      simp [Json.tokens]

theorem run_elementLines : ∀ (xs : List Json) {limit : Nat} (depth inner : Nat)
    (ts : List Token) {rest : List Char}, (∀ x ∈ xs, Fits limit x) →
    run ⟨.between, ts⟩ (elementLines inner xs ++ (newLine depth ++ ']' :: rest))
      = run ⟨.between, (elementTokens xs).reverse ++ ts⟩ rest
  | [], limit, depth, inner, ts, rest, _ => by
      rw [elementLines, List.nil_append, run_append_of_run (run_newLine ts depth)]
      rfl
  | x :: xs, limit, depth, inner, ts, rest, hfits => by
      have hx : Fits limit x := hfits x List.mem_cons_self
      have hxs : ∀ y ∈ xs, Fits limit y := fun y hy => hfits y (List.mem_cons_of_mem x hy)
      have hends := endsNumber_elementLines depth inner xs (']' :: rest)
      have hcomma : step ⟨.between, ts⟩ (some ',') = some ⟨.between, .comma :: ts⟩ := rfl
      simp only [elementLines, elementTokens, List.cons_append, List.append_assoc]
      rw [run_cons_of_step hcomma, run_append_of_run (run_newLine _ _),
        run_writeLines x inner _ hx hends, run_elementLines xs depth inner _ hxs]
      simp

theorem run_memberLines : ∀ (ms : List (String × Json)) {limit : Nat} (depth inner : Nat)
    (ts : List Token) {rest : List Char}, (∀ m ∈ ms, Fits limit m.2) →
    run ⟨.between, ts⟩ (memberLines inner ms ++ (newLine depth ++ '\x7d' :: rest))
      = run ⟨.between, (memberTokens ms).reverse ++ ts⟩ rest
  | [], limit, depth, inner, ts, rest, _ => by
      rw [memberLines, List.nil_append, run_append_of_run (run_newLine ts depth)]
      rfl
  | (name, x) :: ms, limit, depth, inner, ts, rest, hfits => by
      have hx : Fits limit x := hfits (name, x) List.mem_cons_self
      have hms : ∀ m ∈ ms, Fits limit m.2 := fun m hm => hfits m (List.mem_cons_of_mem _ hm)
      have hends := endsNumber_memberLines depth inner ms ('\x7d' :: rest)
      have hcomma : step ⟨.between, ts⟩ (some ',') = some ⟨.between, .comma :: ts⟩ := rfl
      simp only [memberLines, memberTokens, List.cons_append, List.append_assoc, List.nil_append]
      rw [run_cons_of_step hcomma, run_append_of_run (run_newLine _ _),
        run_append_of_run (run_writeText name _), run_cons_of_step (step_colon _),
        run_cons_of_step (step_blank _), run_writeLines x inner _ hx hends,
        run_memberLines ms depth inner _ hms]
      simp

end

end Lexer

/-- The tokens of a text that ends with a new line. -/
theorem tokens?_lines {limit : Nat} {j : Json} (h : Fits limit j) :
    tokens? (((j.lines ++ "\n").toList).map some) = some j.tokens := by
  have hends : EndsNumber ['\n'] := endsNumber_cons (by decide) []
  have hrun := Lexer.run_writeLines j 0 [] h hends
  rw [List.append_nil] at hrun
  have hend : Lexer.run ⟨.between, j.tokens.reverse⟩ ['\n'] = some ⟨.between, j.tokens.reverse⟩ :=
    rfl
  rw [hend] at hrun
  have hlist : (j.lines ++ "\n").toList = writeLines 0 j ++ ['\n'] := by
    rw [String.toList_append, lines, String.toList_ofList]
    rfl
  rw [hlist, tokens?]
  rw [Lexer.run] at hrun
  rw [hrun, Option.bind_some, Lexer.finish, List.reverse_reverse]

end Guestkeeper.Json
