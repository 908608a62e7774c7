import Guestkeeper.Proofs.Json.Canonical
import Guestkeeper.Json.Reader

set_option autoImplicit false

/-! # Values read back from their tokens

Reading the tokens of a value gives the value with its members in order. The reader is followed
from one value to the next: from where a value may begin to where it has been placed, with the
open arrays and objects around it as they were. Tokens can also be cut at the outermost commas
without reading them, and the tokens of a value have no such comma.
-/

namespace Guestkeeper.Json

/-! ## Runs of the reader -/

namespace Reader

/-- The reader after some tokens. -/
def run (p : Policy) (r : Reader) (ts : List Token) : Option Reader := ts.foldlM (step p) r

theorem run_cons_of_step {p : Policy} {r r' : Reader} {t : Token} (h : r.step p t = some r')
    (ts : List Token) : r.run p (t :: ts) = r'.run p ts := by
  rw [run, List.foldlM_cons, h]
  rfl

theorem run_append_of_run {p : Policy} {r r' : Reader} {ts : List Token}
    (h : r.run p ts = some r') (us : List Token) : r.run p (ts ++ us) = r'.run p us := by
  rw [run] at h
  rw [run, List.foldlM_append, h]
  rfl

/-- Where a value may begin. -/
def Begins (e : Expect) : Prop := e = .value ∨ e = .elementOrEnd

theorem step_of_begins {p : Policy} {depth : Nat} {stack : List Frame} {e : Expect}
    (he : Begins e) {t : Token} (ht : t ≠ .rightBracket) :
    step p ⟨depth, stack, e⟩ t = value p ⟨depth, stack, e⟩ t := by
  rcases he with rfl | rfl
  · rfl
  · simp only [step, if_neg ht]

/-- An array or object is opened where the depth allows it. -/
theorem step_open {p : Policy} {depth limit : Nat} {stack : List Frame} {e : Expect}
    (he : Begins e) (hdepth : depth + (limit + 1) ≤ p.depth) :
    step p ⟨depth, stack, e⟩ .leftBracket
        = some ⟨depth + 1, .array [] :: stack, .elementOrEnd⟩ ∧
      step p ⟨depth, stack, e⟩ .leftBrace
        = some ⟨depth + 1, .object [] "" :: stack, .memberOrEnd⟩ := by
  have hlt : depth < p.depth := by omega
  constructor
  · rw [step_of_begins he (by decide)]
    simp only [value, openFrame, if_pos hlt]
  · rw [step_of_begins he (by decide)]
    simp only [value, openFrame, if_pos hlt]

/-- A token that is a value of its own is placed. -/
theorem run_single {p : Policy} {depth : Nat} {stack : List Frame} {e : Expect} {t : Token}
    {r : Reader} (he : Begins e) (ht : t ≠ .rightBracket)
    (h : value p ⟨depth, stack, e⟩ t = some r) : run p ⟨depth, stack, e⟩ [t] = some r := by
  rw [run_cons_of_step ((step_of_begins he ht).trans h)]
  rfl

theorem begins_value : Begins .value := .inl rfl

theorem begins_elementOrEnd : Begins .elementOrEnd := .inr rfl

mutual

/-- **The tokens of a value are read as the value**, wherever a value may begin. -/
theorem run_tokens : ∀ (j : Json) {p : Policy} {limit depth : Nat} (stack : List Frame)
    {e : Expect}, Fits limit j → depth + limit ≤ p.depth → Begins e →
    run p ⟨depth, stack, e⟩ j.tokens = some (place depth j.canonical stack)
  | .null, _, _, _, _, _, _, _, he => run_single he (fun h => nomatch h) rfl
  | .bool _, _, _, _, _, _, _, _, he => run_single he (fun h => nomatch h) rfl
  | .natural _, _, _, _, _, _, _, _, he => run_single he (fun h => nomatch h) rfl
  | .negative _, _, _, _, _, _, _, _, he => run_single he (fun h => nomatch h) rfl
  | .otherNumber, _, _, _, _, _, _, _, he => run_single he (fun h => nomatch h) rfl
  | .text _, _, _, _, _, _, _, _, he => run_single he (fun h => nomatch h) rfl
  | .array _, _, 0, _, _, _, hfits, _, _ => hfits.elim
  | .object _, _, 0, _, _, _, hfits, _, _ => hfits.elim
  | .array [], p, limit + 1, depth, stack, e, _, hdepth, he => by
      rw [tokens, run_cons_of_step (step_open he hdepth).1]
      rfl
  | .array (x :: xs), p, limit + 1, depth, stack, e, hfits, hdepth, he => by
      have hx : Fits limit x := hfits x List.mem_cons_self
      have hxs : ∀ y ∈ xs, Fits limit y := fun y hy => hfits y (List.mem_cons_of_mem x hy)
      -- one level deeper there is one level less to nest in
      have hinner : depth + 1 + limit ≤ p.depth := by omega
      have hfirst := run_tokens x (.array [] :: stack) hx hinner begins_elementOrEnd
      rw [tokens, List.cons_append, run_cons_of_step (step_open he hdepth).1,
        run_append_of_run hfirst]
      exact run_elementTokens xs [x.canonical] stack hxs hinner
  | .object [], p, limit + 1, depth, stack, e, _, hdepth, he => by
      rw [tokens, run_cons_of_step (step_open he hdepth).2]
      rfl
  | .object ((name, x) :: ms), p, limit + 1, depth, stack, e, hfits, hdepth, he => by
      have hx : Fits limit x := hfits (name, x) List.mem_cons_self
      have hms : ∀ m ∈ ms, Fits limit m.2 := fun m hm => hfits m (List.mem_cons_of_mem _ hm)
      have hinner : depth + 1 + limit ≤ p.depth := by omega
      have hname : step p ⟨depth + 1, .object [] "" :: stack, .memberOrEnd⟩ (.text name)
          = some ⟨depth + 1, .object [] name :: stack, .colon⟩ := rfl
      have hcolon : step p ⟨depth + 1, .object [] name :: stack, .colon⟩ .colon
          = some ⟨depth + 1, .object [] name :: stack, .value⟩ := rfl
      have hfirst := run_tokens x (.object [] name :: stack) hx hinner begins_value
      simp only [tokens, List.cons_append]
      rw [run_cons_of_step (step_open he hdepth).2, run_cons_of_step hname,
        run_cons_of_step hcolon, run_append_of_run hfirst]
      exact run_memberTokens ms [(name, x.canonical)] name stack hms hinner

/-- Further elements are added to those read so far, and then the array is over. -/
theorem run_elementTokens : ∀ (xs : List Json) {p : Policy} {limit depth : Nat}
    (done : List Json) (stack : List Frame), (∀ x ∈ xs, Fits limit x) →
    depth + 1 + limit ≤ p.depth →
    run p ⟨depth + 1, .array done :: stack, .commaOrEnd⟩ (elementTokens xs)
      = some (place depth (.array (done.reverse ++ canonicalElements xs)) stack)
  | [], p, limit, depth, done, stack, _, _ => by
      rw [canonicalElements, List.append_nil]
      rfl
  | x :: xs, p, limit, depth, done, stack, hfits, hdepth => by
      have hx : Fits limit x := hfits x List.mem_cons_self
      have hxs : ∀ y ∈ xs, Fits limit y := fun y hy => hfits y (List.mem_cons_of_mem x hy)
      have hcomma : step p ⟨depth + 1, .array done :: stack, .commaOrEnd⟩ .comma
          = some ⟨depth + 1, .array done :: stack, .value⟩ := rfl
      have hnext := run_tokens x (.array done :: stack) hx hdepth begins_value
      have hrest := run_elementTokens xs (x.canonical :: done) stack hxs hdepth
      rw [elementTokens, List.cons_append, run_cons_of_step hcomma, run_append_of_run hnext,
        canonicalElements]
      rw [List.reverse_cons, List.append_assoc, List.singleton_append] at hrest
      exact hrest

/-- Further members are stored among those read so far, and then the object is over. -/
theorem run_memberTokens : ∀ (ms : List (String × Json)) {p : Policy} {limit depth : Nat}
    (done : List (String × Json)) (last : String) (stack : List Frame),
    (∀ m ∈ ms, Fits limit m.2) → depth + 1 + limit ≤ p.depth →
    run p ⟨depth + 1, .object done last :: stack, .commaOrEnd⟩ (memberTokens ms)
      = some (place depth (.object (canonicalMembers done ms)) stack)
  | [], p, limit, depth, done, last, stack, _, _ => by
      rw [canonicalMembers]
      rfl
  | (name, x) :: ms, p, limit, depth, done, last, stack, hfits, hdepth => by
      have hx : Fits limit x := hfits (name, x) List.mem_cons_self
      have hms : ∀ m ∈ ms, Fits limit m.2 := fun m hm => hfits m (List.mem_cons_of_mem _ hm)
      have hcomma : step p ⟨depth + 1, .object done last :: stack, .commaOrEnd⟩ .comma
          = some ⟨depth + 1, .object done last :: stack, .member⟩ := rfl
      have hname : step p ⟨depth + 1, .object done last :: stack, .member⟩ (.text name)
          = some ⟨depth + 1, .object done name :: stack, .colon⟩ := rfl
      have hcolon : step p ⟨depth + 1, .object done name :: stack, .colon⟩ .colon
          = some ⟨depth + 1, .object done name :: stack, .value⟩ := rfl
      have hnext := run_tokens x (.object done name :: stack) hx hdepth begins_value
      simp only [memberTokens, List.cons_append]
      rw [run_cons_of_step hcomma, run_cons_of_step hname, run_cons_of_step hcolon,
        run_append_of_run hnext, canonicalMembers]
      exact run_memberTokens ms (setMember name x.canonical done) name stack hms hdepth

end

end Reader

/-- A value that fits is read back from its tokens. -/
theorem ofTokens?_tokens {limit : Nat} {j : Json} (h : Fits limit j) :
    ofTokens? (.full limit) j.tokens = some j.canonical := by
  have hrun : Reader.run (.full limit) ⟨0, [], .value⟩ j.tokens
      = some (Reader.place 0 j.canonical []) :=
    Reader.run_tokens j [] h (Nat.le_of_eq (Nat.zero_add limit)) Reader.begins_value
  rw [Reader.run] at hrun
  rw [ofTokens?, Reader.begin, hrun, Option.bind_some]
  rfl

/-! ## Cutting at commas -/

mutual

/-- The tokens of a value go into one piece. -/
theorem foldl_cutStep_tokens : ∀ (j : Json) (depth : Nat) (piece : List Token)
    (before : List (List Token)), j.tokens.foldl cutStep (depth, piece, before)
      = (depth, j.tokens.reverse ++ piece, before)
  | .null, _, _, _ => rfl
  | .bool _, _, _, _ => rfl
  | .natural _, _, _, _ => rfl
  | .negative _, _, _, _ => rfl
  | .otherNumber, _, _, _ => rfl
  | .text _, _, _, _ => rfl
  | .array [], _, _, _ => rfl
  | .array (x :: xs), depth, piece, before => by
      -- behind the bracket the depth is not zero, so that no comma cuts
      rw [tokens, List.cons_append, List.foldl_cons, List.foldl_append]
      show (elementTokens xs).foldl cutStep
        (x.tokens.foldl cutStep (depth + 1, .leftBracket :: piece, before)) = _
      rw [foldl_cutStep_tokens x, foldl_cutStep_elementTokens xs]
      simp
  | .object [], _, _, _ => rfl
  | .object ((name, x) :: ms), depth, piece, before => by
      simp only [tokens, List.cons_append, List.foldl_cons, List.foldl_append]
      show (memberTokens ms).foldl cutStep (x.tokens.foldl cutStep
        (depth + 1, .colon :: .text name :: .leftBrace :: piece, before)) = _
      rw [foldl_cutStep_tokens x, foldl_cutStep_memberTokens ms]
      simp

theorem foldl_cutStep_elementTokens : ∀ (xs : List Json) (depth : Nat) (piece : List Token)
    (before : List (List Token)), (elementTokens xs).foldl cutStep (depth + 1, piece, before)
      = (depth, (elementTokens xs).reverse ++ piece, before)
  | [], _, _, _ => rfl
  | x :: xs, depth, piece, before => by
      rw [elementTokens, List.cons_append, List.foldl_cons, List.foldl_append]
      show (elementTokens xs).foldl cutStep
        (x.tokens.foldl cutStep (depth + 1, .comma :: piece, before)) = _
      rw [foldl_cutStep_tokens x, foldl_cutStep_elementTokens xs]
      simp

theorem foldl_cutStep_memberTokens : ∀ (ms : List (String × Json)) (depth : Nat)
    (piece : List Token) (before : List (List Token)),
    (memberTokens ms).foldl cutStep (depth + 1, piece, before)
      = (depth, (memberTokens ms).reverse ++ piece, before)
  | [], _, _, _ => rfl
  | (name, x) :: ms, depth, piece, before => by
      simp only [memberTokens, List.cons_append, List.foldl_cons, List.foldl_append]
      show (memberTokens ms).foldl cutStep (x.tokens.foldl cutStep
        (depth + 1, .colon :: .text name :: .comma :: piece, before)) = _
      rw [foldl_cutStep_tokens x, foldl_cutStep_memberTokens ms]
      simp

end

end Guestkeeper.Json
