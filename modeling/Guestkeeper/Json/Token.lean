import Guestkeeper.Json.Range
import Guestkeeper.Text.Hexadecimal
import Guestkeeper.Text.Symbols

set_option autoImplicit false

/-! # Tokens of JSON texts

A JSON text is first cut into tokens. A string whose bytes or escapes do not make up a text is
a token too, as is a number beyond the range of floating-point numbers: both may stand where
nobody looks at them. -/

namespace Guestkeeper.Json

open Guestkeeper.Text

inductive Token
  | leftBrace
  | rightBrace
  | leftBracket
  | rightBracket
  | comma
  | colon
  | null
  | bool (value : Bool)
  | natural (value : Nat)
  | negative (magnitude : Nat)
  | otherNumber
  | hugeNumber
  | text (value : String)
  | brokenText
  deriving DecidableEq, Repr

/-! ## Numbers -/

/-- The digits at the front of the characters. -/
def leadingDigits (cs : List Char) : List Char := cs.takeWhile Char.isDigit

/-- Whether these are digits of an integer: at least one, and no leading zero. -/
def isIntegerPart : List Char → Bool
  | [] => false
  | ['0'] => true
  | '0' :: _ => false
  | _ => true

/-- The digits after a decimal point, and what follows them; no digits without a point. -/
def fraction? : List Char → Option (List Char × List Char)
  | '.' :: rest =>
    let digits := leadingDigits rest
    if digits.isEmpty then none else some (digits, rest.drop digits.length)
  | cs => some ([], cs)

/-- The digits of an exponent up to the end, and whether it is negative. -/
def exponentDigits? (negative : Bool) (cs : List Char) : Option (Bool × List Char) :=
  if cs.isEmpty || !cs.all Char.isDigit then none else some (negative, cs)

/-- The exponent at the end of a number, if there is one. -/
def exponent? : List Char → Option (Option (Bool × List Char))
  | [] => some none
  | e :: rest =>
    if e = 'e' || e = 'E' then
      match rest with
      | '+' :: digits => (exponentDigits? false digits).map some
      | '-' :: digits => (exponentDigits? true digits).map some
      | digits => (exponentDigits? false digits).map some
    else none

/-- The power of ten that an exponent stands for. -/
def exponentPower : Option (Bool × List Char) → Int
  | none => 0
  | some (true, digits) => -(exponentValue digits : Int)
  | some (false, digits) => exponentValue digits

/-- The token of a number that is no integer of 64 bits: the integer part gave `kept` and has
`dropped` more digits. -/
def inexactNumber (kept : Significand) (dropped : Nat) (decimals : List Char)
    (power : Int) : Token :=
  let s := Significand.take ⟨kept.value, 0⟩ decimals
  if isHuge s.value (dropped - s.count + power) then .hugeNumber else .otherNumber

/-- The token of a number without its sign. -/
def unsignedNumber? (negative : Bool) (cs : List Char) : Option Token := do
  let whole := leadingDigits cs
  if !isIntegerPart whole then none
  let (decimals, rest) ← fraction? (cs.drop whole.length)
  let exponent ← exponent? rest
  let kept := Significand.take {} whole
  let isExact := decimals.isEmpty && exponent.isNone && kept.count = whole.length
  if isExact && !negative then return .natural kept.value
  else if isExact && negative && 0 < kept.value && kept.value ≤ 1 <<< 63 then
    return .negative kept.value
  else
    return inexactNumber kept (whole.length - kept.count) decimals (exponentPower exponent)

/-- The token of a number. -/
def number? : List Char → Option Token
  | '-' :: cs => unsignedNumber? true cs
  | cs => unsignedNumber? false cs

def isNumberChar (c : Char) : Bool :=
  c.isDigit || c = '-' || c = '+' || c = '.' || c = 'e' || c = 'E'

/-! ## Strings -/

/-- A piece of a string: a character, a 16-bit unit written as an escape, or a byte that
belongs to no character. -/
inductive Piece
  | char (c : Char)
  | unit (n : Nat)
  | gap
  deriving DecidableEq, Repr

/-- The character with a code point, if it is one. -/
def scalar? (n : Nat) : Option Char :=
  if h : n.isValidChar then some (Char.ofNatAux n h) else none

/-- The characters of the pieces; two units of a surrogate pair make up one. -/
def characters? : List Piece → Option (List Char)
  | [] => some []
  | .gap :: _ => none
  | .char c :: rest => (characters? rest).map (c :: ·)
  | .unit high :: .unit low :: rest =>
    if 0xD800 ≤ high ∧ high < 0xDC00 ∧ 0xDC00 ≤ low ∧ low < 0xE000 then do
      let c ← scalar? (0x10000 + 0x400 * (high - 0xD800) + (low - 0xDC00))
      let cs ← characters? rest
      return c :: cs
    else do
      let c ← scalar? high
      let cs ← characters? (.unit low :: rest)
      return c :: cs
  | .unit n :: rest => do
    let c ← scalar? n
    let cs ← characters? rest
    return c :: cs

/-- The token of a string with these pieces. -/
def stringToken (pieces : List Piece) : Token :=
  match characters? pieces with
  | some cs => .text (String.ofList cs)
  | none => .brokenText

/-- The character that a one-letter escape stands for. -/
def letterEscape? : Char → Option Char
  | '"' => some '"'
  | '\\' => some '\\'
  | '/' => some '/'
  | 'b' => some '\x08'
  | 'f' => some '\x0c'
  | 'n' => some '\n'
  | 'r' => some '\r'
  | 't' => some '\t'
  | _ => none

/-! ## The lexer -/

/-- Where the lexer stands: between tokens, inside a number, inside a string, or inside an
escape. Characters and pieces come last first. -/
inductive Scan
  | between
  | number (done : List Char)
  | string (done : List Piece)
  | escape (done : List Piece)
  | unit (done : List Piece) (digits : List Char)
  | word (rest : List Char) (token : Token)
  deriving DecidableEq, Repr

/-- The lexer between two symbols: its place and the tokens so far, last first. -/
structure Lexer where
  scan : Scan
  tokens : List Token
  deriving DecidableEq, Repr

namespace Lexer

def emit (t : Token) (tokens : List Token) : Lexer := ⟨.between, t :: tokens⟩

/-- Takes a symbol between two tokens. -/
def start (tokens : List Token) : Symbol → Option Lexer
  | none => none
  | some c =>
    if c = ' ' || c = '\n' || c = '\t' || c = '\r' then some ⟨.between, tokens⟩
    else if isNumberChar c && c ≠ 'e' && c ≠ 'E' then some ⟨.number [c], tokens⟩
    else match c with
      | '\x7b' => some (emit .leftBrace tokens)
      | '\x7d' => some (emit .rightBrace tokens)
      | '[' => some (emit .leftBracket tokens)
      | ']' => some (emit .rightBracket tokens)
      | ',' => some (emit .comma tokens)
      | ':' => some (emit .colon tokens)
      | '"' => some ⟨.string [], tokens⟩
      | 'n' => some ⟨.word "ull".toList .null, tokens⟩
      | 't' => some ⟨.word "rue".toList (.bool true), tokens⟩
      | 'f' => some ⟨.word "alse".toList (.bool false), tokens⟩
      | _ => none

/-- Takes one symbol. -/
def step (l : Lexer) (s : Symbol) : Option Lexer :=
  match l.scan with
  | .between => start l.tokens s
  | .number done =>
    match s with
    | some c =>
      if isNumberChar c then some ⟨.number (c :: done), l.tokens⟩
      else (number? done.reverse).bind fun t => start (t :: l.tokens) s
    | none => none
  | .string done =>
    match s with
    | none => some ⟨.string (.gap :: done), l.tokens⟩
    | some c =>
      if c = '"' then some (emit (stringToken done.reverse) l.tokens)
      else if c = '\\' then some ⟨.escape done, l.tokens⟩
      else if c.toNat < 0x20 then none
      else some ⟨.string (.char c :: done), l.tokens⟩
  | .escape done =>
    match s with
    | some 'u' => some ⟨.unit done [], l.tokens⟩
    | some c => (letterEscape? c).map fun x => ⟨.string (.char x :: done), l.tokens⟩
    | none => none
  | .unit done digits =>
    match s with
    | some c =>
      if (hexValue? c).isNone then none
      else if digits.length < 3 then some ⟨.unit done (digits ++ [c]), l.tokens⟩
      else (readHex? 0 (digits ++ [c])).map fun n => ⟨.string (.unit n :: done), l.tokens⟩
    | none => none
  | .word rest t =>
    match rest with
    | [] => none
    | [last] => if s = some last then some (emit t l.tokens) else none
    | next :: more => if s = some next then some ⟨.word more t, l.tokens⟩ else none

/-- The tokens at the end of the text. -/
def finish (l : Lexer) : Option (List Token) :=
  match l.scan with
  | .between => some l.tokens.reverse
  | .number done => (number? done.reverse).map fun t => (t :: l.tokens).reverse
  | _ => none

end Lexer

/-- The tokens of a text, given as symbols. -/
def tokens? (symbols : List Symbol) : Option (List Token) :=
  (symbols.foldlM Lexer.step ⟨.between, []⟩).bind Lexer.finish

end Guestkeeper.Json
