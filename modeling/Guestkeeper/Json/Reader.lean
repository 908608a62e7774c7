import Guestkeeper.Json.Basic
import Guestkeeper.Json.Token

set_option autoImplicit false

/-! # Reading JSON values

Tokens are read into values one at a time, with a stack of the arrays and objects that are
still open. So deep nesting costs no more than shallow, and its depth can be bounded. -/

namespace Guestkeeper.Json

open Guestkeeper.Text

/-- An array or object that is still open. Elements come last first; members are in order. -/
inductive Frame
  | array (done : List Json)
  | object (done : List (String × Json)) (name : String)

/-- What may come next. -/
inductive Expect
  | value
  | elementOrEnd
  | memberOrEnd
  | member
  | colon
  | commaOrEnd
  | finished (value : Json)

/-- A reader between two tokens. -/
structure Reader where
  depth : Nat
  stack : List Frame
  expect : Expect

/-- What a reader insists on. -/
structure Policy where
  /-- How deep arrays and objects may nest. -/
  depth : Nat
  /-- Whether every string must be a text and every number in range. -/
  strict : Bool

/-- Nesting and contents of values whose contents are read. -/
def Policy.full (depth : Nat) : Policy := ⟨depth, true⟩

/-- Nesting and contents of values that only have to be well-formed. -/
def Policy.skip (size : Nat) : Policy := ⟨size, false⟩

namespace Reader

def begin : Reader := ⟨0, [], .value⟩

/-- Hands a value that is complete to the innermost open array or object. -/
def place (depth : Nat) (v : Json) : List Frame → Reader
  | [] => ⟨depth, [], .finished v⟩
  | .array done :: stack => ⟨depth, .array (v :: done) :: stack, .commaOrEnd⟩
  | .object done name :: stack =>
    ⟨depth, .object (setMember name v done) name :: stack, .commaOrEnd⟩

/-- Opens an array or object. -/
def openFrame (p : Policy) (r : Reader) (f : Frame) (e : Expect) : Option Reader :=
  if r.depth < p.depth then some ⟨r.depth + 1, f :: r.stack, e⟩ else none

/-- Takes the first token of a value. -/
def value (p : Policy) (r : Reader) : Token → Option Reader
  | .null => some (place r.depth .null r.stack)
  | .bool b => some (place r.depth (.bool b) r.stack)
  | .natural n => some (place r.depth (.natural n) r.stack)
  | .negative n => some (place r.depth (.negative n) r.stack)
  | .otherNumber => some (place r.depth .otherNumber r.stack)
  | .hugeNumber => if p.strict then none else some (place r.depth .otherNumber r.stack)
  | .text s => some (place r.depth (.text s) r.stack)
  | .brokenText => if p.strict then none else some (place r.depth (.text "") r.stack)
  | .leftBracket => openFrame p r (.array []) .elementOrEnd
  | .leftBrace => openFrame p r (.object [] "") .memberOrEnd
  | _ => none

/-- Closes the innermost array or object, which must be of the right sort. -/
def close (r : Reader) (t : Token) : Option Reader :=
  match r.stack, t with
  | .array done :: stack, .rightBracket =>
    some (place (r.depth - 1) (.array done.reverse) stack)
  | .object done _ :: stack, .rightBrace => some (place (r.depth - 1) (.object done) stack)
  | _, _ => none

/-- Takes the name of a member. -/
def memberName (p : Policy) (r : Reader) (t : Token) : Option Reader :=
  match r.stack, t with
  | .object done _ :: stack, .text name => some ⟨r.depth, .object done name :: stack, .colon⟩
  | .object done _ :: stack, .brokenText =>
    if p.strict then none else some ⟨r.depth, .object done "" :: stack, .colon⟩
  | _, _ => none

/-- Takes one token. -/
def step (p : Policy) (r : Reader) (t : Token) : Option Reader :=
  match r.expect with
  | .value => r.value p t
  | .elementOrEnd => if t = .rightBracket then r.close t else r.value p t
  | .memberOrEnd => if t = .rightBrace then r.close t else r.memberName p t
  | .member => r.memberName p t
  | .colon => if t = .colon then some { r with expect := .value } else none
  | .commaOrEnd =>
    if t = .comma then
      match r.stack with
      | .array _ :: _ => some { r with expect := .value }
      | .object _ _ :: _ => some { r with expect := .member }
      | [] => none
    else r.close t
  | .finished _ => none

/-- The value at the end of the tokens. -/
def finish (r : Reader) : Option Json :=
  match r.expect with
  | .finished v => some v
  | _ => none

end Reader

/-- The value that the tokens make up. -/
def ofTokens? (p : Policy) (tokens : List Token) : Option Json :=
  (tokens.foldlM (Reader.step p) Reader.begin).bind Reader.finish

/-- How deep a text that is read as a whole may nest. -/
def depthLimit : Nat := 127

/-- The value of a JSON text. -/
def ofBytes? (bytes : ByteArray) : Option Json :=
  (tokens? (symbols bytes)).bind (ofTokens? (.full depthLimit))

/-! ## Members as tokens

The members of an object can be told apart without reading their values. -/

/-- Cuts tokens at the commas outside of any array or object. The pieces come last first, the
current one first, and their tokens last first. -/
def cutStep : Nat × List Token × List (List Token) → Token → Nat × List Token × List (List Token)
  | (depth, piece, pieces), t =>
    match t with
    | .comma => if depth = 0 then (0, [], piece :: pieces) else (depth, t :: piece, pieces)
    | .leftBrace | .leftBracket => (depth + 1, t :: piece, pieces)
    | .rightBrace | .rightBracket => (depth - 1, t :: piece, pieces)
    | _ => (depth, t :: piece, pieces)

/-- The pieces of the tokens between the commas outside of any array or object; none of no
tokens. -/
def pieces (tokens : List Token) : List (List Token) :=
  if tokens.isEmpty then []
  else
    let (_, piece, before) := tokens.foldl cutStep (0, [], [])
    ((piece :: before).reverse).map List.reverse

/-- A member whose name is a text: its name and the tokens of its value. -/
def memberTokens? : List Token → Option (String × List Token)
  | .text name :: .colon :: value => some (name, value)
  | _ => none

end Guestkeeper.Json
