import Guestkeeper.Error
import Guestkeeper.Json.Basic

set_option autoImplicit false

/-! # Reading parts of records

A machine record is a JSON value. Its parts are read by their fields: a part is an object, or
an array of its fields in the order in which they are declared. Fields are visited in the order
in which they stand, unknown ones are passed over, and the first that cannot be read decides
the fault; a missing field counts after all others.

Some parts carry a tag that says which variant they are. What stands inside such a part is
read from a copy of it, and there a variant may also be given by its position and the empty
object may stand for nothing. -/

namespace Guestkeeper.Record

/-- Why a part of a record is refused: it does not have the format, or it describes something
that is refused. -/
inductive Fault
  | malformed
  | rejected (cause : Error)
  deriving DecidableEq

abbrev Read (α : Type) := Except Fault α

def malformed {α : Type} : Read α := .error .malformed

/-- Takes a check of what a part describes into its reading. -/
def checked {α : Type} (x : Except Error α) : Read α := x.mapError .rejected

/-- Whether a value is read on its own or from a copy of the tagged part it stands in. -/
inductive Setting
  | alone
  | copied
  deriving DecidableEq, Repr

/-! ## Single values -/

def text : Json → Read String
  | .text s => .ok s
  | _ => malformed

def bool : Json → Read Bool
  | .bool b => .ok b
  | _ => malformed

/-- A natural number below a bound. -/
def natural (bound : Nat) : Json → Read Nat
  | .natural n => if n < bound then .ok n else malformed
  | _ => malformed

def word16 (j : Json) : Read UInt16 := (natural UInt16.size j).map UInt16.ofNat

def word32 (j : Json) : Read UInt32 := (natural UInt32.size j).map UInt32.ofNat

def word64 (j : Json) : Read UInt64 := (natural UInt64.size j).map UInt64.ofNat

/-- A value that may be `null`. -/
def optional {α : Type} (read : Json → Read α) : Json → Read (Option α)
  | .null => .ok none
  | j => (read j).map some

def list {α : Type} (read : Json → Read α) : Json → Read (List α)
  | .array xs => xs.mapM read
  | _ => malformed

/-- A text that is read by its own rules. -/
def parsed {α : Type} (read : String → Except Error α) (j : Json) : Read α := do
  checked (read (← text j))

/-- One of several words, given as a text or as an object with the word for its only name and
nothing for its value. -/
def word {α : Type} (setting : Setting) (words : List (String × α)) : Json → Read α
  | .text s =>
    match words.lookup s with
    | some a => .ok a
    | none => malformed
  | .object [(s, value)] =>
    match words.lookup s, value, setting with
    | some a, .null, _ => .ok a
    | some a, .object [], .copied => .ok a
    | _, _, _ => malformed
  | _ => malformed

/-! ## Fields -/

/-- The fields of a part, in the order in which they are visited. -/
structure Fields where
  entries : List (String × Json)
  /-- Whether the part is an array, so that a field's place stands for its name. -/
  positional : Bool

/-- A fault and the place of the field it arose in. -/
structure PlacedFault where
  place : Nat
  fault : Fault
  deriving DecidableEq

/-- Reads something from the fields of a part. -/
abbrev FieldReader (α : Type) := Fields → Except PlacedFault α

/-- The earlier of two faults. -/
def PlacedFault.first (a b : PlacedFault) : PlacedFault := if b.place < a.place then b else a

namespace FieldReader

def map {α β : Type} (f : α → β) (x : FieldReader α) : FieldReader β :=
  fun fields => (x fields).map f

/-- Reads both; of two faults the earlier counts. -/
def seq {α β : Type} (f : FieldReader (α → β)) (x : FieldReader α) : FieldReader β :=
  fun fields =>
    match f fields, x fields with
    | .ok g, .ok a => .ok (g a)
    | .error e, .ok _ => .error e
    | .ok _, .error e => .error e
    | .error e, .error e' => .error (e.first e')

instance : Functor FieldReader := ⟨map, fun a => map (fun _ => a)⟩

instance : Applicative FieldReader where
  pure a := fun _ => .ok a
  seq f x := seq f (x ())

end FieldReader

/-- The first field of a name, with its place. -/
def findField (name : String) : Nat → List (String × Json) → Option (Nat × Json)
  | _, [] => none
  | i, (n, value) :: rest => if n = name then some (i, value) else findField name (i + 1) rest

/-- A field that may be missing. -/
def fieldOr {α : Type} (name : String) (read : Json → Read α) (default : Except Fault α) :
    FieldReader α := fun fields =>
  match findField name 0 fields.entries with
  | some (i, value) => (read value).mapError (⟨i, ·⟩)
  | none => default.mapError (⟨fields.entries.length, ·⟩)

/-- A field that must be there. -/
def field {α : Type} (name : String) (read : Json → Read α) : FieldReader α :=
  fieldOr name read malformed

/-- A field that stands for a default where it is missing. -/
def fieldWith {α : Type} (name : String) (read : Json → Read α) (default : α) :
    FieldReader α := fieldOr name read (.ok default)

/-- A field that may be `null`, and may be missing from an object but not from an array. -/
def fieldIfNamed {α : Type} (name : String) (read : Json → Read α) : FieldReader (Option α) :=
  fun fields =>
    fieldOr name (optional read) (if fields.positional then malformed else .ok none) fields

/-- Reads a part with the given fields. An array has no more elements than there are fields. -/
def part {α : Type} (names : List String) (reader : FieldReader α) : Json → Read α
  | .object entries => (reader ⟨entries, false⟩).mapError PlacedFault.fault
  | .array xs => do
    let value ← (reader ⟨names.zip xs, true⟩).mapError PlacedFault.fault
    if names.length < xs.length then malformed else return value
  | _ => malformed

/-- Reads a part that holds nothing but its tag. -/
def emptyPart {α : Type} (value : α) (j : Json) : Read α := part [] (pure value) j

/-! ## Tagged parts -/

/-- The tag of a part and the part without it. An array begins with its tag. -/
def untag (tag : String) : Json → Read (Json × Json)
  | .object entries =>
    match entries.lookup tag with
    | some value => .ok (value, .object (entries.filter fun e => e.1 ≠ tag))
    | none => malformed
  | .array (value :: rest) => .ok (value, .array rest)
  | _ => malformed

/-- The variant that a tag denotes. -/
def variant {α : Type} (setting : Setting) (variants : List (String × α)) : Json → Read α
  | .text s =>
    match variants.lookup s with
    | some a => .ok a
    | none => malformed
  | .natural n =>
    match setting, variants[n]? with
    | .copied, some (_, a) => .ok a
    | _, _ => malformed
  | _ => malformed

/-- Reads a tagged part by its variant. -/
def tagged {α : Type} (setting : Setting) (tag : String)
    (variants : List (String × (Json → Read α))) (j : Json) : Read α := do
  let (value, rest) ← untag tag j
  let read ← variant setting variants value
  read rest

end Guestkeeper.Record
