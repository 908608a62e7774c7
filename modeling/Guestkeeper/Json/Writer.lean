import Guestkeeper.Json.Basic
import Guestkeeper.Text.Hexadecimal
import Guestkeeper.Text.Numeral

set_option autoImplicit false

/-! # Writing JSON values

Values are written in two ways: over several lines with an indentation of two spaces, as in
machine records, and on one line. Members keep the order they have in the value. Strings
escape quotes, backslashes and control characters, and nothing else. -/

namespace Guestkeeper.Json

open Guestkeeper.Text

/-- One character of a string. -/
def escapeChar (c : Char) : List Char :=
  match c with
  | '"' => ['\\', '"']
  | '\\' => ['\\', '\\']
  | '\n' => ['\\', 'n']
  | '\r' => ['\\', 'r']
  | '\t' => ['\\', 't']
  | '\x08' => ['\\', 'b']
  | '\x0c' => ['\\', 'f']
  | c => if c.toNat < 0x20 then ['\\', 'u'] ++ fixedHex 4 c.toNat else [c]

def writeText (s : String) : List Char := '"' :: s.toList.flatMap escapeChar ++ ['"']

/-- A new line indented for the given depth. -/
def newLine (depth : Nat) : List Char := '\n' :: List.replicate (2 * depth) ' '

mutual

/-- The value over several lines, as it stands at some depth. -/
def writeLines (depth : Nat) : Json → List Char
  | .null => "null".toList
  | .bool true => "true".toList
  | .bool false => "false".toList
  | .natural n => Nat.toDigits 10 n
  | .negative n => '-' :: Nat.toDigits 10 n
  | .otherNumber => "-0".toList
  | .text s => writeText s
  | .array [] => ['[', ']']
  | .array (x :: xs) =>
    '[' :: newLine (depth + 1) ++ writeLines (depth + 1) x ++ elementLines (depth + 1) xs ++
      newLine depth ++ [']']
  | .object [] => ['\x7b', '\x7d']
  | .object ((name, x) :: ms) =>
    '\x7b' :: newLine (depth + 1) ++ writeText name ++ [':', ' '] ++ writeLines (depth + 1) x ++
      memberLines (depth + 1) ms ++ newLine depth ++ ['\x7d']

/-- Further elements, each after a comma. -/
def elementLines (depth : Nat) : List Json → List Char
  | [] => []
  | x :: xs => ',' :: newLine depth ++ writeLines depth x ++ elementLines depth xs

/-- Further members, each after a comma. -/
def memberLines (depth : Nat) : List (String × Json) → List Char
  | [] => []
  | (name, x) :: ms =>
    ',' :: newLine depth ++ writeText name ++ [':', ' '] ++ writeLines depth x ++
      memberLines depth ms

end

mutual

/-- The value on one line. -/
def writeLine : Json → List Char
  | .null => "null".toList
  | .bool true => "true".toList
  | .bool false => "false".toList
  | .natural n => Nat.toDigits 10 n
  | .negative n => '-' :: Nat.toDigits 10 n
  | .otherNumber => "-0".toList
  | .text s => writeText s
  | .array [] => ['[', ']']
  | .array (x :: xs) => '[' :: writeLine x ++ elementsOnLine xs ++ [']']
  | .object [] => ['\x7b', '\x7d']
  | .object ((name, x) :: ms) =>
    '\x7b' :: writeText name ++ [':'] ++ writeLine x ++ membersOnLine ms ++ ['\x7d']

def elementsOnLine : List Json → List Char
  | [] => []
  | x :: xs => ',' :: writeLine x ++ elementsOnLine xs

def membersOnLine : List (String × Json) → List Char
  | [] => []
  | (name, x) :: ms => ',' :: writeText name ++ [':'] ++ writeLine x ++ membersOnLine ms

end

/-- The value over several lines. -/
def lines (j : Json) : String := String.ofList (writeLines 0 j)

/-- The value on one line. -/
def line (j : Json) : String := String.ofList (writeLine j)

end Guestkeeper.Json
