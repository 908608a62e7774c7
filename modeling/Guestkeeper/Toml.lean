import Guestkeeper.Text.Hexadecimal

set_option autoImplicit false

/-! # Settings in TOML

The client configuration is a TOML document whose entries are all strings. Only such documents
are read: a table, a dotted key or a value of another type is refused along with malformed
text, and so is a key that is given twice. All four forms of strings are read. -/

namespace Guestkeeper.Toml

open Guestkeeper.Text

/-- Spaces and tabs, which may stand between the parts of a line. -/
def isSpace (c : Char) : Bool := c = ' ' || c = '\t'

/-- Characters of comments and literal strings: no control characters but the tab. -/
def isVisible (c : Char) : Bool :=
  c = '\t' || (0x20 ≤ c.toNat && c.toNat ≠ 0x7F)

def isBareKeyChar (c : Char) : Bool := c.isAlphanum || c = '_' || c = '-'

/-- The character with the code point written in hexadecimal. -/
def codePoint? (digits : List Char) : Option Char :=
  match readHex? 0 digits with
  | some n => if h : n.isValidChar then some (Char.ofNatAux n h) else none
  | none => none

/-- The character that a one-letter escape stands for. -/
def letterEscape? : Char → Option Char
  | 'b' => some '\x08'
  | 't' => some '\t'
  | 'n' => some '\n'
  | 'f' => some '\x0c'
  | 'r' => some '\r'
  | '"' => some '"'
  | '\\' => some '\\'
  | _ => none

/-- The character that an escape stands for, read after its backslash. -/
def escape? : List Char → Option (Char × List Char)
  | 'u' :: a :: b :: c :: d :: rest => (codePoint? [a, b, c, d]).map (·, rest)
  | 'U' :: a :: b :: c :: d :: e :: f :: g :: h :: rest =>
    (codePoint? [a, b, c, d, e, f, g, h]).map (·, rest)
  | c :: rest => (letterEscape? c).map (·, rest)
  | [] => none

/-- A read body with the characters `cs` put in front. -/
def push (cs : List Char) (read : Option (List Char × List Char)) :
    Option (List Char × List Char) :=
  read.map fun (body, rest) => (cs ++ body, rest)

/-- The body of a basic string and what follows its closing quote. The first argument bounds
the number of characters and escapes. -/
def basicBody : Nat → List Char → Option (List Char × List Char)
  | fuel + 1, c :: rest =>
    if c = '"' then some ([], rest)
    else if c = '\\' then (escape? rest).bind fun (x, rest) => push [x] (basicBody fuel rest)
    else if isVisible c then push [c] (basicBody fuel rest)
    else none
  | _, _ => none

/-- The body of a literal string and what follows its closing quote. -/
def literalBody : List Char → Option (List Char × List Char)
  | [] => none
  | c :: rest =>
    if c = '\'' then some ([], rest)
    else if isVisible c then push [c] (literalBody rest)
    else none

/-- What follows a newline, if the text begins with one. -/
def afterNewline? : List Char → Option (List Char)
  | '\n' :: rest => some rest
  | '\r' :: '\n' :: rest => some rest
  | _ => none

/-- Whether only spaces and tabs stand before the next newline. -/
def endsLine (cs : List Char) : Bool := (afterNewline? (cs.dropWhile isSpace)).isSome

/-- Drops spaces, tabs and newlines. -/
def dropBlankLines : List Char → List Char
  | '\r' :: '\n' :: rest => dropBlankLines rest
  | c :: rest => if isSpace c || c = '\n' then dropBlankLines rest else c :: rest
  | [] => []

/-- The body of a string of several lines between triple quotes `q`, and what follows. Up to
two quotes may stand directly before the closing ones. Where escapes count, a backslash at the
end of a line drops blanks and newlines up to the next visible character. -/
def linesBody (q : Char) : Nat → List Char → Option (List Char × List Char)
  | fuel + 1, c :: rest =>
    if c = q then
      let count := 1 + (rest.takeWhile (· = q)).length
      let after := rest.dropWhile (· = q)
      if count < 3 then push (List.replicate count q) (linesBody q fuel after)
      else if count < 6 then some (List.replicate (count - 3) q, after)
      else none
    else if q = '"' && c = '\\' then
      if endsLine rest then linesBody q fuel (dropBlankLines rest)
      else (escape? rest).bind fun (x, rest) => push [x] (linesBody q fuel rest)
    else match afterNewline? (c :: rest) with
      | some after => push ['\n'] (linesBody q fuel after)
      | none => if isVisible c then push [c] (linesBody q fuel rest) else none
  | _, _ => none

/-- The body of a string of several lines, without the newline that may open it. -/
def linesString (q : Char) (cs : List Char) : Option (List Char × List Char) :=
  linesBody q (cs.length + 1) ((afterNewline? cs).getD cs)

/-- A string on one line, and what follows. -/
def shortString? : List Char → Option (List Char × List Char)
  | '"' :: rest => basicBody (rest.length + 1) rest
  | '\'' :: rest => literalBody rest
  | _ => none

/-- A string of any form, and what follows. -/
def string? : List Char → Option (List Char × List Char)
  | '"' :: '"' :: '"' :: rest => linesString '"' rest
  | '\'' :: '\'' :: '\'' :: rest => linesString '\'' rest
  | cs => shortString? cs

/-- A key, bare or quoted, and what follows. -/
def key? (cs : List Char) : Option (List Char × List Char) :=
  match cs with
  | '"' :: _ | '\'' :: _ => shortString? cs
  | _ =>
    let bare := cs.takeWhile isBareKeyChar
    if bare.isEmpty then none else some (bare, cs.dropWhile isBareKeyChar)

/-- What follows the end of a line: blanks, a comment, and a newline or the end of the
text. -/
def endOfLine? (cs : List Char) : Option (List Char) :=
  let rest := match cs.dropWhile isSpace with
    | '#' :: comment => comment.dropWhile isVisible
    | rest => rest
  if rest.isEmpty then some [] else afterNewline? rest

/-- One entry with the rest of its line, and what follows. -/
def entry? (cs : List Char) : Option ((String × String) × List Char) := do
  let (key, rest) ← key? cs
  match rest.dropWhile isSpace with
  | '=' :: rest =>
    let (value, rest) ← string? (rest.dropWhile isSpace)
    let rest ← endOfLine? rest
    return ((String.ofList key, String.ofList value), rest)
  | _ => none

/-- The entries from some line on, after the entries `done`. The first argument bounds the
number of lines. -/
def entriesFrom : Nat → List (String × String) → List Char → Option (List (String × String))
  | 0, _, _ => none
  | fuel + 1, done, cs =>
    let line := cs.dropWhile isSpace
    if line.isEmpty then some done
    else match endOfLine? line with
      | some rest => entriesFrom fuel done rest
      | none => do
        let (entry, rest) ← entry? line
        if (done.lookup entry.1).isSome then none else entriesFrom fuel (done ++ [entry]) rest

/-- The entries of a document, in order. A byte order mark may open it. -/
def entries? (text : String) : Option (List (String × String)) :=
  let cs := match text.toList with
    | '\ufeff' :: cs => cs
    | cs => cs
  entriesFrom (cs.length + 1) [] cs

end Guestkeeper.Toml
