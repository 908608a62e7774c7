import Guestkeeper.Text.Fields

set_option autoImplicit false

/-! # Path texts

Paths are kept as they are written and never normalised. Joining and taking the parent work
on the text; repeated slashes and `.` components stay where they are unless they end a
result. -/

namespace Guestkeeper.Path

open Guestkeeper.Text

def isAbsolute (path : String) : Bool := path.toList.head? == some '/'

/-- `path` below `base`. An absolute `path` stands for itself, and a base that ends in a slash
gets no second one. -/
def join (base path : String) : String :=
  if isAbsolute path || base.isEmpty then path
  else if base.toList.getLast? == some '/' then base ++ path
  else base ++ "/" ++ path

/-- A component that denotes no step down: an empty one, or `.`. -/
def isIdle (component : List Char) : Bool := component == [] || component == ['.']

/-- The start of a path that belongs to no component: a leading slash, or the `.` of a path
that begins with it; and the characters after it. -/
def splitStart : List Char → List Char × List Char
  | '/' :: rest => (['/'], rest)
  | ['.'] => (['.'], [])
  | '.' :: '/' :: rest => (['.'], '/' :: rest)
  | rest => ([], rest)

/-- The path without its last component, or nothing for the root and the empty path. -/
def parent? (path : String) : Option String :=
  let (start, body) := splitStart path.toList
  match (body.splitOn '/').reverse.dropWhile isIdle with
  | [] => if start == ['.'] then some "" else none
  | _ :: above =>
    some (String.ofList (start ++ ['/'].intercalate (above.dropWhile isIdle).reverse))

/-- An absolute path as it is seen from the root directory, without slashes at its ends. -/
def belowRoot? (path : String) : Option String :=
  match path.toList with
  | '/' :: body =>
    let components := (body.splitOn '/').dropWhile isIdle
    some (String.ofList (['/'].intercalate (components.reverse.dropWhile isIdle).reverse))
  | _ => none

end Guestkeeper.Path
