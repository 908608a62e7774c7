set_option autoImplicit false

/-! # JSON values

The value of a JSON text. Nothing that is described in JSON here takes a number that is not an
integer, so of other numbers, and of integers that take more than 64 bits, only the fact that
they are numbers is kept. -/

namespace Guestkeeper

inductive Json
  | null
  | bool (value : Bool)
  | natural (value : Nat)
  /-- The negative number with this magnitude. -/
  | negative (magnitude : Nat)
  | otherNumber
  | text (value : String)
  | array (elements : List Json)
  | object (members : List (String × Json))
  deriving Inhabited

namespace Json

/-- Stores a member of an object whose members are in ascending order of their names. A later
member stands for an earlier one of the same name. -/
def setMember (name : String) (value : Json) : List (String × Json) → List (String × Json)
  | [] => [(name, value)]
  | m :: ms =>
    match compare name m.1 with
    | .lt => (name, value) :: m :: ms
    | .eq => (name, value) :: ms
    | .gt => m :: setMember name value ms

/-- The member of an object. -/
def member? (name : String) : Json → Option Json
  | .object members => members.lookup name
  | _ => none

end Json

end Guestkeeper
