set_option autoImplicit false

/-! # Texts made of fields

Backends, addresses and assignments are written as fields with a one-character separator
between them. Splitting keeps every field, also an empty one, so that joining the fields
with the separator gives the text back. -/

namespace Guestkeeper.Text

/-- The fields of `text` between occurrences of `sep`; a text without `sep` is one field. -/
def fields (sep : Char) (text : String) : List String :=
  (text.toList.splitOn sep).map String.ofList

/-- The fields with `sep` between them. -/
def joinFields (sep : Char) (parts : List String) : String :=
  String.ofList ([sep].intercalate (parts.map String.toList))

/-- The text before the first `sep` and the text after it, if there is one. -/
def cut (sep : Char) (text : String) : Option (String × String) :=
  let cs := text.toList
  match cs.dropWhile (· != sep) with
  | [] => none
  | _ :: after => some (String.ofList (cs.takeWhile (· != sep)), String.ofList after)

/-- What follows `start` in `text`, if the text begins with it. -/
def after? (start text : String) : Option String :=
  if start.toList.isPrefixOf text.toList then
    some (String.ofList (text.toList.drop start.toList.length))
  else none

theorem joinFields_fields (sep : Char) (text : String) :
    joinFields sep (fields sep text) = text := by
  have hmap : (fields sep text).map String.toList = text.toList.splitOn sep := by
    simp [fields, List.map_map, Function.comp_def]
  simp [joinFields, hmap, List.intercalate_splitOn]

end Guestkeeper.Text
