import Guestkeeper.Launch.Loader
import Guestkeeper.Proofs.Text.Fields

set_option autoImplicit false

/-! # Lines read back

The files for the loader are written as lines that each end in a newline. They are read as the
lines that were written exactly if none of these has a newline of its own; each such newline makes
one more line.
-/

namespace Guestkeeper.Text

/-- The lines of a text. Each newline ends one, and what comes behind the last newline is a line
only if it is not empty. -/
def lines (text : String) : List String :=
  if (fields '\n' text).getLast? = some "" then (fields '\n' text).dropLast else fields '\n' text

end Guestkeeper.Text

namespace Guestkeeper.Launch

open Guestkeeper.Text

/-! ## Written lines -/

theorem lineText_cons (l : String) (ls : List String) :
    lineText (l :: ls) = l ++ "\n" ++ lineText ls := by
  rw [lineText, List.map_cons, String.join_cons]
  rfl

/-- Behind the last newline there is nothing. -/
theorem fields_lineText (ls : List String) :
    fields '\n' (lineText ls) = ls.flatMap (fields '\n') ++ [""] := by
  induction ls with
  | nil => rfl
  | cons l ls ih =>
      have hline : fields '\n' (l ++ "\n" ++ lineText ls) =
          fields '\n' l ++ fields '\n' (lineText ls) := fields_append_sep '\n' l (lineText ls)
      rw [lineText_cons, hline, ih, List.flatMap_cons, List.append_assoc]

theorem lines_lineText (ls : List String) : lines (lineText ls) = ls.flatMap (fields '\n') := by
  rw [lines, fields_lineText, List.getLast?_concat, if_pos rfl, List.dropLast_concat]

/-- Each newline inside of a written line makes one more line. -/
theorem length_lines_lineText (ls : List String) :
    (lines (lineText ls)).length =
      ls.length + (ls.flatMap String.toList).count '\n' := by
  rw [lines_lineText]
  induction ls with
  | nil => rfl
  | cons l ls ih =>
      rw [List.flatMap_cons, List.length_append, length_fields, ih, List.length_cons,
        List.flatMap_cons, List.count_append]
      omega

theorem count_newline_eq_zero_iff {ls : List String} :
    (ls.flatMap String.toList).count '\n' = 0 ↔ ∀ l ∈ ls, '\n' ∉ l.toList := by
  rw [List.count_eq_zero, List.mem_flatMap]
  exact not_exists.trans (forall_congr' fun l => not_and)

theorem lines_lineText_eq_iff {ls : List String} :
    lines (lineText ls) = ls ↔ ∀ l ∈ ls, '\n' ∉ l.toList := by
  constructor
  · intro h
    have hlength := length_lines_lineText ls
    rw [h] at hlength
    exact count_newline_eq_zero_iff.1 (by omega)
  · intro h
    rw [lines_lineText]
    exact flatMap_fields_of_notMem h

end Guestkeeper.Launch
