import Guestkeeper.Host.Command
import Guestkeeper.Proofs.Text.ShellWord

set_option autoImplicit false

/-! # Command lines read back

A command is shown as one line of text. Its program and its arguments are words of that line, each
of them quoted where a shell would split it or change it. Splitting the line by the shell's rules
gives these words back, whatever characters they have and also where they are empty, so two
commands with the same text are the same command.
-/

namespace Guestkeeper.Command

open Guestkeeper.Text

/-- The program begins the line, and each argument follows behind a blank. -/
theorem toList_text (c : Command) : c.text.toList =
    quoteList c.executable.toList ++ quotedTail (c.arguments.map String.toList) := by
  have hline := toList_intercalate_quote (quote c.executable) c.arguments
  rw [toList_quote] at hline
  exact hline

/-- The line is split into the program and its arguments. -/
theorem words_text (c : Command) : words c.text = some (c.executable :: c.arguments) := by
  rw [words_eq_some_iff, toList_text, splitWords_quoteList, splitWords_quotedTail,
    List.reverse_reverse, List.map_cons]

theorem text_injective : Function.Injective Command.text := by
  intro c d h
  have hwords : some (c.executable :: c.arguments) = some (d.executable :: d.arguments) := by
    rw [← words_text c, ← words_text d, h]
  obtain ⟨hexecutable, harguments⟩ := List.cons.inj (Option.some.inj hwords)
  cases c
  cases d
  simp only at hexecutable harguments
  rw [hexecutable, harguments]

/-- **The text of a command loses nothing.** It is split into the program and its arguments, in
their order, and no other command has the same text. -/
theorem text_lossless (c : Command) :
    words c.text = some (c.executable :: c.arguments) ∧ ∀ d : Command, d.text = c.text ↔ d = c := by
  refine ⟨words_text c, fun d => ⟨fun h => text_injective h, ?_⟩⟩
  rintro rfl
  rfl

example : (Command.mk "/usr/bin/env" ["a b", "", "it's"]).text =
    "/usr/bin/env 'a b' '' 'it'\\''s'" := by decide

end Guestkeeper.Command
