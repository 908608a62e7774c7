set_option autoImplicit false

/-! # Words of a command line

A command line is shown as words with blanks between them. A word that a shell would split or
change is put in single quotes, inside of which a quote is written `'\''`; so splitting the
shown text by the shell's rules gives the words back. The same quoting serves the boot
loader's script. -/

namespace Guestkeeper.Text

/-- Characters that need no quoting, besides ASCII letters and digits. -/
def plainMarks : List Char := "-_./:,=+@%[]".toList

def isPlainChar (c : Char) : Bool := c.isAlphanum || plainMarks.contains c

def isPlainWord (cs : List Char) : Bool := !cs.isEmpty && cs.all isPlainChar

/-- One character between single quotes. -/
def quotedChar (c : Char) : List Char :=
  if c = '\'' then ['\'', '\\', '\'', '\''] else [c]

/-- The characters as one word of a command line. -/
def quoteList (cs : List Char) : List Char :=
  if isPlainWord cs then cs else '\'' :: cs.flatMap quotedChar ++ ['\'']

/-- The text as one word of a command line. -/
def quote (word : String) : String := String.ofList (quoteList word.toList)

/-- Where a splitter stands: between words, inside a word, or inside single quotes. The
characters of the word come last first. -/
inductive WordScan
  | between
  | word (done : List Char)
  | quoted (done : List Char)
  deriving DecidableEq, Repr

/-- Blanks and newlines separate words. -/
def separatesWords (c : Char) : Bool := c = ' ' || c = '\t' || c = '\n'

/-- The word read so far, if one was begun, before the words that follow. -/
def WordScan.finish (scan : WordScan) (rest : List (List Char)) : List (List Char) :=
  match scan with
  | .between => rest
  | .word done | .quoted done => done.reverse :: rest

/-- The characters of the word read so far, last first. -/
def WordScan.done : WordScan → List Char
  | .between => []
  | .word done | .quoted done => done

/-- Splits by the shell's rules: outside quotes, blanks separate words and a backslash takes
the next character as it is; between single quotes every character stands for itself. Fails
on an open quote or a backslash at the end. -/
def splitWords : WordScan → List Char → Option (List (List Char))
  | .quoted _, [] => none
  | .quoted done, c :: cs =>
    if c = '\'' then splitWords (.word done) cs else splitWords (.quoted (c :: done)) cs
  | scan, [] => some (scan.finish [])
  | _, ['\\'] => none
  | scan, '\\' :: c :: cs => splitWords (.word (c :: scan.done)) cs
  | scan, c :: cs =>
    if c = '\'' then splitWords (.quoted scan.done) cs
    else if separatesWords c then (splitWords .between cs).map scan.finish
    else splitWords (.word (c :: scan.done)) cs

/-- The words of a command line, or nothing if it ends inside a quote. -/
def words (text : String) : Option (List String) :=
  (splitWords .between text.toList).map (List.map String.ofList)

end Guestkeeper.Text
