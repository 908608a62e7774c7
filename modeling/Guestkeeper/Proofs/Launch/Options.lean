set_option autoImplicit false

/-! # Options read back

The hypervisor reads its arguments from left to right. An argument that names an option with a value
takes the next argument with it, whatever that is. Any other argument is a switch if it begins with
a dash, and an operand if it does not. A list of arguments has at most one reading of this sort
(`readParts_eq_some_iff`), and the values of an option, the switches and the operands are picked
out of it.
-/

namespace Guestkeeper.Launch

/-! ## Parts of a command line -/

inductive Part
  | option (name value : String)
  | switch (name : String)
  | operand (text : String)
  deriving DecidableEq, Repr

/-- The options that take the next argument as their value. -/
def valued : List String := ["-c", "-m", "-p", "-s", "-l", "-U"]

def isDashed (word : String) : Bool := word.toList.head? = some '-'

/-- What an argument is that does not take the next one. -/
def Part.single (word : String) : Part := if isDashed word then .switch word else .operand word

/-- The reading from left to right. There is none if the last argument lacks its value. -/
def readParts : List String → Option (List Part)
  | [] => some []
  | [word] => if word ∈ valued then none else some [.single word]
  | word :: next :: rest =>
    if word ∈ valued then (readParts rest).map (Part.option word next :: ·)
    else (readParts (next :: rest)).map (Part.single word :: ·)

/-- The arguments that a part stands for. -/
def Part.words : Part → List String
  | .option name value => [name, value]
  | .switch name => [name]
  | .operand text => [text]

/-- An option with each of its values. -/
def Part.options (name : String) (texts : List String) : List Part := texts.map (.option name)

/-- The part is what its first argument says. -/
def Part.Clear : Part → Prop
  | .option name _ => name ∈ valued
  | .switch name => isDashed name = true ∧ name ∉ valued
  | .operand text => isDashed text = false

/-- No value looks like the name of an option or like a switch. -/
def Part.Undashed : Part → Prop
  | .option _ value => isDashed value = false
  | _ => True

theorem notMem_valued_of_isDashed {word : String} (h : isDashed word = false) :
    word ∉ valued := by
  have hall : ∀ name ∈ valued, isDashed name = true := by decide
  intro hmem
  rw [hall word hmem] at h
  cases h

theorem Part.clear_single {word : String} (h : word ∉ valued) : (Part.single word).Clear := by
  rw [single]
  split
  · next hdash => exact ⟨hdash, h⟩
  · next hdash =>
      rw [Bool.not_eq_true] at hdash
      exact hdash

@[simp] theorem Part.words_single (word : String) : (Part.single word).words = [word] := by
  rw [single]
  split
  · rfl
  · rfl

/-! ## One reading -/

theorem readParts_option {name : String} (h : name ∈ valued) (value : String)
    (rest : List String) :
    readParts (name :: value :: rest) = (readParts rest).map (Part.option name value :: ·) := by
  rw [readParts, if_pos h]

theorem readParts_single {word : String} (h : word ∉ valued) (rest : List String) :
    readParts (word :: rest) = (readParts rest).map (Part.single word :: ·) := by
  cases rest with
  | nil => simp [readParts, h]
  | cons next rest => simp [readParts, h]

/-- A clear part is read off the front of the arguments. -/
theorem readParts_append {p : Part} (h : p.Clear) (rest : List String) :
    readParts (p.words ++ rest) = (readParts rest).map (p :: ·) := by
  cases p with
  | option name value => exact readParts_option h value rest
  | switch name =>
      have hsingle : Part.single name = .switch name := if_pos h.1
      rw [← hsingle, Part.words_single]
      exact readParts_single h.2 rest
  | operand text =>
      have hdash : isDashed text = false := h
      have hsingle : Part.single text = .operand text := by simp [Part.single, hdash]
      rw [← hsingle, Part.words_single]
      exact readParts_single (notMem_valued_of_isDashed hdash) rest

theorem readParts_flatMap {parts : List Part} (h : ∀ p ∈ parts, p.Clear) :
    readParts (parts.flatMap Part.words) = some parts := by
  induction parts with
  | nil => rfl
  | cons p parts ih =>
      have hrest := ih fun q hq => h q (List.mem_cons_of_mem p hq)
      rw [List.flatMap_cons, readParts_append (h p List.mem_cons_self), hrest]
      rfl

/-- What is read has clear parts, and they stand for the arguments. -/
theorem clear_of_readParts {words : List String} {parts : List Part}
    (h : readParts words = some parts) :
    (∀ p ∈ parts, p.Clear) ∧ parts.flatMap Part.words = words := by
  -- the recursion of the reader; a name with a value takes two arguments at once
  induction words using readParts.induct generalizing parts with
  | case1 =>
      cases h
      simp
  | case2 word hname =>
      rw [readParts, if_pos hname] at h
      cases h
  | case3 word hname =>
      rw [readParts, if_neg hname] at h
      cases h
      simp [Part.clear_single hname]
  | case4 word next rest hname ih =>
      rw [readParts_option hname, Option.map_eq_some_iff] at h
      obtain ⟨more, hmore, rfl⟩ := h
      obtain ⟨hclear, hwords⟩ := ih hmore
      have hfirst : (Part.option word next).Clear := hname
      refine ⟨List.forall_mem_cons.2 ⟨hfirst, hclear⟩, ?_⟩
      rw [List.flatMap_cons, hwords]
      rfl
  | case5 word next rest hname ih =>
      rw [readParts_single hname, Option.map_eq_some_iff] at h
      obtain ⟨more, hmore, rfl⟩ := h
      obtain ⟨hclear, hwords⟩ := ih hmore
      refine ⟨List.forall_mem_cons.2 ⟨Part.clear_single hname, hclear⟩, ?_⟩
      rw [List.flatMap_cons, Part.words_single, hwords]
      rfl

/-- The arguments have at most one reading, and it is found. -/
theorem readParts_eq_some_iff {words : List String} {parts : List Part} :
    readParts words = some parts ↔
      (∀ p ∈ parts, p.Clear) ∧ parts.flatMap Part.words = words := by
  constructor
  · exact clear_of_readParts
  · rintro ⟨hclear, rfl⟩
    exact readParts_flatMap hclear

example : readParts ["-m", "-H", "-H", "guest"] =
    some [.option "-m" "-H", .switch "-H", .operand "guest"] := by decide

theorem words_infix_of_mem {p : Part} {parts : List Part} (h : p ∈ parts) :
    p.words <:+: parts.flatMap Part.words := by
  obtain ⟨before, after, rfl⟩ := List.append_of_mem h
  refine ⟨before.flatMap Part.words, after.flatMap Part.words, ?_⟩
  rw [List.flatMap_append, List.flatMap_cons, List.append_assoc]

/-! ## Values, switches and operands -/

def Part.value? (option : String) : Part → Option String
  | .option name value => if name = option then some value else none
  | _ => none

def Part.switch? : Part → Option String
  | .switch name => some name
  | _ => none

def Part.operand? : Part → Option String
  | .operand text => some text
  | _ => none

/-- The values of an option, in the order of the arguments. -/
def values (option : String) (parts : List Part) : List String :=
  parts.filterMap (Part.value? option)

def switches (parts : List Part) : List String := parts.filterMap Part.switch?

def operands (parts : List Part) : List String := parts.filterMap Part.operand?

theorem mem_values_iff {option value : String} {parts : List Part} :
    value ∈ values option parts ↔ .option option value ∈ parts := by
  rw [values, List.mem_filterMap]
  constructor
  · rintro ⟨p, hp, hvalue⟩
    cases p with
    | option name text =>
        rw [Part.value?] at hvalue
        split at hvalue
        · next hname =>
            rw [← hname, ← Option.some.inj hvalue]
            exact hp
        · cases hvalue
    | switch name => cases hvalue
    | operand text => cases hvalue
  · intro hp
    exact ⟨_, hp, if_pos rfl⟩

end Guestkeeper.Launch
