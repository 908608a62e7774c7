import Guestkeeper.Text.Fields

set_option autoImplicit false

/-! # The grammar of command lines

A command takes options, whose names begin with two hyphens, and operands. An option may have
a value, as the next argument or after an equals sign; an argument that begins with a hyphen is
no value unless the option says so. After an argument `--` there are only operands. Arguments
are read from left to right, and the first that does not fit, or that asks for help, ends the
reading. -/

namespace Guestkeeper.CommandLine

open Guestkeeper.Text

/-- How an option may be given. -/
inductive Arity
  /-- Once, without a value. -/
  | toggle
  /-- Any number of times, without a value. -/
  | counter
  /-- Once, with a value. -/
  | single
  /-- Any number of times, each time with a value. -/
  | repeated
  deriving DecidableEq, Repr

structure OptionRule where
  name : String
  arity : Arity := .single
  /-- Whether a value is acceptable. -/
  accepts : String → Bool := fun _ => true
  /-- Whether a value may begin with a hyphen. -/
  hyphens : Bool := false
  required : Bool := false
  /-- Options that it must not be given together with. -/
  excludes : List String := []
  /-- Options that it must be given together with. -/
  needs : List String := []

/-- The rule for one operand, which must be there. -/
structure OperandRule where
  accepts : String → Bool := fun _ => true
  /-- Whether more operands of the sort may follow. -/
  several : Bool := false

structure Grammar where
  options : List OptionRule
  operands : List OperandRule := []
  /-- Names of commands; one of them in the place of an operand ends the reading. -/
  commands : List String := []
  /-- Whether the version may be asked for. -/
  versioned : Bool := false

/-- The options and operands that were given, in order. An option without a value has an empty
one. -/
structure Given where
  options : List (String × String) := []
  operands : List String := []
  deriving DecidableEq, Repr

namespace Given

def has (g : Given) (name : String) : Bool := g.options.any fun o => o.1 = name

def value? (g : Given) (name : String) : Option String := g.options.lookup name

def values (g : Given) (name : String) : List String :=
  (g.options.filter fun o => o.1 = name).map Prod.snd

end Given

/-- How reading ends. -/
inductive Scan
  | done (given : Given)
  | command (given : Given) (name : String) (rest : List String)
  | help
  | version
  | refused
  deriving DecidableEq, Repr

namespace Grammar

def rule? (g : Grammar) (name : String) : Option OptionRule :=
  g.options.find? fun r => r.name = name

def takesValue (r : OptionRule) : Bool := r.arity = .single || r.arity = .repeated

/-- Adds an option with its value, unless it was given before and may be given only once. -/
def addOption (given : Given) (r : OptionRule) (value : String) : Option Given :=
  let once := r.arity = .toggle || r.arity = .single
  if (once && given.has r.name) || (takesValue r && !r.accepts value) then none
  else some { given with options := given.options ++ [(r.name, value)] }

/-- The rule for the operand at a position. -/
def operandRule? (g : Grammar) (index : Nat) : Option OperandRule :=
  match g.operands[index]? with
  | some r => some r
  | none => g.operands.getLast?.filter OperandRule.several

/-- Adds an operand, if there is room for it. -/
def addOperand (g : Grammar) (given : Given) (value : String) : Option Given :=
  match g.operandRule? given.operands.length with
  | some r =>
    if r.accepts value then some { given with operands := given.operands ++ [value] } else none
  | none => none

def addOperands (g : Grammar) (given : Given) (values : List String) : Option Given :=
  values.foldlM g.addOperand given

/-- What a group of one-letter options comes to. -/
inductive Letters
  | given (given : Given)
  | help
  | version
  | refused

/-- Reads one-letter options: `v` counts as the option `verbose`, `h` asks for help and `V` for
the version. -/
def readLetters (g : Grammar) (given : Given) : List Char → Letters
  | [] => .given given
  | 'v' :: cs =>
    match (g.rule? "verbose").bind fun r => addOption given r "" with
    | some more => readLetters g more cs
    | none => .refused
  | 'h' :: _ => .help
  | 'V' :: _ => if g.versioned then .version else .refused
  | _ :: _ => .refused

/-- Whether the rules about options that go together are kept, and nothing is missing. -/
def isComplete (g : Grammar) (given : Given) : Bool :=
  g.operands.length ≤ given.operands.length &&
    g.options.all fun r =>
      if given.has r.name then r.excludes.all (!given.has ·) && r.needs.all given.has
      else !r.required

def finish (g : Grammar) (given : Given) : Scan :=
  if g.isComplete given then .done given else .refused

/-- What an argument that begins with two hyphens comes to: options so far and perhaps one
that waits for its value, or an end of reading. -/
inductive Long
  | given (given : Given)
  | pending (r : OptionRule)
  | help
  | version
  | refused

/-- Reads an option by its name, with the value that was attached to it. -/
def readLong (g : Grammar) (given : Given) (name : String) (attached : Option String) : Long :=
  match g.rule? name, attached with
  | some r, some value =>
    if takesValue r then
      match addOption given r value with
      | some more => .given more
      | none => .refused
    else .refused
  | some r, none =>
    if takesValue r then .pending r
    else match addOption given r "" with
      | some more => .given more
      | none => .refused
  | none, none =>
    if name = "help" then .help
    else if name = "version" && g.versioned then .version
    else .refused
  | none, some _ => .refused

/-- What is written after the two hyphens: a name, and a value after an equals sign. -/
def splitLong (text : String) : String × Option String :=
  match cut '=' text with
  | some (name, value) => (name, some value)
  | none => (text, none)

/-- Reads arguments. `pending` is an option that waits for its value. -/
def scan (g : Grammar) (given : Given) (pending : Option OptionRule) : List String → Scan
  | [] => if pending.isSome then .refused else g.finish given
  | a :: rest =>
    match pending with
    | some r =>
      if r.hyphens || a = "-" || !(['-'].isPrefixOf a.toList) then
        match addOption given r a with
        | some more => scan g more none rest
        | none => .refused
      else .refused
    | none =>
      if g.commands.contains a then .command given a rest
      else if a = "--" then
        match g.addOperands given rest with
        | some more => g.finish more
        | none => .refused
      else match a.toList with
        | '-' :: '-' :: name =>
          let (name, attached) := splitLong (String.ofList name)
          match g.readLong given name attached with
          | .given more => scan g more none rest
          | .pending r => scan g given (some r) rest
          | .help => .help
          | .version => .version
          | .refused => .refused
        | '-' :: letter :: letters =>
          match g.readLetters given (letter :: letters) with
          | .given more => scan g more none rest
          | .help => .help
          | .version => .version
          | .refused => .refused
        | _ =>
          match g.addOperand given a with
          | some more => scan g more none rest
          | none => .refused

/-- Reads the arguments of a command. -/
def read (g : Grammar) (arguments : List String) : Scan := scan g {} none arguments

end Grammar

end Guestkeeper.CommandLine
