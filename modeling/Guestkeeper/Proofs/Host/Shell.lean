import Guestkeeper.Host.Programs
import Guestkeeper.Proofs.Host.Command

set_option autoImplicit false

/-! # Shown commands as a script

A preview shows the commands of a run as lines of text. An operator who joins such lines with `&&`
and gives them to a shell gets what the run would do: the programs are started with the same
arguments, in the same order, up to the first that fails.

The shell reads a quoted word as the characters it was made from, so a shown command leaves the
words of the command behind. They are no command of the shell's own where the program is given by
an absolute path. The shell of the simulated host is started like any other program, so the chain
can be handed to it there.
-/

namespace Guestkeeper.Host.Shell

open Guestkeeper.Text

variable {start : Command → Nat}

namespace Session

/-! ## Words -/

/-- The shell after it has taken some characters as they are. -/
def after (s : Session) (w : List Char) : Session :=
  { s with word := some (w.reverse ++ s.word.getD []) }

theorem after_after (s : Session) (v w : List Char) : (s.after v).after w = s.after (v ++ w) := by
  rw [after, after, after, List.reverse_append, List.append_assoc]
  rfl

/-- Characters that need no quotes mean nothing to the shell. -/
theorem step_plainChar {s : Session} {c : Char} (hs : s.mode = .plain)
    (hc : isPlainChar c = true) : s.step start c = s.after [c] := by
  rw [step, hs]
  show s.plainStep start c = _
  unfold plainStep
  split
  case h_11 => rfl
  all_goals cases hc

theorem foldl_plain {s : Session} {cs : List Char} (v : List Char) (hs : s.mode = .plain)
    (hcs : ∀ c ∈ cs, isPlainChar c = true) :
    cs.foldl (step start) (s.after v) = s.after (v ++ cs) := by
  induction cs generalizing v with
  | nil => rw [List.foldl_nil, List.append_nil]
  | cons c cs ih =>
      have hmode : (s.after v).mode = .plain := hs
      have hstep : (s.after v).step start c = s.after (v ++ [c]) := by
        rw [step_plainChar hmode (hcs c List.mem_cons_self), after_after]
      rw [List.foldl_cons, hstep, ih _ fun d hd => hcs d (List.mem_cons_of_mem c hd),
        List.append_assoc]
      rfl

/-- Between quotes, the characters of a word stand for themselves. -/
theorem foldl_quoted (s : Session) (v w : List Char) :
    (w.flatMap quotedChar ++ ['\'']).foldl (step start) { s.after v with mode := .single } =
      { s.after (v ++ w) with mode := .plain } := by
  induction w generalizing v with
  | nil => rw [List.append_nil]; rfl
  | cons c w ih =>
      have hchar : (quotedChar c).foldl (step start) { s.after v with mode := .single } =
          { s.after (v ++ [c]) with mode := .single } := by
        rw [← after_after]
        by_cases hc : c = '\''
        · -- the quote ends the quoted part, stands behind a backslash and begins the next part
          subst hc
          rfl
        · rw [quotedChar, if_neg hc]
          show (if c = '\'' then _ else _) = _
          rw [if_neg hc]
          rfl
      rw [List.flatMap_cons, List.append_assoc, List.foldl_append, hchar, ih, List.append_assoc]
      rfl

/-- A quoted word is read as it was before it was quoted. -/
theorem foldl_quoteList {s : Session} (hs : s.mode = .plain) (w : List Char) :
    (quoteList w).foldl (step start) s = s.after w := by
  by_cases hplain : isPlainWord w = true
  · rw [quoteList, if_pos hplain]
    obtain ⟨hne, hchars⟩ := isPlainWord_eq_true_iff.1 hplain
    obtain ⟨c, cs, rfl⟩ := List.exists_cons_of_ne_nil hne
    rw [List.foldl_cons, step_plainChar hs (hchars c List.mem_cons_self)]
    exact foldl_plain [c] hs fun d hd => hchars d (List.mem_cons_of_mem c hd)
  · have hopen : step start s '\'' = { s.after [] with mode := .single } := by
      rw [step, hs]
      rfl
    rw [quoteList, if_neg hplain, List.cons_append, List.foldl_cons, hopen, foldl_quoted, ← hs]
    rfl

/-- The shell after it has taken whole words. -/
def withWords (s : Session) (ws : List String) : Session :=
  { s with word := none, words := ws.reverse ++ s.words }

theorem foldl_quotedTail {s : Session} (hs : s.mode = .plain) (hnone : s.word = none)
    (w : List Char) (ws : List (List Char)) :
    ((quotedTail ws).foldl (step start) (s.after w)).endWord =
      s.withWords (String.ofList w :: ws.map String.ofList) := by
  induction ws generalizing s w with
  | nil =>
      rw [after, hnone, withWords]
      simp [quotedTail, endWord]
  | cons v ws ih =>
      have hcons : quotedTail (v :: ws) = ' ' :: (quoteList v ++ quotedTail ws) := rfl
      have hblank : step start (s.after w) ' ' = s.withWords [String.ofList w] := by
        have hplain : (s.after w).mode = .plain := hs
        rw [step, hplain, after, hnone, withWords]
        simp [plainStep, endWord]
      have hmode : (s.withWords [String.ofList w]).mode = .plain := hs
      rw [hcons, List.foldl_cons, hblank, List.foldl_append, foldl_quoteList hmode, ih hmode rfl]
      simp [withWords]

/-! ## Commands -/

/-- A shown command leaves its words behind. -/
theorem endWord_foldl_text {s : Session} (hs : s.mode = .plain) (hnone : s.word = none)
    (c : Command) : (c.text.toList.foldl (step start) s).endWord =
      s.withWords (c.executable :: c.arguments) := by
  rw [Command.toList_text, List.foldl_append, foldl_quoteList hs, foldl_quotedTail hs hnone]
  simp [List.map_map, Function.comp_def]

/-- An absolute path is no assignment. -/
theorem assignment?_absolute {path : String} (h : path.toList.head? = some '/') :
    assignment? path = none := by
  obtain ⟨cs, hcs⟩ := List.head?_eq_some_iff.1 h
  rw [assignment?, cut, hcs, Option.filter_eq_none_iff]
  have hname : (('/' :: cs).takeWhile (· != '=')) = '/' :: cs.takeWhile (· != '=') := rfl
  rw [hname]
  intro p hp
  split at hp
  · cases hp
  · obtain rfl := Option.some.inj hp
    simp [isNameChar]

/-- An absolute path is no command of the shell's own. -/
theorem run_absolute (s : Session) {c : Command} (h : c.executable.toList.head? = some '/') :
    s.run start (c.executable :: c.arguments) = { s with status := start c } := by
  have hfirst : ∀ name rest, c.executable :: c.arguments = name :: rest →
      name.toList.head? = some '/' := by
    intro name rest hwords
    rw [← (List.cons.inj hwords).1]
    exact h
  unfold run
  split
  case h_1 hwords => cases hwords
  case h_9 hwords =>
    obtain ⟨rfl, rfl⟩ := List.cons.inj hwords
    rfl
  all_goals next hwords => exact absurd (hfirst _ _ hwords) (by decide)

/-- The shell in a chain of commands of which the last one ended with the status. -/
def inChain (arguments : List String) (status : Nat) : Session :=
  { arguments := arguments, status := status, live := status = 0 }

/-- The status of a chain that goes on with a command. -/
def followed (start : Command → Nat) (status : Nat) (c : Command) : Nat :=
  if status = 0 then start c else status

/-- Where its words were read, the command of a chain is run if all before it succeeded. -/
theorem endCommand_inChain {arguments : List String} {status : Nat} {c : Command} {s : Session}
    (next : Nat → Bool) (h : c.executable.toList.head? = some '/')
    (hs : s.endWord = (inChain arguments status).withWords (c.executable :: c.arguments)) :
    s.endCommand start next =
      { inChain arguments (followed start status c) with
        live := next (followed start status c) } := by
  have hwords : ((inChain arguments status).withWords (c.executable :: c.arguments)).words.reverse =
      c.executable :: c.arguments := by
    simp [withWords, inChain]
  have hprogram : (c.executable :: c.arguments).dropWhile
      (fun word => (assignment? word).isSome) = c.executable :: c.arguments := by
    rw [List.dropWhile_cons, assignment?_absolute h]
    rfl
  rw [endCommand, hs, runWords, hwords, hprogram, followed]
  by_cases hstatus : status = 0
  · subst hstatus
    rw [run_absolute _ h]
    rfl
  · simp [withWords, inChain, hstatus]

/-- Ending a word does not change where the shell stands. -/
theorem mode_of_endWord {arguments words : List String} {status : Nat} {s : Session}
    (hs : s.endWord = (inChain arguments status).withWords words) : s.mode = .plain := by
  have hkept : s.endWord.mode = s.mode := by
    rw [endWord]
    split <;> rfl
  rw [← hkept, hs]
  rfl

/-- A command of a chain with the sign behind it. -/
theorem foldl_followed (arguments : List String) (status : Nat) {c : Command}
    (h : c.executable.toList.head? = some '/') :
    (c.text.toList ++ " && ".toList).foldl (step start) (inChain arguments status) =
      inChain arguments (followed start status c) := by
  have hread : (c.text.toList.foldl (step start) (inChain arguments status)).endWord =
      (inChain arguments status).withWords (c.executable :: c.arguments) :=
    endWord_foldl_text rfl rfl c
  rw [List.foldl_append]
  generalize c.text.toList.foldl (step start) (inChain arguments status) = s at hread
  have hmode : s.mode = .plain := mode_of_endWord hread
  have hblank : s.step start ' ' = (inChain arguments status).withWords
      (c.executable :: c.arguments) := by
    rw [step, hmode]
    exact hread
  have hand : " && ".toList = [' ', '&', '&', ' '] := by decide
  rw [hand, List.foldl_cons, hblank, List.foldl_cons]
  have hfirst : step start ((inChain arguments status).withWords (c.executable :: c.arguments))
      '&' = inChain arguments (followed start status c) :=
    endCommand_inChain (· = 0) h rfl
  rw [hfirst]
  rfl

end Session

open Session

/-- A chain is read command by command. -/
theorem finish_chain (arguments : List String) (status : Nat) {cs : List Command}
    (h : ∀ c ∈ cs, c.executable.toList.head? = some '/') :
    ((String.intercalate " && " (cs.map Command.text)).toList.foldl (step start)
      (inChain arguments status)).finish start = cs.foldl (followed start) status := by
  induction cs generalizing status with
  | nil => rfl
  | cons c cs ih =>
      have hc := h c List.mem_cons_self
      cases cs with
      | nil =>
          -- no sign stands behind the last command
          have hread : (c.text.toList.foldl (step start) (inChain arguments status)).endWord =
              (inChain arguments status).withWords (c.executable :: c.arguments) :=
            endWord_foldl_text rfl rfl c
          show ((c.text.toList).foldl (step start) (inChain arguments status)).finish start = _
          rw [finish, mode_of_endWord hread]
          show (endCommand start (fun _ => true) _).status = _
          rw [endCommand_inChain _ hc hread]
          rfl
      | cons d ds =>
          have hmore : (String.intercalate " && " ((c :: d :: ds).map Command.text)).toList =
              (c.text.toList ++ " && ".toList) ++
                (String.intercalate " && " ((d :: ds).map Command.text)).toList := by
            rw [List.map_cons, List.map_cons, String.intercalate_cons_cons, String.toList_append,
              String.toList_append]
          rw [hmore, List.foldl_append, foldl_followed arguments status hc]
          exact ih _ fun e he => h e (List.mem_cons_of_mem c he)

theorem foldl_followed_eq (cs : List Command) (status : Nat) : cs.foldl (followed start) status =
    if status = 0 then ((cs.map start).find? (· ≠ 0)).getD 0 else status := by
  induction cs generalizing status with
  | nil => simp
  | cons c cs ih =>
      rw [List.foldl_cons, ih, followed, List.map_cons, List.find?_cons]
      by_cases hstatus : status = 0
      · by_cases hc : start c = 0 <;> simp [hstatus, hc]
      · simp [hstatus]

/-- **Shown commands are a script.** Joined by `&&`, they end as a run of the commands does that
stops at the first failure: with the status of the first that fails, or else with success. -/
theorem scriptStatus_chain (start : Command → Nat) (arguments : List String) {cs : List Command}
    (h : ∀ c ∈ cs, c.executable.toList.head? = some '/') :
    scriptStatus start (String.intercalate " && " (cs.map Command.text)) arguments =
      ((cs.map start).find? (· ≠ 0)).getD 0 :=
  (finish_chain arguments 0 h).trans (foldl_followed_eq cs 0)

example : scriptStatus (fun c => c.arguments.length)
    "/bin/ls && /bin/ls 'a b' \"it's\" && exit 7" [] = 2 := by decide

end Guestkeeper.Host.Shell

namespace Guestkeeper.Host.Simulation

open Guestkeeper.Text

/-! ## The shell as a program of the host -/

theorem hasNul_eq_false_iff {c : Command} :
    hasNul c = false ↔ ∀ word ∈ c.executable :: c.arguments, '\x00' ∉ word.toList := by
  simp [hasNul, List.any_eq_false]

/-- Quoting brings no NUL characters into the text of a command. -/
theorem nul_notMem_text {c : Command} (h : hasNul c = false) : '\x00' ∉ c.text.toList := by
  rw [hasNul_eq_false_iff] at h
  have hquoted : ∀ word ∈ c.executable :: c.arguments, '\x00' ∉ quoteList word.toList := by
    intro word hword hmem
    rcases mem_quoteList hmem with hmem | hmem | hmem
    · exact h word hword hmem
    · exact absurd hmem (by decide)
    · exact absurd hmem (by decide)
  rw [Command.toList_text, List.mem_append, quotedTail, List.flatMap_map, List.mem_flatMap]
  rintro (hmem | ⟨word, hword, hmem⟩)
  · exact hquoted _ List.mem_cons_self hmem
  · rcases List.mem_cons.1 hmem with hmem | hmem
    · exact absurd hmem (by decide)
    · exact hquoted word (List.mem_cons_of_mem _ hword) hmem

theorem nul_notMem_chain {cs : List Command} (h : ∀ c ∈ cs, hasNul c = false) :
    '\x00' ∉ (String.intercalate " && " (cs.map Command.text)).toList := by
  induction cs with
  | nil => exact List.not_mem_nil
  | cons c cs ih =>
      have hc := nul_notMem_text (h c List.mem_cons_self)
      cases cs with
      | nil => exact hc
      | cons d ds =>
          have hmore := ih fun e he => h e (List.mem_cons_of_mem c he)
          rw [List.map_cons, List.map_cons, String.intercalate_cons_cons, String.toList_append,
            String.toList_append, List.mem_append, List.mem_append]
          rintro ((hmem | hmem) | hmem)
          · exact hc hmem
          · exact absurd hmem (by decide)
          · exact hmore hmem

theorem findProgram_eq {programs : Programs} {s : Simulation} {executable : String}
    {place : List String} {data : ByteArray} {hole : Nat} {program : List String → ProgramRun}
    (hplace : s.tree.resolve s.current (programPath executable) = .ok place)
    (hfile : s.tree.lookup place = some (.file data hole))
    (hprogram : programs place = some program) :
    findProgram programs s executable = .ok program := by
  simp only [findProgram, hplace, bind, Except.bind, hfile, hprogram]
  rfl

/-- The shell is installed on the host. -/
theorem findProgram_shell (depth : Nat) : findProgram (programs (depth + 1)) freshHost "/bin/sh" =
    .ok fun arguments =>
      { status := Shell.status (commandStatus (programs depth)) arguments } := by
  have hpath : programPath "/bin/sh" = "/bin/sh" := by decide
  have hname : programName? ["bin", "sh"] = some "sh" := by decide
  -- of all contents, only that of a file takes on another size
  have htree : (freshTree.resolve [] "/bin/sh").toOption = some ["bin", "sh"] ∧
      (freshTree.lookup ["bin", "sh"]).map (fun c => (c.resize 1).size) = some 1 := by
    decide +kernel
  obtain ⟨hsome, hsize⟩ := htree
  have hplace : freshTree.resolve [] "/bin/sh" = .ok ["bin", "sh"] := by
    cases hresolve : freshTree.resolve [] "/bin/sh" with
    | error cause => rw [hresolve] at hsome; cases hsome
    | ok place => rw [hresolve] at hsome; exact congrArg Except.ok (Option.some.inj hsome)
  have hprogram : programs (depth + 1) ["bin", "sh"] = some fun arguments =>
      { status := Shell.status (commandStatus (programs depth)) arguments } := by
    rw [programs, hname]
    rfl
  obtain ⟨content, hlookup, hresized⟩ := Option.map_eq_some_iff.1 hsize
  cases content with
  | directory => cases hresized
  | file data hole => exact findProgram_eq (hpath ▸ hplace) hlookup hprogram
  | device isFull => cases hresized

theorem runInstalled_eq {programs : Programs} {s : Simulation} {command : Command}
    {program : List String → ProgramRun} (h : programOf programs s command = .ok program) :
    (runInstalled programs command).run s = (.ok (program command.arguments).status,
      { s with printed := s.printed ++ (program command.arguments).output }) := by
  simp only [runInstalled, ExceptT.run, ExceptT.mk, h]

/-- **Shown commands can be handed to the shell.** The chain is given to the host's shell as any
command is run, and its status is that of the first command of the chain that fails. -/
theorem runInstalled_chain (depth : Nat) {cs : List Command}
    (h : ∀ c ∈ cs, c.executable.toList.head? = some '/') (hnul : ∀ c ∈ cs, hasNul c = false) :
    (runInstalled (programs (depth + 1))
      ⟨"/bin/sh", ["-c", String.intercalate " && " (cs.map Command.text)]⟩).run freshHost =
        (.ok (((cs.map (commandStatus (programs depth))).find? (· ≠ 0)).getD 0 : Nat),
          freshHost) := by
  have hclean : hasNul ⟨"/bin/sh", ["-c", String.intercalate " && " (cs.map Command.text)]⟩ =
      false := by
    have hchain := nul_notMem_chain hnul
    rw [hasNul_eq_false_iff]
    simp only [List.mem_cons, List.not_mem_nil, or_false]
    rintro word (rfl | rfl | rfl)
    · decide
    · decide
    · exact hchain
  have hprogram : programOf (programs (depth + 1)) freshHost
      ⟨"/bin/sh", ["-c", String.intercalate " && " (cs.map Command.text)]⟩ =
        .ok fun arguments =>
          { status := Shell.status (commandStatus (programs depth)) arguments } := by
    rw [programOf, hclean, findProgram_shell]
    rfl
  rw [runInstalled_eq hprogram, ← Shell.scriptStatus_chain _ ["sh"] h]
  rfl

end Guestkeeper.Host.Simulation
