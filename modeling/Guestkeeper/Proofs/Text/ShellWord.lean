import Guestkeeper.Text.ShellWord

set_option autoImplicit false

/-! # Words read back

A word that was quoted is read as itself, whatever its characters are. A word that was not quoted
is read as itself only if it has none of the characters that the splitter treats in its own way.

The second half is shown by counting. Splitting never yields more characters than there are, and
every quote and every backslash is lost, unless it was quoted itself.
-/

namespace Guestkeeper.Text

/-- The splitter takes the character as it is, also outside of quotes. -/
def isSafeChar (c : Char) : Bool := !separatesWords c && c != '\'' && c != '\\'

/-- All characters of the text are taken as they are. -/
def isSafe (text : String) : Bool := text.toList.all isSafeChar

theorem isSafeChar_eq_true_iff {c : Char} :
    isSafeChar c = true ↔ separatesWords c = false ∧ c ≠ '\'' ∧ c ≠ '\\' := by
  simp [isSafeChar, and_assoc]

theorem isSafeChar_of_isPlainChar {c : Char} (h : isPlainChar c = true) :
    isSafeChar c = true := by
  rw [isSafeChar_eq_true_iff]
  refine ⟨?_, ?_, ?_⟩
  · rw [← Bool.not_eq_true, separatesWords]
    intro hblank
    simp only [Bool.or_eq_true, decide_eq_true_eq] at hblank
    rcases hblank with (rfl | rfl) | rfl <;> exact absurd h (by decide)
  · rintro rfl
    exact absurd h (by decide)
  · rintro rfl
    exact absurd h (by decide)

theorem isPlainWord_eq_true_iff {cs : List Char} :
    isPlainWord cs = true ↔ cs ≠ [] ∧ ∀ c ∈ cs, isPlainChar c = true := by
  rw [isPlainWord, Bool.and_eq_true, List.all_eq_true]
  cases cs <;> simp

/-! ## Single steps of the splitter -/

@[simp] theorem WordScan.done_between : WordScan.between.done = [] := rfl

@[simp] theorem WordScan.done_word (cs : List Char) : (WordScan.word cs).done = cs := rfl

@[simp] theorem WordScan.done_quoted (cs : List Char) : (WordScan.quoted cs).done = cs := rfl

section Steps

variable {done cs : List Char} {c : Char}

/-- Inside a word, a character that is no backslash is a quote, a blank or part of the word. -/
theorem splitWords_cons (hslash : c ≠ '\\') :
    splitWords (.word done) (c :: cs) = if c = '\'' then splitWords (.quoted done) cs
      else if separatesWords c then (splitWords .between cs).map (done.reverse :: ·)
      else splitWords (.word (c :: done)) cs := by
  rw [splitWords.eq_def]
  simp [hslash]
  rfl

theorem splitWords_quote :
    splitWords (.word done) ('\'' :: cs) = splitWords (.quoted done) cs := by
  rw [splitWords_cons (by decide), if_pos rfl]

theorem splitWords_safe (h : isSafeChar c = true) :
    splitWords (.word done) (c :: cs) = splitWords (.word (c :: done)) cs := by
  obtain ⟨hblank, hquote, hslash⟩ := isSafeChar_eq_true_iff.1 h
  rw [splitWords_cons hslash, if_neg hquote, hblank]
  rfl

theorem splitWords_blank (h : separatesWords c = true) :
    splitWords (.word done) (c :: cs) = (splitWords .between cs).map (done.reverse :: ·) := by
  have hslash : c ≠ '\\' := by
    rintro rfl
    cases h
  have hquote : c ≠ '\'' := by
    rintro rfl
    cases h
  rw [splitWords_cons hslash, if_neg hquote, if_pos h]

theorem splitWords_backslash :
    splitWords (.word done) ('\\' :: c :: cs) = splitWords (.word (c :: done)) cs := by
  rw [splitWords.eq_def]
  rfl

/-- A word begins with any character that is no blank. -/
theorem splitWords_between (h : separatesWords c = false) :
    splitWords .between (c :: cs) = splitWords (.word []) (c :: cs) := by
  by_cases hslash : c = '\\'
  · subst hslash
    cases cs with
    | nil => rfl
    | cons d ds => rw [splitWords.eq_def, splitWords.eq_def]; rfl
  · rw [splitWords_cons hslash, splitWords.eq_def]
    simp [hslash, h]

end Steps

/-! ## How much is read

Splitting loses every quote, so the words are no longer than what is left. -/

/-- As many characters as the words have with a blank after each. -/
def spread (ws : List (List Char)) : Nat := ws.flatten.length + ws.length

theorem spread_cons (w : List Char) (ws : List (List Char)) :
    spread (w :: ws) = w.length + 1 + spread ws := by
  simp only [spread, List.flatten_cons, List.length_append, List.length_cons]
  omega

theorem spread_finish_le (scan : WordScan) (ws : List (List Char)) :
    spread (scan.finish ws) ≤ scan.done.length + 1 + spread ws := by
  cases scan with
  | between => exact Nat.le_add_left _ _
  | word done => rw [WordScan.finish, spread_cons, List.length_reverse]; exact Nat.le_refl _
  | quoted done => rw [WordScan.finish, spread_cons, List.length_reverse]; exact Nat.le_refl _

theorem count_quote_cons_of_ne {c : Char} (h : c ≠ '\'') (cs : List Char) :
    (c :: cs).count '\'' = cs.count '\'' := List.count_cons_of_ne h

theorem count_quote_cons_le (c : Char) (cs : List Char) :
    (c :: cs).count '\'' ≤ cs.count '\'' + 1 := by
  rw [List.count_cons]
  split <;> omega

theorem spread_le {scan : WordScan} {cs : List Char} {ws : List (List Char)}
    (h : splitWords scan cs = some ws) :
    spread ws + cs.count '\'' ≤ scan.done.length + cs.length + 1 := by
  -- one case for each branch of the splitter
  fun_induction splitWords scan cs generalizing ws with
  | case1 done => cases h
  | case2 done cs ih =>
      -- the quote that ends a quoted part is lost
      have hrest := ih h
      have hcount := count_quote_cons_le '\'' cs
      simp only [WordScan.done_word, WordScan.done_quoted, List.length_cons] at hrest ⊢
      omega
  | case3 done c cs hc ih =>
      -- a quoted character is kept
      have hrest := ih h
      have hcount := count_quote_cons_of_ne hc cs
      simp only [WordScan.done_quoted, List.length_cons] at hrest ⊢
      omega
  | case4 scan hscan =>
      obtain rfl := Option.some.inj h
      have hfinish := spread_finish_le scan []
      have hnil : spread [] = 0 := rfl
      simp only [List.count_nil, List.length_nil]
      omega
  | case5 scan hscan => cases h
  | case6 scan c cs hscan ih =>
      -- the backslash is lost, and the character behind it may be a quote that is kept
      have hrest := ih h
      have hcount := count_quote_cons_le c cs
      have hslash := count_quote_cons_of_ne (c := '\\') (by decide) (c :: cs)
      simp only [WordScan.done_word, List.length_cons] at hrest ⊢
      omega
  | case7 scan cs hscan hlast hslash ih =>
      -- the quote that begins a quoted part is lost
      have hrest := ih h
      have hcount := count_quote_cons_le '\'' cs
      simp only [WordScan.done_quoted, List.length_cons] at hrest ⊢
      omega
  | case8 scan c cs hscan hlast hslash hc hblank ih =>
      -- a blank is counted for the word that it ends
      obtain ⟨more, hmore, rfl⟩ := Option.map_eq_some_iff.1 h
      have hrest := ih hmore
      have hfinish := spread_finish_le scan more
      have hcount := count_quote_cons_of_ne hc cs
      simp only [WordScan.done_between, List.length_cons, List.length_nil] at hrest ⊢
      omega
  | case9 scan c cs hscan hlast hslash hc hblank ih =>
      -- any other character becomes part of the word
      have hrest := ih h
      have hcount := count_quote_cons_of_ne hc cs
      simp only [WordScan.done_word, List.length_cons] at hrest ⊢
      omega

/-! ## Quoted words -/

/-- In any word that has been begun, the characters `cs` are read as `w`. -/
def ReadsAs (cs w : List Char) : Prop :=
  ∀ done rest, splitWords (.word done) (cs ++ rest) = splitWords (.word (w.reverse ++ done)) rest

theorem readsAs_of_safe {cs : List Char} (h : ∀ c ∈ cs, isSafeChar c = true) : ReadsAs cs cs := by
  induction cs with
  | nil => exact fun done rest => rfl
  | cons c cs ih =>
      intro done rest
      rw [List.cons_append, splitWords_safe (h c List.mem_cons_self),
        ih (fun d hd => h d (List.mem_cons_of_mem c hd)), List.reverse_cons, List.append_assoc]
      rfl

/-- Between quotes, the characters of a word stand for themselves. -/
theorem splitWords_quoted (w done rest : List Char) :
    splitWords (.quoted done) (w.flatMap quotedChar ++ '\'' :: rest) =
      splitWords (.word (w.reverse ++ done)) rest := by
  induction w generalizing done with
  | nil => rw [List.flatMap_nil, List.nil_append, splitWords, if_pos rfl]; rfl
  | cons c w ih =>
      rw [List.flatMap_cons, List.append_assoc, List.reverse_cons, List.append_assoc]
      by_cases hc : c = '\''
      · -- the quote ends the quoted part, stands behind a backslash and begins the next part
        subst hc
        show splitWords (.quoted done) ('\'' :: '\\' :: '\'' :: '\'' :: _) = _
        rw [splitWords, if_pos rfl, splitWords_backslash, splitWords_quote]
        exact ih _
      · rw [quotedChar, if_neg hc]
        show splitWords (.quoted done) (c :: _) = _
        rw [splitWords, if_neg hc]
        exact ih _

theorem readsAs_quoteList (w : List Char) : ReadsAs (quoteList w) w := by
  by_cases hplain : isPlainWord w = true
  · rw [quoteList, if_pos hplain]
    obtain ⟨-, hchars⟩ := isPlainWord_eq_true_iff.1 hplain
    exact readsAs_of_safe fun c hc => isSafeChar_of_isPlainChar (hchars c hc)
  · intro done rest
    rw [quoteList, if_neg hplain, List.append_assoc]
    show splitWords (.word done) ('\'' :: _) = _
    rw [splitWords_quote]
    exact splitWords_quoted w done rest

theorem length_flatMap_quotedChar (w : List Char) : (w.flatMap quotedChar).length =
    w.length + (w.flatMap quotedChar).count '\'' := by
  induction w with
  | nil => rfl
  | cons c w ih =>
      rw [List.flatMap_cons, List.length_append, List.count_append, ih, List.length_cons]
      by_cases hc : c = '\''
      · subst hc
        have hone : (quotedChar '\'').length = 4 ∧ (quotedChar '\'').count '\'' = 3 := by decide
        omega
      · have hone : (quotedChar c).length = 1 ∧ (quotedChar c).count '\'' = 0 := by
          rw [quotedChar, if_neg hc]
          exact ⟨rfl, List.count_eq_zero.2 fun h => hc (List.mem_singleton.1 h).symm⟩
        omega

/-- Quoting adds nothing but quotes, except for a backslash where it has added three of them. -/
theorem length_quoteList (w : List Char) :
    (quoteList w).length = w.length + (quoteList w).count '\'' := by
  rw [quoteList]
  split
  · next hplain =>
      obtain ⟨-, hchars⟩ := isPlainWord_eq_true_iff.1 hplain
      have hnone : w.count '\'' = 0 := by
        rw [List.count_eq_zero]
        intro hmem
        exact absurd (hchars _ hmem) (by decide)
      omega
  · have hw := length_flatMap_quotedChar w
    rw [List.count_append, List.count_cons_self, List.length_append, List.length_cons]
    have hlast : ['\''].length = 1 ∧ ['\''].count '\'' = 1 := by decide
    omega

/-- A quoted word does not begin with a blank. -/
theorem exists_quoteList_eq_cons (w : List Char) :
    ∃ c cs, quoteList w = c :: cs ∧ separatesWords c = false := by
  rw [quoteList]
  split
  · next hplain =>
      obtain ⟨hne, hchars⟩ := isPlainWord_eq_true_iff.1 hplain
      obtain ⟨c, cs, rfl⟩ := List.exists_cons_of_ne_nil hne
      have hc := isSafeChar_of_isPlainChar (hchars c List.mem_cons_self)
      exact ⟨c, cs, rfl, (isSafeChar_eq_true_iff.1 hc).1⟩
  · exact ⟨'\'', _, rfl, rfl⟩

/-! ## Lines of words -/

/-- Quoted words with a blank before each. -/
def quotedTail (ws : List (List Char)) : List Char := ws.flatMap fun w => ' ' :: quoteList w

/-- A quoted word begins a word and is read as it was before it was quoted. -/
theorem splitWords_quoteList (w rest : List Char) :
    splitWords .between (quoteList w ++ rest) = splitWords (.word w.reverse) rest := by
  obtain ⟨c, cs, hcs, hc⟩ := exists_quoteList_eq_cons w
  have hbegin : splitWords .between (quoteList w ++ rest) =
      splitWords (.word []) (quoteList w ++ rest) := by
    rw [hcs]
    exact splitWords_between hc
  rw [hbegin, readsAs_quoteList w, List.append_nil]

theorem splitWords_quotedTail (done : List Char) (ws : List (List Char)) :
    splitWords (.word done) (quotedTail ws) = some (done.reverse :: ws) := by
  induction ws generalizing done with
  | nil => rfl
  | cons w ws ih =>
      show splitWords (.word done) (' ' :: (quoteList w ++ quotedTail ws)) = _
      rw [splitWords_blank rfl, splitWords_quoteList, ih, List.reverse_reverse]
      rfl

theorem spread_quotedTail (ws : List (List Char)) :
    (quotedTail ws).length = spread ws + (quotedTail ws).count '\'' := by
  induction ws with
  | nil => rfl
  | cons w ws ih =>
      have hw := length_quoteList w
      have hcons : quotedTail (w :: ws) = ' ' :: (quoteList w ++ quotedTail ws) := rfl
      rw [hcons, spread_cons, count_quote_cons_of_ne (by decide), List.count_append,
        List.length_cons, List.length_append]
      omega

/-- Neither plain characters nor quoted words behind them begin with a quote. -/
theorem ne_quote_of_append_eq_cons {cs rest : List Char} {ws : List (List Char)} {c : Char}
    (hcs : '\'' ∉ cs) (h : cs ++ quotedTail ws = c :: rest) : c ≠ '\'' := by
  rintro rfl
  cases cs with
  | nil =>
      cases ws with
      | nil => cases h
      | cons w ws => exact absurd (List.cons.inj h).1 (by decide)
  | cons d cs => exact hcs ((List.cons.inj h).1 ▸ List.mem_cons_self)

/-- A backslash is lost, so what is read is shorter than what was written. -/
theorem splitWords_backslash_ne {done cs : List Char} {ws : List (List Char)}
    (hquotes : '\'' ∉ cs) : splitWords (.word done) ('\\' :: (cs ++ quotedTail ws)) ≠
      some ((done.reverse ++ '\\' :: cs) :: ws) := by
  intro h
  cases hrest : cs ++ quotedTail ws with
  | nil =>
      rw [hrest] at h
      cases h
  | cons c rest =>
      have hc := ne_quote_of_append_eq_cons hquotes hrest
      rw [hrest, splitWords_backslash] at h
      have hle := spread_le h
      have hspread := spread_cons (done.reverse ++ '\\' :: cs) ws
      have htail := spread_quotedTail ws
      have hlength := congrArg List.length hrest
      have hcount := congrArg (List.count '\'') hrest
      rw [List.count_append, List.count_eq_zero.2 hquotes, count_quote_cons_of_ne hc] at hcount
      simp only [WordScan.done_word, List.length_append, List.length_reverse,
        List.length_cons] at hle hspread hlength
      omega

/-- A blank ends the word before it. -/
theorem splitWords_blank_ne {done cs rest : List Char} {ws : List (List Char)} {c : Char}
    (hblank : separatesWords c = true) : splitWords (.word done) (c :: rest) ≠
      some ((done.reverse ++ c :: cs) :: ws) := by
  intro h
  rw [splitWords_blank hblank] at h
  obtain ⟨more, -, hmore⟩ := Option.map_eq_some_iff.1 h
  have hword := congrArg List.length (List.cons.inj hmore).1
  simp only [List.length_append, List.length_reverse, List.length_cons] at hword
  omega

/-- Characters that are read into a word as they are, with quoted words behind them, need no
quotes. -/
theorem forall_safe_of_splitWords {done cs : List Char} {ws : List (List Char)}
    (hquotes : '\'' ∉ cs)
    (h : splitWords (.word done) (cs ++ quotedTail ws) = some ((done.reverse ++ cs) :: ws)) :
    ∀ c ∈ cs, isSafeChar c = true := by
  induction cs generalizing done with
  | nil => exact List.forall_mem_nil _
  | cons d cs ih =>
      rw [List.mem_cons, not_or] at hquotes
      obtain ⟨hd, hcs⟩ := hquotes
      rw [List.cons_append] at h
      have hsafe : isSafeChar d = true := by
        rw [isSafeChar_eq_true_iff, ← Bool.not_eq_true]
        refine ⟨fun hblank => splitWords_blank_ne hblank h, Ne.symm hd, ?_⟩
        rintro rfl
        exact splitWords_backslash_ne hcs h
      have hdone : done.reverse ++ d :: cs = (d :: done).reverse ++ cs := by
        rw [List.reverse_cons, List.append_assoc]
        rfl
      rw [splitWords_safe hsafe, hdone] at h
      exact List.forall_mem_cons.2 ⟨hsafe, ih hcs h⟩

/-- A text that was not quoted is read back, with quoted words behind it, exactly if all of its
characters are taken as they are. -/
theorem splitWords_quotedTail_iff {c : Char} {cs : List Char} {ws : List (List Char)}
    (hc : separatesWords c = false) :
    splitWords .between (c :: cs ++ quotedTail ws) = some ((c :: cs) :: ws) ↔
      ∀ d ∈ c :: cs, isSafeChar d = true := by
  have hbegin : splitWords .between (c :: cs ++ quotedTail ws) =
      splitWords (.word []) (c :: cs ++ quotedTail ws) := splitWords_between hc
  constructor
  · intro h
    -- a quote would be lost, and the words would have fewer characters than they are to have
    have hquotes : '\'' ∉ c :: cs := by
      have hle := spread_le h
      have hspread := spread_cons (c :: cs) ws
      have htail := spread_quotedTail ws
      rw [List.count_append, List.length_append, WordScan.done_between, List.length_nil] at hle
      rw [← List.count_eq_zero]
      omega
    rw [hbegin] at h
    exact forall_safe_of_splitWords hquotes h
  · intro h
    rw [hbegin, readsAs_of_safe h, splitWords_quotedTail, List.append_nil, List.reverse_reverse]

theorem words_eq_some_iff {text : String} {ws : List String} :
    words text = some ws ↔ splitWords .between text.toList = some (ws.map String.toList) := by
  rw [words, Option.map_eq_some_iff]
  constructor
  · rintro ⟨read, hread, rfl⟩
    rw [hread, List.map_map]
    simp [Function.comp_def]
  · intro h
    refine ⟨_, h, ?_⟩
    rw [List.map_map]
    simp [Function.comp_def]

/-- A word that needs no quotes is read before a blank. -/
theorem splitWords_word {w rest : List Char} (hne : w ≠ []) (h : ∀ c ∈ w, isSafeChar c = true) :
    splitWords .between (w ++ ' ' :: rest) = (splitWords .between rest).map (w :: ·) := by
  cases w with
  | nil => exact absurd rfl hne
  | cons c cs =>
      have hc : separatesWords c = false :=
        (isSafeChar_eq_true_iff.1 (h c List.mem_cons_self)).1
      have hbegin : splitWords .between (c :: cs ++ ' ' :: rest) =
          splitWords (.word []) (c :: cs ++ ' ' :: rest) := splitWords_between hc
      rw [hbegin, readsAs_of_safe h, splitWords_blank rfl, List.append_nil, List.reverse_reverse]

/-! ## Lines as texts -/

theorem toList_quote (w : String) : (quote w).toList = quoteList w.toList := by
  rw [quote, String.toList_ofList]

theorem toList_intercalate_quote (loc : String) (args : List String) :
    (String.intercalate " " (loc :: args.map quote)).toList =
      loc.toList ++ quotedTail (args.map String.toList) := by
  induction args generalizing loc with
  | nil => simp [quotedTail]
  | cons a args ih =>
      rw [List.map_cons, String.intercalate_cons_cons, String.toList_append,
        String.toList_append, ih, toList_quote]
      simp [quotedTail]

/-- A line of words without quotes, a text that was not quoted, and quoted words. -/
def mixedLine (front : List String) (loc : String) (args : List String) : String :=
  String.intercalate " " (front ++ loc :: args.map quote)

theorem toList_mixedLine (front : List String) (loc : String) (args : List String) :
    (mixedLine front loc args).toList = (front.flatMap fun w => w.toList ++ [' ']) ++
      (loc.toList ++ quotedTail (args.map String.toList)) := by
  induction front with
  | nil => exact toList_intercalate_quote loc args
  | cons w front ih =>
      have hmore : front ++ loc :: args.map quote ≠ [] := by simp
      rw [mixedLine, List.cons_append, String.intercalate_cons_of_ne_nil hmore,
        String.toList_append, String.toList_append, List.flatMap_cons, List.append_assoc,
        List.append_assoc, ← ih, List.append_assoc]
      rfl

theorem splitWords_front_iff {front : List String} {rest : List Char} {ws : List (List Char)}
    (hfront : ∀ w ∈ front, w ≠ "" ∧ isSafe w = true) :
    splitWords .between ((front.flatMap fun w => w.toList ++ [' ']) ++ rest) =
        some (front.map String.toList ++ ws) ↔
      splitWords .between rest = some ws := by
  induction front with
  | nil => rfl
  | cons w front ih =>
      obtain ⟨hne, hsafe⟩ := hfront w List.mem_cons_self
      have hchars : w.toList ≠ [] := fun h => hne (String.toList_eq_nil_iff.1 h)
      have hcons : ((w :: front).flatMap fun w => w.toList ++ [' ']) ++ rest =
          w.toList ++ ' ' :: ((front.flatMap fun w => w.toList ++ [' ']) ++ rest) := by
        simp
      rw [hcons, splitWords_word hchars (List.all_eq_true.1 hsafe),
        ← ih fun v hv => hfront v (List.mem_cons_of_mem w hv), Option.map_eq_some_iff]
      constructor
      · rintro ⟨read, hread, hcons⟩
        rw [hread, (List.cons.inj hcons).2]
        rfl
      · intro h
        exact ⟨_, h, rfl⟩

/-- The words of such a line are read back exactly if the text that was not quoted needs no
quotes. -/
theorem words_mixedLine_iff {front args : List String} {loc : String}
    (hfront : ∀ w ∈ front, w ≠ "" ∧ isSafe w = true)
    (hloc : ∃ c cs, loc.toList = c :: cs ∧ separatesWords c = false) :
    words (mixedLine front loc args) = some (front ++ loc :: args) ↔ isSafe loc = true := by
  obtain ⟨c, cs, hcs, hc⟩ := hloc
  rw [words_eq_some_iff, toList_mixedLine, List.map_append, splitWords_front_iff hfront, isSafe,
    List.all_eq_true, List.map_cons, hcs]
  exact splitWords_quotedTail_iff hc

example : words (mixedLine ["linux"] "(hd0,msdos1)/vmlinuz" ["it's", ""]) =
    some ["linux", "(hd0,msdos1)/vmlinuz", "it's", ""] := by decide

example : words (mixedLine ["linux"] "(hd0,msdos1)/my kernel" []) =
    some ["linux", "(hd0,msdos1)/my", "kernel"] := by decide

/-! ## Characters of a line -/

theorem mem_quoteList {w : List Char} {c : Char} (h : c ∈ quoteList w) :
    c ∈ w ∨ c = '\'' ∨ c = '\\' := by
  rw [quoteList] at h
  split at h
  · exact .inl h
  · rcases List.mem_append.1 h with h | h
    · rcases List.mem_cons.1 h with h | h
      · exact .inr (.inl h)
      · obtain ⟨d, hd, hc⟩ := List.mem_flatMap.1 h
        rw [quotedChar] at hc
        split at hc
        · -- a quote is written with quotes and a backslash
          simp only [List.mem_cons, List.not_mem_nil, or_false] at hc
          rcases hc with hc | hc | hc | hc
          · exact .inr (.inl hc)
          · exact .inr (.inr hc)
          · exact .inr (.inl hc)
          · exact .inr (.inl hc)
        · rw [List.mem_singleton] at hc
          exact .inl (hc ▸ hd)
    · exact .inr (.inl (List.mem_singleton.1 h))

theorem notMem_of_isSafe {text : String} (h : isSafe text = true) : '\n' ∉ text.toList := by
  intro hmem
  exact absurd (List.all_eq_true.1 h _ hmem) (by decide)

/-- Only the text that was not quoted can bring newlines into a line. -/
theorem count_newline_mixedLine {front args : List String} (loc : String)
    (hfront : ∀ w ∈ front, isSafe w = true) (hargs : ∀ a ∈ args, '\n' ∉ a.toList) :
    (mixedLine front loc args).toList.count '\n' = loc.toList.count '\n' := by
  have hbefore : '\n' ∉ front.flatMap fun w => w.toList ++ [' '] := by
    rw [List.mem_flatMap]
    rintro ⟨w, hw, hmem⟩
    rcases List.mem_append.1 hmem with hmem | hmem
    · exact notMem_of_isSafe (hfront w hw) hmem
    · exact absurd hmem (by decide)
  have hbehind : '\n' ∉ quotedTail (args.map String.toList) := by
    rw [quotedTail, List.flatMap_map, List.mem_flatMap]
    rintro ⟨a, ha, hmem⟩
    rcases List.mem_cons.1 hmem with hmem | hmem
    · exact absurd hmem (by decide)
    · rcases mem_quoteList hmem with hmem | hmem | hmem
      · exact hargs a ha hmem
      · exact absurd hmem (by decide)
      · exact absurd hmem (by decide)
  rw [toList_mixedLine, List.count_append, List.count_append, List.count_eq_zero.2 hbefore,
    List.count_eq_zero.2 hbehind, Nat.zero_add, Nat.add_zero]

end Guestkeeper.Text
