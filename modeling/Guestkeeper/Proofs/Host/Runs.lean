import Guestkeeper.Host.FileTree
import Guestkeeper.Proofs.Host.Dialogue

set_option autoImplicit false

/-! # Runs of programs on a directory tree

A host keeps a directory tree and answers a program's questions about it. Where the tree decides
the answer, there is no choice: an operation does what it does to the tree, or is refused for the
tree's own reasons. A host is free in the order in which it lists names, in the identifiers and
the name parts that it hands out, and it may refuse some questions for reasons that are not in the
tree, as a full disk does. What is being written at that moment may then be there in part.

`Runs` says how a program can end, and `Passes` which trees there are on the way, so that an
interruption leaves one of them. Statements about programs are put together along the program with
`Ensures`.
-/

namespace Guestkeeper.Host

/-- A short text of letters, digits and dots, as hosts hand them out for names of files. -/
def IsSuffix (text : String) : Prop :=
  text.toList.length ≤ 13 ∧ ∀ c ∈ text.toList, c.isAlphanum = true ∨ c = '.'

/-- How a host answers where the tree leaves it a choice. -/
structure Behavior where
  /-- The current directory. -/
  current : List String
  /-- Which name parts may be handed out. -/
  draws : FileTree → String → Prop
  isSuffix_of_draws : ∀ {t : FileTree} {suffix : String}, draws t suffix → IsSuffix suffix
  exists_draws : ∀ t : FileTree, ∃ suffix, draws t suffix
  /-- Which questions may be refused though the tree gives no reason. -/
  refuses : Question → Prop

/-- The tree with a change made, or why the tree does not allow it. -/
def Change.made (t : FileTree) (current : List String) : Change → Except Cause FileTree
  | .create path => t.create current path
  | .createNew path => t.createNew current path
  | .setLength path length => t.setLength current path length
  | .rename path newPath => t.rename current path newPath
  | .remove path => t.remove current path

/-- The answer to a change with this outcome, and the tree after it. -/
def FileTree.after (t : FileTree) : Except Cause FileTree → Except Cause Unit × FileTree
  | .ok made => (.ok (), made)
  | .error cause => (.error cause, t)

/-- A question is refused with a cause. Some questions cannot be. -/
def Question.IsRefusal : (q : Question) → q.Answer → Prop
  | .size _, answer => ∃ cause, answer = .error cause
  | .read _, answer => ∃ cause, answer = .error cause
  | .list _, answer => ∃ cause, answer = .error cause
  | .sync _, answer | .change _, answer | .append _ _, answer | .createDirectories _, answer =>
    ∃ cause, answer = .error cause
  | .freshSuffix, _ | .print _, _ | .complain _, _ | .freshId, _ => False

namespace Behavior

variable (h : Behavior)

/-- A host that refuses nothing without a reason in the tree. -/
def Calm : Prop := ∀ q, ¬h.refuses q

end Behavior

/-- A host that hands out name parts as they are drawn for drafts: a dot before twelve letters or
digits, any of them. -/
def Behavior.plain (current : List String) (refuses : Question → Prop) : Behavior where
  current := current
  draws _ suffix := ∃ cs : List Char, cs.length = 12 ∧ (∀ c ∈ cs, c.isAlphanum = true) ∧
    suffix = String.ofList ('.' :: cs)
  isSuffix_of_draws := by
    rintro _ _ ⟨cs, hlength, hchars, rfl⟩
    rw [IsSuffix, String.toList_ofList, List.length_cons, hlength]
    refine ⟨by decide, fun c hc => ?_⟩
    rcases List.mem_cons.1 hc with rfl | hc
    · exact .inr rfl
    · exact .inl (hchars c hc)
  exists_draws _ := by
    refine ⟨_, List.replicate 12 '0', rfl, fun c hc => ?_, rfl⟩
    rw [List.eq_of_mem_replicate hc]
    rfl
  refuses := refuses

theorem Behavior.calm_plain (current : List String) :
    (Behavior.plain current fun _ => False).Calm :=
  fun _ h => h

namespace Behavior

variable (h : Behavior)

/-- The answers that the tree gives, with the tree afterwards. -/
def Gives (t : FileTree) : (q : Question) → q.Answer → FileTree → Prop
  | .size path, answer, t' => answer = t.size h.current path ∧ t' = t
  | .read path, answer, t' => answer = t.read h.current path ∧ t' = t
  | .list path, answer, t' =>
    (∃ order : List String → List String, (∀ names, (order names).Perm names) ∧
      answer = (t.list h.current path).map order) ∧ t' = t
  | .sync path, answer, t' => answer = (t.stat h.current path).map (fun _ => ()) ∧ t' = t
  | .change c, answer, t' => (answer, t') = t.after (c.made t h.current)
  | .append path bytes, answer, t' => (answer, t') = t.after (t.append h.current path bytes)
  | .createDirectories path, answer, t' => (answer, t') = t.createDirectories h.current path
  | .freshSuffix, suffix, t' => h.draws t suffix ∧ t' = t
  | .print _, _, t' | .complain _, _, t' | .freshId, _, t' => t' = t

/-- The trees that there can be while a question is being answered: of what is to be written, the
first bytes are there. -/
inductive Underway (t : FileTree) : Question → FileTree → Prop
  | written {path : String} {bytes : ByteArray} {t' : FileTree} (count : Nat)
      (first : t.append h.current path (bytes.extract 0 count) = .ok t') :
      Underway t (.append path bytes) t'

/-- The answers that the host may give. -/
inductive Answers (t : FileTree) (q : Question) (answer : q.Answer) : FileTree → Prop
  | given {t' : FileTree} (tree : h.Gives t q answer t') : Answers t q answer t'
  | refused (free : h.refuses q) (refusal : q.IsRefusal answer) : Answers t q answer t
  | brokenOff {t' : FileTree} (free : h.refuses q) (refusal : q.IsRefusal answer)
      (underway : h.Underway t q t') : Answers t q answer t'

/-- A program that is started on a tree can end with a result and leave a tree. -/
inductive Runs {α : Type} : Dialogue α → FileTree → α → FileTree → Prop
  | done (a : α) (t : FileTree) : Runs (.done a) t a t
  | ask {q : Question} {next : q.Answer → Dialogue α} {t t₁ t' : FileTree} {answer : q.Answer}
      {a : α} (answered : h.Answers t q answer t₁) (rest : Runs (next answer) t₁ a t') :
      Runs (.ask q next) t a t'

/-- A program that is started on a tree can be interrupted when there is another tree. -/
inductive Passes {α : Type} : Dialogue α → FileTree → FileTree → Prop
  | here (p : Dialogue α) (t : FileTree) : Passes p t t
  | underway {q : Question} {next : q.Answer → Dialogue α} {t t' : FileTree}
      (begun : h.Underway t q t') : Passes (.ask q next) t t'
  | ask {q : Question} {next : q.Answer → Dialogue α} {t t₁ t' : FileTree} {answer : q.Answer}
      (answered : h.Answers t q answer t₁) (rest : Passes (next answer) t₁ t') :
      Passes (.ask q next) t t'

/-- The trees on the way of `p` are such that `seen` holds of them, and the ends such that `post`
does. -/
structure Ensures {α : Type} (seen : FileTree → Prop) (p : Dialogue α) (t : FileTree)
    (post : α → FileTree → Prop) : Prop where
  seen : ∀ {t' : FileTree}, h.Passes p t t' → seen t'
  post : ∀ {a : α} {t' : FileTree}, h.Runs p t a t' → post a t'

/-- The same for a program that may fail: `ok` holds of its successes and `failed` of its
failures. -/
def Tries {ε α : Type} (seen : FileTree → Prop) (x : ExceptT ε Dialogue α) (t : FileTree)
    (ok : α → FileTree → Prop) (failed : ε → FileTree → Prop) : Prop :=
  h.Ensures seen x.run t fun r t' =>
    match r with
    | .ok a => ok a t'
    | .error e => failed e t'

/-! ## Programs end -/

variable {h}

theorem exists_gives (t : FileTree) (q : Question) : ∃ answer t', h.Gives t q answer t' := by
  cases q with
  | freshSuffix =>
      obtain ⟨suffix, hsuffix⟩ := h.exists_draws t
      exact ⟨suffix, t, hsuffix, rfl⟩
  | print text => exact ⟨(), t, rfl⟩
  | complain text => exact ⟨(), t, rfl⟩
  | freshId => exact ⟨⟨0, by decide⟩, t, rfl⟩
  | list path => exact ⟨_, t, ⟨id, fun _ => .refl _, rfl⟩, rfl⟩
  | size path => exact ⟨_, t, rfl, rfl⟩
  | read path => exact ⟨_, t, rfl, rfl⟩
  | sync path => exact ⟨_, t, rfl, rfl⟩
  | change c => exact ⟨_, _, rfl⟩
  | append path bytes => exact ⟨_, _, rfl⟩
  | createDirectories path => exact ⟨_, _, rfl⟩

/-- Every program comes to an end, from every tree. -/
theorem exists_runs {α : Type} (p : Dialogue α) (t : FileTree) : ∃ a t', h.Runs p t a t' := by
  induction p generalizing t with
  | done a => exact ⟨a, t, .done a t⟩
  | ask q next ih =>
      obtain ⟨answer, t₁, hanswer⟩ := exists_gives (h := h) t q
      obtain ⟨a, t', hrest⟩ := ih answer t₁
      exact ⟨a, t', .ask (.given hanswer) hrest⟩

/-- The tree at the end of a run is one of those on its way. -/
theorem Runs.passes {α : Type} {p : Dialogue α} {t t' : FileTree} {a : α}
    (run : h.Runs p t a t') : h.Passes p t t' := by
  induction run with
  | done a t => exact .here _ t
  | ask answered _ ih => exact .ask answered ih

/-! ## Programs in order -/

section Bind

variable {α β : Type} {p : Dialogue α} {f : α → Dialogue β} {t t' : FileTree} {b : β}

theorem runs_bind (run : h.Runs (p >>= f) t b t') :
    ∃ a t₁, h.Runs p t a t₁ ∧ h.Runs (f a) t₁ b t' := by
  induction p generalizing t with
  | done a => exact ⟨a, t, .done a t, run⟩
  | ask q next ih =>
      cases run with
      | ask answered rest =>
          obtain ⟨a, t₁, hp, hf⟩ := ih _ rest
          exact ⟨a, t₁, .ask answered hp, hf⟩

/-- Runs of two programs, the second from where the first ended, are one run. -/
theorem Runs.bind {t₁ : FileTree} {a : α} (hp : h.Runs p t a t₁) (hf : h.Runs (f a) t₁ b t') :
    h.Runs (p >>= f) t b t' := by
  induction hp with
  | done => exact hf
  | ask answered _ ih => exact .ask answered (ih hf)

theorem passes_bind (pass : h.Passes (p >>= f) t t') :
    h.Passes p t t' ∨ ∃ a t₁, h.Runs p t a t₁ ∧ h.Passes (f a) t₁ t' := by
  induction p generalizing t with
  | done a => exact .inr ⟨a, t, .done a t, pass⟩
  | ask q next ih =>
      cases pass with
      | here => exact .inl (.here _ _)
      | underway begun => exact .inl (.underway begun)
      | ask answered rest =>
          rcases ih _ rest with hp | ⟨a, t₁, hp, hf⟩
          · exact .inl (.ask answered hp)
          · exact .inr ⟨a, t₁, .ask answered hp, hf⟩

end Bind

namespace Ensures

variable {α β : Type} {seen : FileTree → Prop} {t : FileTree}

theorem done {a : α} {post : α → FileTree → Prop} (hseen : seen t) (hpost : post a t) :
    h.Ensures seen (.done a) t post := by
  constructor
  · intro t' pass
    cases pass
    exact hseen
  · intro b t' run
    cases run
    exact hpost

theorem mono {p : Dialogue α} {post post' : α → FileTree → Prop}
    (hp : h.Ensures seen p t post) (himp : ∀ a t', seen t' → post a t' → post' a t') :
    h.Ensures seen p t post' :=
  ⟨hp.seen, fun run => himp _ _ (hp.seen run.passes) (hp.post run)⟩

theorem monoSeen {seen' : FileTree → Prop} {p : Dialogue α} {post : α → FileTree → Prop}
    (hp : h.Ensures seen p t post) (himp : ∀ t', seen t' → seen' t') :
    h.Ensures seen' p t post :=
  ⟨fun pass => himp _ (hp.seen pass), hp.post⟩

theorem bind {p : Dialogue α} {f : α → Dialogue β} {mid : α → FileTree → Prop}
    {post : β → FileTree → Prop} (hp : h.Ensures seen p t mid)
    (hf : ∀ a t', seen t' → mid a t' → h.Ensures seen (f a) t' post) :
    h.Ensures seen (p >>= f) t post := by
  have hnext : ∀ a t₁, h.Runs p t a t₁ → h.Ensures seen (f a) t₁ post :=
    fun a t₁ run => hf a t₁ (hp.seen run.passes) (hp.post run)
  constructor
  · intro t' pass
    rcases passes_bind pass with pass | ⟨a, t₁, run, pass⟩
    · exact hp.seen pass
    · exact (hnext a t₁ run).seen pass
  · intro b t' run
    obtain ⟨a, t₁, run, rest⟩ := runs_bind run
    exact (hnext a t₁ run).post rest

/-- One question. -/
theorem asking {q : Question} {post : q.Answer → FileTree → Prop} (hseen : seen t)
    (hunderway : ∀ t', h.Underway t q t' → seen t')
    (hanswer : ∀ answer t', h.Answers t q answer t' → seen t' ∧ post answer t') :
    h.Ensures seen (Dialogue.asking q) t post := by
  constructor
  · intro t' pass
    cases pass with
    | here => exact hseen
    | underway begun => exact hunderway t' begun
    | ask answered rest =>
        cases rest
        exact (hanswer _ _ answered).1
  · intro a t' run
    cases run with
    | ask answered rest =>
        cases rest
        exact (hanswer _ _ answered).2

end Ensures

namespace Tries

variable {α β ε : Type} {seen : FileTree → Prop} {t : FileTree} {x : ExceptT ε Dialogue α}
  {ok : α → FileTree → Prop} {failed : ε → FileTree → Prop}

theorem post (hx : h.Tries seen x t ok failed) {r : Except ε α} {t' : FileTree}
    (run : h.Runs x.run t r t') :
    (∃ a, r = .ok a ∧ ok a t') ∨ ∃ e, r = .error e ∧ failed e t' := by
  have hr := Ensures.post hx run
  cases r with
  | ok a => exact .inl ⟨a, rfl, hr⟩
  | error e => exact .inr ⟨e, rfl, hr⟩

theorem pure {a : α} (hseen : seen t) (hok : ok a t) :
    h.Tries seen (Pure.pure a : ExceptT ε Dialogue α) t ok failed :=
  Ensures.done hseen hok

theorem mono {ok' : α → FileTree → Prop} {failed' : ε → FileTree → Prop}
    (hx : h.Tries seen x t ok failed) (hok : ∀ a t', seen t' → ok a t' → ok' a t')
    (hfailed : ∀ e t', seen t' → failed e t' → failed' e t') :
    h.Tries seen x t ok' failed' :=
  Ensures.mono hx fun r t' hseen hr => match r with
    | .ok a => hok a t' hseen hr
    | .error e => hfailed e t' hseen hr

theorem monoSeen {seen' : FileTree → Prop} (hx : h.Tries seen x t ok failed)
    (himp : ∀ t', seen t' → seen' t') : h.Tries seen' x t ok failed :=
  Ensures.monoSeen hx himp

/-- The program goes on after a success; a failure is its end. -/
theorem bind {f : α → ExceptT ε Dialogue β} {ok' : β → FileTree → Prop}
    (hx : h.Tries seen x t ok failed)
    (hf : ∀ a t', seen t' → ok a t' → h.Tries seen (f a) t' ok' failed) :
    h.Tries seen (x >>= f) t ok' failed := by
  rw [Tries, ExceptT.run_bind]
  refine Ensures.bind hx fun r t' hseen hr => ?_
  cases r with
  | error e => exact .done hseen hr
  | ok a => exact hf a t' hseen hr

/-- What cannot fail. -/
theorem lift {p : Dialogue α} (hp : h.Ensures seen p t ok) :
    h.Tries seen (ExceptT.lift p : ExceptT ε Dialogue α) t ok failed :=
  Ensures.bind hp fun _ _ hseen hok => .done hseen hok

/-- A failure of the host is reported with the path. -/
theorem at? {path : String} {operation : Dialogue (Except Cause α)}
    {failed : Error → FileTree → Prop}
    (hoperation : h.Tries seen (ExceptT.mk operation : ExceptT Cause Dialogue α) t ok
      fun cause t' => failed (.io path cause) t') :
    h.Tries seen (at? path operation) t ok failed := by
  refine Ensures.bind hoperation fun r t' hseen hr => .done hseen ?_
  cases r with
  | ok a => exact hr
  | error cause => exact hr

end Tries

/-! ## Single questions -/

theorem after_cases {t t' : FileTree} {outcome : Except Cause FileTree}
    {answer : Except Cause Unit} (hafter : (answer, t') = t.after outcome) :
    (answer = .ok () ∧ outcome = .ok t') ∨
      ∃ cause, answer = .error cause ∧ outcome = .error cause ∧ t' = t := by
  cases outcome with
  | ok made =>
      obtain ⟨rfl, rfl⟩ := Prod.mk.inj hafter
      exact .inl ⟨rfl, rfl⟩
  | error cause =>
      obtain ⟨rfl, rfl⟩ := Prod.mk.inj hafter
      exact .inr ⟨cause, rfl, rfl, rfl⟩

section Questions

variable {seen : FileTree → Prop} {t : FileTree} {path newPath : String}
  {ok : Unit → FileTree → Prop} {failed : Cause → FileTree → Prop}

/-- A change is made, or it is refused and the tree stays as it is. -/
theorem tries_change {c : Change} (hseen : seen t)
    (hok : ∀ t', c.made t h.current = .ok t' → seen t' ∧ ok () t')
    (hfailed : ∀ cause, h.refuses (.change c) ∨ c.made t h.current = .error cause →
      failed cause t) :
    h.Tries seen (ExceptT.mk (Dialogue.asking (.change c))) t ok failed := by
  refine Ensures.asking hseen (fun t' hunderway => nomatch hunderway) fun answer t' ha => ?_
  cases ha with
  | given tree =>
      rcases after_cases tree with ⟨rfl, hmade⟩ | ⟨cause, rfl, hrefused, rfl⟩
      · exact hok t' hmade
      · exact ⟨hseen, hfailed cause (.inr hrefused)⟩
  | refused free refusal =>
      obtain ⟨cause, rfl⟩ := refusal
      exact ⟨hseen, hfailed cause (.inl free)⟩
  | brokenOff free refusal underway => cases underway

/-- Of what was to be written, any first part may be there when the question is refused. -/
theorem tries_append {bytes : ByteArray} (hseen : seen t)
    (hok : ∀ t', t.append h.current path bytes = .ok t' → seen t' ∧ ok () t')
    (hpart : ∀ count t', t.append h.current path (bytes.extract 0 count) = .ok t' →
      seen t' ∧ (h.refuses (.append path bytes) → ∀ cause, failed cause t'))
    (hfailed : ∀ cause, h.refuses (.append path bytes) ∨
      t.append h.current path bytes = .error cause → failed cause t) :
    h.Tries seen (ExceptT.mk (Files.append path bytes)) t ok failed := by
  refine Ensures.asking hseen (fun t' hunderway => ?_) fun answer t' ha => ?_
  · cases hunderway with
    | written count first => exact (hpart count t' first).1
  · cases ha with
    | given tree =>
        rcases after_cases tree with ⟨rfl, hmade⟩ | ⟨cause, rfl, hrefused, rfl⟩
        · exact hok t' hmade
        · exact ⟨hseen, hfailed cause (.inr hrefused)⟩
    | refused free refusal =>
        obtain ⟨cause, rfl⟩ := refusal
        exact ⟨hseen, hfailed cause (.inl free)⟩
    | brokenOff free refusal underway =>
        obtain ⟨cause, rfl⟩ := refusal
        cases underway with
        | written count first =>
            exact (hpart count t' first).imp_right fun hall => hall free cause

theorem tries_sync (hseen : seen t) (hok : ok () t)
    (hfailed : ∀ cause, h.refuses (.sync path) ∨ t.stat h.current path = .error cause →
      failed cause t) :
    h.Tries seen (ExceptT.mk (Files.sync path)) t ok failed := by
  refine Ensures.asking hseen (fun t' hunderway => nomatch hunderway) fun answer t' ha => ?_
  cases ha with
  | given tree =>
      obtain ⟨rfl, rfl⟩ := tree
      cases hstat : t'.stat h.current path with
      | ok content => exact ⟨hseen, hok⟩
      | error cause => exact ⟨hseen, hfailed cause (.inr hstat)⟩
  | refused free refusal =>
      obtain ⟨cause, rfl⟩ := refusal
      exact ⟨hseen, hfailed cause (.inl free)⟩
  | brokenOff free refusal underway => cases underway

end Questions

theorem ensures_freshSuffix {seen : FileTree → Prop} {t : FileTree} (hseen : seen t) :
    h.Ensures seen Files.freshSuffix t fun suffix t' => h.draws t suffix ∧ t' = t := by
  refine Ensures.asking hseen (fun t' hunderway => nomatch hunderway) fun suffix t' ha => ?_
  cases ha with
  | given tree =>
      obtain ⟨hdraws, rfl⟩ := tree
      exact ⟨hseen, hdraws, rfl⟩
  | refused free refusal => exact refusal.elim
  | brokenOff free refusal underway => cases underway

end Behavior

end Guestkeeper.Host
