import Guestkeeper.Proofs.Host.Runs
import Guestkeeper.Proofs.Outcome

set_option autoImplicit false

/-! # Runs on a calm host

A run that has ended is taken apart from its first question on: what was answered, and which run
there was on the tree after that. A calm host refuses nothing of its own, so the tree decides what
it answers, up to the order of names and the name parts that are drawn.
-/

namespace Guestkeeper.Host.Behavior

variable {h : Behavior} {α β ε : Type} {t t' : FileTree}

/-! ## Programs -/

theorem runs_pure {a b : α} (run : h.Runs (Pure.pure a) t b t') : b = a ∧ t' = t := by
  cases run
  exact ⟨rfl, rfl⟩

theorem runs_map {p : Dialogue α} {f : α → β} {b : β}
    (run : h.Runs (p >>= fun a => Pure.pure (f a)) t b t') : ∃ a, h.Runs p t a t' ∧ b = f a := by
  obtain ⟨a, t₁, hp, hf⟩ := runs_bind run
  obtain ⟨rfl, rfl⟩ := runs_pure hf
  exact ⟨a, hp, rfl⟩

/-- A program that may fail ends with its first failure or goes on after it. -/
theorem runs_exceptBind {x : ExceptT ε Dialogue α} {f : α → ExceptT ε Dialogue β} {r : Except ε β}
    (run : h.Runs (x >>= f).run t r t') :
    (∃ e, h.Runs x.run t (.error e) t' ∧ r = .error e) ∨
      ∃ a t₁, h.Runs x.run t (.ok a) t₁ ∧ h.Runs (f a).run t₁ r t' := by
  rw [ExceptT.run_bind] at run
  obtain ⟨result, t₁, hx, hf⟩ := runs_bind run
  cases result with
  | error e =>
      obtain ⟨rfl, rfl⟩ := runs_pure hf
      exact .inl ⟨e, hx, rfl⟩
  | ok a => exact .inr ⟨a, t₁, hx, hf⟩

theorem Runs.exceptBind {x : ExceptT ε Dialogue α} {f : α → ExceptT ε Dialogue β} {a : α}
    {t₁ : FileTree} {r : Except ε β} (hx : h.Runs x.run t (.ok a) t₁)
    (hf : h.Runs (f a).run t₁ r t') : h.Runs (x >>= f).run t r t' := by
  rw [ExceptT.run_bind]
  exact hx.bind hf

/-- What is done with a success can be settled without the host. -/
theorem runs_settle {x : ExceptT ε Dialogue α} {f : α → Except ε β} {r : Except ε β}
    (run : h.Runs (x >>= fun a => ExceptT.mk (Pure.pure (f a))).run t r t') :
    ∃ result, h.Runs x.run t result t' ∧ r = result.bind f := by
  rcases runs_exceptBind run with ⟨e, hx, rfl⟩ | ⟨a, t₁, hx, hf⟩
  · exact ⟨.error e, hx, rfl⟩
  · obtain ⟨rfl, rfl⟩ := runs_pure hf
    exact ⟨.ok a, hx, rfl⟩

theorem runs_exceptMap {x : ExceptT ε Dialogue α} {f : α → β} {r : Except ε β}
    (run : h.Runs (x >>= fun a => Pure.pure (f a)).run t r t') :
    ∃ result, h.Runs x.run t result t' ∧ r = result.map f := by
  rcases runs_exceptBind run with ⟨e, hx, rfl⟩ | ⟨a, t₁, hx, hf⟩
  · exact ⟨.error e, hx, rfl⟩
  · obtain ⟨rfl, rfl⟩ := runs_pure hf
    exact ⟨.ok a, hx, rfl⟩

theorem runs_lift {p : Dialogue α} {r : Except ε α}
    (run : h.Runs (ExceptT.lift p : ExceptT ε Dialogue α).run t r t') :
    ∃ a, h.Runs p t a t' ∧ r = .ok a := runs_map run

theorem runs_at? {path : String} {operation : Dialogue (Except Cause α)} {r : Except Error α}
    (run : h.Runs (at? path operation).run t r t') :
    ∃ result, h.Runs operation t result t' ∧ r = result.mapError (.io path) := runs_map run

/-! ## Questions -/

section Questions

variable {path : String} (hcalm : h.Calm)

include hcalm

/-- A calm host gives what the tree gives. -/
theorem gives_of_runs {q : Question} {answer : q.Answer}
    (run : h.Runs (Dialogue.asking q) t answer t') : h.Gives t q answer t' := by
  cases run with
  | ask answered rest =>
      cases rest
      cases answered with
      | given tree => exact tree
      | refused free refusal => exact absurd free (hcalm q)
      | brokenOff free refusal underway => exact absurd free (hcalm q)

theorem runs_read {answer : Except Cause ByteArray} (run : h.Runs (Files.read path) t answer t') :
    answer = t.read h.current path ∧ t' = t := gives_of_runs hcalm run

theorem runs_isThere {answer : Bool} (run : h.Runs (isThere path) t answer t') :
    answer = (t.stat h.current path).toBool ∧ t' = t := by
  obtain ⟨size, hsize, rfl⟩ := runs_map run
  obtain ⟨rfl, rfl⟩ : size = t.size h.current path ∧ t' = t := gives_of_runs hcalm hsize
  refine ⟨?_, rfl⟩
  rw [FileTree.size]
  cases t'.stat h.current path <;> rfl

theorem runs_list {answer : Except Cause (List String)}
    (run : h.Runs (Files.list path) t answer t') :
    (∃ order : List String → List String, (∀ names, (order names).Perm names) ∧
      answer = (t.list h.current path).map order) ∧ t' = t := gives_of_runs hcalm run

/-- A removal is made, or it is refused for the tree's reason and nothing happens. -/
theorem runs_remove {answer : Except Cause Unit} (run : h.Runs (Files.remove path) t answer t') :
    (answer = .ok () ∧ t.remove h.current path = .ok t') ∨
      ∃ cause, answer = .error cause ∧ t.remove h.current path = .error cause ∧ t' = t :=
  after_cases (gives_of_runs hcalm run)

theorem runs_print {text : String} {answer : Unit}
    (run : h.Runs (Terminal.print text) t answer t') : t' = t := gives_of_runs hcalm run

theorem runs_complain {text : String} {answer : Unit}
    (run : h.Runs (Terminal.complain text) t answer t') : t' = t := gives_of_runs hcalm run

theorem runs_freshId {answer : Uuid} (run : h.Runs Terminal.freshId t answer t') : t' = t :=
  gives_of_runs hcalm run

end Questions

end Guestkeeper.Host.Behavior
