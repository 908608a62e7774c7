import Guestkeeper.Proofs.Record.RoundTrip
import Guestkeeper.Proofs.Table
import Guestkeeper.Store

set_option autoImplicit false

/-! # Stores as finite maps

What a store is meant to be: a finite map from identifiers to machines. Calls are answered from
the map alone, without files or paths, but that a stored machine knows where its record is.
-/

namespace Guestkeeper

/-- Machines by their identifiers. -/
abbrev Registry := Table Machine.id

namespace Store

/-- A call of one of the store's operations. The machines that are handed over are such as come
about, and a record may be any bytes. -/
inductive Call
  | insert (m : Machine) (arises : Record.Arises m)
  | put (m : Machine) (arises : Record.Arises m)
  | delete (id : Uuid)
  | importRecord (bytes : ByteArray) (replace : Bool)
  | get (id : Uuid)
  | find (key : String)
  | list
  | exportRecord (id : Uuid)
  | exists? (id : Uuid)

/-- What a call that succeeds gives. -/
inductive Reply
  | machine (m : Machine)
  | machines (ms : List Machine)
  | record (bytes : ByteArray)
  | known (isKnown : Bool)
  | deleted

section

variable {m : Type → Type} [Monad m] [Host.Files m]

/-- Makes a call. -/
def Call.make (s : Store) : Call → ExceptT Error m Reply
  | .insert machine _ => do return .machine (← s.insert machine)
  | .put machine _ => do return .machine (← s.put machine)
  | .delete id => do
    s.delete id
    return .deleted
  | .importRecord bytes replace => do return .machine (← s.importRecord bytes replace)
  | .get id => do return .machine (← s.get id)
  | .find key => do return .machine (← s.find key)
  | .list => do return .machines (← s.list)
  | .exportRecord id => do return .record (← s.exportRecord id)
  | .exists? id => do return .known (← ExceptT.lift (s.exists? id))

/-- Makes calls one after another, whether they succeed or not. -/
def makeAll (s : Store) : List Call → m (List (Except Error Reply))
  | [] => pure []
  | call :: rest => do
    let answer ← (call.make s).run
    let answers ← makeAll s rest
    return answer :: answers

end

end Store

namespace Registry

/-- The last machine that was stored under the identifier. -/
def get (r : Registry) (id : Uuid) : Except Error Machine :=
  match r.find? id with
  | some m => .ok m
  | none => .error (.nonexistent .machine [id.text])

/-- Every machine, by name and identifier. -/
def listing (r : Registry) : List Machine := r.entries.mergeSort Store.listedBefore

def find (r : Registry) (key : String) : Except Error Machine :=
  match Uuid.ofText? key with
  | some id => r.get id
  | none => Store.findNamed r.listing key

/-- The machine, with the path at which the store keeps its record. -/
def kept (s : Store) (m : Machine) : Machine := m.withSource (s.recordPath m.id)

def put (s : Store) (r : Registry) (m : Machine) : Except Error Machine × Registry :=
  (.ok (kept s m), r.insert (kept s m))

def insert (s : Store) (r : Registry) (m : Machine) : Except Error Machine × Registry :=
  if r.contains m.id then (.error (.duplicate .machine m.id.text), r)
  else if ∃ other ∈ r.entries, other.name = m.name then
    (.error (.duplicate .machineName m.name), r)
  else r.put s m

def replace (s : Store) (r : Registry) (m : Machine) : Except Error Machine × Registry :=
  if ∃ other ∈ r.entries, other.id ≠ m.id ∧ other.name = m.name then
    (.error (.duplicate .machineName m.name), r)
  else r.put s m

def without (r : Registry) (id : Uuid) : Registry := r.filter fun m => m.id ≠ id

def delete (r : Registry) (id : Uuid) : Except Error Unit × Registry :=
  if r.contains id then (.ok (), r.without id)
  else (.error (.nonexistent .machine [id.text]), r)

def importRecord (s : Store) (r : Registry) (bytes : ByteArray) (replacing : Bool) :
    Except Error Machine × Registry :=
  match Record.decode bytes with
  | .error e => (.error e, r)
  | .ok m => if replacing then r.replace s m else r.insert s m

/-- The outcome with what its success is replied with. -/
def replying {α : Type} (f : α → Store.Reply) (outcome : Except Error α × Registry) :
    Except Error Store.Reply × Registry := (outcome.1.map f, outcome.2)

/-- The answer to a call, and the map after it. -/
def answer (s : Store) (r : Registry) : Store.Call → Except Error Store.Reply × Registry
  | .insert m _ => replying .machine (r.insert s m)
  | .put m _ => replying .machine (r.put s m)
  | .delete id => replying (fun _ => .deleted) (r.delete id)
  | .importRecord bytes replacing => replying .machine (r.importRecord s bytes replacing)
  | .get id => replying .machine (r.get id, r)
  | .find key => replying .machine (r.find key, r)
  | .list => (.ok (.machines r.listing), r)
  | .exportRecord id => replying (fun m => .record (Record.encode m)) (r.get id, r)
  | .exists? id => (.ok (.known (r.contains id)), r)

/-- The answers to calls that are made one after another, and the map after them. -/
def answerAll (s : Store) (r : Registry) :
    List Store.Call → List (Except Error Store.Reply) × Registry
  | [] => ([], r)
  | call :: rest =>
    let (first, r) := r.answer s call
    let (answers, r) := answerAll s r rest
    (first :: answers, r)

/-! ## What calls do to the map -/

section

variable {s : Store} {r : Registry}

theorem find?_without (r : Registry) (id other : Uuid) :
    (r.without id).find? other = if id = other then none else r.find? other := by
  rw [without, Table.find?_filter]
  cases hother : r.find? other with
  | none => simp
  | some m =>
      have hid : m.id = other := (Table.find?_eq_some_iff.1 hother).2
      by_cases h : id = other
      · simp [hid, h]
      · simp [hid, h, Ne.symm h]

theorem find?_put {m : Machine} {id : Uuid} :
    (r.put s m).2.find? id = if m.id = id then some (kept s m) else r.find? id :=
  Table.find?_insert r (kept s m) id

/-- An outcome that concerns one identifier: a failure leaves the map as it is, and nothing else
is ever changed. -/
structure Concerns {α : Type} (r : Registry) (id : Uuid) (outcome : Except Error α × Registry) :
    Prop where
  others : ∀ other, other ≠ id → outcome.2.find? other = r.find? other
  failed : ∀ e, outcome.1 = .error e → outcome.2 = r

theorem Concerns.of_error {α : Type} {id : Uuid} {e : Error} :
    r.Concerns id ((.error e : Except Error α), r) := ⟨fun _ _ => rfl, fun _ _ => rfl⟩

theorem concerns_put (s : Store) (r : Registry) (m : Machine) : r.Concerns m.id (r.put s m) := by
  refine ⟨fun other hother => ?_, fun e he => nomatch he⟩
  rw [find?_put, if_neg (Ne.symm hother)]

theorem concerns_insert (s : Store) (r : Registry) (m : Machine) :
    r.Concerns m.id (r.insert s m) := by
  rw [insert]
  split
  · exact .of_error
  · split
    · exact .of_error
    · exact concerns_put s r m

theorem concerns_replace (s : Store) (r : Registry) (m : Machine) :
    r.Concerns m.id (r.replace s m) := by
  rw [replace]
  split
  · exact .of_error
  · exact concerns_put s r m

theorem concerns_delete (r : Registry) (id : Uuid) : r.Concerns id (r.delete id) := by
  rw [delete]
  split
  · refine ⟨fun other hother => ?_, fun e he => nomatch he⟩
    rw [find?_without, if_neg (Ne.symm hother)]
  · exact .of_error

theorem Concerns.replying {α : Type} {id : Uuid} {outcome : Except Error α × Registry}
    {f : α → Store.Reply} (h : r.Concerns id outcome) : r.Concerns id (replying f outcome) :=
  ⟨h.others, fun e he => h.failed e (Except.map_eq_error_iff.1 he)⟩

end

end Registry

/-- The identifier that a call is about, if it may change anything. -/
def Store.Call.target? : Store.Call → Option Uuid
  | .insert m _ | .put m _ => some m.id
  | .delete id => some id
  | .importRecord bytes _ => (Record.decode bytes).toOption.map Machine.id
  | .get _ | .find _ | .list | .exportRecord _ | .exists? _ => none

/-- A call changes nothing but what it is about, and nothing if it fails. -/
theorem Registry.answer_keeps (s : Store) (r : Registry) (call : Store.Call) :
    (∀ id, call.target? ≠ some id → (r.answer s call).2.find? id = r.find? id) ∧
      ∀ e, (r.answer s call).1 = .error e → (r.answer s call).2 = r := by
  have hof : ∀ (id : Uuid) (outcome : Except Error Store.Reply × Registry),
      r.Concerns id outcome → (∀ other, some id ≠ some other →
        outcome.2.find? other = r.find? other) ∧ ∀ e, outcome.1 = .error e → outcome.2 = r :=
    fun id outcome h => ⟨fun other hne => h.others other fun h' => hne (congrArg some h'.symm),
      h.failed⟩
  cases call with
  | insert m arises => exact hof m.id _ (concerns_insert s r m).replying
  | put m arises => exact hof m.id _ (concerns_put s r m).replying
  | delete id => exact hof id _ (concerns_delete r id).replying
  | importRecord bytes replacing =>
      rw [answer, importRecord, Store.Call.target?]
      cases Record.decode bytes with
      | error e => exact ⟨fun _ _ => rfl, fun _ _ => rfl⟩
      | ok m =>
          cases replacing with
          | true => exact hof m.id _ (concerns_replace s r m).replying
          | false => exact hof m.id _ (concerns_insert s r m).replying
  | get id => exact ⟨fun _ _ => rfl, fun _ _ => rfl⟩
  | find key => exact ⟨fun _ _ => rfl, fun _ _ => rfl⟩
  | list => exact ⟨fun _ _ => rfl, fun _ _ => rfl⟩
  | exportRecord id => exact ⟨fun _ _ => rfl, fun _ _ => rfl⟩
  | exists? id => exact ⟨fun _ _ => rfl, fun _ _ => rfl⟩

/-! ## Listings -/

/-- The order of listings, which compares names first and identifiers where names are equal. -/
def Store.order : Machine → Machine → Ordering :=
  compareLex (compareOn Machine.name) (compareOn Machine.id)

instance : Std.TransCmp Store.order := inferInstanceAs (Std.TransCmp (compareLex _ _))

namespace Store

theorem listedBefore_eq (a b : Machine) : listedBefore a b = (order a b).isLE := rfl

/-- A machine has its place before another in listings: by name or, where the names are the same,
by identifier. -/
def Precedes (a b : Machine) : Prop :=
  compare a.name b.name = .lt ∨ (a.name = b.name ∧ compare a.id b.id = .lt)

theorem precedes_iff {a b : Machine} : Precedes a b ↔ order a b = .lt := by
  have horder : order a b = (compare a.name b.name).then (compare a.id b.id) := rfl
  rw [Precedes, horder, Ordering.then_eq_lt, Std.LawfulEqCmp.compare_eq_iff_eq]

theorem eq_of_order_eq {a b : Machine} (h : order a b = .eq) : a.id = b.id :=
  Std.LawfulEqCmp.eq_of_compare (Ordering.then_eq_eq.1 h).2

theorem pairwise_mergeSort (machines : List Machine) :
    (machines.mergeSort listedBefore).Pairwise fun a b => listedBefore a b = true := by
  have hsorted : (machines.mergeSort fun a b => (order a b).isLE).Pairwise fun a b =>
      (order a b).isLE = true := Table.pairwise_mergeSort_isLE machines
  exact hsorted

/-- Machines in order are in strictly ascending order when each identifier is there once. -/
theorem pairwise_precedes_of_sorted {machines : List Machine}
    (hsorted : machines.Pairwise fun a b => listedBefore a b = true)
    (hids : machines.Pairwise fun a b => a.id ≠ b.id) : machines.Pairwise Precedes := by
  refine (hsorted.and hids).imp ?_
  rintro a b ⟨hle, hne⟩
  rw [precedes_iff]
  rw [listedBefore_eq] at hle
  cases horder : order a b with
  | lt => rfl
  | eq => exact absurd (eq_of_order_eq horder) hne
  | gt =>
      rw [horder] at hle
      cases hle

theorem not_precedes_of_precedes {a b : Machine} (h : Precedes a b) : ¬Precedes b a := by
  rw [precedes_iff] at h ⊢
  intro h'
  have hself : order a a = .eq := Std.ReflCmp.compare_self
  rw [Std.TransCmp.lt_trans h h'] at hself
  cases hself

/-- There is one listing of the same machines. -/
theorem eq_of_pairwise_precedes {xs ys : List Machine} (hx : xs.Pairwise Precedes)
    (hy : ys.Pairwise Precedes) (h : ∀ m, m ∈ xs ↔ m ∈ ys) : xs = ys :=
  Table.eq_of_pairwise_of_mem_iff (fun _ _ => not_precedes_of_precedes) hx hy h

end Store

namespace Registry

/-- Different machines of a map have different identifiers. -/
theorem pairwise_id_ne (r : Registry) : r.entries.Pairwise fun a b => a.id ≠ b.id := by
  exact r.ascending.imp fun hlt => Table.ne_of_compare_lt hlt

theorem eq_of_id_eq {r : Registry} {a b : Machine} (ha : a ∈ r.entries) (hb : b ∈ r.entries)
    (hid : a.id = b.id) : a = b := by
  have hfound := Table.find?_of_mem ha
  rw [hid, Table.find?_of_mem hb] at hfound
  exact (Option.some.inj hfound).symm

/-- A listing has every machine once and is in strictly ascending order. -/
theorem listing_ascending (r : Registry) : r.listing.Perm r.entries ∧
    r.listing.Pairwise fun a b => compare a.name b.name = .lt ∨
      (a.name = b.name ∧ compare a.id b.id = .lt) := by
  have hperm : r.listing.Perm r.entries := List.mergeSort_perm r.entries _
  have hne : r.listing.Pairwise fun a b => a.id ≠ b.id :=
    (hperm.pairwise_iff fun h => Ne.symm h).2 (pairwise_id_ne r)
  exact ⟨hperm, Store.pairwise_precedes_of_sorted (Store.pairwise_mergeSort r.entries) hne⟩

end Registry

end Guestkeeper
