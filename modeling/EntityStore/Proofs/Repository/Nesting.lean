import EntityStore.Proofs.Memory.Step
import EntityStore.Proofs.Repository.Operation
import EntityStore.Sample.Schema
import Mathlib.Data.List.TakeWhile

/-!
# Nested transactions

The body of a transaction does operations in any order, sets savepoints, goes back to them and
releases them, opens nested transactions, and goes on as it sees fit when any of these fails. On
the store in memory, a transaction with such a body is all or nothing, and so is each nested one.

What carries the induction over the body is the stack of savepoints: those that were set before
the body began stay at the bottom, and those above them have the names that the body knows of.
None of these is a name that a nested transaction gives, so that a nested transaction finds its
own savepoint again.
-/

namespace EntityStore

variable {σ ε α β : Type}

/-! ## Bodies of transactions -/

/-- The name is kept for nested transactions. -/
def Reserved (name : String) : Prop := "gpa_sp_".toList <+: name.toList

theorem reserved_savepointName (n : Nat) : Reserved (savepointName n) := by
  rw [Reserved, savepointName, String.toList_append]
  exact List.prefix_append _ _

/-- The body of a transaction, which fails with an error or answers. The list has the names of
the savepoints that it has set and that are still there, the newest first; it may return to
these only. -/
inductive Program : List String → Type → Type → Type 1 where
  | finish {live : List String} {ε β : Type} (result : Except ε β) : Program live ε β
  | operate {live : List String} {ε β γ δ : Type} [Entity γ] (op : Operation γ δ)
      (next : δ → Program live ε β) : Program live ε β
  | save {live : List String} {ε β : Type} (name : String) (plain : ¬Reserved name)
      (next : Program (name :: live) ε β) (refused : Error → Program live ε β) :
      Program live ε β
  | rollbackTo {live : List String} {ε β : Type} (name : String) (set : name ∈ live)
      (next : Program (live.dropWhile (· ≠ name)) ε β) (refused : Error → Program live ε β) :
      Program live ε β
  | release {live : List String} {ε β : Type} (name : String) (set : name ∈ live)
      (next : Program (live.dropWhile (· ≠ name)).tail ε β) (refused : Error → Program live ε β) :
      Program live ε β
  | nest {live : List String} {ε β ε' β' : Type} (ofError : Error → ε') (options : TxOptions)
      (body : Program [] ε' β') (next : Except ε' β' → Program live ε β) : Program live ε β

namespace Program

/-- Goes on as an attempt went. -/
def proceed (act : Action σ Unit) (next : Attempt σ ε β) (refused : Error → Attempt σ ε β) :
    Attempt σ ε β := do
  match ← act.outcome with
  | .ok () => next
  | .error e => refused e

def run [Store σ] (t : Transaction α) {live : List String} {ε β : Type} :
    Program live ε β → Attempt σ ε β
  | .finish result => .ofExcept result
  | @operate _ _ _ γ _ _ op next => do
    let x ← ExceptT.lift (op.run (t.repository.forEntity γ))
    (next x).run t
  | .save name _ next refused =>
    proceed (t.savepoint name) (next.run t) fun e => (refused e).run t
  | .rollbackTo name _ next refused =>
    proceed (t.rollbackTo name) (next.run t) fun e => (refused e).run t
  | .release name _ next refused =>
    proceed (t.release name) (next.run t) fun e => (refused e).run t
  | .nest ofError options body next => do
    let result ← (t.repository.transaction ofError options fun t => body.run t).outcome
    (next result).run t

end Program

namespace Memory

open EntityStore.Transaction (named)

variable {id : Nat} {s s' s'' : Store} {base frames : List (String × Tables)} {t : Transaction}

/-! ## Steps in an open transaction -/

namespace Store

theorem openTransaction_set (opened : s.openTransaction id = .ok t) {t' : Transaction}
    (stillOpen : t'.closed = false) (changed : s'.transactions = s.transactions.set id t') :
    s'.openTransaction id = .ok t' := by
  obtain ⟨there, -⟩ := openTransaction_eq_ok.mp opened
  obtain ⟨below, -⟩ := List.getElem?_eq_some_iff.mp there
  rw [openTransaction_eq_ok, changed]
  exact ⟨List.getElem?_set_self below, stillOpen⟩

theorem control_of_open (opened : s.openTransaction id = .ok t) {c : Control} {t' : Transaction}
    {published : Option Tables} (stepped : step t c = .ok (t', published)) :
    s.control id c = (.ok (), (s.publish published).setTransaction id t') := by
  rw [control, opened]
  dsimp only
  rw [stepped]

/-- Requests in an open transaction change the tables that it works on and nothing else. -/
theorem leads_within {P : Step → Prop}
    (asks : ∀ st, P st → ∃ (α : Type) (r : Request α), st = .ask (.tx id) r)
    (opened : s.openTransaction id = .ok t) (leads : Leads P s s') :
    ∃ ts, s'.tables = s.tables ∧ s'.transactions = s.transactions.set id { t with working := ts } := by
  have stillOpen : t.closed = false := (openTransaction_eq_ok.mp opened).2
  refine leads.induction (I := fun s' => ∃ ts, s'.tables = s.tables ∧
    s'.transactions = s.transactions.set id { t with working := ts }) ?_ ?_
  · rintro u st allowed ⟨ts, tables, transactions⟩
    obtain ⟨α, r, rfl⟩ := asks st allowed
    have change := change_next u (.ask (.tx id) r)
    generalize (Step.next u (.ask (.tx id) r)).tables = tables' at change ⊢
    generalize (Step.next u (.ask (.tx id) r)).transactions = transactions' at change ⊢
    cases change with
    | none => exact ⟨ts, tables, transactions⟩
    | @within _ _ _ ts' _ t' opened' answered =>
      have same : u.openTransaction id = .ok { t with working := ts } :=
        openTransaction_set opened stillOpen transactions
      rw [same] at opened'
      cases opened'
      exact ⟨ts', tables, by rw [transactions, List.set_set]⟩
  · exact ⟨t.working, rfl, (set_openTransaction opened).symm⟩

/-- The second store comes from the first by changes to one transaction, which is open, with
savepoints above given ones. -/
structure Reaches (id : Nat) (base : List (String × Tables)) (s s' : Store) (t : Transaction)
    (frames : List (String × Tables)) : Prop where
  opened : s'.openTransaction id = .ok t
  tables : s'.tables = s.tables
  others : s'.transactions = s.transactions.set id t
  stack : t.savepoints = base ++ frames
  plain : ∀ sp ∈ frames, ¬Reserved sp.1

theorem Reaches.trans {t' : Transaction} {frames' : List (String × Tables)}
    (first : Reaches id base s s' t frames) (second : Reaches id base s' s'' t' frames') :
    Reaches id base s s'' t' frames' where
  opened := second.opened
  tables := second.tables.trans first.tables
  others := by rw [second.others, first.others, List.set_set]
  stack := second.stack
  plain := second.plain

theorem reaches_of_set {s s' : Store} {t t' : Transaction}
    (opened : s.openTransaction id = .ok t) (stillOpen : t'.closed = false)
    (tables : s'.tables = s.tables) (others : s'.transactions = s.transactions.set id t')
    (stack : t'.savepoints = base ++ frames) (plain : ∀ sp ∈ frames, ¬Reserved sp.1) :
    Reaches id base s s' t' frames :=
  ⟨openTransaction_set opened stillOpen others, tables, others, stack, plain⟩

end Store

/-! ## Savepoints of a body -/

namespace Transaction

/-- The newest savepoint of a name that is among the upper ones is there. -/
theorem find?_above (base : List (String × Tables)) {name : String} (set : name ∈ (frames.map (·.1)).reverse) :
    ∃ older ts newer, frames = older ++ (name, ts) :: newer ∧ (∀ sp ∈ newer, sp.1 ≠ name) ∧
      find? name (base ++ frames) = some (base ++ older, ts) := by
  obtain ⟨sp, member, named⟩ := List.mem_map.mp (List.mem_reverse.mp set)
  -- the newest of that name is the first one from the end
  cases found : find? name frames with
  | none =>
    unfold find? at found
    split at found
    · rename_i exhausted
      have passed := List.dropWhile_eq_nil_iff.mp exhausted sp (List.mem_reverse.mpr member)
      exact absurd named (of_decide_eq_true passed)
    · cases found
  | some found' =>
    obtain ⟨older, ts⟩ := found'
    obtain ⟨newer, rfl, others⟩ := find?_eq_some.mp found
    refine ⟨older, ts, newer, rfl, others, find?_eq_some.mpr ⟨newer, ?_, others⟩⟩
    rw [List.append_assoc]

/-- Below the names that come before the first occurrence of one. -/
theorem dropWhile_names {older newer : List (String × Tables)} {name : String} {ts : Tables}
    (others : ∀ sp ∈ newer, sp.1 ≠ name) :
    ((older ++ (name, ts) :: newer).map (·.1)).reverse.dropWhile (· ≠ name) =
      name :: (older.map (·.1)).reverse := by
  rw [List.map_append, List.map_cons, List.reverse_append, List.reverse_cons, List.append_assoc,
    List.dropWhile_append_of_pos]
  · simp
  · intro other member
    obtain ⟨sp, inNewer, rfl⟩ := List.mem_map.mp (List.mem_reverse.mp member)
    exact decide_eq_true (others sp inNewer)

end Transaction

end Memory

/-! ## Runs -/

theorem run_fresh (s : Session σ) : (freshSavepoint : Attempt σ ε String).run.run s =
    (.ok (savepointName s.savepoints), { s with savepoints := s.savepoints + 1 }) := rfl

/-- In a transaction a further one is nested. -/
theorem transaction_within [Store σ] (tx : Transaction α) (ofError : Error → ε)
    (options : TxOptions) (body : Transaction α → Attempt σ ε β) :
    tx.repository.transaction ofError options body = Repository.nested tx ofError body := rfl

namespace Program

theorem run_proceed_ok {act : Action σ Unit} {next : Attempt σ ε β}
    {refused : Error → Attempt σ ε β} {s s' : Session σ} (ran : act.run.run s = (.ok (), s')) :
    (proceed act next refused).run.run s = next.run.run s' := by
  have outcome : (act.outcome : Attempt σ ε _).run.run s = (.ok (.ok ()), s') := by
    rw [run_outcome, ran]
  rw [proceed, run_bind_ok outcome]

theorem run_proceed_error {act : Action σ Unit} {next : Attempt σ ε β}
    {refused : Error → Attempt σ ε β} {s s' : Session σ} {e : Error}
    (ran : act.run.run s = (.error e, s')) :
    (proceed act next refused).run.run s = (refused e).run.run s' := by
  have outcome : (act.outcome : Attempt σ ε _).run.run s = (.ok (.error e), s') := by
    rw [run_outcome, ran]
  rw [proceed, run_bind_ok outcome]

theorem run_operate [Store σ] [Entity β] {γ δ : Type} (tx : Transaction α) {live : List String}
    (op : Operation β γ) (next : γ → Program live ε δ) (s : Session σ) :
    ((operate op next).run tx).run.run s =
      ((next ((op.run (tx.repository.forEntity β)).run s).1).run tx).run.run
        ((op.run (tx.repository.forEntity β)).run s).2 := rfl

end Program

namespace Memory

section

variable {s : Session Store} {id : Nat} {t t' : Transaction} {c : Control}

/-- The session in which a control of an open transaction leaves a session. -/
def steered (s : Session Store) (id : Nat) (c : Control) (t' : Transaction)
    (published : Option Tables) : Session Store :=
  { s with
    store := (s.store.publish published).setTransaction id t'
    journal := s.journal ++ [.asked c.verb] }

theorem run_steer_of_open {published : Option Tables}
    (opened : s.store.openTransaction id = .ok t)
    (stepped : Store.step t c = .ok (t', published)) :
    (EntityStore.Store.steer id c).run.run s = (.ok (), steered s id c t' published) := by
  have control : s.store.control id c =
      (.ok (), (s.store.publish published).setTransaction id t') :=
    Store.control_of_open opened stepped
  have reply : EntityStore.Store.control id c s.store =
      ⟨.ok (), (s.store.publish published).setTransaction id t', []⟩ := by
    change (⟨(s.store.control id c).1, (s.store.control id c).2, []⟩ : Reply Store Unit) = _
    rw [control]
  rw [run_steer, reply]
  rfl

/-- A control with a name is refused for its name, or it is taken. -/
theorem run_named_of_open {tx : EntityStore.Transaction α} {control : String → Control}
    {name : String} (opened : s.store.openTransaction tx.id = .ok t)
    (stepped : Store.step t (control name) = .ok (t', none)) :
    (∃ e, (tx.named control name).run.run s = (.error e, s)) ∨
      (tx.named control name).run.run s = (.ok (), steered s tx.id (control name) t' none) := by
  cases parsed : Query.ident name with
  | error e =>
    left
    have refused : (Attempt.ofExcept (Query.ident name) : Action Store _).run.run s =
        (.error e, s) := by rw [run_ofExcept, parsed]
    exact ⟨e, run_bind_error refused⟩
  | ok i =>
    right
    have accepted : (Attempt.ofExcept (Query.ident name) : Action Store _).run.run s =
        (.ok i, s) := by rw [run_ofExcept, parsed]
    rw [EntityStore.Transaction.named, run_bind_ok accepted, Action.steer, run_classified,
      run_steer_of_open opened stepped]
    rfl

end

/-! ## A nested transaction -/

section

variable {s left : Session Store} {id : Nat} {t final : Transaction} {observer : Observer}
  {frames : List (String × Tables)} {result : Except ε β}

/-- The session in which the body of a nested transaction starts. -/
def enterNested (s : Session Store) (id : Nat) (t : Transaction) : Session Store :=
  steered { s with savepoints := s.savepoints + 1 } id (.savepoint (savepointName s.savepoints))
    (t.save (savepointName s.savepoints)) none

/-- What a nested transaction makes of the one around it: it keeps the tables of its body if
that answers, and is undone if that fails. -/
def afterNested (t final : Transaction) : Except ε β → Transaction
  | .ok _ => { t with working := final.working }
  | .error _ => t

theorem savepoints_afterNested (result : Except ε β) :
    (afterNested t final result).savepoints = t.savepoints := by
  cases result <;> rfl

theorem closed_afterNested (result : Except ε β) :
    (afterNested t final result).closed = t.closed := by
  cases result <;> rfl

theorem reaches_enterNested (opened : s.store.openTransaction id = .ok t) :
    Store.Reaches id (t.save (savepointName s.savepoints)).savepoints s.store
      (enterNested s id t).store (t.save (savepointName s.savepoints)) [] :=
  Store.reaches_of_set opened (Store.openTransaction_eq_ok.mp opened).2 rfl rfl
    (List.append_nil _).symm nofun

/-- A nested transaction finds its own savepoint below those of its body. -/
theorem find?_nested {n : Nat}
    (stack : final.savepoints = (t.save (savepointName n)).savepoints ++ frames)
    (plain : ∀ sp ∈ frames, ¬Reserved sp.1) :
    Transaction.find? (savepointName n) final.savepoints = some (t.savepoints, t.working) := by
  refine Transaction.find?_eq_some.mpr ⟨frames, ?_, ?_⟩
  · rw [stack, Transaction.save, List.append_assoc]
    rfl
  · intro sp member same
    exact plain sp member (same ▸ reserved_savepointName n)

theorem step_release {u : Transaction} {name : String} {older : List (String × Tables)} {ts : Tables}
    (found : Transaction.find? name u.savepoints = some (older, ts)) :
    Store.step u (.release name) = .ok ({ u with savepoints := older }, none) := by
  rw [Store.step, Transaction.release, found]
  rfl

theorem step_rollbackTo {u : Transaction} {name : String} {older : List (String × Tables)}
    {ts : Tables} (found : Transaction.find? name u.savepoints = some (older, ts)) :
    Store.step u (.rollbackTo name) =
      .ok ({ u with working := ts, savepoints := older ++ [(name, ts)] }, none) := by
  rw [Store.step, Transaction.rollbackTo, found]
  rfl

theorem run_steerFor_of_open {ofError : Error → ε} {c : Control} {t' : Transaction}
    {published : Option Tables} (opened : s.store.openTransaction id = .ok t)
    (stepped : Store.step t c = .ok (t', published)) :
    (Repository.steerFor ofError id c).run.run s = (.ok (), steered s id c t' published) := by
  rw [Repository.steerFor, run_adapt, run_steer_of_open opened stepped]
  rfl

/-- Going back to a savepoint and releasing it undoes what was done since. -/
theorem run_undoNested {name : String} {older : List (String × Tables)} {ts : Tables}
    (opened : left.store.openTransaction id = .ok final)
    (found : Transaction.find? name final.savepoints = some (older, ts)) :
    ∃ after, (Repository.undoNested id name : Attempt Store ε Unit).run.run left = (.ok (), after) ∧
      after.store.tables = left.store.tables ∧
      after.store.transactions =
        left.store.transactions.set id { final with working := ts, savepoints := older } := by
  let undone : Transaction := { final with working := ts, savepoints := older ++ [(name, ts)] }
  let back := steered left id (.rollbackTo name) undone none
  let after := steered back id (.release name) { undone with savepoints := older } none
  have reopened : back.store.openTransaction id = .ok undone := by
    have stillOpen : undone.closed = false := (Store.openTransaction_eq_ok.mp opened).2
    exact Store.openTransaction_set opened stillOpen rfl
  have again : Transaction.find? name undone.savepoints = some (older, ts) :=
    Transaction.find?_eq_some.mpr ⟨[], rfl, nofun⟩
  have goingBack : (EntityStore.Store.steer id (.rollbackTo name)).run.run left = (.ok (), back) :=
    run_steer_of_open opened (step_rollbackTo found)
  have releasing : (EntityStore.Store.steer id (.release name)).run.run back = (.ok (), after) :=
    run_steer_of_open reopened (step_release again)
  have outcome : (Attempt.outcome (do
      EntityStore.Store.steer id (.rollbackTo name)
      EntityStore.Store.steer id (.release name)) : Attempt Store ε _).run.run left =
        (.ok (.ok ()), after) := by
    rw [run_outcome, run_bind_ok goingBack, releasing]
  refine ⟨after, ?_, rfl, List.set_set _⟩
  rw [Repository.undoNested, run_bind_ok outcome]
  rfl

/-- A nested transaction answers what its body answers, and changes the transaction around it
accordingly. -/
theorem run_nested (tx : EntityStore.Transaction α) (ofError : Error → ε)
    (body : EntityStore.Transaction α → Attempt Store ε β)
    (opened : s.store.openTransaction tx.id = .ok t)
    (ran : (body tx).run.run (enterNested s tx.id t) = (result, left))
    (reaches : Store.Reaches tx.id (t.save (savepointName s.savepoints)).savepoints
      (enterNested s tx.id t).store left.store final frames) :
    ∃ after, (Repository.nested tx ofError body).run.run s = (result, after) ∧
      after.store.tables = s.store.tables ∧
      after.store.transactions = s.store.transactions.set tx.id (afterNested t final result) := by
  have found := find?_nested reaches.stack reaches.plain
  have entering : (Repository.steerFor ofError tx.id (.savepoint (savepointName s.savepoints))).run.run
      { s with savepoints := s.savepoints + 1 } = (.ok (), enterNested s tx.id t) :=
    run_steerFor_of_open opened rfl
  have outcome : ((body tx).outcome : Attempt Store ε _).run.run (enterNested s tx.id t) =
      (.ok result, left) := by rw [run_outcome, ran]
  have stillOpen : t.closed = final.closed := by
    rw [(Store.openTransaction_eq_ok.mp opened).2, (Store.openTransaction_eq_ok.mp reaches.opened).2]
  have others : left.store.transactions = s.store.transactions.set tx.id final := by
    rw [reaches.others]
    exact List.set_set _
  rw [Repository.nested, run_bind_ok (run_fresh s), run_bind_ok entering, run_bind_ok outcome]
  cases result with
  | ok x =>
    have releasing : (Repository.steerFor ofError tx.id (.release (savepointName s.savepoints))).run.run
        left = _ := run_steerFor_of_open reaches.opened (step_release found)
    have same : { final with savepoints := t.savepoints } = afterNested t final (.ok x : Except ε β) :=
      congrArg (Transaction.mk final.working t.savepoints) stillOpen.symm
    refine ⟨_, run_bind_ok releasing, reaches.tables, ?_⟩
    change left.store.transactions.set tx.id _ = _
    rw [others, List.set_set, same]
  | error e =>
    obtain ⟨after, undoing, tables, transactions⟩ :=
      run_undoNested (ε := ε) reaches.opened found
    have same : { final with working := t.working, savepoints := t.savepoints } =
        afterNested t final (.error e : Except ε β) :=
      congrArg (Transaction.mk t.working t.savepoints) stillOpen.symm
    refine ⟨after, run_bind_ok undoing, tables.trans reaches.tables, ?_⟩
    rw [transactions, others, List.set_set, same]

end

/-! ## The savepoints of a body -/

/-- The transaction is open, and its savepoints are given ones and above them those of a body,
which knows of their names. -/
structure Stacked (base : List (String × Tables)) (live : List String) (t : Transaction)
    (frames : List (String × Tables)) : Prop where
  stillOpen : t.closed = false
  stack : t.savepoints = base ++ frames
  names : (frames.map (·.1)).reverse = live
  plain : ∀ sp ∈ frames, ¬Reserved sp.1

namespace Stacked

variable {base frames : List (String × Tables)} {live : List String} {t : Transaction} {name : String}

theorem of_start (stillOpen : t.closed = false) : Stacked t.savepoints [] t [] :=
  ⟨stillOpen, (List.append_nil _).symm, rfl, nofun⟩

theorem working (h : Stacked base live t frames) (ts : Tables) :
    Stacked base live { t with working := ts } frames :=
  ⟨h.stillOpen, h.stack, h.names, h.plain⟩

theorem afterNested (h : Stacked base live t frames) (final : Transaction) (result : Except ε β) :
    Stacked base live (afterNested t final result) frames where
  stillOpen := (closed_afterNested result).trans h.stillOpen
  stack := (savepoints_afterNested result).trans h.stack
  names := h.names
  plain := h.plain

theorem save (h : Stacked base live t frames) (unreserved : ¬Reserved name) :
    Stacked base (name :: live) (t.save name) (frames ++ [(name, t.working)]) where
  stillOpen := h.stillOpen
  stack := by rw [Transaction.save, h.stack, List.append_assoc]
  names := by
    rw [List.map_append, List.reverse_append, h.names]
    rfl
  plain := by
    intro sp member
    rcases List.mem_append.mp member with member | member
    · exact h.plain sp member
    · rwa [List.mem_singleton.mp member]

/-- A savepoint that the body knows of is found above the given ones. -/
theorem exists_found (h : Stacked base live t frames) (set : name ∈ live) :
    ∃ older ts, Transaction.find? name t.savepoints = some (base ++ older, ts) ∧
      live.dropWhile (· ≠ name) = name :: (older.map (·.1)).reverse ∧
      (∀ sp ∈ older, ¬Reserved sp.1) ∧ ¬Reserved name := by
  obtain ⟨-, stack, rfl, plain⟩ := h
  obtain ⟨older, ts, newer, rfl, others, found⟩ := Transaction.find?_above base set
  rw [← stack] at found
  refine ⟨older, ts, found, Transaction.dropWhile_names others, ?_, plain (name, ts) (by simp)⟩
  exact fun sp member => plain sp (List.mem_append_left _ member)

theorem release (h : Stacked base live t frames) (set : name ∈ live) :
    ∃ t' frames', Store.step t (.release name) = .ok (t', none) ∧
      Stacked base (live.dropWhile (· ≠ name)).tail t' frames' := by
  obtain ⟨older, ts, found, names, plain, -⟩ := h.exists_found set
  refine ⟨_, older, step_release found, h.stillOpen, rfl, ?_, plain⟩
  rw [names, List.tail_cons]

theorem rollbackTo (h : Stacked base live t frames) (set : name ∈ live) :
    ∃ t' frames', Store.step t (.rollbackTo name) = .ok (t', none) ∧
      Stacked base (live.dropWhile (· ≠ name)) t' frames' := by
  obtain ⟨older, ts, found, names, plain, unreserved⟩ := h.exists_found set
  -- to go back to a savepoint is to release it and to set it again
  have below : Stacked base (older.map (·.1)).reverse
      { t with working := ts, savepoints := base ++ older } older := ⟨h.stillOpen, rfl, rfl, plain⟩
  rw [names]
  exact ⟨_, _, step_rollbackTo found, below.save unreserved⟩

theorem reaches (h : Stacked base live t frames) {s s' : Store} {id : Nat} {u : Transaction}
    (opened : s.openTransaction id = .ok u) (tables : s'.tables = s.tables)
    (others : s'.transactions = s.transactions.set id t) :
    Store.Reaches id base s s' t frames :=
  Store.reaches_of_set opened h.stillOpen tables others h.stack h.plain

end Stacked

/-! ## Runs of bodies -/

def Store.Confined (id : Nat) (base : List (String × Tables)) (s s' : Store) : Prop :=
  ∃ t frames, Reaches id base s s' t frames

theorem Store.Reaches.confined {id : Nat} {base frames : List (String × Tables)} {s s' s'' : Store}
    {t : Transaction} (first : Reaches id base s s' t frames) (rest : Confined id base s' s'') :
    Confined id base s s'' := by
  obtain ⟨t', frames', second⟩ := rest
  exact ⟨t', frames', first.trans second⟩

section

variable {base frames : List (String × Tables)} {live : List String} {s : Session Store}
  {t : Transaction}

/-- A body goes on behind a control with a name, in the transaction that it leaves or, if it is
refused, as before. -/
theorem confined_proceed {tx : EntityStore.Transaction α} {control : String → Control}
    {name : String} {next : Attempt Store ε β} {refused : Error → Attempt Store ε β} {t' : Transaction}
    (opened : s.store.openTransaction tx.id = .ok t)
    (stepped : Store.step t (control name) = .ok (t', none)) (stacked : Stacked base live t' frames)
    (onward : ∀ s' : Session Store, s'.store.openTransaction tx.id = .ok t' →
      Store.Confined tx.id base s'.store (next.run.run s').2.store)
    (otherwise : ∀ e, Store.Confined tx.id base s.store ((refused e).run.run s).2.store) :
    Store.Confined tx.id base s.store
      ((Program.proceed (tx.named control name) next refused).run.run s).2.store := by
  rcases run_named_of_open opened stepped with ⟨e, declined⟩ | taken
  · rw [Program.run_proceed_error declined]
    exact otherwise e
  · rw [Program.run_proceed_ok taken]
    have moved : Store.Reaches tx.id base s.store (steered s tx.id (control name) t' none).store t' frames :=
      stacked.reaches opened rfl rfl
    exact moved.confined (onward _ moved.opened)

/-- The run of an operation changes the tables that its transaction works on. -/
theorem reaches_operate {γ δ : Type} [Entity γ] (op : Operation γ δ) {tx : EntityStore.Transaction α}
    (opened : s.store.openTransaction tx.id = .ok t) (stacked : Stacked base live t frames) :
    ∃ ts, Store.Reaches tx.id base s.store
      ((op.run (tx.repository.forEntity γ)).run s).2.store { t with working := ts } frames := by
  have leads := (op.takes_run (tx.repository.forEntity γ) op.gives_any s).1
  obtain ⟨ts, tables, others⟩ := Store.leads_within (fun _ own => own.asks) opened leads
  exact ⟨ts, (stacked.working ts).reaches opened tables others⟩

/-- A nested transaction changes no more than the one around it if its body does no more to that
one and leaves the savepoint that it is entered with. -/
theorem reaches_nested (tx : EntityStore.Transaction α) (ofError : Error → ε)
    (body : EntityStore.Transaction α → Attempt Store ε β)
    (opened : s.store.openTransaction tx.id = .ok t) (stacked : Stacked base live t frames)
    (inner : Store.Confined tx.id (t.save (savepointName s.savepoints)).savepoints
      (enterNested s tx.id t).store ((body tx).run.run (enterNested s tx.id t)).2.store) :
    ∃ result final after, (Repository.nested tx ofError body).run.run s = (result, after) ∧
      Store.Reaches tx.id base s.store after.store (afterNested t final result) frames := by
  obtain ⟨result, left, inside⟩ : ∃ result left,
      (body tx).run.run (enterNested s tx.id t) = (result, left) := ⟨_, _, rfl⟩
  rw [inside] at inner
  obtain ⟨final, frames', reaches⟩ := inner
  obtain ⟨after, ran, tables, transactions⟩ := run_nested tx ofError body opened inside reaches
  exact ⟨result, final, after, ran, (stacked.afterNested final result).reaches opened tables transactions⟩

end

/-- The run of a body that is entered with its savepoints above given ones changes nothing but
its transaction, leaves it open, and does not touch the savepoints below. -/
theorem confined_run {live : List String} (p : Program live ε β)
    (tx : EntityStore.Transaction α) {s : Session Store} {t : Transaction} {base frames : List (String × Tables)}
    (opened : s.store.openTransaction tx.id = .ok t) (stacked : Stacked base live t frames) :
    Store.Confined tx.id base s.store ((p.run tx).run.run s).2.store := by
  induction p generalizing s t base frames with
  | finish result =>
    rw [Program.run, run_ofExcept]
    exact ⟨t, frames, stacked.reaches opened rfl (Store.set_openTransaction opened).symm⟩
  | operate op next ih =>
    obtain ⟨ts, worked⟩ := reaches_operate op opened stacked
    rw [Program.run_operate]
    exact worked.confined (ih _ worked.opened (stacked.working ts))
  | save name unreserved next refused ihNext ihRefused =>
    have above := stacked.save unreserved
    exact confined_proceed opened rfl above (fun _ opened' => ihNext opened' above)
      fun e => ihRefused e opened stacked
  | rollbackTo name set next refused ihNext ihRefused =>
    obtain ⟨t', frames', stepped, back⟩ := stacked.rollbackTo set
    exact confined_proceed opened stepped back (fun _ opened' => ihNext opened' back)
      fun e => ihRefused e opened stacked
  | release name set next refused ihNext ihRefused =>
    obtain ⟨t', frames', stepped, below⟩ := stacked.release set
    exact confined_proceed opened stepped below (fun _ opened' => ihNext opened' below)
      fun e => ihRefused e opened stacked
  | @nest live ε β ε' β' ofError options body next ihBody ihNext =>
    have entered := (reaches_enterNested opened).opened
    have inner := ihBody entered (.of_start stacked.stillOpen)
    obtain ⟨result, final, after, ran, around⟩ :=
      reaches_nested tx ofError (fun tx => body.run tx) opened stacked inner
    have outcome : ((tx.repository.transaction ofError options fun tx => body.run tx).outcome :
        Attempt Store ε _).run.run s = (.ok result, after) := by
      rw [run_outcome, transaction_within, ran]
    rw [Program.run, run_bind_ok outcome]
    exact around.confined (ihNext result around.opened (stacked.afterNested final result))

/-! ## The outermost transaction -/

/-- The session in which the body of an outermost transaction starts. -/
def enterOutermost (s : Session Store) (options : TxOptions) : Session Store :=
  { s with
    store := s.store.begin.2
    journal := s.journal ++ [.asked .begin] ++ [.log (Repository.startedLine options)] }

/-- The tables that are committed behind an outermost transaction: those of its body if that
answers, and those from before if it fails. -/
def committed (before : Tables) (final : Transaction) : Except ε β → Tables
  | .ok _ => final.working
  | .error _ => before

theorem run_outermost (repo : Repository α) (ofError : Error → ε) (options : TxOptions)
    (body : EntityStore.Transaction α → Attempt Store ε β) {s left : Session Store}
    {result : Except ε β} {final : Transaction}
    (ran : (body ⟨s.store.begin.1, repo.observer⟩).run.run (enterOutermost s options) = (result, left))
    (opened : left.store.openTransaction s.store.begin.1 = .ok final) :
    ∃ after, (repo.outermost ofError options body).run.run s = (result, after) ∧
      after.store.tables = committed left.store.tables final result ∧
      after.store.transactions = left.store.transactions.set s.store.begin.1 .ended := by
  have starting : ((EntityStore.Store.start options).adapt (fun e => ofError e.classify) :
      Attempt Store ε Nat).run.run s = (.ok s.store.begin.1,
        { s with store := s.store.begin.2, journal := s.journal ++ [.asked .begin] }) := rfl
  have entering : (Repository.logged (Repository.startedLine options) : Attempt Store ε Unit).run.run
      { s with store := s.store.begin.2, journal := s.journal ++ [.asked .begin] } =
        (.ok (), enterOutermost s options) := rfl
  have outcome : ((body ⟨s.store.begin.1, repo.observer⟩).outcome : Attempt Store ε _).run.run
      (enterOutermost s options) = (.ok result, left) := by rw [run_outcome, ran]
  rw [Repository.outermost, run_bind_ok starting, run_bind_ok entering, run_bind_ok outcome]
  cases result with
  | ok x =>
    have committing : (Repository.steerFor ofError s.store.begin.1 .commit).run.run left =
        (.ok (), steered left s.store.begin.1 .commit .ended (some final.working)) :=
      run_steerFor_of_open opened rfl
    exact ⟨_, run_bind_ok committing, rfl, rfl⟩
  | error e =>
    have undoing : (Repository.undo s.store.begin.1 : Attempt Store ε Unit).run.run left =
        (.ok (), (steered left s.store.begin.1 .rollback .ended none).note
          [.log (Repository.remark "transaction rolled back" [])]) := by
      have back : ((EntityStore.Store.steer s.store.begin.1 .rollback).outcome :
          Attempt Store ε _).run.run left =
            (.ok (.ok ()), steered left s.store.begin.1 .rollback .ended none) := by
        rw [run_outcome, run_steer_of_open opened rfl]
      rw [Repository.undo, run_bind_ok back]
      rfl
    exact ⟨_, run_bind_ok undoing, rfl, rfl⟩

/-- Transactions are all or nothing, to any depth and whatever fails inside. An outermost
transaction runs its body from the state behind its begin and answers what the body answers; the
tables that the body leaves are committed if it answers, and if it fails the committed tables are
what they were; no other transaction is touched and its own has ended. A nested transaction runs
its body in the open transaction around it and answers what the body answers; that transaction
keeps the tables of the body if it answers, and is exactly what it was if it fails, and has the
savepoints it had in either case. -/
theorem transactions_all_or_nothing (repo : Repository α) (ofError : Error → ε)
    (options : TxOptions) (p : Program [] ε β) (s : Session Store) :
    (repo.scope = .direct → ∃ result left final after,
      (p.run (⟨s.store.begin.1, repo.observer⟩ : EntityStore.Transaction α)).run.run
        (enterOutermost s options) = (result, left) ∧
      left.store.openTransaction s.store.begin.1 = .ok final ∧
      (repo.transaction ofError options fun tx => p.run tx).run.run s = (result, after) ∧
      after.store.tables = committed s.store.tables final result ∧
      after.store.transactions = s.store.transactions ++ [.ended]) ∧
    ∀ (id : Nat) (t : Transaction), repo.scope = .tx id → s.store.openTransaction id = .ok t →
      ∃ result left final after,
        (p.run (⟨id, repo.observer⟩ : EntityStore.Transaction α)).run.run (enterNested s id t) =
          (result, left) ∧
        left.store.openTransaction id = .ok final ∧
        (repo.transaction ofError options fun tx => p.run tx).run.run s = (result, after) ∧
        after.store.tables = s.store.tables ∧
        after.store.transactions = s.store.transactions.set id (afterNested t final result) := by
  obtain ⟨scope, observer⟩ := repo
  refine ⟨?_, ?_⟩
  · rintro rfl
    let tx : EntityStore.Transaction α := ⟨s.store.begin.1, observer⟩
    have begun : (enterOutermost s options).store.openTransaction tx.id = .ok (.start s.store.tables) :=
      Store.openTransaction_eq_ok.mpr ⟨List.getElem?_concat_length, rfl⟩
    have inner := confined_run p tx begun (.of_start rfl)
    obtain ⟨result, left, inside⟩ : ∃ result left,
        (p.run tx).run.run (enterOutermost s options) = (result, left) := ⟨_, _, rfl⟩
    rw [inside] at inner
    obtain ⟨final, frames, reaches⟩ := inner
    obtain ⟨after, ran, tables, transactions⟩ :=
      run_outermost ⟨.direct, observer⟩ ofError options (fun tx => p.run tx) inside reaches.opened
    refine ⟨result, left, final, after, inside, reaches.opened, ran, ?_, ?_⟩
    · rw [tables, reaches.tables]
      rfl
    · rw [transactions, reaches.others, List.set_set]
      have last : (s.store.transactions ++ [Transaction.start s.store.tables]).set
          s.store.transactions.length .ended = s.store.transactions ++ [.ended] := by
        rw [List.set_append_right _ _ (Nat.le_refl _), Nat.sub_self]
        rfl
      exact last
  · rintro id t rfl opened
    let tx : EntityStore.Transaction α := ⟨id, observer⟩
    have stillOpen : t.closed = false := (Store.openTransaction_eq_ok.mp opened).2
    have inner := confined_run p tx (reaches_enterNested opened).opened (.of_start stillOpen)
    obtain ⟨result, left, inside⟩ : ∃ result left,
        (p.run tx).run.run (enterNested s id t) = (result, left) := ⟨_, _, rfl⟩
    rw [inside] at inner
    obtain ⟨final, frames, reaches⟩ := inner
    obtain ⟨after, ran, tables, transactions⟩ :=
      run_nested tx ofError (fun tx => p.run tx) opened inside reaches
    exact ⟨result, left, final, after, inside, reaches.opened, ran, tables, transactions⟩

/-- A body that fails leaves nothing, be it of an outermost transaction or of a nested one. -/
theorem failed_creation_undone :
    let body : Program [] String Unit :=
      .operate (.createTable : Operation Sample.Author _) fun _ => .finish (.error "no")
    (∃ after, ((.direct : Repository Sample.Author).transaction Error.message {} fun tx =>
        body.run tx).run.run (.start (∅ : Store)) = (.error "no", after) ∧
      after.store.tables = .empty ∧ after.store.transactions = [.ended]) ∧
    ∃ after, ((⟨.tx 0, .logging⟩ : Repository Sample.Author).transaction Error.message {} fun tx =>
        body.run tx).run.run (.start (∅ : Store).begin.2) = (.error "no", after) ∧
      after.store.tables = .empty ∧ after.store.transactions = [.start .empty] := by
  intro body
  constructor
  · obtain ⟨result, left, final, after, inside, -, ran, tables, transactions⟩ :=
      (transactions_all_or_nothing (.direct : Repository Sample.Author) Error.message {} body
        (.start ∅)).1 rfl
    obtain ⟨rfl, rfl⟩ := Prod.mk.inj inside
    exact ⟨after, ran, tables, transactions⟩
  · obtain ⟨result, left, final, after, inside, -, ran, tables, transactions⟩ :=
      (transactions_all_or_nothing (⟨.tx 0, .logging⟩ : Repository Sample.Author) Error.message {} body
        (.start (∅ : Store).begin.2)).2 0 (.start .empty) rfl rfl
    obtain ⟨rfl, rfl⟩ := Prod.mk.inj inside
    exact ⟨after, ran, tables, transactions⟩

end Memory

end EntityStore
