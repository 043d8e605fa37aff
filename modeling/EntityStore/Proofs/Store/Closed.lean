import EntityStore.Proofs.Memory.Refusal
import EntityStore.Proofs.Postgres.Transaction

/-!
# Closed transactions

A transaction that was committed or rolled back stays closed, and whatever is done in it then
fails and changes nothing. The store in memory looks at the transaction before anything else. The
PostgreSQL store builds some of its statements first, and reports what is wrong with them instead.
-/

namespace EntityStore

/-! ## In memory -/

namespace Memory.Store

variable {s : Store} {id : Nat} {c : Control}

/-- An end that is called for leaves the transaction ended, also when it has ended before. -/
theorem ended_of_ends (ends : c.ends = true) (begun : id < s.transactions.length) :
    Ended id (Step.next s (.steer id c)) := by
  have moved : (Step.next s (.steer id c)).transactions =
      s.transactions.modify id (Transaction.move (.steer id c)) := (next_owned rfl s).2
  have there : s.transactions[id]? = some s.transactions[id] := List.getElem?_eq_getElem begun
  refine ⟨Transaction.move (.steer id c) s.transactions[id], ?_, ?_⟩
  · rw [moved, List.getElem?_modify_eq, there]
    rfl
  · by_cases closed : s.transactions[id].closed = true
    · rw [move_of_closed closed]
      exact closed
    · rw [Transaction.move, Transaction.steer, if_neg closed]
      cases c with
      | commit | rollback => rfl
      | savepoint name | rollbackTo name | release name => cases ends

theorem Ended.after (ended : Ended id s) (steps : List Step) : Ended id (Step.after s steps) :=
  Step.after_induction (P := fun _ => True) (fun _ st _ ended => ended.next st)
    (fun _ _ => trivial) ended

theorem Ended.openTransaction (ended : Ended id s) :
    s.openTransaction id = .error .transactionClosed := by
  obtain ⟨t, there, closed⟩ := ended
  rw [openTransaction_of_getElem? there, if_pos closed]

theorem Ended.tablesOf (ended : Ended id s) :
    s.tablesOf (.tx id) = .error .transactionClosed := by
  rw [Store.tablesOf, ended.openTransaction]
  rfl

/-- A request in a transaction that has ended only counts as an insert, if it is one. -/
theorem Ended.perform (ended : Ended id s) {α : Type} (r : Request α) :
    s.perform (.tx id) r =
      (.error .transactionClosed, { s with insertCalls := s.insertCalls + r.inserts }) := by
  have closed := ended.tablesOf
  by_cases structured : r.Structured
  · have failed : (s.perform (.tx id) r).1 = .error .transactionClosed := by
      rw [result_perform structured, answer_of_closed closed]
    exact Prod.ext failed (perform_refused structured failed)
  · cases r with
    | rawQuery sql args | rawExec sql args =>
      rw [Store.perform, closed]
      rfl
    | _ => exact absurd trivial structured

theorem Ended.control (ended : Ended id s) (c : Control) :
    s.control id c = (.error .transactionClosed, s) := by
  rw [Store.control, ended.openTransaction]

end Memory.Store

/-! ## On a server -/

namespace Postgres

/-- What is built of a request before the connection of its scope is looked at. -/
def preparation : {α : Type} → Request α → Except Error Unit
  | _, .update table changes filters => (Statement.update table changes filters).map fun _ => ()
  | _, .delete table filters => (Statement.delete table filters).map fun _ => ()
  | _, .createTable schema => (Statement.createTable schema).map fun _ => ()
  | _, .dropTable table => (Statement.dropTable table).map fun _ => ()
  | _, .createIndex index => (Statement.createIndex index).map fun _ => ()
  | _, .dropIndex _ name => (Statement.dropIndex name).map fun _ => ()
  | _, _ => .ok ()

/-- How a call in a closed transaction fails, given what was built before. -/
def closedError {α : Type} : Except Error α → StoreError
  | .ok _ => .transactionClosed
  | .error e => .rejected e

theorem closedError_map {α β : Type} (x : Except Error α) (f : α → β) :
    closedError (x.map f) = closedError x := by
  cases x <;> rfl

namespace Exchange

variable {α β : Type} {scope : Scope} {t : Talk}

theorem run_acquired_of_closed {act : Exchange α}
    (closed : t.store.grant scope = .error .transactionClosed) :
    (do acquire scope; act).run.run t = (.error .transactionClosed, t) := by
  have acquired := run_acquire scope t
  rw [closed] at acquired
  rw [run_bind_error acquired]

theorem run_built_of_closed {x : Except Error α} {act : α → Exchange β}
    (closed : t.store.grant scope = .error .transactionClosed) :
    (do let y ← built x; acquire scope; act y).run.run t = (.error (closedError x), t) := by
  cases x with
  | error e => rw [run_bind_error (run_built _ t)]; rfl
  | ok y => rw [run_bind_ok (run_built _ t), run_acquired_of_closed closed]; rfl

end Exchange

namespace Store

open EntityStore.Store (perform control)

variable {s : Store} {id : Nat}

theorem grant_of_not_held (ended : s.transactions[id]? ≠ some .held) :
    s.grant (.tx id) = .error .transactionClosed := if_neg ended

theorem perform_of_not_held (ended : s.transactions[id]? ≠ some .held) {α : Type}
    (r : Request α) :
    perform (.tx id) r s = ⟨.error (closedError (preparation r)), s, []⟩ := by
  have closed : (⟨s, []⟩ : Talk).store.grant (.tx id) = .error .transactionClosed :=
    grant_of_not_held ended
  change reply (Exchange.perform (.tx id) r) s = _
  have ran : (Exchange.perform (.tx id) r).run.run ⟨s, []⟩ =
      (.error (closedError (preparation r)), ⟨s, []⟩) := by
    cases r with
    | update | delete | createTable | dropTable | createIndex | dropIndex =>
      rw [preparation, closedError_map]
      exact Exchange.run_built_of_closed closed
    | ping => exact Exchange.run_built_of_closed closed
    | _ => exact Exchange.run_acquired_of_closed closed
  rw [reply, ran]

theorem control_of_not_held (ended : s.transactions[id]? ≠ some .held) (c : Control) :
    control id c s = ⟨.error (closedError (Statement.control c)), s, []⟩ := by
  cases text : Statement.control c with
  | error e => exact control_unnamed text
  | ok sql => exact control_closed text ended

theorem length_le_release (s : Store) (j : Nat) (c : Control) :
    s.transactions.length ≤ (s.release j c).transactions.length := by
  rw [release]
  split
  · exact Nat.le_of_eq (List.length_set).symm
  · exact Nat.le_refl _

/-- No step makes the store forget a transaction. -/
theorem length_le_next (s : Store) (st : Step) :
    s.transactions.length ≤ (Step.next s st).transactions.length := by
  have effect := effect_next s st
  generalize Step.next s st = s' at effect ⊢
  cases effect with
  | none | said | refused => exact Nat.le_refl _
  | begun =>
    rw [List.length_append]
    exact Nat.le_add_right _ _
  | steered => exact length_le_release s _ _
  | closed => exact Nat.le_of_eq (List.length_set).symm

/-- An end that is called for leaves the transaction without its connection. -/
theorem not_held_of_ends {c : Control} (ends : c.ends = true) :
    (Step.next s (.steer id c)).transactions[id]? ≠ some .held := by
  obtain ⟨sql, text⟩ : ∃ sql, Statement.control c = .ok sql := by
    cases c with
    | commit | rollback => exact ⟨_, rfl⟩
    | savepoint name | rollbackTo name | release name => cases ends
  change (control id c s).store.transactions[id]? ≠ some .held
  by_cases held : s.transactions[id]? = some .held
  · obtain ⟨below, -⟩ := List.getElem?_eq_some_iff.mp held
    have returned : (s.setLease id .returned).transactions[id]? = some .returned :=
      List.getElem?_set_self below
    rw [control_held text held, transactions_speak, release, if_pos ends, returned]
    simp
  · rw [control_closed text held]
    exact held

end Store

end Postgres

/-! ## On both -/

/-- Where a selection fails and leaves the store, so does the fetching of its first row. -/
theorem run_fetchOne_of_error {σ : Type} [Store σ] {scope : Scope} {table : String} {q : Compiled}
    {e : StoreError} {s : Session σ}
    (failed : (Store.perform scope (.select table q.first) s.store).result = .error e)
    (kept : (Store.perform scope (.select table q.first) s.store).store = s.store) :
    ∃ s', (Store.fetchOne scope table q).run.run s = (.error e, s') ∧ s'.store = s.store := by
  have refused := congrArg (· >>= firstRow) failed
  exact ⟨_, (Store.run_fetchOne scope table q s).trans (congrArg (·, _) refused), kept⟩

/-- Behind the commit or the rollback of a transaction, whether it succeeded or not, and whatever
else was done since, every call in that transaction fails. In memory it fails as made in a closed
transaction, and nothing but the count of inserts changes. On a server nothing is sent and nothing
changes, and the call fails in the same way if its statement can be built; if it cannot, and is
built before the connection is looked at, that is reported instead. -/
theorem closed_transaction_fails {c : Control} (ends : c.ends = true) (id : Nat)
    (steps : List Step) :
    (∀ s : Memory.Store, id < s.transactions.length →
      ∀ s', s' = Step.after (Step.next s (.steer id c)) steps →
        (∀ {α : Type} (r : Request α), s'.perform (.tx id) r =
          (.error .transactionClosed, { s' with insertCalls := s'.insertCalls + r.inserts })) ∧
        (∀ c', s'.control id c' = (.error .transactionClosed, s')) ∧
        ∀ table q (session : Session Memory.Store), session.store = s' →
          ∃ after, (Store.fetchOne (.tx id) table q).run.run session =
            (.error .transactionClosed, after) ∧ after.store = s') ∧
    ∀ s : Postgres.Store, id < s.transactions.length →
      ∀ s', s' = Step.after (Step.next s (.steer id c)) steps →
        (∀ {α : Type} (r : Request α), Store.perform (.tx id) r s' =
          ⟨.error (Postgres.closedError (Postgres.preparation r)), s', []⟩) ∧
        (∀ c', Store.control id c' s' =
          ⟨.error (Postgres.closedError (Postgres.Statement.control c')), s', []⟩) ∧
        ∀ table q (session : Session Postgres.Store), session.store = s' →
          ∃ after, (Store.fetchOne (.tx id) table q).run.run session =
            (.error .transactionClosed, after) ∧ after.store = s' := by
  refine ⟨?memory, ?server⟩
  case memory =>
    rintro s begun s' rfl
    have ended := (Memory.Store.ended_of_ends ends begun).after steps
    refine ⟨fun r => ended.perform r, fun c' => ended.control c', ?_⟩
    rintro table q session same
    have performed := ended.perform (.select table q.first)
    rw [← same] at performed ⊢
    exact run_fetchOne_of_error (congrArg (·.1) performed) (congrArg (·.2) performed)
  case server =>
    rintro s begun s' rfl
    have length := Nat.lt_of_lt_of_le begun (Postgres.Store.length_le_next s (.steer id c))
    obtain ⟨-, same⟩ := Postgres.Store.after_of_not_held steps length
      (Postgres.Store.not_held_of_ends ends)
    have ended : (Step.after (Step.next s (.steer id c)) steps).transactions[id]? ≠ some .held := by
      rw [same]
      exact Postgres.Store.not_held_of_ends ends
    refine ⟨fun r => Postgres.Store.perform_of_not_held ended r,
      fun c' => Postgres.Store.control_of_not_held ended c', ?_⟩
    rintro table q session same
    have performed := Postgres.Store.perform_of_not_held ended (.select table q.first)
    rw [← same] at performed ⊢
    exact run_fetchOne_of_error (congrArg (·.result) performed) (congrArg (·.store) performed)

/-- After its commit, a table is asked for in a transaction, in memory and on a server. -/
theorem committed_transaction_fails :
    (Step.after (∅ : Memory.Store) [.begin {}, .steer 0 .commit]).perform (.tx 0)
        (.hasTable "users") =
      (.error .transactionClosed, Step.after ∅ [.begin {}, .steer 0 .commit]) ∧
    Store.perform (.tx 0) (.hasTable "users")
        (Step.after (Postgres.Store.scripted []) [.begin {}, .steer 0 .commit]) =
      ⟨.error .transactionClosed,
        Step.after (Postgres.Store.scripted []) [.begin {}, .steer 0 .commit], []⟩ := by
  obtain ⟨memory, server⟩ := closed_transaction_fails (c := .commit) rfl 0 []
  constructor
  · exact (memory (Step.next ∅ (.begin {})) Nat.zero_lt_one _ rfl).1 (.hasTable "users")
  · have begun : 0 < (Step.next (Postgres.Store.scripted []) (.begin {})).transactions.length := by
      have opened := @Postgres.Store.begin_accepted (.scripted []) {} rfl rfl
      rw [Step.next, Step.reply, opened]
      exact Nat.zero_lt_one
    exact (server _ begun _ rfl).1 (.hasTable "users")

/-- After its commit, a table is dropped in a transaction on a server by a text that is no name.
What is reported is the text. -/
theorem closed_transaction_names_fault :
    (Store.perform (.tx 0) (.dropTable "bad name")
      (Step.after (Postgres.Store.scripted []) [.begin {}, .steer 0 .commit])).result =
      .error (.rejected
        (.validation "invalid identifier 'bad name': unexpected character ' '")) := by
  have ended : (Step.after (Postgres.Store.scripted [])
      [.begin {}, .steer 0 .commit]).transactions[0]? ≠ some .held :=
    Postgres.Store.not_held_of_ends (s := Step.next (.scripted []) (.begin {})) rfl
  have fault : Ident.parse "bad name" = .error (.unexpected ' ') := by cbv
  have message : (Ident.Fault.unexpected ' ').message "bad name" =
      "invalid identifier 'bad name': unexpected character ' '" := by decide
  rw [Postgres.Store.perform_of_not_held ended, Postgres.preparation, Postgres.closedError_map,
    Postgres.Statement.dropTable, Query.ident, Query.checkIdent, fault]
  exact congrArg (fun m => Except.error (StoreError.rejected (.validation m))) message

end EntityStore
