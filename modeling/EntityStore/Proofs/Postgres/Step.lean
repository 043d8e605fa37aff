import EntityStore.Proofs.Postgres.Exchange
import EntityStore.Proofs.Store.Step

/-!
# Steps of the PostgreSQL store

What each step sends and what it makes of the connections that transactions hold. A connection is
taken when a transaction is opened and given back when it is committed or rolled back; one whose
transaction is given up while it is open is closed instead.
-/

namespace EntityStore

/-- The control ends the transaction. -/
def Control.ends : Control → Bool
  | .commit | .rollback => true
  | .savepoint _ | .rollbackTo _ | .release _ => false

namespace Postgres

open EntityStore.Store (perform begin control abandon)

namespace Store

variable {α : Type} {s : Store} {id : Nat} {c : Control} {sql : String} {options : TxOptions}

/-- A request sends statements in its scope, none of which steers a transaction. -/
theorem exists_perform (scope : Scope) (r : Request α) (s : Store) : ∃ said,
    (∀ m ∈ said, Exchange.Plain m) ∧ (perform scope r s).store = s.speak scope said :=
  Exchange.sends_perform scope r ⟨s, []⟩

theorem perform_of_run {scope : Scope} {r : Request α} {x : α} {t : Talk}
    (ran : (Exchange.perform scope r).run.run ⟨s, []⟩ = (.ok x, t)) :
    perform scope r s = ⟨.ok x, t.store, t.log⟩ := by
  change reply (Exchange.perform scope r) s = _
  rw [reply, ran]

theorem perform_unconnected {scope : Scope} {r : Request α} {e : StoreError}
    (refused : s.grant scope = .error e) : (perform scope r s).store = s :=
  Exchange.store_perform_of_refused (t := ⟨s, []⟩) refused

/-! ## Opening a transaction -/

/-- The log lines of a statement that is sent as its text. -/
def defined (s : Store) (sql : String) : List LogLine := [statementLine s.logLimit "ddl" sql 0]

theorem begin_unconnected {e : StoreError} (refused : s.grant .direct = .error e) :
    begin options s = ⟨.error e, s, []⟩ := by
  change reply (Exchange.begin options) s = _
  have acquired := Exchange.run_acquire .direct ⟨s, []⟩
  rw [refused] at acquired
  rw [reply, Exchange.begin, run_bind_error acquired]

theorem begin_refused {e : StoreError} (connected : s.grant .direct = .ok ())
    (refused : s.upcoming.verdict = .error e) :
    begin options s = ⟨.error e, s.speak (.tx s.transactions.length) [.simple options.beginSql],
      s.defined options.beginSql⟩ := by
  change reply (Exchange.begin options) s = _
  have acquired := Exchange.run_acquire .direct ⟨s, []⟩
  rw [connected] at acquired
  have opening := Exchange.run_define (.tx s.transactions.length) options.beginSql ⟨s, []⟩
  rw [refused] at opening
  rw [reply, Exchange.begin, run_bind_ok acquired, run_bind_ok (Exchange.run_get _),
    run_bind_error opening]
  rfl

theorem begin_accepted (connected : s.grant .direct = .ok ())
    (accepted : s.upcoming.verdict = .ok ()) :
    begin options s = ⟨.ok s.transactions.length,
      { s.speak (.tx s.transactions.length) [.simple options.beginSql] with
        transactions := s.transactions ++ [.held] },
      s.defined options.beginSql⟩ := by
  change reply (Exchange.begin options) s = _
  have acquired := Exchange.run_acquire .direct ⟨s, []⟩
  rw [connected] at acquired
  have opening := Exchange.run_define (.tx s.transactions.length) options.beginSql ⟨s, []⟩
  rw [accepted] at opening
  rw [reply, Exchange.begin, run_bind_ok acquired, run_bind_ok (Exchange.run_get _),
    run_bind_ok opening]
  rfl

/-- A begin gets no connection, or it is refused, or it opens a transaction. -/
theorem cases_begin (options : TxOptions) (s : Store) :
    (∃ e, begin options s = ⟨.error e, s, []⟩) ∨
    (∃ e, s.upcoming.verdict = .error e ∧ begin options s =
      ⟨.error e, s.speak (.tx s.transactions.length) [.simple options.beginSql],
        s.defined options.beginSql⟩) ∨
    s.upcoming.verdict = .ok () ∧ begin options s =
      ⟨.ok s.transactions.length,
        { s.speak (.tx s.transactions.length) [.simple options.beginSql] with
          transactions := s.transactions ++ [.held] },
        s.defined options.beginSql⟩ := by
  cases connected : s.grant .direct with
  | error e => exact .inl ⟨e, begin_unconnected connected⟩
  | ok u =>
    cases verdict : s.upcoming.verdict with
    | error e => exact .inr (.inl ⟨e, rfl, begin_refused connected verdict⟩)
    | ok u => exact .inr (.inr ⟨rfl, begin_accepted connected verdict⟩)

/-! ## Steering and giving up -/

/-- What a control makes of the connections: an end gives the transaction's own back. -/
def release (s : Store) (id : Nat) (c : Control) : Store :=
  if c.ends then s.setLease id .returned else s

theorem control_unnamed {e : Error} (refused : Statement.control c = .error e) :
    control id c s = ⟨.error (.rejected e), s, []⟩ := by
  change reply (Exchange.control id c) s = _
  have built : (Exchange.built (Statement.control c)).run.run ⟨s, []⟩ =
      (.error (.rejected e), ⟨s, []⟩) := by
    rw [Exchange.run_built, refused]
    rfl
  rw [reply, Exchange.control, run_bind_error built]

theorem control_closed (text : Statement.control c = .ok sql)
    (closed : s.transactions[id]? ≠ some .held) :
    control id c s = ⟨.error .transactionClosed, s, []⟩ := by
  change reply (Exchange.control id c) s = _
  have built : (Exchange.built (Statement.control c)).run.run ⟨s, []⟩ = (.ok sql, ⟨s, []⟩) := by
    rw [Exchange.run_built, text]
    rfl
  have acquired := Exchange.run_acquire (.tx id) ⟨s, []⟩
  rw [grant, if_neg closed] at acquired
  rw [reply, Exchange.control, run_bind_ok built, run_bind_error acquired]

theorem control_held (text : Statement.control c = .ok sql)
    (held : s.transactions[id]? = some .held) :
    control id c s = ⟨s.upcoming.verdict, (s.release id c).speak (.tx id) [.simple sql],
      s.defined sql⟩ := by
  change reply (Exchange.control id c) s = _
  have built : (Exchange.built (Statement.control c)).run.run ⟨s, []⟩ = (.ok sql, ⟨s, []⟩) := by
    rw [Exchange.run_built, text]
    rfl
  have acquired := Exchange.run_acquire (.tx id) ⟨s, []⟩
  rw [grant, if_pos held] at acquired
  rw [reply, Exchange.control, run_bind_ok built, run_bind_ok acquired]
  cases c with
  | commit | rollback =>
    have returned : (Exchange.modifyStore (·.setLease id .returned)).run.run ⟨s, []⟩ =
        (.ok (), ⟨s.setLease id .returned, []⟩) := rfl
    dsimp only
    rw [run_bind_ok returned, Exchange.run_define]
    rfl
  | savepoint name | rollbackTo name | release name =>
    dsimp only
    rw [Exchange.run_define]
    rfl

theorem abandon_held (held : s.transactions[id]? = some .held) :
    abandon id s = ⟨.ok (), s.setLease id .closed, [abandonedLine]⟩ := by
  change reply (Exchange.abandon id) s = _
  rw [reply, Exchange.abandon, run_bind_ok (Exchange.run_get _), if_pos held]
  rfl

theorem abandon_closed (closed : s.transactions[id]? ≠ some .held) :
    abandon id s = ⟨.ok (), s, []⟩ := by
  change reply (Exchange.abandon id) s = _
  rw [reply, Exchange.abandon, run_bind_ok (Exchange.run_get _), if_neg closed]
  rfl

/-! ## Any step -/

/-- What a step makes of the store. -/
inductive Effect (s : Store) : Store → Prop where
  | none : Effect s s
  | said {scope : Scope} {said : List Sent} (granted : s.grant scope = .ok ())
      (plain : ∀ m ∈ said, Exchange.Plain m) : Effect s (s.speak scope said)
  | refused {options : TxOptions} :
      Effect s (s.speak (.tx s.transactions.length) [.simple options.beginSql])
  | begun {options : TxOptions} :
      Effect s { s.speak (.tx s.transactions.length) [.simple options.beginSql] with
        transactions := s.transactions ++ [.held] }
  | steered {id : Nat} {c : Control} {sql : String} (text : Statement.control c = .ok sql)
      (held : s.transactions[id]? = some .held) :
      Effect s ((s.release id c).speak (.tx id) [.simple sql])
  | closed {id : Nat} (held : s.transactions[id]? = some .held) : Effect s (s.setLease id .closed)

theorem effect_next (s : Store) (st : Step) : Effect s (Step.next s st) := by
  cases st with
  | begin options =>
    change Effect s (begin options s).store
    rcases cases_begin options s with ⟨e, same⟩ | ⟨e, -, same⟩ | ⟨-, same⟩
    · rw [same]
      exact .none
    · rw [same]
      exact .refused
    · rw [same]
      exact .begun
  | ask scope r =>
    change Effect s (perform scope r s).store
    cases connected : s.grant scope with
    | error e =>
      rw [perform_unconnected connected]
      exact .none
    | ok u =>
      obtain ⟨said, plain, behind⟩ := exists_perform scope r s
      rw [behind]
      exact .said connected plain
  | steer id c =>
    change Effect s (control id c s).store
    cases text : Statement.control c with
    | error e =>
      rw [control_unnamed text]
      exact .none
    | ok sql =>
      by_cases held : s.transactions[id]? = some .held
      · rw [control_held text held]
        exact .steered text held
      · rw [control_closed text held]
        exact .none
  | abandon id =>
    change Effect s (abandon id s).store
    by_cases held : s.transactions[id]? = some .held
    · rw [abandon_held held]
      exact .closed held
    · rw [abandon_closed held]
      exact .none

/-- What was sent stays sent. -/
theorem Effect.sent {s s' : Store} (effect : Effect s s') : ∃ more, s'.sent = s.sent ++ more := by
  cases effect with
  | none | closed => exact ⟨[], (List.append_nil _).symm⟩
  | said | refused | begun => exact ⟨_, rfl⟩
  | @steered id c sql =>
    refine ⟨[(.tx id, .simple sql)], ?_⟩
    rw [speak, release]
    split <;> rfl

theorem sent_of_leads {P : Step → Prop} {s s' : Store} (leads : Leads P s s') :
    ∃ more, s'.sent = s.sent ++ more := by
  refine leads.induction (I := fun s' => ∃ more, s'.sent = s.sent ++ more) ?_ ?_
  · rintro u st - ⟨before, sent⟩
    obtain ⟨more, behind⟩ := (effect_next u st).sent
    exact ⟨before ++ more, by rw [behind, sent, List.append_assoc]⟩
  · exact ⟨[], (List.append_nil _).symm⟩

end Store

end Postgres

end EntityStore
