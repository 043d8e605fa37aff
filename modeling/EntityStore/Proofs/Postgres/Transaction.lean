import EntityStore.Proofs.Postgres.Bracket
import EntityStore.Proofs.Repository.Creation
import Mathlib

/-!
# Transactions on their connections

A transaction begins on a connection of its own and ends on it, and whatever is done with the
store afterwards, nothing more is sent there. The connection goes back to the pool by the commit
or the rollback only. One whose transaction is given up while it is open is closed.
-/

namespace EntityStore.Postgres

open EntityStore.Store (begin abandon)

/-! ## One connection -/

namespace Store

variable {s s' : Store} {id : Nat} {lease : Lease} {options : TxOptions}

/-- What was sent on the connection of a transaction. -/
def on (s : Store) (id : Nat) : List Sent := (s.sent.filter (·.1 = .tx id)).map (·.2)

theorem on_speak_self (s : Store) (id : Nat) (said : List Sent) :
    (s.speak (.tx id) said).on id = s.on id ++ said := by
  simp [on, speak, List.filter_map, Function.comp_def]

theorem on_speak_of_ne (s : Store) {scope : Scope} (other : scope ≠ .tx id) (said : List Sent) :
    (s.speak scope said).on id = s.on id := by
  simp [on, speak, List.filter_map, Function.comp_def, other]

theorem held_of_grant (granted : s.grant (.tx id) = .ok ()) :
    s.transactions[id]? = some .held := by
  rw [grant] at granted
  by_cases held : s.transactions[id]? = some .held
  · exact held
  · rw [if_neg held] at granted
    cases granted

theorem on_release (s : Store) (j : Nat) (c : Control) : (s.release j c).on id = s.on id := by
  rw [release]
  split <;> rfl

theorem lease_setLease_of_ne (s : Store) {j : Nat} (other : j ≠ id) (lease : Lease) :
    (s.setLease j lease).transactions[id]? = s.transactions[id]? := List.getElem?_set_ne other

theorem lease_release_of_ne (s : Store) {j : Nat} (other : j ≠ id) (c : Control) :
    (s.release j c).transactions[id]? = s.transactions[id]? := by
  rw [release]
  split
  · exact lease_setLease_of_ne s other .returned
  · rfl

/-- Nothing but what is done in an open transaction is seen on its connection. -/
theorem Effect.of_not_held (effect : Effect s s') (below : id < s.transactions.length)
    (ended : s.transactions[id]? ≠ some .held) :
    s'.on id = s.on id ∧ s'.transactions[id]? = s.transactions[id]? := by
  have apart {j : Nat} (held : s.transactions[j]? = some .held) : j ≠ id := by
    rintro rfl
    exact ended held
  have notNext : Scope.tx s.transactions.length ≠ .tx id := by
    simp only [ne_eq, Scope.tx.injEq]
    omega
  cases effect with
  | none => exact ⟨rfl, rfl⟩
  | @said scope said granted plain =>
    refine ⟨on_speak_of_ne s ?_ said, rfl⟩
    rintro rfl
    exact ended (held_of_grant granted)
  | refused => exact ⟨on_speak_of_ne s notNext _, rfl⟩
  | begun => exact ⟨on_speak_of_ne s notNext _, List.getElem?_append_left below⟩
  | @steered j c sql text held =>
    have other := apart held
    refine ⟨?_, lease_release_of_ne s other c⟩
    rw [on_speak_of_ne _ (fun same => other (Scope.tx.inj same)), on_release]
  | @closed j held => exact ⟨rfl, lease_setLease_of_ne s (apart held) .closed⟩

/-- On the connection of a transaction that has ended nothing more is sent. -/
theorem after_of_not_held (steps : List Step) (below : id < s.transactions.length)
    (ended : s.transactions[id]? ≠ some .held) :
    (Step.after s steps).on id = s.on id ∧
      (Step.after s steps).transactions[id]? = s.transactions[id]? := by
  induction steps generalizing s with
  | nil => exact ⟨rfl, rfl⟩
  | cons st steps ih =>
    obtain ⟨quiet, same⟩ := (effect_next s st).of_not_held below ended
    have still : (Step.next s st).transactions[id]? ≠ some .held := by rwa [same]
    have inside : id < (Step.next s st).transactions.length := by
      rw [List.getElem?_eq_getElem below] at same
      exact (List.getElem?_eq_some_iff.mp same).1
    obtain ⟨later, kept⟩ := ih inside still
    exact ⟨later.trans quiet, kept.trans same⟩

/-- A connection goes back to the pool in the step in which an end is sent on it. -/
theorem Effect.of_returned (effect : Effect s s') (before : s.transactions[id]? ≠ some .returned)
    (behind : s'.transactions[id]? = some .returned) :
    s'.on id = s.on id ++ [.simple "COMMIT"] ∨ s'.on id = s.on id ++ [.simple "ROLLBACK"] := by
  cases effect with
  | none | said | refused => exact absurd behind before
  | begun =>
    by_cases below : id < s.transactions.length
    · exact absurd ((List.getElem?_append_left below).symm.trans behind) before
    · have last := List.mem_of_getElem? ((List.getElem?_append_right (Nat.le_of_not_lt below)).symm.trans behind)
      simp at last
  | @steered j c sql text held =>
    by_cases own : j = id
    · subst own
      rw [on_speak_self, on_release]
      cases c with
      | commit =>
        cases text
        exact .inl rfl
      | rollback =>
        cases text
        exact .inr rfl
      | savepoint name | rollbackTo name | release name => exact absurd behind before
    · exact absurd ((lease_release_of_ne s own c).symm.trans behind) before
  | @closed j held =>
    by_cases own : j = id
    · subst own
      obtain ⟨below, -⟩ := List.getElem?_eq_some_iff.mp held
      have closed : (s.setLease j .closed).transactions[j]? = some .closed :=
        List.getElem?_set_self below
      rw [closed] at behind
      cases behind
    · exact absurd ((lease_setLease_of_ne s own .closed).symm.trans behind) before

/-- The connection of a transaction that is given up while it is open is closed, and not used
again. -/
theorem abandoned (held : s.transactions[id]? = some .held) (steps : List Step) :
    (abandon id s).store = s.setLease id .closed ∧
      (Step.after (abandon id s).store steps).on id = s.on id ∧
      (Step.after (abandon id s).store steps).transactions[id]? = some .closed := by
  obtain ⟨inside, -⟩ := List.getElem?_eq_some_iff.mp held
  have closed : (s.setLease id .closed).transactions[id]? = some .closed :=
    List.getElem?_set_self inside
  have below : id < (s.setLease id .closed).transactions.length :=
    (List.getElem?_eq_some_iff.mp closed).1
  have ended : (s.setLease id .closed).transactions[id]? ≠ some .held := by simp [closed]
  obtain ⟨quiet, same⟩ := after_of_not_held steps below ended
  have behind : (abandon id s).store = s.setLease id .closed := by rw [abandon_held held]
  rw [behind]
  exact ⟨rfl, quiet, same.trans closed⟩

/-- The last that was sent on each connection that went back to the pool is an end. -/
def Ended (s : Store) : Prop :=
  ∀ id, s.transactions[id]? = some .returned →
    ∃ said, s.on id = said ++ [.simple "COMMIT"] ∨ s.on id = said ++ [.simple "ROLLBACK"]

theorem Ended.effect (ended : s.Ended) (effect : Effect s s') : s'.Ended := by
  intro id returned
  by_cases before : s.transactions[id]? = some .returned
  · obtain ⟨below, -⟩ := List.getElem?_eq_some_iff.mp before
    obtain ⟨quiet, -⟩ := effect.of_not_held below (by simp [before])
    rw [quiet]
    exact ended id before
  · exact ⟨s.on id, effect.of_returned before returned⟩

theorem Ended.after (ended : s.Ended) (steps : List Step) : (Step.after s steps).Ended :=
  Step.after_induction (P := fun _ => True) (fun s st _ ended => ended.effect (effect_next s st))
    (fun _ _ => trivial) ended

theorem ended_of_unused (unused : s.transactions = []) : s.Ended := by
  intro id returned
  rw [unused] at returned
  cases returned

end Store

/-! ## From the begin to the end -/

section

variable {α ε β : Type} {s : Store} {id : Nat} {options : TxOptions}

theorem begin_eq_ok (opened : (begin options s).result = .ok id) :
    s.upcoming.complaint = none ∧ id = s.transactions.length ∧
      (begin options s).store =
        { s.speak (.tx id) [opening options] with transactions := s.transactions ++ [.held] } := by
  rcases Store.cases_begin options s with ⟨e, same⟩ | ⟨e, -, same⟩ | ⟨verdict, same⟩
  · rw [same] at opened
    cases opened
  · rw [same] at opened
    cases opened
  · rw [same] at opened ⊢
    cases opened
    exact ⟨Answer.verdict_eq_ok.mp verdict, rfl, rfl⟩

/-- A transaction was not opened: the server refused its begin, or there was no connection to
send it on. -/
def Unopened (options : TxOptions) (s s' : Store) : Prop :=
  s' = s ∨ s.upcoming.complaint ≠ none ∧
    s' = s.speak (.tx s.transactions.length) [opening options]

theorem begin_eq_error {e : StoreError} (failed : (begin options s).result = .error e) :
    Unopened options s (begin options s).store := by
  rcases Store.cases_begin options s with ⟨e, same⟩ | ⟨e, verdict, same⟩ | ⟨-, same⟩
  · rw [same]
    exact .inl rfl
  · rw [same]
    exact .inr ⟨Answer.complaint_of_error verdict, rfl⟩
  · rw [same] at failed
    cases failed

/-- A transaction was opened and ended: what was sent is its begin, a body in which nothing is
opened or ended, and one end; its connection went back to the pool, and nothing more is ever sent
there. -/
structure Brackets (options : TxOptions) (id : Nat) (s s' : Store) (body : Trace) (last : Sent) :
    Prop where
  accepted : s.upcoming.complaint = none
  answered : ∃ a, Answered s.script ((opening options, s.upcoming) :: body ++ [(last, a)])
  sent : s'.sent = s.sent ++ (opening options :: body.map (·.1) ++ [last]).map (.tx id, ·)
  inner : ∀ m ∈ body, ¬m.1.Delimits
  returned : s'.transactions = s.transactions ++ [.returned]
  quiet : ∀ steps, (Step.after s' steps).on id = s'.on id

/-- What a transaction is between its begin and its end brackets it. -/
theorem brackets_of_stretch {left : Store} {body : Trace} {c : Control} {sql : String}
    (opened : (begin options s).result = .ok id)
    (stretch : Stretch id (begin options s).store left body)
    (inner : ∀ m ∈ body, ¬m.1.Delimits) (ends : c.ends = true) :
    Brackets options id s ((left.release id c).speak (.tx id) [.simple sql]) body (.simple sql) := by
  obtain ⟨accepted, rfl, begun⟩ := begin_eq_ok opened
  obtain ⟨answered, rfl⟩ := stretch
  rw [begun] at answered ⊢
  have answered : Answered s.script.tail body := by simpa [Store.speak] using answered
  have transactions : ((({ s.speak (.tx s.transactions.length) [opening options] with
      transactions := s.transactions ++ [.held] } : Store).speak (.tx s.transactions.length)
        (body.map (·.1))).release s.transactions.length c).transactions =
          s.transactions ++ [.returned] := by
    rw [Store.release, if_pos ends]
    change (s.transactions ++ [Lease.held]).set s.transactions.length .returned = _
    rw [List.set_append_right _ _ (Nat.le_refl _), Nat.sub_self]
    rfl
  refine ⟨accepted, ⟨(s.script.tail.drop body.length).headD .plain, rfl, ?_⟩, ?_, inner,
    transactions, ?_⟩
  · exact answered_append.mpr ⟨answered, rfl, trivial⟩
  · rw [Store.release, if_pos ends]
    simp [Store.speak, Store.setLease]
  · intro steps
    refine (Store.after_of_not_held steps ?_ ?_).1
    · rw [Store.transactions_speak, transactions]
      simp
    · rw [Store.transactions_speak, transactions]
      simp

end

/-! ## Outermost transactions -/

section

variable {α ε β : Type} {s left : Session Store} {id : Nat} {options : TxOptions}
  {repo : Repository α} {body : Transaction α → Attempt Store ε β} {result : Except ε β}

/-- The session behind the begin of a transaction. -/
def begun (s : Session Store) (options : TxOptions) : Session Store :=
  { s with
    store := (begin options s.store).store
    journal := s.journal ++ .asked .begin :: (begin options s.store).log.map Event.log }

/-- The session in which the body of an outermost transaction starts. -/
def enterOutermost (s : Session Store) (options : TxOptions) : Session Store :=
  (begun s options).note [.log (Repository.startedLine options)]

theorem run_start (s : Session Store) (options : TxOptions) :
    (EntityStore.Store.start options).run.run s = ((begin options s.store).result, begun s options) :=
  run_reply .begin _ s

/-- The body does not run if the transaction is not opened. -/
theorem run_outermost_refused (ofError : Error → ε) {e : StoreError}
    (refused : (begin options s.store).result = .error e) :
    (repo.outermost ofError options body).run.run s =
      (.error (ofError e.classify), begun s options) := by
  have starting : ((EntityStore.Store.start options).adapt (fun e => ofError e.classify) :
      Attempt Store ε Nat).run.run s = (.error (ofError e.classify), begun s options) := by
    rw [run_adapt, run_start, refused]
    rfl
  rw [Repository.outermost, run_bind_error starting]

/-- The control that ends a transaction whose body came to a result. -/
def ending : Except ε β → Control
  | .ok _ => .commit
  | .error _ => .rollback

theorem control_ending (result : Except ε β) :
    (ending result).ends = true ∧ ∃ sql, Statement.control (ending result) = .ok sql ∧
      closing result = .simple sql := by
  cases result with
  | ok x => exact ⟨rfl, _, rfl, rfl⟩
  | error e => exact ⟨rfl, _, rfl, rfl⟩

theorem run_undo (held : s.store.transactions[id]? = some .held) :
    ∃ after, (Repository.undo id : Attempt Store ε Unit).run.run s = (.ok (), after) ∧
      after.store = (s.store.release id .rollback).speak (.tx id) [.simple "ROLLBACK"] ∧
      after.savepoints = s.savepoints := by
  have back : ((EntityStore.Store.steer id .rollback).outcome : Attempt Store ε _).run.run s =
      (.ok s.store.upcoming.verdict, steered s id .rollback "ROLLBACK") := by
    rw [run_outcome, run_steer_held rfl held]
  rw [Repository.undo, run_bind_ok back]
  cases s.store.upcoming.verdict with
  | ok u => exact ⟨_, rfl, rfl, rfl⟩
  | error e => exact ⟨_, rfl, rfl, rfl⟩

variable (body) in
theorem run_outermost (ofError : Error → ε) (opened : (begin options s.store).result = .ok id)
    (ran : (body ⟨id, repo.observer⟩).run.run (enterOutermost s options) = (result, left))
    (stays : left.store.transactions[id]? = some .held) :
    ∃ answer after, (repo.outermost ofError options body).run.run s = (answer, after) ∧
      (∃ sql, closing result = .simple sql ∧ after.store =
        (left.store.release id (ending result)).speak (.tx id) [.simple sql]) ∧
      after.savepoints = left.savepoints := by
  have starting : ((EntityStore.Store.start options).adapt (fun e => ofError e.classify) :
      Attempt Store ε Nat).run.run s = (.ok id, begun s options) := by
    rw [run_adapt, run_start, opened]
    rfl
  have noted : (Repository.logged (Repository.startedLine options) : Attempt Store ε Unit).run.run
      (begun s options) = (.ok (), enterOutermost s options) := rfl
  have outcome : ((body ⟨id, repo.observer⟩).outcome : Attempt Store ε _).run.run
      (enterOutermost s options) = (.ok result, left) := by rw [run_outcome, ran]
  rw [Repository.outermost, run_bind_ok starting, run_bind_ok noted, run_bind_ok outcome]
  cases result with
  | ok x =>
    have committed := run_steerFor_held ofError (c := .commit) rfl stays
    cases verdict : left.store.upcoming.verdict with
    | error e =>
      rw [verdict] at committed
      exact ⟨_, _, run_bind_error committed, ⟨_, rfl, rfl⟩, rfl⟩
    | ok u =>
      rw [verdict] at committed
      exact ⟨_, _, run_bind_ok committed, ⟨_, rfl, rfl⟩, rfl⟩
  | error e =>
    obtain ⟨after, undone, behind, kept⟩ := run_undo (ε := ε) stays
    exact ⟨.error e, after, run_bind_ok undone, ⟨_, rfl, behind⟩, kept⟩

end

/-! ## Batches -/

section

open Mutation Repository

variable {γ : Type} [Entity γ] {s left : Session Store} {id : Nat} {es es' : List γ}
  {result : Except Error Unit}

/-- The writes of a batch in an open transaction. -/
theorem stretch_insertBatch (s : Session Store) (id : Nat) (es : List γ) :
    ∃ body, (∀ m ∈ body, Exchange.Plain m.1) ∧
      Stretch id s.store (((insertBatch (.tx id)).runOn es).run s).2.store body :=
  stretch_of_leads (fun _ asks => asks) (takes_insertBatch_within id es s).1

theorem run_insertInTransaction_refused {e : StoreError}
    (refused : (begin {} s.store).result = .error e) (es : List γ) :
    (insertInTransaction.runOn es).run s = ((.error e.classify, es), begun s {}) := by
  have starting : (EntityStore.Store.start {}).classified.run.run s =
      (.error e.classify, begun s {}) := by
    rw [run_classified, run_start, refused]
    rfl
  rw [insertInTransaction, runOn_bind_error (runOn_act starting es)]

theorem run_endBatch (result : Except Error Unit) (held : s.store.transactions[id]? = some .held) :
    ∃ answer after, (endBatch id result).run.run s = (answer, after) ∧ ∃ sql,
      closing result = .simple sql ∧
      after.store = (s.store.release id (ending result)).speak (.tx id) [.simple sql] := by
  cases result with
  | ok u =>
    refine ⟨s.store.upcoming.verdict.mapError StoreError.classify, steered s id .commit "COMMIT",
      ?_, _, rfl, rfl⟩
    rw [endBatch, Action.steer, run_classified, run_steer_held rfl held]
    rfl
  | error err =>
    have back : ((EntityStore.Store.steer id .rollback).outcome : Action Store _).run.run s =
        (.ok s.store.upcoming.verdict, steered s id .rollback "ROLLBACK") := by
      rw [run_outcome, run_steer_held rfl held]
    rw [endBatch, run_bind_ok back]
    cases s.store.upcoming.verdict with
    | ok u => exact ⟨_, _, rfl, _, rfl, rfl⟩
    | error e => exact ⟨_, _, rfl, _, rfl, rfl⟩

theorem run_insertInTransaction (opened : (begin {} s.store).result = .ok id)
    (ran : ((insertBatch (.tx id)).runOn es).run (begun s {}) = ((result, es'), left))
    (stays : left.store.transactions[id]? = some .held) :
    ∃ answer after, (insertInTransaction.runOn es).run s = ((answer, es'), after) ∧ ∃ sql,
      closing result = .simple sql ∧
      after.store = (left.store.release id (ending result)).speak (.tx id) [.simple sql] := by
  have starting : (EntityStore.Store.start {}).classified.run.run s = (.ok id, begun s {}) := by
    rw [run_classified, run_start, opened]
    rfl
  obtain ⟨answer, after, ended, behind⟩ := run_endBatch result stays
  exact ⟨answer, after, runOn_insertInTransaction starting ran ended, behind⟩

/-- A batch whose checks or early hooks fail does nothing with the store. -/
theorem store_createBatch_stopped {repo : Repository γ} {err : Error}
    (stops : readyAll es = (.error err, es')) (s : Session Store) :
    ((repo.createBatch.runOn es).run s).2.store = s.store := by
  cases es with
  | nil => cases stops
  | cons e es =>
    obtain ⟨events, stopped⟩ := edits_readyAll (e :: es) s
    rw [stops] at stopped
    have filled : (e :: es).length ≠ 0 := Nat.succ_ne_zero es.length
    rw [createBatch, runOn_bind_ok (runOn_get _ s)]
    dsimp only
    rw [if_neg filled, ← bind_assoc, runOn_bind_error stopped]
    rfl

/-- A large batch outside a transaction is written in one of its own, and nothing else that is
done changes the store. -/
theorem store_createBatch_large {repo : Repository γ} (outside : repo.scope = .direct)
    (large : batchSize < es.length) (ready : readyAll es = (.ok (), es')) (s : Session Store) :
    ∃ events, ((repo.createBatch.runOn es).run s).2.store =
      ((insertInTransaction.runOn es').run (s.note events)).2.store := by
  obtain ⟨first, readied⟩ := edits_readyAll es s
  rw [ready] at readied
  obtain ⟨line, logged⟩ := runOn_logOp γ "create_batch" "insert batch"
    [("rows", .count es.length), ("writes", .count (writesOf es.length))] es' (s.note first)
  have filled : es.length ≠ 0 := Nat.ne_of_gt (Nat.zero_lt_of_lt large)
  have alone : repo.needsTransaction es.length = true := by
    rw [needsTransaction, isInTransaction, outside]
    simpa using large
  refine ⟨first ++ [.log line], ?_⟩
  rw [createBatch, runOn_bind_ok (runOn_get es s)]
  dsimp only
  rw [if_neg filled, ← bind_assoc, runOn_bind_ok readied]
  rw [runOn_bind_ok logged, note_note, if_pos alone]
  obtain ⟨answer, left, mid, wrote⟩ : ∃ answer left mid,
      (insertInTransaction.runOn es').run (s.note (first ++ [.log line])) = ((answer, left), mid) :=
    ⟨_, _, _, rfl⟩
  cases answer with
  | error err => rw [runOn_bind_error wrote, wrote]
  | ok u =>
    obtain ⟨events, late⟩ := (edits_late repo .afterCreate).each left mid
    rw [runOn_bind_ok wrote, late, wrote]
    rfl

end

/-! ## Transactions -/

section

open Repository

variable {α ε β : Type} {s : Session Store} {id : Nat}

/-- An outermost transaction that is opened brackets what its body says. -/
theorem brackets_outermost (repo : Repository α) (ofError : Error → ε) {options : TxOptions}
    (p : Program [] ε β) (opened : (begin options s.store).result = .ok id) :
    ∃ result left answer after body,
      (p.run (⟨id, repo.observer⟩ : Transaction α)).run.run (enterOutermost s options) =
        (result, left) ∧
      (repo.outermost ofError options fun tx => p.run tx).run.run s = (answer, after) ∧
      Balanced s.savepoints after.savepoints body ∧
      Brackets options id s.store after.store body (closing result) := by
  obtain ⟨accepted, fresh, entered⟩ := begin_eq_ok opened
  have held : (enterOutermost s options).store.transactions[id]? = some .held := by
    change (begin options s.store).store.transactions[id]? = some .held
    rw [entered, fresh]
    exact List.getElem?_concat_length
  have inner := bracketed_run p (⟨id, repo.observer⟩ : Transaction α) _ nofun held
  obtain ⟨result, left, ran⟩ : ∃ result left,
      (p.run (⟨id, repo.observer⟩ : Transaction α)).run.run (enterOutermost s options) =
        (result, left) := ⟨_, _, rfl⟩
  rw [ran] at inner
  obtain ⟨answer, after, outer, ⟨sql, text, behind⟩, kept⟩ :=
    run_outermost (fun tx => p.run tx) ofError opened ran (inner.held held)
  obtain ⟨body, balanced, stretch⟩ := inner
  refine ⟨result, left, answer, after, body, ran, outer, ?_, ?_⟩
  · rw [kept]
    exact balanced
  · rw [behind, text]
    exact brackets_of_stretch opened stretch balanced.not_delimits (control_ending result).1

/-- A nested transaction that is entered says its savepoint, its body and its end. -/
theorem stretch_nested (tx : Transaction α) (ofError : Error → ε) (p : Program [] ε β)
    (held : s.store.transactions[tx.id]? = some .held)
    (accepted : s.store.upcoming.complaint = none) :
    ∃ result left answer after body close,
      (p.run tx).run.run (enterNested s tx.id) = (result, left) ∧
      (Repository.nested tx ofError fun tx => p.run tx).run.run s = (answer, after) ∧
      Balanced (s.savepoints + 1) after.savepoints body ∧
      Closes s.savepoints result.isOk close ∧
      Stretch tx.id s.store after.store
        ((saving s.savepoints, s.store.upcoming) :: body ++ close) := by
  have entering := stretch_enterNested s tx.id
  have entered : (enterNested s tx.id).store.transactions[tx.id]? = some .held := by
    rw [entering.transactions]
    exact held
  have inner := bracketed_run p tx _ nofun entered
  obtain ⟨result, left, ran⟩ : ∃ result left,
      (p.run tx).run.run (enterNested s tx.id) = (result, left) := ⟨_, _, rfl⟩
  rw [ran] at inner
  obtain ⟨answer, after, close, outer, closes, closing, kept⟩ :=
    run_nested (fun tx => p.run tx) ofError held accepted ran (inner.held entered)
  obtain ⟨body, balanced, stretch⟩ := inner
  refine ⟨result, left, answer, after, body, close, ran, outer, ?_, closes, ?_⟩
  · rw [kept]
    exact balanced
  · exact (entering.trans stretch).trans closing

variable [Entity α]

theorem unopened_createBatch {repo : Repository α} {es ready : List α} {e : StoreError}
    (outside : repo.scope = .direct) (large : batchSize < es.length)
    (done : readyAll es = (.ok (), ready)) (failed : (begin {} s.store).result = .error e) :
    Unopened {} s.store ((repo.createBatch.runOn es).run s).2.store := by
  obtain ⟨events, same⟩ := store_createBatch_large outside large done s
  have refused := run_insertInTransaction_refused (s := s.note events) failed ready
  have behind : ((insertInTransaction.runOn ready).run (s.note events)).2.store =
      (begin {} s.store).store := congrArg (·.2.store) refused
  rw [same, behind]
  exact begin_eq_error failed

/-- A large batch outside a transaction brackets its writes. -/
theorem brackets_createBatch {repo : Repository α} {es ready : List α}
    (outside : repo.scope = .direct) (large : batchSize < es.length)
    (done : readyAll es = (.ok (), ready)) (opened : (begin {} s.store).result = .ok id) :
    ∃ start result es' left body, start.store = (begin {} s.store).store ∧
      ((insertBatch (.tx id)).runOn ready).run start = ((result, es'), left) ∧
      (∀ m ∈ body, Exchange.Plain m.1) ∧
      Brackets {} id s.store ((repo.createBatch.runOn es).run s).2.store body (closing result) := by
  obtain ⟨events, same⟩ := store_createBatch_large outside large done s
  obtain ⟨accepted, fresh, entered⟩ := begin_eq_ok opened
  obtain ⟨result, es', left, ran⟩ : ∃ result es' left,
      ((insertBatch (.tx id)).runOn ready).run (begun (s.note events) {}) =
        ((result, es'), left) := ⟨_, _, _, rfl⟩
  obtain ⟨body, plain, stretch⟩ := stretch_insertBatch (begun (s.note events) {}) id ready
  rw [ran] at stretch
  have held : left.store.transactions[id]? = some .held := by
    rw [stretch.transactions]
    change (begin {} s.store).store.transactions[id]? = some .held
    rw [entered, fresh]
    exact List.getElem?_concat_length
  obtain ⟨answer, after, wrote, sql, text, behind⟩ :=
    run_insertInTransaction (s := s.note events) opened ran held
  refine ⟨_, result, es', left, body, rfl, ran, plain, ?_⟩
  rw [same, wrote, behind, text]
  exact brackets_of_stretch opened stretch (fun m member => not_delimits_of_plain (plain m member))
    (control_ending result).1

omit [Entity α] in
theorem transaction_outside (observer : Observer) (ofError : Error → ε) (options : TxOptions)
    (body : Transaction α → Attempt Store ε β) :
    (⟨.direct, observer⟩ : Repository α).transaction ofError options body =
      Repository.outermost ⟨.direct, observer⟩ ofError options body := rfl

/-- Transactions are well bracketed on their connections, whatever their bodies do and whatever
the server complains about.

An outermost transaction that cannot be opened does not run its body and sends nothing else.
One that is opened sends its begin, what its body says, and one end, which is the commit if the
body succeeded and the rollback if it failed. A nested transaction sends a savepoint of a name
that no other one has; if it is refused, the body does not run, and otherwise the trace goes on
with what the body says and then the release if the body succeeded, or the return to the savepoint
if it failed, and the release behind it if the return was accepted. A batch that is too large for
one write brackets its writes as an outermost transaction does.

In every state that a store gets to, the last that was sent on a connection that went back to the
pool is a commit or a rollback; if a transaction is given up while it is open, its connection is
closed, and never used again. -/
theorem transactions_bracketed (repo : Repository α) (ofError : Error → ε) (options : TxOptions)
    (p : Program [] ε β) (es : List α) (s : Session Store) :
    (repo.scope = .direct →
      (∀ e, (begin options s.store).result = .error e →
        (repo.transaction ofError options fun tx => p.run tx).run.run s =
          (.error (ofError e.classify), begun s options) ∧
        Unopened options s.store (begun s options).store) ∧
      ∀ id, (begin options s.store).result = .ok id → ∃ result left answer after body,
        (p.run (⟨id, repo.observer⟩ : Transaction α)).run.run (enterOutermost s options) =
          (result, left) ∧
        (repo.transaction ofError options fun tx => p.run tx).run.run s = (answer, after) ∧
        Balanced s.savepoints after.savepoints body ∧
        Brackets options id s.store after.store body (closing result)) ∧
    (∀ id, repo.scope = .tx id → s.store.transactions[id]? = some .held →
      (∀ n, savepointName n = savepointName s.savepoints → n = s.savepoints) ∧
      Stretch id s.store (enterNested s id).store [(saving s.savepoints, s.store.upcoming)] ∧
      (s.store.upcoming.complaint ≠ none → ∃ e,
        (repo.transaction ofError options fun tx => p.run tx).run.run s =
          (.error (ofError e), enterNested s id)) ∧
      (s.store.upcoming.complaint = none → ∃ result left answer after body close,
        (p.run (⟨id, repo.observer⟩ : Transaction α)).run.run (enterNested s id) = (result, left) ∧
        (repo.transaction ofError options fun tx => p.run tx).run.run s = (answer, after) ∧
        Balanced (s.savepoints + 1) after.savepoints body ∧
        Closes s.savepoints result.isOk close ∧
        Stretch id s.store after.store
          ((saving s.savepoints, s.store.upcoming) :: body ++ close))) ∧
    (repo.scope = .direct → batchSize < es.length → ∀ done ready, readyAll es = (done, ready) →
      (∀ err, done = .error err → ((repo.createBatch.runOn es).run s).2.store = s.store) ∧
      (done = .ok () →
        (∀ e, (begin {} s.store).result = .error e →
          Unopened {} s.store ((repo.createBatch.runOn es).run s).2.store) ∧
        ∀ id, (begin {} s.store).result = .ok id → ∃ start result es' left body,
          start.store = (begin {} s.store).store ∧
          ((insertBatch (.tx id)).runOn ready).run start = ((result, es'), left) ∧
          (∀ m ∈ body, Exchange.Plain m.1) ∧
          Brackets {} id s.store ((repo.createBatch.runOn es).run s).2.store body
            (closing result))) ∧
    (∀ (unused : Store) (steps : List Step), unused.transactions = [] →
      (Step.after unused steps).Ended) ∧
    ∀ (id : Nat) (steps : List Step), s.store.transactions[id]? = some .held →
      (abandon id s.store).store = s.store.setLease id .closed ∧
      (Step.after (abandon id s.store).store steps).on id = s.store.on id ∧
      (Step.after (abandon id s.store).store steps).transactions[id]? = some .closed := by
  obtain ⟨scope, observer⟩ := repo
  refine ⟨?outermost, ?nested, ?batch, ?pool, ?dropped⟩
  case outermost =>
    rintro rfl
    rw [transaction_outside]
    refine ⟨?_, ?_⟩
    · intro e failed
      have unopened : Unopened options s.store (begin options s.store).store := begin_eq_error failed
      exact ⟨run_outermost_refused ofError failed, unopened⟩
    · intro id opened
      exact brackets_outermost ⟨.direct, observer⟩ ofError p opened
  case nested =>
    rintro id rfl held
    have within : ((⟨.tx id, observer⟩ : Repository α).transaction ofError options
        fun tx => p.run tx : Attempt Store ε β) =
          Repository.nested ⟨id, observer⟩ ofError fun tx => p.run tx := rfl
    rw [within]
    refine ⟨fun n same => savepointName_injective same, stretch_enterNested s id, ?_, ?_⟩
    · intro refused
      cases verdict : s.store.upcoming.verdict with
      | error e =>
        exact ⟨e.classify, run_nested_refused held verdict⟩
      | ok u => exact absurd (Answer.verdict_eq_ok.mp verdict) refused
    · exact stretch_nested (⟨id, observer⟩ : Transaction α) ofError p held
  case batch =>
    intro outside large done ready readied
    refine ⟨?_, ?_⟩
    · rintro err rfl
      exact store_createBatch_stopped readied s
    · rintro rfl
      exact ⟨fun e failed => unopened_createBatch outside large readied failed,
        fun id opened => brackets_createBatch outside large readied opened⟩
  case pool =>
    intro unused steps none
    exact (Store.ended_of_unused none).after steps
  case dropped =>
    exact fun id steps held => Store.abandoned held steps

/-- A body that goes on when the transaction nested in it has failed. -/
def forgiving : Program [] String Unit :=
  .nest (fun _ => "refused") {} (.finish (.error "no") : Program [] String Unit) fun _ =>
    .finish (.ok ())

/-- What fails inside is undone and released, and the whole is committed. -/
theorem forgiving_bracketed : ∃ answer after body,
    ((.direct : Repository Sample.User).transaction (fun _ => "refused") {}
      fun tx => forgiving.run tx).run.run (Session.start (Store.scripted [])) = (answer, after) ∧
    after.store.sent = [(.tx 0, .simple "BEGIN"), (.tx 0, .simple "SAVEPOINT gpa_sp_0"),
      (.tx 0, .simple "ROLLBACK TO SAVEPOINT gpa_sp_0"),
      (.tx 0, .simple "RELEASE SAVEPOINT gpa_sp_0"), (.tx 0, .simple "COMMIT")] ∧
    Balanced 0 after.savepoints body ∧
    Brackets {} 0 (Store.scripted []) after.store body (.simple "COMMIT") := by
  obtain ⟨outermost, -⟩ := transactions_bracketed (.direct : Repository Sample.User)
    (fun _ => "refused") {} forgiving [] (Session.start (Store.scripted []))
  obtain ⟨result, left, answer, after, body, ran, outer, balanced, brackets⟩ :=
    (outermost rfl).2 0 rfl
  have forgave : ((forgiving.run (⟨0, .logging⟩ : Transaction Sample.User)).run.run
      (enterOutermost (Session.start (Store.scripted [])) {})).1 = .ok () := rfl
  have succeeded : result = .ok () := (congrArg (·.1) ran).symm.trans forgave
  rw [succeeded] at brackets
  refine ⟨answer, after, body, outer, ?_, balanced, brackets⟩
  have behind := congrArg (·.2.store.sent) outer
  dsimp only at behind
  rw [← behind]
  cbv

end

end EntityStore.Postgres
