import EntityStore.Session
import Mathlib.Data.List.Forall2

/-!
# Running in a session

What the basic steps of an action answer and how they leave the session: a request changes the
store as the store replies and adds what was asked and what was logged to the journal.
-/

namespace EntityStore

section

variable {τ ε α β : Type} {act : ExceptT ε (StateM τ) α} {next : α → ExceptT ε (StateM τ) β}
  {s s' : τ}

/-- A computation goes on in the state that its first step leaves. -/
theorem run_bind_ok {x : α} (h : act.run.run s = (.ok x, s')) :
    (act >>= next).run.run s = (next x).run.run s' := by
  rw [ExceptT.run_bind, StateT.run_bind, h]
  rfl

/-- Nothing more happens behind a step that fails. -/
theorem run_bind_error {e : ε} (h : act.run.run s = (.error e, s')) :
    (act >>= next).run.run s = (.error e, s') := by
  rw [ExceptT.run_bind, StateT.run_bind, h]
  rfl

/-- A run that answers went through its first step and on from there. -/
theorem exists_of_run_bind {y : β} (h : (act >>= next).run.run s = (.ok y, s')) :
    ∃ x mid, act.run.run s = (.ok x, mid) ∧ (next x).run.run mid = (.ok y, s') := by
  obtain ⟨result, mid, ran⟩ : ∃ result mid, act.run.run s = (result, mid) := ⟨_, _, rfl⟩
  cases result with
  | error e =>
    rw [run_bind_error ran] at h
    cases h
  | ok x =>
    rw [run_bind_ok ran] at h
    exact ⟨x, mid, ran, h⟩

/-- A run that fails failed in its first step or went on from there and failed. -/
theorem error_of_run_bind {e : ε} (h : (act >>= next).run.run s = (.error e, s')) :
    act.run.run s = (.error e, s') ∨
      ∃ x mid, act.run.run s = (.ok x, mid) ∧ (next x).run.run mid = (.error e, s') := by
  obtain ⟨result, mid, ran⟩ : ∃ result mid, act.run.run s = (result, mid) := ⟨_, _, rfl⟩
  cases result with
  | error e =>
    rw [run_bind_error ran] at h
    cases h
    exact .inl ran
  | ok x =>
    rw [run_bind_ok ran] at h
    exact .inr ⟨x, mid, ran, h⟩

/-- What relates each element to what it is answered relates a list to what it is answered. -/
theorem forall₂_of_run_mapM {f : α → ExceptT ε (StateM τ) β} {R : α → β → Prop}
    (each : ∀ x y s s', (f x).run.run s = (.ok y, s') → R x y) {xs : List α} {ys : List β}
    (h : (xs.mapM f).run.run s = (.ok ys, s')) : List.Forall₂ R xs ys := by
  induction xs generalizing s s' ys with
  | nil =>
    cases h
    exact .nil
  | cons x xs ih =>
    rw [List.mapM_cons] at h
    obtain ⟨y, mid, here, h⟩ := exists_of_run_bind h
    obtain ⟨rest, last, mapped, h⟩ := exists_of_run_bind h
    cases h
    exact .cons (each x y s mid here) (ih mapped)

end

section

variable {σ ε α β : Type}

theorem run_ofExcept (x : Except ε α) (s : Session σ) :
    (Attempt.ofExcept x : Attempt σ ε α).run.run s = (x, s) := by
  cases x <;> rfl

/-- An attempt whose answer is only worked on ends where it ended. -/
theorem run_bind_ofExcept {act : Attempt σ ε α} {f : α → Except ε β}
    {answer : Except ε α} {s s' : Session σ} (ran : act.run.run s = (answer, s')) :
    (act >>= fun x => Attempt.ofExcept (f x)).run.run s = (answer >>= f, s') := by
  cases answer with
  | error e => exact run_bind_error ran
  | ok x => exact (run_bind_ok ran).trans (run_ofExcept (f x) s')

theorem exists_of_run_ofExcept {x : Except ε α} {next : α → Attempt σ ε β} {s s' : Session σ}
    {y : β} (h : (Attempt.ofExcept x >>= next).run.run s = (.ok y, s')) :
    ∃ v, x = .ok v ∧ (next v).run.run s = (.ok y, s') := by
  cases x with
  | error e => cases h
  | ok v => exact ⟨v, rfl, h⟩

theorem run_mapM_ofExcept (f : α → Except ε β) (xs : List α) (s : Session σ) :
    (xs.mapM fun x => (Attempt.ofExcept (f x) : Attempt σ ε β)).run.run s = (xs.mapM f, s) := by
  induction xs with
  | nil => rfl
  | cons x xs ih =>
    rw [List.mapM_cons, List.mapM_cons]
    cases here : f x with
    | error e => rfl
    | ok y =>
      rw [run_bind_ok (run_ofExcept _ s)]
      cases rest : xs.mapM f with
      | error e =>
        rw [rest] at ih
        exact run_bind_error ih
      | ok ys =>
        rw [rest] at ih
        exact run_bind_ok ih

theorem run_log (line : LogLine) (s : Session σ) :
    (Action.log line).run.run s = (.ok (), s.note [.log line]) := rfl

theorem run_reply (verb : Verb) (ask : σ → Reply σ α) (s : Session σ) :
    (Attempt.reply verb ask).run.run s = ((ask s.store).result,
      { s with
        store := (ask s.store).store
        journal := s.journal ++ .asked verb :: (ask s.store).log.map Event.log }) :=
  run_ofExcept (ask s.store).result _

theorem run_classified (act : Attempt σ StoreError α) (s : Session σ) :
    act.classified.run.run s =
      Prod.map (Except.mapError StoreError.classify) id (act.run.run s) := rfl

theorem run_adapt {ε' : Type} (act : Attempt σ ε α) (f : ε → ε') (s : Session σ) :
    (act.adapt f : Attempt σ ε' α).run.run s = Prod.map (Except.mapError f) id (act.run.run s) :=
  rfl

/-- The outcome of an attempt is an answer, be it a failure. -/
theorem run_outcome {ε' : Type} (act : Attempt σ ε α) (s : Session σ) :
    (act.outcome : Attempt σ ε' (Except ε α)).run.run s =
      (.ok (act.run.run s).1, (act.run.run s).2) := rfl

variable [Store σ]

theorem run_steer (id : Nat) (c : Control) (s : Session σ) :
    (Store.steer id c).run.run s =
      ((Store.control id c s.store).result,
        { s with
          store := (Store.control id c s.store).store
          journal := s.journal ++
            .asked c.verb :: (Store.control id c s.store).log.map Event.log }) :=
  run_reply c.verb _ s

/-- Fetching a row asks for one and takes the first of the answer. -/
theorem Store.run_fetchOne (scope : Scope) (table : String) (q : Compiled) (s : Session σ) :
    (Store.fetchOne scope table q).run.run s =
      ((Store.perform scope (.select table q.first) s.store).result >>= firstRow,
        { s with
          store := (Store.perform scope (.select table q.first) s.store).store
          journal := s.journal ++ .asked .select ::
            (Store.perform scope (.select table q.first) s.store).log.map Event.log }) :=
  run_bind_ofExcept (run_reply ..)

theorem Action.run_fetchOne (scope : Scope) (table : String) (q : Compiled) (s : Session σ) :
    (Action.fetchOne scope table q).run.run s =
      (((Store.perform scope (.select table q.first) s.store).result >>= firstRow).mapError
          StoreError.classify,
        { s with
          store := (Store.perform scope (.select table q.first) s.store).store
          journal := s.journal ++ .asked .select ::
            (Store.perform scope (.select table q.first) s.store).log.map Event.log }) := by
  rw [Action.fetchOne, run_classified, Store.run_fetchOne]
  rfl

theorem run_ask (scope : Scope) (r : Request α) (s : Session σ) :
    (Action.ask scope r).run.run s =
      ((Store.perform scope r s.store).result.mapError StoreError.classify,
        { s with
          store := (Store.perform scope r s.store).store
          journal := s.journal ++
            .asked r.verb :: (Store.perform scope r s.store).log.map Event.log }) := by
  rw [Action.ask, run_classified, Store.request, run_reply]
  rfl

/-- The store is asked in the course of an action. -/
def Issues (act : Action σ α) (verb : Verb) (s : Session σ) : Prop :=
  ∃ events, (act.run.run s).2.journal = s.journal ++ events ∧ Event.asked verb ∈ events

end

end EntityStore
