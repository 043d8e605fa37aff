import EntityStore.Store

/-!
# Sessions

A session is a store together with the journal of what was done. `Action` is a computation in
a session that may fail with a classified error; what it did before it failed stays done.
-/

namespace EntityStore

structure Session (σ : Type) where
  store : σ
  savepoints : Nat
  journal : List Event

namespace Session

def start {σ : Type} (store : σ) : Session σ := ⟨store, 0, []⟩

def note {σ : Type} (events : List Event) (s : Session σ) : Session σ :=
  { s with journal := s.journal ++ events }

end Session

/-- A computation in a session that answers or fails with an error of type `ε`. -/
abbrev Attempt (σ ε : Type) := ExceptT ε (StateM (Session σ))

/-- A computation in a session that may fail with a classified error. -/
abbrev Action (σ : Type) := Attempt σ Error

section

variable {σ ε α : Type}

/-- Runs an attempt and answers its outcome, so that it cannot fail. -/
def Attempt.outcome {ε' : Type} (act : Attempt σ ε α) : Attempt σ ε' (Except ε α) :=
  ExceptT.lift act.run

def Attempt.note (events : List Event) : Attempt σ ε Unit := modify (Session.note events)

def Attempt.ofExcept : Except ε α → Attempt σ ε α
  | .ok x => pure x
  | .error e => throw e

def Attempt.reply (verb : Verb) (ask : σ → Reply σ α) : Attempt σ StoreError α := do
  let s ← get
  let r := ask s.store
  set { s with
    store := r.store
    journal := s.journal ++ Event.asked verb :: r.log.map Event.log }
  ofExcept r.result

variable [Store σ]

def Store.request (scope : Scope) (r : Request α) : Attempt σ StoreError α :=
  .reply r.verb (Store.perform scope r)

def Store.start (options : TxOptions) : Attempt σ StoreError Nat :=
  .reply .begin (Store.begin options)

def Store.giveUp (id : Nat) : Attempt σ StoreError Unit := .reply .abandon (Store.abandon id)

def Store.steer (id : Nat) (c : Control) : Attempt σ StoreError Unit :=
  .reply c.verb (Store.control id c)

def Store.fetchOne (scope : Scope) (table : String) (q : Compiled) :
    Attempt σ StoreError Record := do
  let rows ← Store.request scope (.select table q.first)
  Attempt.ofExcept (firstRow rows)

def Attempt.classified (act : Attempt σ StoreError α) : Action σ α :=
  act.adapt StoreError.classify

def Action.ask (scope : Scope) (r : Request α) : Action σ α := (Store.request scope r).classified

def Action.fetchOne (scope : Scope) (table : String) (q : Compiled) : Action σ Record :=
  (Store.fetchOne scope table q).classified

def Action.steer (id : Nat) (c : Control) : Action σ Unit := (Store.steer id c).classified

end

def Action.log {σ : Type} (line : LogLine) : Action σ Unit := Attempt.note [.log line]

end EntityStore
