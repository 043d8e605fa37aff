import EntityStore.Repository

/-!
# Transactions

The body of a transaction gets a repository that is bound to it. The transaction is committed
when the body succeeds and rolled back when it fails, and the body's own error is the error
of the whole. Inside a transaction the body runs under a savepoint instead.
-/

namespace EntityStore

def savepointName (n : Nat) : String := "gpa_sp_" ++ toString n

/-- A savepoint name that was not given out before. -/
def freshSavepoint {σ ε : Type} : Attempt σ ε String := do
  let s ← get
  set { s with savepoints := s.savepoints + 1 }
  return savepointName s.savepoints

namespace Transaction

variable {σ α : Type} [Store σ]

/-- Runs a control with a savepoint name that has to be an identifier. -/
def named (t : Transaction α) (control : String → Control) (name : String) : Action σ Unit := do
  let _ ← Attempt.ofExcept (Query.ident name)
  .steer t.id (control name)

def savepoint (t : Transaction α) : String → Action σ Unit := t.named .savepoint

def rollbackTo (t : Transaction α) : String → Action σ Unit := t.named .rollbackTo

def release (t : Transaction α) : String → Action σ Unit := t.named .release

end Transaction

namespace Repository

variable {σ ε α β : Type} [Store σ]

def logged (line : LogLine) : Attempt σ ε Unit := Attempt.note [.log line]

/-- Steers a transaction whose body may fail with errors of the caller's own. -/
def steerFor (ofError : Error → ε) (id : Nat) (c : Control) : Attempt σ ε Unit :=
  (Store.steer id c).adapt fun e => ofError e.classify

def startedLine (options : TxOptions) : LogLine :=
  remark "transaction started"
    [("isolation", .text options.isolation.text), ("read_only", .flag options.readOnly)]

/-- Rolls a transaction back. That this fails is told to the log only. -/
def undo (id : Nat) : Attempt σ ε Unit := do
  match ← (Store.steer id .rollback).outcome with
  | .ok () => logged (remark "transaction rolled back" [])
  | .error e => logged (warning "rollback failed" [("error", .text e.message)])

/-- Undoes a nested transaction. That this fails is told to the log only. -/
def undoNested (id : Nat) (name : String) : Attempt σ ε Unit := do
  let back : Attempt σ StoreError Unit := do
    Store.steer id (.rollbackTo name)
    Store.steer id (.release name)
  match ← back.outcome with
  | .ok () => return
  | .error e =>
    logged (warning "savepoint rollback failed"
      [("savepoint", .text name), ("error", .text e.message)])

def outermost (repo : Repository α) (ofError : Error → ε) (options : TxOptions)
    (body : Transaction α → Attempt σ ε β) : Attempt σ ε β := do
  let id ← (Store.start options).adapt fun e => ofError e.classify
  logged (startedLine options)
  match ← (body ⟨id, repo.observer⟩).outcome with
  | .ok x =>
    steerFor ofError id .commit
    logged (remark "transaction committed" [])
    return x
  | .error e =>
    undo id
    throw e

def nested (t : Transaction α) (ofError : Error → ε) (body : Transaction α → Attempt σ ε β) :
    Attempt σ ε β := do
  let name ← freshSavepoint
  steerFor ofError t.id (.savepoint name)
  match ← (body t).outcome with
  | .ok x =>
    steerFor ofError t.id (.release name)
    return x
  | .error e =>
    undoNested t.id name
    throw e

/-- Runs a body in a transaction. `ofError` makes an error of the body's kind out of one that
the store raised at the transaction's ends. Inside a transaction the options do not count. -/
def transaction (repo : Repository α) (ofError : Error → ε) (options : TxOptions)
    (body : Transaction α → Attempt σ ε β) : Attempt σ ε β :=
  match repo.scope with
  | .direct => repo.outermost ofError options body
  | .tx id => nested ⟨id, repo.observer⟩ ofError body

end Repository

end EntityStore
