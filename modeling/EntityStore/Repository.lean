import EntityStore.Mutation

/-!
# Repositories

A repository gives access to the entities of one type, on a store or inside an open
transaction. Here is what its operations share: their lines in the log, the hooks, and the
filter for one key. The operations themselves are in the modules below this one.
-/

namespace EntityStore

/-- Who hears of a hook that failed after its operation had succeeded. -/
inductive Observer where
  | silent
  | logging
deriving DecidableEq, Repr

def Observer.line (entity : String) (point : HookPoint) (reason : String) : LogLine :=
  ⟨.warn, "gpa.hooks", some "hook failed after persistence",
    [("entity", .text entity), ("hook", .text point.text), ("error", .text reason)]⟩

def Observer.events (observer : Observer) (entity : String) (point : HookPoint)
    (reason : String) : List Event :=
  .observed entity point reason ::
    match observer with
    | .silent => []
    | .logging => [.log (line entity point reason)]

structure Repository (α : Type) where
  scope : Scope
  observer : Observer
deriving DecidableEq, Repr

structure Transaction (α : Type) where
  id : Nat
  observer : Observer
deriving DecidableEq, Repr

def Transaction.repository {α : Type} (t : Transaction α) : Repository α := ⟨.tx t.id, t.observer⟩

namespace Repository

variable {σ α : Type}

/-- A repository directly on the store, which logs the failures of late hooks. -/
def direct : Repository α := ⟨.direct, .logging⟩

def forEntity (β : Type) (repo : Repository α) : Repository β := ⟨repo.scope, repo.observer⟩

def isInTransaction (repo : Repository α) : Bool := repo.scope ≠ .direct

/-! ## The log -/

def logTarget : String := "gpa.repository"

/-- A line of the log about no entity. -/
def remark (message : String) (fields : List (String × LogValue)) : LogLine :=
  ⟨.debug, logTarget, some message, fields⟩

def line (entity op message : String) (fields : List (String × LogValue)) : LogLine :=
  remark message (("entity", .text entity) :: ("op", .text op) :: fields)

def warning (message : String) (fields : List (String × LogValue)) : LogLine :=
  { remark message fields with level := .warn }

def logOp (α : Type) [Entity α] (op message : String) (fields : List (String × LogValue)) :
    Action σ Unit :=
  .log (line (Entity.info α).name op message fields)

/-! ## Hooks -/

/-- The error of an operation that a hook stopped. -/
def stopped (point : HookPoint) (reason : String) : Error :=
  ⟨.validation, point.text ++ " hook failed: " ++ reason, some reason⟩

variable [Entity α]

/-- Runs a hook that stops the operation when it fails. -/
def early (point : HookPoint) : Mutation σ α Unit := do
  Mutation.tell [.hook point (Entity.toRecord (← get))]
  Mutation.edit ((Entity.hooks.at point).mapError (stopped point))

/-- Runs a hook whose failure is only observed. -/
def late (repo : Repository α) (point : HookPoint) : Mutation σ α Unit := do
  let e ← get
  Mutation.tell [.hook point (Entity.toRecord e)]
  let (result, e) := Entity.hooks.at point e
  set e
  match result with
  | .ok () => return
  | .error reason => Mutation.tell (repo.observer.events (Entity.info α).name point reason)

def found (repo : Repository α) (e : α) : Action σ α := (repo.late .afterFind).changed e

/-! ## Keys and rows -/

def decodeRow (α : Type) [Entity α] (row : Record) : Action σ α :=
  .ofExcept ((Entity.fromRecord row).mapError StoreError.classify)

def nullKey : Error := .validation "primary key value is null"

/-- The filter for the entity of a key. Of a key of several columns the first one counts. -/
def keyFilter (info : EntityInfo) (key : Value) : Except Error (List Predicate) := do
  let field ← info.requirePrimaryKey
  if key.isNull then .error nullKey
  else
    let column ← Query.ident field.column
    return [.compare (.column column) .eq key]

def notFoundError (info : EntityInfo) : Error := .notFound (info.name ++ " not found")

/-- Refuses a write that found no row. -/
def affected (info : EntityInfo) (rows : UInt64) : Action σ Unit :=
  if rows = 0 then throw (notFoundError info) else pure ()

end Repository

end EntityStore
