import EntityStore.Repository

/-!
# Writing entities

Inserts, updates and deletes. Before anything is written the checks and the early hooks have
run on every entity; the late hooks run after the store has accepted the write. A batch
is inserted by a fixed number of rows per write, and several writes share one transaction.
-/

namespace EntityStore.Repository

variable {σ α : Type} [Store σ] [Entity α]

/-- Rows per write of a batch. -/
def batchSize : Nat := 100

/-! ## Inserting -/

/-- The row of an entity without the keys that the store has yet to generate. -/
def insertable (info : EntityInfo) (row : Record) : Record :=
  info.generatedColumns.foldl
    (fun row column => if (row.get? column).any Value.isUnsetKey then row.remove column else row)
    row

/-- Writes each returned row back to its entity, up to the first that does not decode. -/
def applyRows : List Record → Edit Error (List α)
  | [], es => (.ok (), es)
  | _, [] => (.ok (), [])
  | row :: rows, e :: es =>
    match Entity.applyRecord row e with
    | (.error err, e) => (.error err.classify, e :: es)
    | (.ok (), e) =>
      let (result, es) := applyRows rows es
      (result, e :: es)

/-- Inserts entities in one write and takes over what the store generated. -/
def insertRows (scope : Scope) : Mutation σ (List α) Unit := do
  let info := Entity.info α
  let rows := (← get).map fun e => insertable info (Entity.toRecord e)
  let answers ← Mutation.act (.ask scope (.insert info.table rows info.generatedColumns))
  Mutation.edit (applyRows answers)

def insertChunks (scope : Scope) (size : Nat) (positive : 0 < size) :
    List α → StateM (Session σ) (Except Error Unit × List α)
  | [] => pure (.ok (), [])
  | e :: es => do
    let (result, chunk) ← (insertRows scope).runOn ((e :: es).take size)
    let rest := (e :: es).drop size
    match result with
    | .error err => return (.error err, chunk ++ rest)
    | .ok () =>
      let (result, rest) ← insertChunks scope size positive rest
      return (result, chunk ++ rest)
termination_by es => es.length
decreasing_by simp; omega

def insertBatch (scope : Scope) : Mutation σ (List α) Unit :=
  ExceptT.mk (insertChunks scope batchSize (by decide))

/-- Ends the transaction of a batch as its writes went. -/
def endBatch (id : Nat) : Except Error Unit → Action σ Unit
  | .ok () => .steer id .commit
  | .error err => do
    match ← (Store.steer id .rollback).outcome with
    | .ok () => throw err
    | .error undo =>
      .log (warning "batch rollback failed" [("error", .text undo.message)])
      throw err

def insertInTransaction : Mutation σ (List α) Unit := do
  let id ← Mutation.act (Store.start {}).classified
  let (result, es) ← Mutation.act (ExceptT.lift ((insertBatch (.tx id)).runOn (← get)))
  set es
  Mutation.act (endBatch id result)

def create (repo : Repository α) : Mutation σ α Unit := do
  early .validate
  early .beforeCreate
  let info := Entity.info α
  let row := insertable info (Entity.toRecord (← get))
  Mutation.act (logOp α "create" "insert" [])
  let answers ← Mutation.act (.ask repo.scope (.insert info.table [row] info.generatedColumns))
  match answers with
  | [] => pure ()
  | answer :: _ =>
    Mutation.edit ((Entity.applyRecord answer).mapError StoreError.classify)
  repo.late .afterCreate

def writesOf (rows : Nat) : Nat := (rows + (batchSize - 1)) / batchSize

/-- Whether a batch needs a transaction of its own. -/
def needsTransaction (repo : Repository α) (rows : Nat) : Bool :=
  !repo.isInTransaction && decide (batchSize < rows)

/-- Inserts many entities. Every check runs before every early hook, and all of them before
the first write. -/
def createBatch (repo : Repository α) : Mutation σ (List α) Unit := do
  let size := (← get).length
  if size = 0 then return
  (Mutation.each (early .validate) : Mutation σ (List α) Unit)
  (Mutation.each (early .beforeCreate) : Mutation σ (List α) Unit)
  Mutation.act (logOp α "create_batch" "insert batch"
    [("rows", .count size), ("writes", .count (writesOf size))])
  if repo.needsTransaction size then insertInTransaction else insertBatch repo.scope
  Mutation.each (repo.late .afterCreate)

/-! ## Updating -/

/-- Saves every column of an entity, which is found by its key. -/
def update (repo : Repository α) : Mutation σ α Unit := do
  early .validate
  early .beforeUpdate
  let info := Entity.info α
  let e ← get
  let key ← Mutation.act (.ofExcept info.requirePrimaryKey)
  let filters ← Mutation.act (.ofExcept (keyFilter info (Entity.primaryKey e)))
  let changes := (Entity.toRecord e).remove key.column
  Mutation.act (logOp α "update" "update" [])
  let rows ← Mutation.act (.ask repo.scope (.update info.table changes filters))
  Mutation.act (affected info rows)
  repo.late .afterUpdate

def noChanges : Error := .validation "no fields to update"

def unknownField (name : String) : Error := .validation ("unknown field: " ++ name)

def resolveColumn (info : EntityInfo) (name : String) : Except Error String :=
  match info.resolve? name with
  | some f => .ok f.column
  | none => .error (unknownField name)

def resolveChanges (info : EntityInfo) (changes : Record) : Except Error Record := do
  if changes.isEmpty then .error noChanges
  else
    let pairs ← changes.entries.mapM fun (name, v) => (resolveColumn info name).map (·, v)
    return .ofPairs pairs

/-- Sets the given fields of the entity of a key. No hooks run. -/
def updatePartial (repo : Repository α) (key : Value) (changes : Record) : Action σ Unit := do
  let info := Entity.info α
  let changes ← Attempt.ofExcept (resolveChanges info changes)
  let filters ← Attempt.ofExcept (keyFilter info key)
  logOp α "update_partial" "update" [("fields", .count changes.size)]
  let rows ← Action.ask repo.scope (.update info.table changes filters)
  affected info rows

/-! ## Deleting -/

def delete (repo : Repository α) (key : Value) : Action σ Unit := do
  let info := Entity.info α
  let filters ← Attempt.ofExcept (keyFilter info key)
  let row ← Action.fetchOne repo.scope info.table (.filtered filters)
  let e ← decodeRow α row
  let e ← (early .beforeDelete : Mutation σ α Unit).changed e
  logOp α "delete" "delete" []
  let rows ← Action.ask repo.scope (.delete info.table filters)
  affected info rows
  let _ ← (repo.late .afterDelete).changed e

def unrestricted : Error := .validation "delete without a restricting condition"

/-- The filter of a condition, unless it holds of every row without a look at one. -/
def restricting (c : Condition) : Except Error Predicate := do
  let p ← (Predicate.lower .where c).mapError fun f => .validation f.message
  if p.isUnconditional then .error unrestricted else .ok p

/-- Deletes every row that satisfies a condition, and answers how many. No hooks run. -/
def deleteWhere (repo : Repository α) (c : Condition) : Action σ UInt64 := do
  let info := Entity.info α
  let p ← Attempt.ofExcept (restricting c)
  logOp α "delete_by_condition" "delete" []
  .ask repo.scope (.delete info.table [p])

end EntityStore.Repository
