import EntityStore.Repository

/-!
# Finding entities

Queries compile their clauses, ask the store once, and once more per relation that is to be
loaded. The rows of a relation are shared out among the entities by comparing keys. The hook
of found entities runs last.
-/

namespace EntityStore.Repository

variable {σ α : Type} [Store σ]

def compiled (clauses : List Query.Clause) : Action σ Compiled :=
  .ofExcept ((Query.compileClauses clauses).mapError Query.Fault.error)

/-! ## Relations -/

/-- The values to look for: no null, and none twice. -/
def wantedKeys (keys : List Value) : List Value :=
  keys.foldl (fun wanted key =>
    if key.isNull || wanted.any (· == key) then wanted else wanted ++ [key]) []

def matchingRows (column : String) (key : Value) (rows : List Record) : List Record :=
  rows.filter fun row => ((row.get? column).bind (·.compare? key)) = some .eq

/-- The rows of the related table that any of the keys refers to. -/
def relatedRows (scope : Scope) (r : Relation) (keys : List Value) : Action σ (List Record) :=
  match wantedKeys keys with
  | [] => pure []
  | wanted => do
    let column ← Attempt.ofExcept (Query.ident r.relatedColumn)
    .ask scope (.select r.table (.filtered [.compare (.column column) .isIn (.list wanted)]))

variable [Entity α]

/-- The key by which an entity takes part in a relation. -/
def relationKey (r : Relation) (e : α) : Value := (Entity.toRecord e).getD r.parentColumn

/-- Loads one relation for all entities in one query. -/
def loadRelation (scope : Scope) (r : Relation) (entities : List α) : Action σ (List α) := do
  let rows ← relatedRows scope r (entities.map (relationKey r))
  .ofExcept (entities.mapM fun e =>
    Entity.attach r.name (matchingRows r.relatedColumn (relationKey r e) rows) e)

def findRelation (α : Type) [Entity α] (name : String) : Except Error Relation :=
  match (Entity.relations α).find? (·.name = name) with
  | some r => .ok r
  | none => .error (Relation.unknown name)

/-- Loads relations by name. A name that the entity does not declare is an error even if
there is no entity to load it for. -/
def loadRelations (scope : Scope) : List String → List α → Action σ (List α)
  | [], entities => pure entities
  | name :: names, entities => do
    let r ← Attempt.ofExcept (findRelation α name)
    let entities ← if entities.isEmpty then pure [] else loadRelation scope r entities
    loadRelations scope names entities

/-! ## Queries -/

def find (repo : Repository α) (key : Value) : Action σ α := do
  let info := Entity.info α
  let filters ← Attempt.ofExcept (keyFilter info key)
  logOp α "find_by_id" "select" []
  let row ← Action.fetchOne repo.scope info.table (.filtered filters)
  let e ← decodeRow α row
  repo.found e

def query (repo : Repository α) (clauses : List Query.Clause) : Action σ (List α) := do
  let q ← compiled clauses
  logOp α "query" "select" [("filters", .count q.filters.length)]
  let rows ← Action.ask repo.scope (.select (Entity.info α).table q)
  let entities ← rows.mapM (decodeRow α)
  let entities ← loadRelations repo.scope q.preloads entities
  entities.mapM repo.found

/-- Loads relations for a single entity and runs its hook. -/
def finish (repo : Repository α) (relations : List String) (row : Record) : Action σ α := do
  let e ← decodeRow α row
  match ← loadRelations repo.scope relations [e] with
  | e :: _ => repo.found e
  | [] => repo.found e

def queryOne (repo : Repository α) (clauses : List Query.Clause) : Action σ α := do
  let q ← compiled clauses
  logOp α "query_one" "select" []
  let row ← Action.fetchOne repo.scope (Entity.info α).table q
  repo.finish q.preloads row

/-- How many rows the clauses select, whatever their limit and offset. -/
def count (repo : Repository α) (clauses : List Query.Clause) : Action σ UInt64 := do
  let q ← compiled clauses
  .ask repo.scope (.count (Entity.info α).table q)

/-- Whether the clauses select any row. -/
def hasAny (repo : Repository α) (clauses : List Query.Clause) : Action σ Bool := do
  return (← repo.count clauses) > 0

/-- A query with further relations to load, before those that its clauses name. -/
def queryWith (repo : Repository α) (relations : List String) (clauses : List Query.Clause) :
    Action σ (List α) :=
  repo.query (relations.map .preload ++ clauses)

def findWith (repo : Repository α) (key : Value) (relations : List String) : Action σ α := do
  let info := Entity.info α
  let filters ← Attempt.ofExcept (keyFilter info key)
  let row ← Action.fetchOne repo.scope info.table (.filtered filters)
  repo.finish relations row

/-! ## Raw statements -/

/-- The entities that a raw statement yields. No hooks run. -/
def rawQuery (repo : Repository α) (sql : String) (args : List Value) : Action σ (List α) := do
  logOp α "raw_query" "raw" []
  let rows ← Action.ask repo.scope (.rawQuery sql args)
  rows.mapM (decodeRow α)

omit [Entity α] in
def rawExec (repo : Repository α) (sql : String) (args : List Value) : Action σ ExecResult := do
  Action.log (remark "raw" [("op", .text "raw_exec")])
  .ask repo.scope (.rawExec sql args)

end EntityStore.Repository
