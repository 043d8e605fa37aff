import EntityStore.Repository.Write

/-!
# Tables of entities

Creating, comparing and migrating the table that belongs to an entity, and its indexes.
-/

namespace EntityStore.Repository

variable {σ α : Type} [Store σ] [Entity α]

def tableExists (table : String) : Error := .duplicate ("table already exists: " ++ table)

def createTable (repo : Repository α) : Action σ Unit := do
  let info := Entity.info α
  if ← .ask repo.scope (.hasTable info.table) then throw (tableExists info.table)
  .ask repo.scope (.createTable info.schema)

def dropTable (repo : Repository α) : Action σ Unit :=
  .ask repo.scope (.dropTable (Entity.info α).table)

/-- Creates the entity's table or adds the columns that it lacks. -/
def migrateTable (repo : Repository α) : Action σ Unit :=
  .ask repo.scope (.migrateTable (Entity.info α).schema)

/-- How a live table compares with its entity. -/
structure MigrationStatus where
  tableExists : Bool
  pending : List String
deriving DecidableEq, Repr

namespace MigrationStatus

def needsMigration (s : MigrationStatus) : Bool := !s.pending.isEmpty

def requiredVersion : String := "current"

def currentVersion (s : MigrationStatus) : String :=
  if s.needsMigration then "outdated" else requiredVersion

end MigrationStatus

def pendingColumns (info : EntityInfo) (live : List String) : List String :=
  (info.fields.filter fun f => f.column ∉ live).map fun f =>
    "add column " ++ info.table ++ "." ++ f.column

def migrationStatus (repo : Repository α) : Action σ MigrationStatus := do
  let info := Entity.info α
  if ← .ask repo.scope (.hasTable info.table) then
    let live ← Action.ask repo.scope (.tableColumns info.table)
    return ⟨true, pendingColumns info live⟩
  else return ⟨false, ["create table " ++ info.table]⟩

/-! ## Indexes -/

def noIndexFields : Error := .validation "index needs at least one field"

def indexExists (name : String) : Error := .duplicate ("index already exists: " ++ name)

/-- The name of the index on some columns of a table. -/
def indexName (table : String) (columns : List String) : String :=
  "idx_" ++ table ++ "_" ++ "_".intercalate columns

def indexOn (info : EntityInfo) (fields : List String) (unique : Bool) : Except Error Index :=
  if fields.isEmpty then .error noIndexFields
  else (fields.mapM (resolveColumn info)).map fun columns =>
    ⟨indexName info.table columns, info.table, columns, unique⟩

def createIndex (repo : Repository α) (fields : List String) (unique : Bool) :
    Action σ Unit := do
  let index ← Attempt.ofExcept (indexOn (Entity.info α) fields unique)
  if ← .ask repo.scope (.hasIndex index.table index.name) then throw (indexExists index.name)
  .ask repo.scope (.createIndex index)

def dropIndex (repo : Repository α) (name : String) : Action σ Unit := do
  let _ ← Attempt.ofExcept (Query.ident name)
  .ask repo.scope (.dropIndex (Entity.info α).table name)

omit [Entity α] in
/-- Whether the store answers. -/
def health (repo : Repository α) : Action σ Unit := .ask repo.scope .ping

end EntityStore.Repository
