import EntityStore.Hook
import EntityStore.Schema

/-!
# Entities

An entity type is bound to one table: it has a description of the table, and its values are
written to rows and read from them. Beside that it may run hooks around the operations of a
repository and may have relations to rows of other tables.
-/

namespace EntityStore

/-- A change that may stop half way, and then leaves what it had changed before. -/
abbrev Edit (ε α : Type) := α → Except ε Unit × α

namespace Edit

def skip {ε α : Type} : Edit ε α := fun x => (.ok (), x)

def mapError {ε ε' α : Type} (f : ε → ε') (edit : Edit ε α) : Edit ε' α := fun x =>
  let (result, x) := edit x
  (result.mapError f, x)

def check {ε α : Type} (f : α → Except ε Unit) : Edit ε α := fun x => (f x, x)

end Edit

/-- The hooks of an entity type. A hook that is not given does nothing. -/
structure Hooks (α : Type) where
  validate : α → Except String Unit := fun _ => .ok ()
  beforeCreate : Edit String α := .skip
  afterCreate : Edit String α := .skip
  beforeUpdate : Edit String α := .skip
  afterUpdate : Edit String α := .skip
  beforeDelete : α → Except String Unit := fun _ => .ok ()
  afterDelete : α → Except String Unit := fun _ => .ok ()
  afterFind : Edit String α := .skip

def Hooks.at {α : Type} (hooks : Hooks α) : HookPoint → Edit String α
  | .validate => .check hooks.validate
  | .beforeCreate => hooks.beforeCreate
  | .afterCreate => hooks.afterCreate
  | .beforeUpdate => hooks.beforeUpdate
  | .afterUpdate => hooks.afterUpdate
  | .beforeDelete => .check hooks.beforeDelete
  | .afterDelete => .check hooks.afterDelete
  | .afterFind => hooks.afterFind

def Relation.unknown (name : String) : Error := .validation ("unknown relation: " ++ name)

/-- A type whose values are persisted in one table. -/
class Entity (α : Type) where
  info : EntityInfo
  toRecord : α → Record
  /-- Builds an entity from a row; a column that the row lacks takes its default. -/
  fromRecord : Record → Except StoreError α
  applyRecord : Record → Edit StoreError α
  /-- The value of the first key column, null without one. -/
  primaryKey : α → Value := fun e =>
    match info.primaryKey? with
    | some f => (toRecord e).getD f.column
    | none => .null
  relations : List Relation := []
  /-- Puts the rows that were loaded for a relation on the entity. -/
  attach : String → List Record → α → Except Error α := fun name _ _ => .error (Relation.unknown name)
  hooks : Hooks α := {}

end EntityStore
