import EntityStore.Record

/-!
# Table layouts

A field describes one column of a table, an `EntityInfo` the table of an entity. From the
entity's description follow the columns that the store generates and the constraints of the
table.
-/

namespace EntityStore

inductive FieldType where
  | bool | smallInt | int | bigInt | float | double | text | bytes | json | timestamp | uuid
deriving DecidableEq, Repr

namespace FieldType

def isInteger : FieldType → Bool
  | .smallInt | .int | .bigInt => true
  | _ => false

/-- A number with fixed places when a precision is given. -/
def numericSql (otherwise : String) : Option UInt32 → Option UInt32 → String
  | some p, some s => "NUMERIC(" ++ toString p ++ "," ++ toString s ++ ")"
  | some p, none => "NUMERIC(" ++ toString p ++ ")"
  | none, _ => otherwise

def sql (type : FieldType) (maxLength precision scale : Option UInt32) : String :=
  match type with
  | .bool => "BOOLEAN"
  | .smallInt => "SMALLINT"
  | .int => "INTEGER"
  | .bigInt => "BIGINT"
  | .float => numericSql "REAL" precision scale
  | .double => numericSql "DOUBLE PRECISION" precision scale
  | .text =>
    match maxLength with
    | some n => "VARCHAR(" ++ toString n ++ ")"
    | none => "TEXT"
  | .bytes => "BYTEA"
  | .json => "JSONB"
  | .timestamp => "TIMESTAMPTZ"
  | .uuid => "UUID"

def serialSql : FieldType → String
  | .bigInt => "BIGSERIAL"
  | .smallInt => "SMALLSERIAL"
  | _ => "SERIAL"

end FieldType

structure Field where
  name : String
  column : String
  type : FieldType
  sqlType? : Option String
  primaryKey : Bool
  nullable : Bool
  autoIncrement : Bool
  unique : Bool
  default? : Option String
  maxLength : Option UInt32
  precision : Option UInt32
  scale : Option UInt32
deriving DecidableEq, Repr

namespace Field

def ofType (name : String) (type : FieldType) : Field :=
  ⟨name, name, type, none, false, false, false, false, none, none, none, none⟩

/-- A key column is never null. -/
def asPrimaryKey (f : Field) : Field := { f with primaryKey := true, nullable := false }

def withPrecision (f : Field) (precision : UInt32) (scale : Option UInt32) : Field :=
  { f with precision := some precision, scale := scale }

def columnType (f : Field) : String :=
  match f.sqlType? with
  | some t => t
  | none =>
    if f.autoIncrement && f.type.isInteger then f.type.serialSql
    else f.type.sql f.maxLength f.precision f.scale

/-- Unique on its own, not as the key. -/
def isUniqueColumn (f : Field) : Bool := f.unique && !f.primaryKey

end Field

/-- The columns of the primary key, in the order of the fields. -/
def keyColumns (fields : List Field) : List String :=
  (fields.filter (·.primaryKey)).map (·.column)

structure EntityInfo where
  name : String
  table : String
  fields : List Field
deriving DecidableEq, Repr

inductive ConstraintKind where
  | primaryKey
  | unique
deriving DecidableEq, Repr

structure Constraint where
  name : String
  kind : ConstraintKind
  columns : List String
deriving DecidableEq, Repr

namespace EntityInfo

def primaryKeys (info : EntityInfo) : List String :=
  (info.fields.filter (·.primaryKey)).map (·.name)

def primaryKey? (info : EntityInfo) : Option Field := info.fields.find? (·.primaryKey)

def missingPrimaryKey (info : EntityInfo) : Error :=
  .validation ("entity " ++ info.name ++ " has no primary key")

/-- The first key field, which operations by key need. -/
def requirePrimaryKey (info : EntityInfo) : Except Error Field :=
  match info.primaryKey? with
  | some f => .ok f
  | none => .error info.missingPrimaryKey

def field? (info : EntityInfo) (name : String) : Option Field :=
  info.fields.find? (·.name = name)

/-- The field of that name, or else the field of that column. -/
def resolve? (info : EntityInfo) (name : String) : Option Field :=
  match info.field? name with
  | some f => some f
  | none => info.fields.find? (·.column = name)

def columns (info : EntityInfo) : List String := info.fields.map (·.column)

/-- The columns that the store fills in on insert. -/
def generatedColumns (info : EntityInfo) : List String :=
  (info.fields.filter (·.autoIncrement)).map (·.column)

/-- The key as a constraint, if there is one, and one constraint per unique column. -/
def constraints (info : EntityInfo) : List Constraint :=
  let key := keyColumns info.fields
  (if key.isEmpty then [] else [⟨info.table ++ "_pkey", .primaryKey, key⟩]) ++
    (info.fields.filter (·.isUniqueColumn)).map fun f =>
      ⟨info.table ++ "_" ++ f.column ++ "_key", .unique, [f.column]⟩

end EntityInfo

structure TableSchema where
  name : String
  fields : List Field
deriving DecidableEq, Repr

def EntityInfo.schema (info : EntityInfo) : TableSchema := ⟨info.table, info.fields⟩

structure Index where
  name : String
  table : String
  columns : List String
  unique : Bool
deriving DecidableEq, Repr

inductive RelationKind where
  | hasMany
  /-- As `hasMany`, for at most one row. -/
  | hasOne
  | belongsTo
deriving DecidableEq, Repr

/-- A named relation to rows of another table. The foreign key is a column of the related
table, or of this entity for `belongsTo`; it holds a value of the referenced column on the
other side. -/
structure Relation where
  name : String
  kind : RelationKind
  table : String
  foreignKey : String
  references : String
deriving DecidableEq, Repr

namespace Relation

def parentColumn (r : Relation) : String :=
  match r.kind with
  | .belongsTo => r.foreignKey
  | .hasMany | .hasOne => r.references

def relatedColumn (r : Relation) : String :=
  match r.kind with
  | .belongsTo => r.references
  | .hasMany | .hasOne => r.foreignKey

end Relation

end EntityStore
