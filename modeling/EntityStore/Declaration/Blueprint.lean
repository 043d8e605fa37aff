import EntityStore.Declaration.Part
import EntityStore.Declaration.TypeExpr.Reader
import EntityStore.Entity.Layout
import EntityStore.Text.Snake

/-!
# Blueprints

What a declaration amounts to once its attributes have been read: columns, relations, fields
that are not persisted, and hooks. With the related entities at hand it becomes a layout.
-/

namespace EntityStore.Declaration

/-! ## Reading attributes -/

structure EntityAttributes where
  table : Option String := none
  hooks : List HookPoint := []

def addHook (hooks : List HookPoint) (name : String) : Part.Reader (List HookPoint) :=
  match HookPoint.all.find? (·.text = name) with
  | none => throw .hook
  | some point => return if point ∈ hooks then hooks else hooks ++ [point]

def EntityAttributes.add (out : EntityAttributes) : String → Part.Reader EntityAttributes
  | "table" => return { out with table := some (← Part.readText) }
  | "hooks" => return { out with hooks := ← Part.foldItems addHook out.hooks }
  | _ => throw .attribute

structure RelationAttributes where
  kind : RelationKind
  foreignKey : Option String := none
  references : Option String := none
  table : Option String := none

def RelationAttributes.add (out : RelationAttributes) : String → Part.Reader RelationAttributes
  | "foreign_key" => return { out with foreignKey := some (← Part.readText) }
  | "references" => return { out with references := some (← Part.readText) }
  | "table" => return { out with table := some (← Part.readText) }
  | _ => throw .relationAttribute

/-- Reads the attributes of a relation, which have to name a foreign key. -/
def readRelation (kind : RelationKind) : Part.Reader RelationAttributes := do
  let out ← Part.foldItems RelationAttributes.add { kind := kind }
  if out.foreignKey.isNone then throw (.foreignKeyMissing kind) else return out

structure FieldAttributes where
  primaryKey : Bool := false
  autoIncrement : Bool := false
  unique : Bool := false
  notNull : Bool := false
  nullable : Bool := false
  skip : Bool := false
  column : Option String := none
  default? : Option String := none
  sqlType? : Option String := none
  size : Option UInt32 := none
  precision : Option UInt32 := none
  scale : Option UInt32 := none
  relation : Option RelationAttributes := none

namespace FieldAttributes

def add (out : FieldAttributes) : String → Part.Reader FieldAttributes
  | "id" | "primary_key" => return { out with primaryKey := true }
  | "auto_increment" => return { out with autoIncrement := true }
  | "unique" => return { out with unique := true }
  | "not_null" => return { out with notNull := true }
  | "nullable" => return { out with nullable := true }
  | "skip" => return { out with skip := true }
  | "column" => return { out with column := some (← Part.readText) }
  | "default" => return { out with default? := some (← Part.readText) }
  | "db_type" => return { out with sqlType? := some (← Part.readText) }
  | "size" => return { out with size := some (← Part.readNumber) }
  | "precision" => return { out with precision := some (← Part.readNumber) }
  | "scale" => return { out with scale := some (← Part.readNumber) }
  | "has_many" => return { out with relation := some (← readRelation .hasMany) }
  | "has_one" => return { out with relation := some (← readRelation .hasOne) }
  | "belongs_to" => return { out with relation := some (← readRelation .belongsTo) }
  | _ => throw .fieldAttribute

/-- Refuses attributes that exclude each other. -/
def check (out : FieldAttributes) : Except Fault FieldAttributes :=
  if out.notNull && out.nullable then .error .nullConflict
  else if out.scale.isSome && out.precision.isNone then .error .scaleAlone
  else if out.relation.isSome && (out.primaryKey || out.skip || out.column.isSome) then
    .error .relationIsColumn
  else .ok out

def read (attributes : List Attribute) : Except Fault FieldAttributes := do
  (← Part.foldAttributes add {} attributes).check

end FieldAttributes

/-! ## Blueprints -/

/-- A declared relation. Without a table of its own it uses that of the target entity. -/
structure DeclaredRelation where
  name : String
  kind : RelationKind
  target : String
  foreignKey : String
  references : Option String
  table : Option String
deriving DecidableEq, Repr

end Declaration

/-- The parts of an entity, in the order of their declaration. -/
structure Blueprint where
  name : String
  table : String
  columns : List ColumnSpec := []
  relations : List Declaration.DeclaredRelation := []
  skipped : List String := []
  hooks : List HookPoint := []
deriving DecidableEq

namespace Declaration

/-- Whether attributes are made of tokens, with every bracket closed. -/
def isWritten (attributes : List Attribute) : Bool := (Part.ofAttributes? attributes).isSome

/-- The type that a field states. Its attributes have to be written too. -/
def typeOf (f : Field) : Except Fault TypeExpr :=
  match TypeExpr.ofText? f.type with
  | some type => if isWritten f.attributes then .ok type else .error .malformed
  | none => .error .malformed

/-- The name that a field has. A low line names a field too. -/
def fieldName (f : Field) : Except Fault String :=
  if Token.ofText? f.name = some [.word "_"] then .ok "_"
  else
    match Token.name? f.name with
    | some name => .ok name
    | none => .error .malformed

/-- A field by the name that its text spells, and its type. -/
def readField (f : Field) : Except Fault (Field × TypeExpr) := do
  return ({ f with name := ← fieldName f }, ← typeOf f)

def targetOf (kind : RelationKind) (type : TypeExpr) : Except Fault String :=
  let wrapper := match kind with
    | .hasMany => "Vec"
    | .hasOne | .belongsTo => "Option"
  match type.argument? wrapper with
  | some target => .ok target.text
  | none => .error (.relationShape kind)

def columnOf (f : Field) (type : TypeExpr) (a : FieldAttributes) : Except Fault ColumnSpec :=
  match type.columnType? with
  | none => .error (.unsupportedType f.type)
  | some type => .ok
    { name := f.name, column := a.column.getD f.name, type := type
      primaryKey := a.primaryKey, autoIncrement := a.autoIncrement, unique := a.unique
      notNull := a.notNull, nullable := a.nullable, size := a.size
      precision := a.precision, scale := a.scale, default? := a.default?
      sqlType? := a.sqlType? }

/-- Adds a field with its type: a relation, a field that is not persisted, or a column. -/
def addField (b : Blueprint) : Field × TypeExpr → Except Fault Blueprint := fun (f, type) => do
  let a ← FieldAttributes.read f.attributes
  match a.relation with
  | some r =>
    let target ← targetOf r.kind type
    return { b with relations := b.relations ++
      [⟨f.name, r.kind, target, r.foreignKey.getD "", r.references, r.table⟩] }
  | none =>
    if a.skip then return { b with skipped := b.skipped ++ [f.name] }
    else return { b with columns := b.columns ++ [← columnOf f type a] }

/-- Without a declared key the first field named `id` is the key. -/
def markKey : List ColumnSpec → List ColumnSpec
  | [] => []
  | c :: cs => if c.name = "id" then { c with primaryKey := true } :: cs else c :: markKey cs

def keyed (columns : List ColumnSpec) : List ColumnSpec :=
  if columns.any (·.primaryKey) then columns else markKey columns

def isConsonant (c : Char) : Bool := c ∉ ['a', 'e', 'i', 'o', 'u']

def plural (word : String) : String :=
  match word.toList.reverse with
  | ['y'] => "ies"
  | 'y' :: c :: rest =>
    if isConsonant c then String.ofList (c :: rest).reverse ++ "ies" else word ++ "s"
  | _ => if ["s", "x", "z", "ch", "sh"].any (fun e => word.endsWith e) then word ++ "es" else word ++ "s"

/-- The table of an entity that names none. -/
def defaultTable (name : String) : String := plural (Text.snakeCase name)

/-- Reads a declaration; the first fault is reported. -/
def blueprint (d : Declaration) : Except Fault Blueprint := do
  let some name := Token.name? d.name | throw .malformed
  if !isWritten d.attributes then throw .malformed
  match d.kind with
  | .choice => throw .noRecord
  | .unit => throw .unnamedFields
  | .tuple =>
    let _ ← d.fields.mapM typeOf
    throw .unnamedFields
  | .record =>
    let fields ← d.fields.mapM readField
    let a ← Part.foldAttributes EntityAttributes.add {} d.attributes
    let b ← fields.foldlM addField
      { name := name, table := a.table.getD (defaultTable name), hooks := a.hooks }
    if b.columns.isEmpty then throw .noColumn
    else return { b with columns := keyed b.columns }

end Declaration

namespace Blueprint

def key? (b : Blueprint) : Option ColumnSpec := b.columns.find? (·.primaryKey)

/-- The column that a relation refers to when it names none. -/
def defaultReference (b : Blueprint) : RelationKind → String
  | .belongsTo => "id"
  | .hasMany | .hasOne => (b.key?.map (·.column)).getD "id"

def referenceOf (b : Blueprint) (r : Declaration.DeclaredRelation) : String :=
  r.references.getD (b.defaultReference r.kind)

def info (b : Blueprint) : EntityInfo := ⟨b.name, b.table, b.columns.map (·.field)⟩

/-- The layout, given the table and the columns of each entity by name. -/
def layout (b : Blueprint) (entities : String → String × List ColumnSpec) : Layout where
  name := b.name
  table := b.table
  columns := b.columns
  relations := b.relations.map fun r =>
    let (table, columns) := entities r.target
    ⟨⟨r.name, r.kind, r.table.getD table, r.foreignKey, b.referenceOf r⟩, columns⟩

end Blueprint

end EntityStore
