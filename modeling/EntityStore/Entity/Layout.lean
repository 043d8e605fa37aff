import EntityStore.Column
import EntityStore.Entity

/-!
# Entities from layouts

A layout lists the columns of an entity and its relations. It determines the type of the
entity's values, one cell per column and what has been loaded per relation, and how they are
written and read.
-/

namespace EntityStore

structure ColumnSpec where
  name : String
  column : String := name
  type : ColumnType
  primaryKey : Bool := false
  autoIncrement : Bool := false
  unique : Bool := false
  notNull : Bool := false
  nullable : Bool := false
  size : Option UInt32 := none
  precision : Option UInt32 := none
  scale : Option UInt32 := none
  default? : Option String := none
  sqlType? : Option String := none
deriving DecidableEq, Repr

namespace ColumnSpec

/-- The field of the table. An integer key is generated by the store. -/
def field (c : ColumnSpec) : Field :=
  let base := c.type.field c.name
  { base with
    column := c.column
    sqlType? := c.sqlType?
    primaryKey := c.primaryKey
    nullable := !c.primaryKey && (c.nullable || (base.nullable && !c.notNull))
    autoIncrement := c.autoIncrement || (c.primaryKey && base.type.isInteger)
    unique := c.unique
    default? := c.default?
    maxLength := c.size
    precision := c.precision
    scale := if c.precision.isSome then c.scale else none }

end ColumnSpec

/-- One value per column. -/
@[reducible] def Cells : List ColumnSpec → Type
  | [] => Unit
  | c :: cs => c.type.Carrier × Cells cs

namespace Cells

def default : (cs : List ColumnSpec) → Cells cs
  | [] => ()
  | c :: cs => (c.type.default, default cs)

def toPairs : (cs : List ColumnSpec) → Cells cs → List (String × Value)
  | [], _ => []
  | c :: cs, (x, xs) => (c.column, Column.toValue x) :: toPairs cs xs

/-- Reads the columns one after the other. -/
def ofRecord (row : Record) : (cs : List ColumnSpec) → Except StoreError (Cells cs)
  | [] => .ok ()
  | c :: cs => do
    let x ← row.decodeD c.column c.type.default
    let xs ← ofRecord row cs
    return (x, xs)

/-- Writes the columns that a row carries, up to the first that does not decode. -/
def apply (row : Record) : (cs : List ColumnSpec) → Edit StoreError (Cells cs)
  | [], xs => (.ok (), xs)
  | c :: cs, (x, xs) =>
    match if row.contains c.column then row.decodeD c.column c.type.default else .ok x with
    | .error e => (.error e, (x, xs))
    | .ok x =>
      let (result, xs) := apply row cs xs
      (result, (x, xs))

def key : (cs : List ColumnSpec) → Cells cs → Value
  | [], _ => .null
  | c :: cs, (x, xs) => if c.primaryKey then Column.toValue x else key cs xs

end Cells

structure RelationSpec where
  relation : Relation
  target : List ColumnSpec

/-- What is loaded for a relation: any number of entities or at most one. -/
@[reducible] def RelationSpec.Loaded (r : RelationSpec) : Type :=
  match r.relation.kind with
  | .hasMany => List (Cells r.target)
  | .hasOne | .belongsTo => Option (Cells r.target)

namespace RelationSpec

def nothing (r : RelationSpec) : r.Loaded :=
  match r with
  | ⟨⟨_, .hasMany, _, _, _⟩, _⟩ => []
  | ⟨⟨_, .hasOne, _, _, _⟩, _⟩ | ⟨⟨_, .belongsTo, _, _, _⟩, _⟩ => none

/-- Decodes all rows. -/
def loadMany (target : List ColumnSpec) (rows : List Record) :
    Except StoreError (List (Cells target)) :=
  rows.mapM (Cells.ofRecord · target)

def loadOne (target : List ColumnSpec) : List Record → Except StoreError (Option (Cells target))
  | [] => .ok none
  | row :: _ => (Cells.ofRecord row target).map some

def load (r : RelationSpec) (rows : List Record) : Except StoreError r.Loaded :=
  match r with
  | ⟨⟨_, .hasMany, _, _, _⟩, target⟩ => loadMany target rows
  | ⟨⟨_, .hasOne, _, _, _⟩, target⟩ | ⟨⟨_, .belongsTo, _, _, _⟩, target⟩ => loadOne target rows

end RelationSpec

@[reducible] def Attachments : List RelationSpec → Type
  | [] => Unit
  | r :: rs => r.Loaded × Attachments rs

namespace Attachments

def nothing : (rs : List RelationSpec) → Attachments rs
  | [] => ()
  | r :: rs => (r.nothing, nothing rs)

/-- Puts rows in place of what was loaded for the relation of a name. -/
def attach (name : String) (rows : List Record) :
    (rs : List RelationSpec) → Attachments rs → Except Error (Attachments rs)
  | [], _ => .error (Relation.unknown name)
  | r :: rs, (x, xs) =>
    if r.relation.name = name then
      match r.load rows with
      | .ok x => .ok (x, xs)
      | .error e => .error e.classify
    else (attach name rows rs xs).map (x, ·)

end Attachments

structure Layout where
  name : String
  table : String
  columns : List ColumnSpec
  relations : List RelationSpec := []

namespace Layout

def info (l : Layout) : EntityInfo := ⟨l.name, l.table, l.columns.map (·.field)⟩

/-- A value of the entity: its cells, what is loaded for its relations, and a part that is not
persisted. -/
structure Item (l : Layout) (Extra : Type) where
  cells : Cells l.columns
  loaded : Attachments l.relations
  extra : Extra

variable {l : Layout} {Extra : Type}

def Item.ofCells [Inhabited Extra] (cells : Cells l.columns) : Item l Extra :=
  ⟨cells, .nothing l.relations, Inhabited.default⟩

def Item.toRecord (e : Item l Extra) : Record := .ofPairs (Cells.toPairs l.columns e.cells)

def Item.fromRecord [Inhabited Extra] (row : Record) : Except StoreError (Item l Extra) :=
  (Cells.ofRecord row l.columns).map .ofCells

def Item.applyRecord (row : Record) : Edit StoreError (Item l Extra) := fun e =>
  let (result, cells) := Cells.apply row l.columns e.cells
  (result, { e with cells := cells })

def Item.attach (name : String) (rows : List Record) (e : Item l Extra) :
    Except Error (Item l Extra) :=
  (Attachments.attach name rows l.relations e.loaded).map fun loaded =>
    { e with loaded := loaded }

@[reducible] def entity [Inhabited Extra] (l : Layout) (hooks : Hooks (Item l Extra)) :
    Entity (Item l Extra) where
  info := l.info
  toRecord := Item.toRecord
  fromRecord := Item.fromRecord
  applyRecord := Item.applyRecord
  primaryKey e := Cells.key l.columns e.cells
  relations := l.relations.map (·.relation)
  attach := Item.attach
  hooks := hooks

end Layout

end EntityStore
