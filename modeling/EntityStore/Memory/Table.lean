import EntityStore.Memory.Select
import EntityStore.Schema

/-!
# Tables in memory

A table keeps its rows in the order of their insertion. Every write is worked out on a copy
and checked as a whole against the keys of the table, so that a write that fails changes
nothing.
-/

namespace EntityStore.Memory

structure Table where
  fields : List Field
  rows : List Record
  /-- The largest key that was generated or stored. -/
  lastId : Int64
  indexes : List Index

def Table.ofFields (fields : List Field) : Table := ⟨fields, [], 0, []⟩

/-! ## Keys -/

/-- The column sets on which no two rows may agree: the primary key, every unique column and
every unique index. -/
def Table.keys (t : Table) : List (List String) :=
  (if (keyColumns t.fields).isEmpty then [] else [keyColumns t.fields]) ++
    (t.fields.filter (·.isUniqueColumn)).map (fun f => [f.column]) ++
    (t.indexes.filter (·.unique)).map (·.columns)

/-- The values of a row in the columns of a key. -/
def keyValues (key : List String) (row : Record) : List Value := key.map row.getD

/-- The values in a key of those rows that have no null there. -/
def keyed (key : List String) (rows : List Record) : List (List Value) :=
  (rows.map (keyValues key)).filter fun vs => !vs.any (·.isNull)

def hasRepeat {α : Type} [BEq α] : List α → Bool
  | [] => false
  | x :: xs => xs.any (fun y => x == y) || hasRepeat xs

def keyViolation (table : String) (key : List String) : StoreError :=
  .uniqueViolation (table ++ "." ++ ",".intercalate key)

def checkKey (table : String) (rows : List Record) (key : List String) : Except StoreError Unit :=
  if hasRepeat (keyed key rows) then .error (keyViolation table key) else .ok ()

/-- Checks that no two rows agree on one of the keys. -/
def checkKeys (table : String) (rows : List Record) (keys : List (List String)) :
    Except StoreError Unit :=
  keys.forM (checkKey table rows)

/-! ## Columns -/

def Table.hasColumn (t : Table) (column : String) : Bool := t.fields.any (·.column = column)

/-- Checks that the table has the columns. A table without fields takes any. -/
def Table.checkColumns (t : Table) (columns : List String) : Except StoreError Unit :=
  if t.fields.isEmpty then .ok ()
  else
    match columns.find? fun c => !t.hasColumn c with
    | some c => .error (unknownColumn c)
    | none => .ok ()

/-! ## Writing rows -/

def nullViolation (column : String) : StoreError :=
  .other ("null value in column \"" ++ column ++ "\" violates not-null constraint")

/-- The value that a field gets in a new row, and the last key afterwards. -/
def fill (f : Field) (given : Value) (lastId : Int64) : Value × Int64 :=
  if f.autoIncrement then
    if given.isUnsetKey then (.int (lastId + 1), lastId + 1)
    else
      match given with
      | .int i => (given, max lastId i)
      | _ => (given, lastId)
  else (given, lastId)

/-- Fills in the fields of a new row one after the other. -/
def fillFields (row : Record) : List Field → Record → Int64 → Except StoreError (Record × Int64)
  | [], full, lastId => .ok (full, lastId)
  | f :: fs, full, lastId =>
    let (v, lastId) := fill f (row.getD f.column) lastId
    if v.isNull && !f.nullable then .error (nullViolation f.column)
    else fillFields row fs (full.set f.column v) lastId

/-- Adds the columns that the row does not have yet. -/
def addMissing (row given : Record) : Record :=
  given.entries.foldl (fun r e => if r.contains e.1 then r else r.set e.1 e.2) row

/-- The row that is stored for a given one, and the last key afterwards. -/
def Table.newRow (t : Table) (row : Record) (lastId : Int64) : Except StoreError (Record × Int64) := do
  t.checkColumns row.columns
  let (full, lastId) ← fillFields row t.fields .empty lastId
  return (addMissing full row, lastId)

/-- The rows that are stored for given ones, and the last key afterwards. -/
def Table.newRows (t : Table) : List Record → Int64 → Except StoreError (List Record × Int64)
  | [], lastId => .ok ([], lastId)
  | row :: rows, lastId => do
    let (full, lastId) ← t.newRow row lastId
    let (fulls, lastId) ← t.newRows rows lastId
    return (full :: fulls, lastId)

/-- Appends rows and yields the `returning` columns of each. -/
def Table.insert (t : Table) (name : String) (rows : List Record) (returning : List String) :
    Except StoreError (Table × List Record) := do
  let (fulls, lastId) ← t.newRows rows t.lastId
  checkKeys name (t.rows ++ fulls) t.keys
  return ({ t with rows := t.rows ++ fulls, lastId := lastId }, fulls.map (·.project returning))

def countMarked (rows : List (Record × Bool)) : UInt64 := (rows.countP (·.2)).toUInt64

/-- Sets the changes on every row that satisfies the filters. -/
def Table.update (t : Table) (name : String) (changes : Record) (filters : List Predicate) :
    Except StoreError (Table × UInt64) := do
  t.checkColumns changes.columns
  let rows ← marked filters t.rows
  let staged := rows.map fun (r, b) => if b then r.setAll changes.entries else r
  checkKeys name staged t.keys
  return ({ t with rows := staged }, countMarked rows)

def Table.delete (t : Table) (filters : List Predicate) : Except StoreError (Table × UInt64) := do
  let rows ← marked filters t.rows
  return ({ t with rows := (rows.filter fun p => !p.2).map (·.1) }, countMarked rows)

/-! ## Layout -/

/-- Adds a column, null in every row, unless the table has it. -/
def Table.addField (t : Table) (f : Field) : Table :=
  if t.hasColumn f.column then t
  else { t with rows := t.rows.map (·.set f.column .null), fields := t.fields ++ [f] }

def Table.addFields (t : Table) (fields : List Field) : Table := fields.foldl Table.addField t

def relationExists (name : String) : StoreError :=
  .other ("relation \"" ++ name ++ "\" already exists")

def Table.hasIndex (t : Table) (name : String) : Bool := t.indexes.any (·.name = name)

def Table.addIndex (t : Table) (index : Index) : Except StoreError Table := do
  if t.hasIndex index.name then throw (relationExists index.name)
  t.checkColumns index.columns
  if index.unique then checkKey index.table t.rows index.columns
  return { t with indexes := t.indexes ++ [index] }

def Table.dropIndex (t : Table) (name : String) : Table :=
  { t with indexes := t.indexes.filter (·.name ≠ name) }

end EntityStore.Memory
