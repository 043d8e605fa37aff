import EntityStore.Store

/-!
# Statements for the server

The texts that make up what is asked of the server. Every name in them is checked to be an
identifier first; the first one that is not is reported. Values are bound, except for the
defaults of a table's columns, which are SQL expressions.
-/

namespace EntityStore.Postgres.Statement

def idents (names : List String) : Except Error (List Ident) := names.mapM Query.ident

def commaList (is : List Ident) : String := ", ".intercalate (is.map Ident.toSql)

/-! ## Rows -/

/-- Appends the strings that are not in the list yet. -/
def addNew (seen : List String) (new : List String) : List String :=
  new.foldl (fun seen s => if seen.contains s then seen else seen ++ [s]) seen

/-- The columns of the rows, each once, in the order in which they appear. -/
def columnsOf (rows : List Record) : List String := rows.foldl (fun cs r => addNew cs r.columns) []

def writeCell (row : Record) (q : Sql) (column : String) : Sql :=
  match row.get? column with
  | some v => q.bind v
  | none => q.push "DEFAULT"

def writeTuple (columns : List String) (q : Sql) (row : Record) : Sql :=
  ((q.push "(").separated ", " (writeCell row) columns).push ")"

/-- What is inserted when no row has a column: as many rows of defaults. -/
def defaultRows (count : Nat) : String :=
  if count = 1 then " DEFAULT VALUES"
  else " SELECT FROM generate_series(1, " ++ toString count ++ ")"

/-- `INSERT INTO table …` with one tuple per row. -/
def insert (table : String) (rows : List Record) (returning : List String) : Except Error Sql := do
  let columns := columnsOf rows
  let q := (Sql.ofText "INSERT INTO ").pushIdent (← Query.ident table)
  let listed ← idents columns
  let returned ← idents returning
  let q :=
    if columns.isEmpty then q.push (defaultRows rows.length)
    else
      let q := ((q.push " (").separated ", " Sql.pushIdent listed).push ") VALUES "
      q.separated ", " (writeTuple columns) rows
  return if returned.isEmpty then q
    else (q.push " RETURNING ").separated ", " Sql.pushIdent returned

def restrict (q : Sql) (filters : List Predicate) : Sql := Predicate.writeClause " WHERE " q filters

def noChanges : Error := .validation "no columns to update"

def writeChange (q : Sql) (change : Ident × Value) : Sql :=
  ((q.pushIdent change.1).push " = ").bind change.2

/-- `UPDATE table SET …`; at least one column has to change. -/
def update (table : String) (changes : Record) (filters : List Predicate) : Except Error Sql := do
  if changes.isEmpty then throw noChanges
  let q := (Sql.ofText "UPDATE ").pushIdent (← Query.ident table) |>.push " SET "
  let columns ← idents changes.columns
  return restrict (q.separated ", " writeChange (columns.zip changes.values)) filters

/-- `DELETE FROM table …`. -/
def delete (table : String) (filters : List Predicate) : Except Error Sql := do
  return restrict ((Sql.ofText "DELETE FROM ").pushIdent (← Query.ident table)) filters

/-! ## Tables -/

/-- The definition of a column; a key of one column is declared with it. -/
def columnDefinition (inlineKey : Bool) (f : Field) : Except Error String := do
  let column ← Query.ident f.column
  return column.toSql ++ " " ++ f.columnType ++
    (if f.primaryKey && inlineKey then " PRIMARY KEY" else if f.nullable then "" else " NOT NULL") ++
    (if f.isUniqueColumn then " UNIQUE" else "") ++
    (match f.default? with
      | some d => " DEFAULT " ++ d
      | none => "")

/-- The clause for a key of several columns. -/
def keyClause (key : List String) : Except Error (List String) :=
  if key.length > 1 then (idents key).map fun is => ["PRIMARY KEY (" ++ commaList is ++ ")"]
  else .ok []

def createTable (schema : TableSchema) : Except Error String := do
  let key := keyColumns schema.fields
  let columns ← schema.fields.mapM (columnDefinition (key.length = 1))
  let clause ← keyClause key
  let table ← Query.ident schema.name
  return "CREATE TABLE " ++ table.toSql ++ " (" ++ ", ".intercalate (columns ++ clause) ++ ")"

/-- A column that is added to a table with rows is null in them, unless it has a default. -/
def addedField (f : Field) : Field := if f.default?.isNone then { f with nullable := true } else f

def addColumn (table : Ident) (f : Field) : Except Error String :=
  (columnDefinition false (addedField f)).map fun d =>
    "ALTER TABLE " ++ table.toSql ++ " ADD COLUMN IF NOT EXISTS " ++ d

def dropTable (table : String) : Except Error String :=
  (Query.ident table).map fun t => "DROP TABLE IF EXISTS " ++ t.toSql

def createIndex (index : Index) : Except Error String := do
  let columns ← idents index.columns
  let i ← Query.ident index.name
  let table ← Query.ident index.table
  return "CREATE " ++ (if index.unique then "UNIQUE " else "") ++ "INDEX " ++ i.toSql ++ " ON " ++
    table.toSql ++ " (" ++ commaList columns ++ ")"

def dropIndex (index : String) : Except Error String :=
  (Query.ident index).map fun i => "DROP INDEX IF EXISTS " ++ i.toSql

/-! ## The catalog -/

def hasTable : String :=
  "SELECT EXISTS (SELECT 1 FROM information_schema.tables " ++
    "WHERE table_schema = current_schema() AND table_name::text = $1)"

def tableColumns : String :=
  "SELECT column_name::text FROM information_schema.columns " ++
    "WHERE table_schema = current_schema() AND table_name::text = $1 ORDER BY ordinal_position"

def hasIndex : String :=
  "SELECT EXISTS (SELECT 1 FROM pg_indexes WHERE schemaname = current_schema() " ++
    "AND tablename::text = $1 AND indexname::text = $2)"

def ping : String := "SELECT 1"

/-! ## Transactions -/

def control : Control → Except Error String
  | .commit => .ok "COMMIT"
  | .rollback => .ok "ROLLBACK"
  | .savepoint s => (Query.ident s).map fun i => "SAVEPOINT " ++ i.toSql
  | .rollbackTo s => (Query.ident s).map fun i => "ROLLBACK TO SAVEPOINT " ++ i.toSql
  | .release s => (Query.ident s).map fun i => "RELEASE SAVEPOINT " ++ i.toSql

end EntityStore.Postgres.Statement
