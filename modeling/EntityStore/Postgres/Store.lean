import EntityStore.Postgres.Exchange

/-!
# The PostgreSQL store

Each request is one statement, or a few for a migration. Most statements are prepared with
their values as parameters; those that define tables or steer transactions are sent as text.
A transaction keeps one connection from its begin to its end.
-/

namespace EntityStore.Postgres

namespace Param

def ofValue (v : Value) : Param := fun type => Wire.encode type v

/-- A name of the catalog, which only fits the text types. -/
def ofName (s : String) : Param := fun type => if type.isText then some (some (Wire.ofText s)) else none

end Param

namespace Exchange

def ask (scope : Scope) (op sql : String) (values : List Value) : Exchange Answer := do
  logStatement op sql values.length
  prepared scope sql (values.map .ofValue)

def askSql (scope : Scope) (op : String) (q : Sql) : Exchange Answer := ask scope op q.toSql q.params

def catalog (scope : Scope) (op sql : String) (names : List String) : Exchange Answer := do
  logStatement op sql names.length
  prepared scope sql (names.map .ofName)

def define (scope : Scope) (sql : String) : Exchange Unit := do
  logStatement "ddl" sql 0
  simple scope sql

/-- A count of rows; a negative one counts as none. -/
def toCount (i : Int64) : UInt64 := i.toInt.toNat.toUInt64

def count (scope : Scope) (q : Sql) : Exchange UInt64 := do
  let a ← askSql scope "count" q
  let n ← ofFault (onlyRow a >>= intCell a)
  return toCount n

/-- Rows without returned columns are answered with empty records. -/
def insert (scope : Scope) (table : String) (rows : List Record) (returning : List String) :
    Exchange (List Record) := do
  if rows.isEmpty then return []
  let q ← built (Statement.insert table rows returning)
  let a ← askSql scope "insert" q
  if returning.isEmpty then return rows.map fun _ => .empty
  records a

def hasTable (scope : Scope) (table : String) : Exchange Bool := do
  let a ← catalog scope "has_table" Statement.hasTable [table]
  ofFault (onlyRow a >>= boolCell a)

def tableColumns (scope : Scope) (table : String) : Exchange (List String) := do
  let a ← catalog scope "table_columns" Statement.tableColumns [table]
  ofFault (a.rows.mapM (textCell a))

def hasIndex (scope : Scope) (table name : String) : Exchange Bool := do
  let a ← catalog scope "has_index" Statement.hasIndex [table, name]
  ofFault (onlyRow a >>= boolCell a)

def addColumns (scope : Scope) (table : Ident) : List Field → Exchange Unit
  | [] => pure ()
  | f :: fs => do
    define scope (← built (Statement.addColumn table f))
    addColumns scope table fs

def migrate (scope : Scope) (schema : TableSchema) : Exchange Unit := do
  if ← hasTable scope schema.name then
    let live ← tableColumns scope schema.name
    let table ← built (Query.ident schema.name)
    addColumns scope table (schema.fields.filter fun f => !live.contains f.column)
  else define scope (← built (Statement.createTable schema))

/-- Builds a statement, then gets hold of the connection and runs it. -/
def change (scope : Scope) (op : String) (q : Except Error Sql) : Exchange UInt64 := do
  let q ← built q
  acquire scope
  return (← askSql scope op q).affected

/-- Builds a statement, then gets hold of the connection and sends it as text. -/
def defineBuilt (scope : Scope) (sql : Except Error String) : Exchange Unit := do
  let sql ← built sql
  acquire scope
  define scope sql

def perform (scope : Scope) : {α : Type} → Request α → Exchange α
  | _, .select table q => do
    acquire scope
    records (← askSql scope "select" (q.selectSql (← built (Query.ident table))))
  | _, .count table q => do
    acquire scope
    count scope (q.countSql (← built (Query.ident table)))
  | _, .insert table rows returning => do
    acquire scope
    insert scope table rows returning
  | _, .update table changes filters =>
    change scope "update" (Statement.update table changes filters)
  | _, .delete table filters => change scope "delete" (Statement.delete table filters)
  | _, .rawQuery sql args => do
    acquire scope
    records (← ask scope "raw_query" sql args)
  | _, .rawExec sql args => do
    acquire scope
    return ⟨(← ask scope "raw_exec" sql args).affected, none⟩
  | _, .hasTable table => do
    acquire scope
    hasTable scope table
  | _, .createTable schema => defineBuilt scope (Statement.createTable schema)
  | _, .dropTable table => defineBuilt scope (Statement.dropTable table)
  | _, .migrateTable schema => do
    acquire scope
    migrate scope schema
  | _, .tableColumns table => do
    acquire scope
    tableColumns scope table
  | _, .hasIndex table name => do
    acquire scope
    hasIndex scope table name
  | _, .createIndex index => defineBuilt scope (Statement.createIndex index)
  | _, .dropIndex _ name => defineBuilt scope (Statement.dropIndex name)
  | _, .ping => defineBuilt scope (.ok Statement.ping)

def begin (options : TxOptions) : Exchange Nat := do
  acquire .direct
  let id := (← get).store.transactions.length
  define (.tx id) options.beginSql
  modifyStore fun s => { s with transactions := s.transactions ++ [.held] }
  return id

/-- Steers a transaction. Its end gives the connection back, even if the server complains. -/
def control (id : Nat) (c : Control) : Exchange Unit := do
  let sql ← built (Statement.control c)
  acquire (.tx id)
  match c with
  | .commit | .rollback => modifyStore (·.setLease id .returned)
  | _ => pure ()
  define (.tx id) sql

/-- Gives a transaction up. If it is open, its connection is closed, so that the server
discards what it did. -/
def abandon (id : Nat) : Exchange Unit := do
  if (← get).store.transactions[id]? = some .held then
    modify fun t => ⟨t.store.setLease id .closed, t.log ++ [abandonedLine]⟩

end Exchange

namespace Store

def reply {α : Type} (act : Exchange α) (s : Store) : Reply Store α :=
  let (result, t) := act.run.run ⟨s, []⟩
  ⟨result, t.store, t.log⟩

instance : EntityStore.Store Store where
  perform scope r s := reply (Exchange.perform scope r) s
  begin options s := reply (Exchange.begin options) s
  control id c s := reply (Exchange.control id c) s
  abandon id s := reply (Exchange.abandon id) s

/-- A statement's failure by itself, without the store's view of it. -/
def rawError : StoreError → RawError
  | .query fault => .query fault
  | e => .store e

/-- Sends a statement over a connection from the pool, past the store's requests and log. -/
def sendRaw (sql : String) (s : Store) : Except RawError Unit × Store :=
  let r := reply (do Exchange.acquire .direct; Exchange.simple .direct sql) s
  (r.result.mapError rawError, r.store)

end Store

end EntityStore.Postgres
