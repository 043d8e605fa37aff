import EntityStore.Memory.Table
import EntityStore.Store

/-!
# The store in memory

The committed tables, any number of open transactions, and the scripted answers to raw
statements, which this store does not interpret. A transaction works on a copy of the tables
taken when it begins; its commit replaces the committed tables by that copy.
-/

namespace EntityStore.Memory

/-! ## Tables by name -/

structure Tables where
  entries : List (String × Table)

namespace Tables

def empty : Tables := ⟨[]⟩

def get? (ts : Tables) (name : String) : Option Table :=
  (ts.entries.find? (·.1 = name)).map (·.2)

def contains (ts : Tables) (name : String) : Bool := ts.entries.any (·.1 = name)

def set (ts : Tables) (name : String) (t : Table) : Tables :=
  if ts.contains name then ⟨ts.entries.map fun e => if e.1 = name then (name, t) else e⟩
  else ⟨ts.entries ++ [(name, t)]⟩

def erase (ts : Tables) (name : String) : Tables := ⟨ts.entries.filter (·.1 ≠ name)⟩

def get (ts : Tables) (name : String) : Except StoreError Table :=
  match ts.get? name with
  | some t => .ok t
  | none => .error (.missingTable name)

def select (ts : Tables) (name : String) (q : Compiled) : Except StoreError (List Record) := do
  checkSupported q
  let t ← ts.get name
  runQuery q t.rows

def count (ts : Tables) (name : String) (q : Compiled) : Except StoreError UInt64 :=
  (ts.select name (unpaged q)).map fun rows => rows.length.toUInt64

def create (ts : Tables) (schema : TableSchema) : Except StoreError Tables :=
  if ts.contains schema.name then .error (relationExists schema.name)
  else .ok (ts.set schema.name (.ofFields schema.fields))

def migrate (ts : Tables) (schema : TableSchema) : Tables :=
  match ts.get? schema.name with
  | none => ts.set schema.name (.ofFields schema.fields)
  | some t => ts.set schema.name (t.addFields schema.fields)

def addIndex (ts : Tables) (index : Index) : Except StoreError Tables := do
  let t ← ts.get index.table
  return ts.set index.table (← t.addIndex index)

def dropIndex (ts : Tables) (table name : String) : Tables :=
  match ts.get? table with
  | none => ts
  | some t => ts.set table (t.dropIndex name)

end Tables

/-- Answers a request that concerns the tables alone; raw statements are not among them. -/
def Tables.answer {α : Type} (ts : Tables) : Request α → Except StoreError (α × Tables)
  | .select name q => (ts.select name q).map (·, ts)
  | .count name q => (ts.count name q).map (·, ts)
  | .insert name rows returning => do
    let (t, answers) ← (← ts.get name).insert name rows returning
    return (answers, ts.set name t)
  | .update name changes filters => do
    let (t, n) ← (← ts.get name).update name changes filters
    return (n, ts.set name t)
  | .delete name filters => do
    let (t, n) ← (← ts.get name).delete filters
    return (n, ts.set name t)
  | .rawQuery sql _ => .error (.unsupported sql)
  | .rawExec sql _ => .error (.unsupported sql)
  | .hasTable name => .ok (ts.contains name, ts)
  | .createTable schema => (ts.create schema).map ((), ·)
  | .dropTable name => .ok ((), ts.erase name)
  | .migrateTable schema => .ok ((), ts.migrate schema)
  | .tableColumns name => (ts.get name).map fun t => (t.fields.map (·.column), ts)
  | .hasIndex table name => .ok (((ts.get? table).map (·.hasIndex name)).getD false, ts)
  | .createIndex index => (ts.addIndex index).map ((), ·)
  | .dropIndex table name => .ok ((), ts.dropIndex table name)
  | .ping => .ok ((), ts)

/-! ## Transactions -/

structure Transaction where
  working : Tables
  savepoints : List (String × Tables)
  closed : Bool

namespace Transaction

/-- A transaction that starts from the given tables. -/
def start (ts : Tables) : Transaction := ⟨ts, [], false⟩

/-- What is left of a transaction after its end. -/
def ended : Transaction := ⟨.empty, [], true⟩

def unknownSavepoint (name : String) : StoreError :=
  .other ("savepoint \"" ++ name ++ "\" does not exist")

/-- Splits at the newest savepoint of a name: those before it, its tables, none behind it. -/
def find? (name : String) (savepoints : List (String × Tables)) :
    Option (List (String × Tables) × Tables) :=
  match savepoints.reverse.dropWhile (·.1 ≠ name) with
  | [] => none
  | (_, ts) :: older => some (older.reverse, ts)

def save (t : Transaction) (name : String) : Transaction :=
  { t with savepoints := t.savepoints ++ [(name, t.working)] }

/-- Goes back to a savepoint, which stays set. -/
def rollbackTo (t : Transaction) (name : String) : Except StoreError Transaction :=
  match find? name t.savepoints with
  | some (older, ts) => .ok { t with working := ts, savepoints := older ++ [(name, ts)] }
  | none => .error (unknownSavepoint name)

def release (t : Transaction) (name : String) : Except StoreError Transaction :=
  match find? name t.savepoints with
  | some (older, _) => .ok { t with savepoints := older }
  | none => .error (unknownSavepoint name)

end Transaction

/-! ## The store -/

structure RawCall where
  sql : String
  args : List Value

structure Store where
  tables : Tables
  transactions : List Transaction
  queries : List (Except StoreError (List Record))
  execs : List (Except StoreError ExecResult)
  rawLog : List RawCall
  insertCalls : Nat
  begun : Nat

namespace Store

def empty : Store := ⟨.empty, [], [], [], [], 0, 0⟩

instance : EmptyCollection Store := ⟨empty⟩

def rows (s : Store) (table : String) : Except StoreError (List Record) :=
  (s.tables.get table).map (·.rows)

def resetCounters (s : Store) : Store := { s with insertCalls := 0, begun := 0 }

/-- Scripts the answer to the next raw query that has none yet. -/
def expectQuery (s : Store) (answer : Except StoreError (List Record)) : Store :=
  { s with queries := s.queries ++ [answer] }

def expectExec (s : Store) (answer : Except StoreError ExecResult) : Store :=
  { s with execs := s.execs ++ [answer] }

def setTransaction (s : Store) (id : Nat) (t : Transaction) : Store :=
  { s with transactions := s.transactions.set id t }

def openTransaction (s : Store) (id : Nat) : Except StoreError Transaction :=
  match s.transactions[id]? with
  | some t => if t.closed then .error .transactionClosed else .ok t
  | none => .error .transactionClosed

def tablesOf (s : Store) : Scope → Except StoreError Tables
  | .direct => .ok s.tables
  | .tx id => (s.openTransaction id).map (·.working)

def setTables (s : Store) (scope : Scope) (ts : Tables) : Store :=
  match scope with
  | .direct => { s with tables := ts }
  | .tx id =>
    match s.transactions[id]? with
    | some t => s.setTransaction id { t with working := ts }
    | none => s

def unscripted (sql : String) : StoreError :=
  .unsupported ("raw SQL without a scripted response: " ++ sql)

def takeScript {α : Type} (sql : String) :
    List (Except StoreError α) → Except StoreError α × List (Except StoreError α)
  | [] => (.error (unscripted sql), [])
  | answer :: rest => (answer, rest)

def logRaw (s : Store) (sql : String) (args : List Value) : Store :=
  { s with rawLog := s.rawLog ++ [⟨sql, args⟩] }

def rawQuery (s : Store) (sql : String) (args : List Value) : Except StoreError (List Record) × Store :=
  let (answer, rest) := takeScript sql s.queries
  (answer, { s.logRaw sql args with queries := rest })

def rawExec (s : Store) (sql : String) (args : List Value) : Except StoreError ExecResult × Store :=
  let (answer, rest) := takeScript sql s.execs
  (answer, { s.logRaw sql args with execs := rest })

def answer {α : Type} (s : Store) (scope : Scope) (r : Request α) : Except StoreError α × Store :=
  match s.tablesOf scope with
  | .error e => (.error e, s)
  | .ok ts =>
    match ts.answer r with
    | .error e => (.error e, s)
    | .ok (x, ts) => (.ok x, s.setTables scope ts)

/-- Answers any request. Inserts are counted whether they succeed or not. -/
def perform {α : Type} (s : Store) (scope : Scope) : Request α → Except StoreError α × Store
  | .insert table rows returning =>
    { s with insertCalls := s.insertCalls + 1 }.answer scope (.insert table rows returning)
  | .rawQuery sql args =>
    match s.tablesOf scope with
    | .error e => (.error e, s)
    | .ok _ => s.rawQuery sql args
  | .rawExec sql args =>
    match s.tablesOf scope with
    | .error e => (.error e, s)
    | .ok _ => s.rawExec sql args
  | r => s.answer scope r

def begin (s : Store) : Nat × Store :=
  (s.transactions.length,
    { s with transactions := s.transactions ++ [.start s.tables], begun := s.begun + 1 })

/-- The transaction after a control; for a commit also the tables to publish. -/
def step (t : Transaction) : Control → Except StoreError (Transaction × Option Tables)
  | .commit => .ok (.ended, some t.working)
  | .rollback => .ok (.ended, none)
  | .savepoint name => .ok (t.save name, none)
  | .rollbackTo name => (t.rollbackTo name).map (·, none)
  | .release name => (t.release name).map (·, none)

def publish (s : Store) : Option Tables → Store
  | some ts => { s with tables := ts }
  | none => s

def control (s : Store) (id : Nat) (c : Control) : Except StoreError Unit × Store :=
  match s.openTransaction id with
  | .error e => (.error e, s)
  | .ok t =>
    match step t c with
    | .error e => (.error e, s)
    | .ok (t, published) => (.ok (), (s.publish published).setTransaction id t)

instance : EntityStore.Store Store where
  perform scope r s :=
    let (result, s) := s.perform scope r
    ⟨result, s, []⟩
  begin _ s :=
    let (id, s) := s.begin
    ⟨.ok id, s, []⟩
  control id c s :=
    let (result, s) := s.control id c
    ⟨result, s, []⟩
  abandon _ s := ⟨.ok (), s, []⟩

end Store

end EntityStore.Memory
