import EntityStore.Journal
import EntityStore.Query.Compiled
import EntityStore.Schema

/-!
# Stores

A store answers requests, directly or inside a transaction that it has opened. `Request`
lists what can be asked, each request with the type of its answer, and `Control` lists what
steers an open transaction. A `Store` instance says how a kind of store answers; its state is
a plain value, and a request that fails leaves a state too.
-/

namespace EntityStore

inductive Isolation where
  | readUncommitted
  | readCommitted
  | repeatableRead
  | serializable
  /-- Whatever the server is set to. -/
  | serverDefault
deriving DecidableEq, Repr

def Isolation.sql? : Isolation → Option String
  | .readUncommitted => some "READ UNCOMMITTED"
  | .readCommitted => some "READ COMMITTED"
  | .repeatableRead => some "REPEATABLE READ"
  | .serializable => some "SERIALIZABLE"
  | .serverDefault => none

def Isolation.text : Isolation → String
  | .readUncommitted => "ReadUncommitted"
  | .readCommitted => "ReadCommitted"
  | .repeatableRead => "RepeatableRead"
  | .serializable => "Serializable"
  | .serverDefault => "Default"

structure TxOptions where
  isolation : Isolation := .serverDefault
  readOnly : Bool := false
deriving DecidableEq, Repr

def TxOptions.beginSql (o : TxOptions) : String :=
  "BEGIN" ++
    (match o.isolation.sql? with
      | some level => " ISOLATION LEVEL " ++ level
      | none => "") ++
    (if o.readOnly then " READ ONLY" else "")

structure ExecResult where
  rowsAffected : UInt64
  lastInsertId : Option Int64
deriving DecidableEq, Repr

/-- What a store can be asked, with the type of the answer. -/
inductive Request : Type → Type where
  | select (table : String) (query : Compiled) : Request (List Record)
  /-- How many rows the query has, whatever its order and paging. -/
  | count (table : String) (query : Compiled) : Request UInt64
  /-- Inserts rows in one write and answers the `returning` columns of each. -/
  | insert (table : String) (rows : List Record) (returning : List String) : Request (List Record)
  | update (table : String) (changes : Record) (filters : List Predicate) : Request UInt64
  | delete (table : String) (filters : List Predicate) : Request UInt64
  | rawQuery (sql : String) (args : List Value) : Request (List Record)
  | rawExec (sql : String) (args : List Value) : Request ExecResult
  | hasTable (table : String) : Request Bool
  | createTable (schema : TableSchema) : Request Unit
  | dropTable (table : String) : Request Unit
  | migrateTable (schema : TableSchema) : Request Unit
  | tableColumns (table : String) : Request (List String)
  | hasIndex (table name : String) : Request Bool
  | createIndex (index : Index) : Request Unit
  | dropIndex (table name : String) : Request Unit
  | ping : Request Unit

/-- What is asked, without the arguments. -/
def Request.verb {α : Type} : Request α → Verb
  | .select .. => .select
  | .count .. => .count
  | .insert .. => .insert
  | .update .. => .update
  | .delete .. => .delete
  | .rawQuery .. => .rawQuery
  | .rawExec .. => .rawExec
  | .hasTable _ => .hasTable
  | .createTable _ => .createTable
  | .dropTable _ => .dropTable
  | .migrateTable _ => .migrateTable
  | .tableColumns _ => .tableColumns
  | .hasIndex .. => .hasIndex
  | .createIndex _ => .createIndex
  | .dropIndex .. => .dropIndex
  | .ping => .ping

inductive Control where
  | commit
  | rollback
  | savepoint (name : String)
  | rollbackTo (name : String)
  | release (name : String)
deriving DecidableEq, Repr

def Control.verb : Control → Verb
  | .commit => .commit
  | .rollback => .rollback
  | .savepoint _ => .savepoint
  | .rollbackTo _ => .rollbackTo
  | .release _ => .release

/-- Where a request is made: on the store itself or in the transaction of that number. -/
inductive Scope where
  | direct
  | tx (id : Nat)
deriving DecidableEq, Repr

/-- An answer of a store, its state afterwards, and what it wrote to the log. -/
structure Reply (σ α : Type) where
  result : Except StoreError α
  store : σ
  log : List LogLine

/-- A kind of store: how its state answers. -/
class Store (σ : Type) where
  perform : {α : Type} → Scope → Request α → σ → Reply σ α
  begin : TxOptions → σ → Reply σ Nat
  control : Nat → Control → σ → Reply σ Unit
  abandon : Nat → σ → Reply σ Unit

/-- The query for its first row only. -/
def Compiled.first (q : Compiled) : Compiled := { q with limit := some 1 }

def firstRow : List Record → Except StoreError Record
  | [] => .error .noRows
  | r :: _ => .ok r

end EntityStore
