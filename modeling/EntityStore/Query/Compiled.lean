import EntityStore.Predicate
import EntityStore.Query

/-!
# Compiled queries

Compiling checks every name of a query and lowers its conditions. A compiled query is the
same for every store: it can be evaluated against rows or rendered as a statement.
-/

namespace EntityStore

structure Compiled.Join where
  kind : JoinKind
  table : Ident
  label : Option Ident
  on : Option String
deriving DecidableEq, Repr

structure Compiled.Order where
  column : ColumnExpr
  direction : Direction
deriving DecidableEq, Repr

structure Compiled where
  filters : List Predicate
  /-- The columns to fetch; all when empty. -/
  projection : List ColumnExpr
  orders : List Compiled.Order
  limit : Option UInt64
  offset : Option UInt64
  joins : List Compiled.Join
  preloads : List String
  groups : List Ident
  having : List Predicate
  distinct : Bool

namespace Query

/-- Why a query does not compile. -/
inductive Fault where
  | predicate (fault : Predicate.Fault)
  | column (fault : ColumnExpr.Fault)
  | ident (shown : String) (fault : Ident.Fault)
deriving DecidableEq, Repr

def Fault.message : Fault → String
  | .predicate fault => fault.message
  | .column fault => fault.message
  | .ident shown fault => fault.message shown

def Fault.error (f : Fault) : Error := .validation f.message

def checkColumn (s : String) : Except Fault ColumnExpr :=
  (ColumnExpr.parse s).mapError .column

def checkIdent (s : String) : Except Fault Ident := (Ident.parse s).mapError (.ident s)

def ident (name : String) : Except Error Ident := (checkIdent name).mapError Fault.error

def checkLabel : Option String → Except Fault (Option Ident)
  | none => .ok none
  | some s => (checkIdent s).map some

def checkOrder (o : Order) : Except Fault Compiled.Order :=
  (checkColumn o.field).map fun c => ⟨c, o.direction⟩

def checkJoin (j : Join) : Except Fault Compiled.Join := do
  let table ← checkIdent j.table
  let label ← checkLabel j.label
  return ⟨j.kind, table, label, j.on⟩

/-- Checks the clauses of a query one after the other; the first fault is reported. -/
def compile (q : Query) : Except Fault Compiled := do
  let filters ← (Predicate.lowerAll .where q.conditions).mapError Fault.predicate
  let projection ← q.fields.mapM checkColumn
  let orders ← q.orders.mapM checkOrder
  let joins ← q.joins.mapM checkJoin
  let groups ← q.groups.mapM checkIdent
  let having ← (Predicate.lowerAll .having q.having).mapError Fault.predicate
  return ⟨filters, projection, orders, q.limit, q.offset, joins, q.preloads, groups, having,
    q.distinct⟩

def compileClauses (clauses : List Clause) : Except Fault Compiled := (ofClauses clauses).compile

end Query

namespace Compiled

/-- All rows with all columns. -/
def everything : Compiled := ⟨[], [], [], none, none, [], [], [], [], false⟩

def filtered (filters : List Predicate) : Compiled := { everything with filters := filters }

/-- Whether the query asks for all rows with all columns. -/
def isUnrestricted (q : Compiled) : Bool :=
  q.filters.isEmpty && q.projection.isEmpty && q.orders.isEmpty && q.limit.isNone &&
    q.offset.isNone && q.joins.isEmpty && q.preloads.isEmpty && q.groups.isEmpty &&
    q.having.isEmpty && !q.distinct

/-- Whether the rows can only be counted through a subquery. -/
def needsSubquery (q : Compiled) : Bool := q.distinct || !q.groups.isEmpty || !q.having.isEmpty

/-! ## Statement text -/

def writeProjection (q : Compiled) (s : Sql) : Sql :=
  let s := if q.distinct then s.push "DISTINCT " else s
  if q.projection.isEmpty then s.push "*" else s.separated ", " Sql.pushColumn q.projection

def writeJoin (s : Sql) (j : Join) : Sql :=
  let s := (s.push " " |>.push j.kind.sql |>.push " ").pushIdent j.table
  let s := match j.label with
    | some l => (s.push " AS ").pushIdent l
    | none => s
  match j.on with
  | some c => s.push " ON " |>.push c
  | none => s

def writeGroups (q : Compiled) (s : Sql) : Sql :=
  if q.groups.isEmpty then s else (s.push " GROUP BY ").separated ", " Sql.pushIdent q.groups

/-- The part of a statement that decides which rows there are. -/
def writeBody (q : Compiled) (s : Sql) : Sql :=
  let s := q.joins.foldl writeJoin s
  let s := Predicate.writeClause " WHERE " s q.filters
  Predicate.writeClause " HAVING " (q.writeGroups s) q.having

def writeOrder (s : Sql) (o : Order) : Sql :=
  (s.pushColumn o.column).push " " |>.push o.direction.sql

def writeOrders (q : Compiled) (s : Sql) : Sql :=
  if q.orders.isEmpty then s else (s.push " ORDER BY ").separated ", " writeOrder q.orders

def writeBound (keyword : String) (n : Option UInt64) (s : Sql) : Sql :=
  match n with
  | some n => s.push (keyword ++ toString n)
  | none => s

/-- `SELECT … FROM table …`. -/
def selectSql (q : Compiled) (table : Ident) : Sql :=
  let s := ((q.writeProjection (Sql.ofText "SELECT ")).push " FROM ").pushIdent table
  writeBound " OFFSET " q.offset (writeBound " LIMIT " q.limit (q.writeOrders (q.writeBody s)))

/-- `SELECT COUNT(*)` over the rows of the query; order, limit and offset do not matter. -/
def countSql (q : Compiled) (table : Ident) : Sql :=
  if q.needsSubquery then
    let s := q.writeProjection (Sql.ofText "SELECT COUNT(*) FROM (SELECT ")
    (q.writeBody ((s.push " FROM ").pushIdent table)).push ") AS t"
  else q.writeBody ((Sql.ofText "SELECT COUNT(*) FROM ").pushIdent table)

end Compiled

end EntityStore
