import EntityStore.Memory.Match
import EntityStore.Query.Compiled

/-!
# Reading tables

A query runs over the rows of a table: filter, sort, project or aggregate, drop repeated rows,
take a page.
-/

namespace EntityStore.Memory

/-! ## Order -/

/-- Ascending order of values, null behind all others. Values that do not compare count as
equal. -/
def compareValues (a b : Value) : Ordering :=
  match a.isNull, b.isNull with
  | true, true => .eq
  | true, false => .gt
  | false, true => .lt
  | false, false => (a.compare? b).getD .eq

/-- Order of two rows by one term; a column that a row lacks decides nothing. -/
def compareBy (o : Compiled.Order) (a b : Record) : Ordering :=
  match columnValue a o.column, columnValue b o.column with
  | .ok x, .ok y =>
    match o.direction with
    | .asc => compareValues x y
    | .desc => (compareValues x y).swap
  | _, _ => .eq

/-- Order of two rows by the first term that tells them apart. -/
def compareRows (orders : List Compiled.Order) (a b : Record) : Ordering :=
  orders.foldl (fun r o => r.then (compareBy o a b)) .eq

/-- Checks the terms against the first row. -/
def checkOrders (rows : List Record) (orders : List Compiled.Order) : Except StoreError Unit :=
  match rows with
  | [] => .ok ()
  | row :: _ => orders.forM fun o => (columnValue row o.column).map fun _ => ()

/-- Sorts rows; rows that the terms do not tell apart keep their order. -/
def sort (rows : List Record) (orders : List Compiled.Order) : Except StoreError (List Record) := do
  checkOrders rows orders
  return if orders.isEmpty then rows else rows.mergeSort fun a b => compareRows orders a b != .gt

/-! ## Aggregates -/

/-- Keeps the first of equal elements. -/
def dedup {α : Type} [BEq α] (xs : List α) : List α :=
  xs.foldl (fun kept x => if kept.contains x then kept else kept ++ [x]) []

/-- Addition that stops at the ends of the 64-bit range. -/
def addSaturating (a b : Int64) : Int64 :=
  let s := a.toInt + b.toInt
  if s < Int64.minValue.toInt then Int64.minValue
  else if Int64.maxValue.toInt < s then Int64.maxValue
  else Int64.ofInt s

/-- Running totals: of the integers, of all numbers as doubles, and whether a double was
among them. -/
structure Total where
  ints : Int64
  floats : Float
  sawFloat : Bool

def Total.add (t : Total) : Value → Total
  | .int i => { t with ints := addSaturating t.ints i, floats := t.floats + Number.ofInt64 i }
  | .float x => { t with floats := t.floats + x, sawFloat := true }
  | _ => t

/-- The sum of the numbers among the values; null for no values. -/
def sum (vs : List Value) : Value :=
  if vs.isEmpty then .null
  else
    let t := vs.foldl Total.add ⟨0, 0, false⟩
    if t.sawFloat then .float t.floats else .int t.ints

def average (vs : List Value) : Value :=
  let n := (Nat.toFloat vs.length)
  match sum vs with
  | .int i => .float (Number.ofInt64 i / n)
  | .float x => .float (x / n)
  | v => v

/-- The first of the least values. -/
def least : List Value → Value
  | [] => .null
  | v :: vs => vs.foldl (fun m w => if compareValues m w == .gt then w else m) v

/-- The last of the greatest values. -/
def greatest : List Value → Value
  | [] => .null
  | v :: vs => vs.foldl (fun m w => if compareValues m w == .gt then m else w) v

/-- The values that an aggregate's argument has in the rows. Every row counts for `*`, and
nulls do not count for a column. -/
def argumentValues (rows : List Record) : Term → Except StoreError (List Value)
  | .star _ => .ok (rows.map fun _ => .bool true)
  | .column i => do
    let vs ← rows.mapM fun r => columnValue r (.column i)
    return vs.filter fun v => !v.isNull

def aggregateValue (func : String) (vs : List Value) : Except StoreError Value :=
  match func with
  | "COUNT" => .ok (.int (Int64.ofNat vs.length))
  | "SUM" => .ok (sum vs)
  | "AVG" => .ok (average vs)
  | "MIN" => .ok (least vs)
  | "MAX" => .ok (greatest vs)
  | _ => .error (.unsupported ("aggregate " ++ func))

def aggregateTerm (rows : List Record) (c : ColumnExpr) : Except StoreError (String × Value) :=
  match c with
  | .term _ =>
    .error (.unsupported ("column " ++ c.toSql ++ " must appear in GROUP BY or an aggregate"))
  | .aggregate func distinct arg => do
    let vs ← argumentValues rows arg
    let v ← aggregateValue func (if distinct then dedup vs else vs)
    return (func.toLower, v)

/-- The one row of an aggregate query; each value stands under its function's name. -/
def aggregate (rows : List Record) (projection : List ColumnExpr) : Except StoreError Record :=
  (projection.mapM (aggregateTerm rows)).map Record.ofPairs

/-! ## Projection -/

def projectTerm (row : Record) (out : Record) : ColumnExpr → Except StoreError Record
  | .term (.star _) => .ok (out.setAll row.entries)
  | .term (.column i) =>
    match row.get? i.name with
    | some v => .ok (out.set i.name v)
    | none => .error (unknownColumn i.name)
  | c => .error (.unsupported ("aggregate " ++ c.toSql ++ " mixed with rows"))

def projectRow (projection : List ColumnExpr) (row : Record) : Except StoreError Record :=
  projection.foldlM (projectTerm row) .empty

/-- Projects every row, or all rows into one if the projection has an aggregate. -/
def project (projection : List ColumnExpr) (rows : List Record) : Except StoreError (List Record) :=
  if projection.isEmpty then .ok rows
  else if projection.any (·.isAggregate) then (aggregate rows projection).map fun r => [r]
  else rows.mapM (projectRow projection)

/-- The rows from `offset` on, at most `limit` of them. -/
def page (offset limit : Option UInt64) (rows : List Record) : List Record :=
  let rest := rows.drop ((offset.map (·.toNat)).getD 0)
  match limit with
  | some n => rest.take n.toNat
  | none => rest

/-! ## Queries -/

/-- Joins, groups and group conditions are left to database servers. -/
def checkSupported (q : Compiled) : Except StoreError Unit :=
  if !q.joins.isEmpty then .error (.unsupported "joins")
  else if !q.groups.isEmpty || !q.having.isEmpty then .error (.unsupported "GROUP BY / HAVING")
  else .ok ()

/-- Each row with whether it satisfies all filters. -/
def marked (filters : List Predicate) (rows : List Record) : Except StoreError (List (Record × Bool)) :=
  rows.mapM fun r => (satisfiesAll r filters).map fun b => (r, b)

def matching (filters : List Predicate) (rows : List Record) : Except StoreError (List Record) :=
  (marked filters rows).map fun ms => (ms.filter (·.2)).map (·.1)

def runQuery (q : Compiled) (rows : List Record) : Except StoreError (List Record) := do
  let rows ← matching q.filters rows
  let rows ← sort rows q.orders
  let rows ← project q.projection rows
  return page q.offset q.limit (if q.distinct then dedup rows else rows)

/-- The query without order and paging. -/
def unpaged (q : Compiled) : Compiled := { q with orders := [], limit := none, offset := none }

end EntityStore.Memory
