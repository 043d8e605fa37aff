import EntityStore.Postgres.Statement
import EntityStore.Proofs.Sql.Item

/-!
# The items of predicates and statements

What each writer appends, as items: texts and values in the order in which they stand in the
statement. Every writer is shown to append exactly its items, so that later proofs are about
items and never unfold a writer.
-/

namespace EntityStore

open Sql (Item ofItems separate)

def identItems (i : Ident) : List Item := [.text i.toSql]

def columnItems (c : ColumnExpr) : List Item := [.text c.toSql]

theorem pushIdent_eq (q : Sql) (i : Ident) : q.pushIdent i = q.addAll (identItems i) := rfl

theorem pushColumn_eq (q : Sql) (c : ColumnExpr) : q.pushColumn c = q.addAll (columnItems c) :=
  rfl

theorem pushIdents_eq (q : Sql) (is : List Ident) :
    q.separated ", " Sql.pushIdent is = q.addAll (separate ", " identItems is) :=
  Sql.separated_eq pushIdent_eq ", " q is

theorem pushColumns_eq (q : Sql) (cs : List ColumnExpr) :
    q.separated ", " Sql.pushColumn cs = q.addAll (separate ", " columnItems cs) :=
  Sql.separated_eq pushColumn_eq ", " q cs

/-! ## Predicates -/

namespace Predicate

def compareItems (column : ColumnExpr) (op : Operator) (value : Value) : List Item :=
  if op.takesList then
    match items value with
    | [] => [.text (if op = .isIn then falseText else trueText)]
    | vs =>
      [.text column.toSql, .text " ", .text op.sql, .text " ("] ++
        separate ", " (fun v => [.value v]) vs ++ [.text ")"]
  else
    [.text column.toSql, .text " ", .text op.sql] ++
      if op.takesValue then [.text " ", .value value] else []

mutual

def written : Predicate → List Item
  | .compare column op value => compareItems column op value
  | .all [] => [.text trueText]
  | .all (p :: ps) => .text "(" :: (written p ++ .text ")" :: writtenRest " AND " ps)
  | .any [] => [.text falseText]
  | .any (p :: ps) => .text "(" :: (written p ++ .text ")" :: writtenRest " OR " ps)

def writtenRest (separator : String) : List Predicate → List Item
  | [] => []
  | p :: ps =>
    .text separator :: .text "(" :: (written p ++ .text ")" :: writtenRest separator ps)

end

/-- The items of predicates that all have to hold, behind the keyword of their clause. -/
def clauseItems (keyword : String) : List Predicate → List Item
  | [] => []
  | p :: ps => .text keyword :: (written p ++ ps.flatMap fun p => .text " AND " :: written p)

theorem writeCompare_eq (q : Sql) (column : ColumnExpr) (op : Operator) (value : Value) :
    writeCompare q column op value = q.addAll (compareItems column op value) := by
  unfold writeCompare compareItems
  split
  · cases items value with
    | nil => rfl
    | cons v vs =>
      rw [Sql.addAll_append, Sql.addAll_append, ← Sql.bindList_eq]
      rfl
  · rw [Sql.addAll_append]
    cases op.takesValue <;> rfl

mutual

theorem write_eq (q : Sql) : ∀ p, write q p = q.addAll (written p)
  | .compare column op value => writeCompare_eq q column op value
  | .all [] => rfl
  | .any [] => rfl
  | .all (p :: ps) => by
    rw [write, write_eq (q.push "(") p, writeRest_eq " AND " _ ps, written, Sql.addAll_text,
      Sql.addAll_append, Sql.addAll_text]
  | .any (p :: ps) => by
    rw [write, write_eq (q.push "(") p, writeRest_eq " OR " _ ps, written, Sql.addAll_text,
      Sql.addAll_append, Sql.addAll_text]

theorem writeRest_eq (separator : String) (q : Sql) :
    ∀ ps, writeRest separator q ps = q.addAll (writtenRest separator ps)
  | [] => rfl
  | p :: ps => by
    rw [writeRest, write_eq _ p, writeRest_eq separator _ ps, writtenRest, Sql.addAll_text,
      Sql.addAll_text, Sql.addAll_append, Sql.addAll_text]

end

theorem writeClause_eq (keyword : String) (q : Sql) (ps : List Predicate) :
    writeClause keyword q ps = q.addAll (clauseItems keyword ps) := by
  cases ps with
  | nil => rfl
  | cons p ps =>
    rw [writeClause, write_eq, clauseItems, Sql.addAll_text, Sql.addAll_append]
    exact Sql.foldl_addAll (fun q p => by rw [write_eq]; rfl) ps _

end Predicate

/-! ## Queries -/

namespace Compiled

variable (q : Compiled)

def projectionItems : List Item :=
  (if q.distinct then [.text "DISTINCT "] else []) ++
    if q.projection.isEmpty then [.text "*"]
    else separate ", " columnItems q.projection

def joinItems (j : Join) : List Item :=
  [.text " ", .text j.kind.sql, .text " ", .text j.table.toSql] ++
    (match j.label with
      | some l => [.text " AS ", .text l.toSql]
      | none => []) ++
    match j.on with
    | some c => [.text " ON ", .text c]
    | none => []

def groupItems : List Item :=
  if q.groups.isEmpty then []
  else .text " GROUP BY " :: separate ", " identItems q.groups

/-- The items in front of the WHERE clause, from those that name the table on. -/
def sourceItems (opening : List Item) : List Item := opening ++ q.joins.flatMap joinItems

def termItems (o : Order) : List Item :=
  [.text o.column.toSql, .text " ", .text o.direction.sql]

def orderItems : List Item :=
  if q.orders.isEmpty then [] else .text " ORDER BY " :: separate ", " termItems q.orders

def boundItems (keyword : String) : Option UInt64 → List Item
  | some n => [.text (keyword ++ toString n)]
  | none => []

def bodyItems : List Item :=
  q.joins.flatMap joinItems ++ Predicate.clauseItems " WHERE " q.filters ++ q.groupItems ++
    Predicate.clauseItems " HAVING " q.having

/-- What stands behind the HAVING clause of a selection. -/
def pageItems : List Item :=
  q.orderItems ++ boundItems " LIMIT " q.limit ++ boundItems " OFFSET " q.offset

def selectOpening (table : Ident) : List Item :=
  .text "SELECT " :: q.projectionItems ++ [.text " FROM ", .text table.toSql]

def selectItems (table : Ident) : List Item :=
  q.selectOpening table ++ q.bodyItems ++ q.pageItems

def countOpening (table : Ident) : List Item :=
  if q.needsSubquery then
    .text "SELECT COUNT(*) FROM (SELECT " :: q.projectionItems ++
      [.text " FROM ", .text table.toSql]
  else [.text "SELECT COUNT(*) FROM ", .text table.toSql]

/-- What stands behind the HAVING clause of a count. -/
def countEnd : List Item := if q.needsSubquery then [.text ") AS t"] else []

def countItems (table : Ident) : List Item :=
  q.countOpening table ++ q.bodyItems ++ q.countEnd

theorem writeProjection_eq (s : Sql) : q.writeProjection s = s.addAll q.projectionItems := by
  unfold writeProjection projectionItems
  rw [Sql.addAll_append]
  by_cases distinct : q.distinct <;> by_cases all : q.projection.isEmpty <;>
    simp only [distinct, all, if_true, if_false, Bool.false_eq_true]
  · rfl
  · exact pushColumns_eq _ _
  · rfl
  · exact pushColumns_eq _ _

theorem writeJoin_eq (s : Sql) (j : Join) : writeJoin s j = s.addAll (joinItems j) := by
  obtain ⟨kind, table, label, on⟩ := j
  cases label <;> cases on <;> rfl

theorem writeGroups_eq (s : Sql) : q.writeGroups s = s.addAll q.groupItems := by
  unfold writeGroups groupItems
  split
  · rfl
  · exact pushIdents_eq _ _

theorem writeBody_eq (s : Sql) : q.writeBody s = s.addAll q.bodyItems := by
  rw [writeBody, Predicate.writeClause_eq, writeGroups_eq, Predicate.writeClause_eq,
    Sql.foldl_addAll writeJoin_eq]
  simp only [bodyItems, Sql.addAll_append]

theorem writeOrder_eq (s : Sql) (o : Order) : writeOrder s o = s.addAll (termItems o) := rfl

theorem writeOrders_eq (s : Sql) : q.writeOrders s = s.addAll q.orderItems := by
  unfold writeOrders orderItems
  split
  · rfl
  · exact Sql.separated_eq writeOrder_eq ", " _ _

theorem writeBound_eq (keyword : String) (n : Option UInt64) (s : Sql) :
    writeBound keyword n s = s.addAll (boundItems keyword n) := by
  cases n <;> rfl

theorem selectSql_eq (table : Ident) : q.selectSql table = ofItems (q.selectItems table) := by
  rw [selectSql, writeBound_eq, writeBound_eq, writeOrders_eq, writeBody_eq, writeProjection_eq]
  simp only [selectItems, selectOpening, pageItems, ofItems, Sql.addAll_append, Sql.addAll_text]
  rfl

theorem countSql_eq (table : Ident) : q.countSql table = ofItems (q.countItems table) := by
  simp only [countSql, countItems, countOpening, countEnd]
  split
  · rw [writeBody_eq, writeProjection_eq]
    simp only [ofItems, Sql.addAll_append, Sql.addAll_text]
    rfl
  · rw [writeBody_eq]
    simp only [ofItems, Sql.addAll_append, Sql.addAll_text, Sql.addAll_nil]
    rfl

end Compiled

/-! ## Writes -/

namespace Postgres.Statement

def cellItems (row : Record) (column : String) : List Item :=
  match row.get? column with
  | some v => [.value v]
  | none => [.text "DEFAULT"]

def tupleItems (columns : List String) (row : Record) : List Item :=
  .text "(" :: separate ", " (cellItems row) columns ++ [.text ")"]

def rowItems (columns : List String) (listed : List Ident) (rows : List Record) : List Item :=
  if columns.isEmpty then [.text (defaultRows rows.length)]
  else
    .text " (" :: separate ", " identItems listed ++ .text ") VALUES " ::
      separate ", " (tupleItems columns) rows

def returningItems (returned : List Ident) : List Item :=
  if returned.isEmpty then []
  else .text " RETURNING " :: separate ", " identItems returned

def insertItems (table : Ident) (listed returned : List Ident) (rows : List Record) : List Item :=
  [.text "INSERT INTO ", .text table.toSql] ++ rowItems (columnsOf rows) listed rows ++
    returningItems returned

def changeItems (change : Ident × Value) : List Item :=
  [.text change.1.toSql, .text " = ", .value change.2]

def updateItems (table : Ident) (columns : List Ident) (values : List Value)
    (filters : List Predicate) : List Item :=
  [.text "UPDATE ", .text table.toSql, .text " SET "] ++
    separate ", " changeItems (columns.zip values) ++ Predicate.clauseItems " WHERE " filters

def deleteItems (table : Ident) (filters : List Predicate) : List Item :=
  [.text "DELETE FROM ", .text table.toSql] ++ Predicate.clauseItems " WHERE " filters

theorem writeTuple_eq (columns : List String) (q : Sql) (row : Record) :
    writeTuple columns q row = q.addAll (tupleItems columns row) := by
  have cell (q : Sql) (c : String) : writeCell row q c = q.addAll (cellItems row c) := by
    unfold writeCell cellItems
    cases row.get? c <;> rfl
  rw [writeTuple, Sql.separated_eq cell, tupleItems, List.cons_append, Sql.addAll_text,
    Sql.addAll_append]
  rfl

theorem insert_eq (table : String) (rows : List Record) (returning : List String) :
    insert table rows returning = (do
      let t ← Query.ident table
      let listed ← idents (columnsOf rows)
      let returned ← idents returning
      return ofItems (insertItems t listed returned rows)) := by
  unfold insert
  refine bind_congr fun t => bind_congr fun listed => bind_congr fun returned => ?_
  simp only [insertItems, rowItems, returningItems]
  by_cases none : (columnsOf rows).isEmpty <;> by_cases silent : returned.isEmpty <;>
    simp only [none, silent, if_true, if_false, Bool.false_eq_true, List.append_nil]
  · rfl
  · rw [pushIdents_eq]
    rfl
  · rw [Sql.separated_eq (writeTuple_eq _), pushIdents_eq]
    simp only [ofItems, Sql.addAll_append, List.cons_append, Sql.addAll_text, Sql.addAll_nil]
    rfl
  · rw [pushIdents_eq, Sql.separated_eq (writeTuple_eq _), pushIdents_eq]
    simp only [ofItems, Sql.addAll_append, List.cons_append, Sql.addAll_text, Sql.addAll_nil]
    rfl

theorem writeChange_eq (q : Sql) (change : Ident × Value) :
    writeChange q change = q.addAll (changeItems change) := rfl

theorem update_eq (table : String) (changes : Record) (filters : List Predicate) :
    update table changes filters =
      if changes.isEmpty then .error noChanges else (do
        let t ← Query.ident table
        let columns ← idents changes.columns
        return ofItems (updateItems t columns changes.values filters)) := by
  unfold update
  split
  · rfl
  · refine bind_congr fun t => bind_congr fun columns => ?_
    rw [restrict, Predicate.writeClause_eq, Sql.separated_eq writeChange_eq]
    simp only [updateItems, ofItems, Sql.addAll_append]
    rfl

theorem delete_eq (table : String) (filters : List Predicate) :
    delete table filters =
      (Query.ident table).map fun t => ofItems (deleteItems t filters) := by
  unfold delete
  cases Query.ident table with
  | error e => rfl
  | ok t =>
    change Except.ok (restrict _ filters) = _
    rw [restrict, Predicate.writeClause_eq]
    rfl

end Postgres.Statement

end EntityStore
