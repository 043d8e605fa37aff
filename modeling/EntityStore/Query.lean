import EntityStore.Condition

/-!
# Queries

A query is described by clauses in the order of the caller. Each clause acts on one part of
the query: `limit`, `offset` and `distinct` overwrite, the others append.
-/

namespace EntityStore

inductive Direction where
  | asc
  | desc
deriving DecidableEq, Repr

def Direction.sql : Direction → String
  | .asc => "ASC"
  | .desc => "DESC"

inductive JoinKind where
  | inner | left | right | full | cross
deriving DecidableEq, Repr

def JoinKind.sql : JoinKind → String
  | .inner => "INNER JOIN"
  | .left => "LEFT JOIN"
  | .right => "RIGHT JOIN"
  | .full => "FULL JOIN"
  | .cross => "CROSS JOIN"

/-- A join of a table, under a label if it has one. Its condition is written into the
statement as it stands. -/
structure Join where
  kind : JoinKind
  table : String
  label : Option String
  on : Option String
deriving DecidableEq, Repr

structure Order where
  field : String
  direction : Direction
deriving DecidableEq, Repr

/-- A query over names that are not checked yet. -/
structure Query where
  conditions : List Condition
  fields : List String
  orders : List Order
  limit : Option UInt64
  offset : Option UInt64
  joins : List Join
  preloads : List String
  groups : List String
  having : List Condition
  distinct : Bool

namespace Query

def empty : Query := ⟨[], [], [], none, none, [], [], [], [], false⟩

instance : EmptyCollection Query := ⟨empty⟩

inductive Clause where
  | filter (condition : Condition)
  | orderBy (order : Order)
  | limit (n : UInt64)
  | offset (n : UInt64)
  | select (fields : List String)
  | preload (relation : String)
  | join (join : Join)
  | groupBy (field : String)
  | having (condition : Condition)
  | distinct

def apply (q : Query) : Clause → Query
  | .filter c => { q with conditions := q.conditions ++ [c] }
  | .orderBy o => { q with orders := q.orders ++ [o] }
  | .limit n => { q with limit := some n }
  | .offset n => { q with offset := some n }
  | .select fs => { q with fields := q.fields ++ fs }
  | .preload r => { q with preloads := q.preloads ++ [r] }
  | .join j => { q with joins := q.joins ++ [j] }
  | .groupBy f => { q with groups := q.groups ++ [f] }
  | .having c => { q with having := q.having ++ [c] }
  | .distinct => { q with distinct := true }

def ofClauses (clauses : List Clause) : Query := clauses.foldl apply empty

end Query

end EntityStore
