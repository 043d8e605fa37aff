import EntityStore.Proofs.Memory.Select
import EntityStore.Proofs.Memory.Step
import EntityStore.Proofs.Session
import EntityStore.Proofs.Sql.Written
import EntityStore.Repository.Read

/-!
# Counting rows

A count statement is about the rows that satisfy the filters, or about the distinct rows of a
subquery; order and paging do not matter. The store in memory counts what it would select, which
is the same unless the projection is one of aggregates: then it counts the one row that they make.
-/

namespace EntityStore

open Sql (Item)

/-- The statement is another one between two texts. -/
structure Sql.Wraps (statement : Sql) (before : String) (inner : Sql) (after : String) : Prop where
  render : ∀ style, statement.render style = before ++ inner.render style ++ after
  params : statement.params = inner.params

namespace Compiled

variable {q : Compiled}

/-- The query reads one table row by row: nothing is joined or grouped. -/
structure IsSingle (q : Compiled) : Prop where
  joins : q.joins = []
  groups : q.groups = []
  having : q.having = []

/-- The query for the number of rows under filters. -/
def countAll (filters : List Predicate) : Compiled :=
  { filtered filters with projection := [.aggregate "COUNT" false (.star none)] }

theorem countSql_of_distinct (distinct : q.distinct = true) (table : Ident) :
    (q.countSql table).Wraps "SELECT COUNT(*) FROM (" ((Memory.unpaged q).selectSql table)
      ") AS t" := by
  let rest := q.projectionItems ++ [.text " FROM ", .text table.toSql] ++ q.bodyItems
  have wrapped : q.needsSubquery = true := by rw [needsSubquery, distinct]; rfl
  have counting : q.countItems table =
      .text "SELECT COUNT(*) FROM (SELECT " :: (rest ++ [.text ") AS t"]) := by
    rw [countItems, countOpening, countEnd, if_pos wrapped, if_pos wrapped]
    rfl
  have selecting : (Memory.unpaged q).selectItems table = .text "SELECT " :: rest :=
    List.append_nil _
  rw [countSql_eq, selectSql_eq, counting, selecting]
  constructor
  · intro style
    rw [Sql.render_ofItems, Sql.render_ofItems, Item.print, Item.print, Item.print_append,
      Item.print, Item.print, ← String.append_assoc, ← String.append_assoc, String.append_empty]
    rfl
  · rw [Sql.params_ofItems, Sql.params_ofItems]
    simp

theorem countSql_of_single (single : q.IsSingle) (distinct : q.distinct = false) (table : Ident) :
    (q.countSql table).Wraps "" ((countAll q.filters).selectSql table) "" := by
  let rest := .text table.toSql :: Predicate.clauseItems " WHERE " q.filters
  have direct : q.needsSubquery = false := by
    rw [needsSubquery, distinct, single.groups, single.having]
    rfl
  have counting : q.countItems table = .text "SELECT COUNT(*) FROM " :: rest := by
    rw [countItems, countOpening, countEnd, direct, bodyItems, groupItems, single.joins,
      single.groups, single.having]
    simp [rest, Predicate.clauseItems]
  have selecting : (countAll q.filters).selectItems table =
      .text "SELECT " :: .text "COUNT(*)" :: .text " FROM " :: rest := by
    have body : (countAll q.filters).bodyItems = Predicate.clauseItems " WHERE " q.filters := by
      rw [bodyItems, groupItems]
      exact (List.append_nil _).trans (List.append_nil _)
    rw [selectItems, body]
    exact List.append_nil _
  rw [countSql_eq, selectSql_eq, counting, selecting]
  constructor
  · intro style
    rw [Sql.render_ofItems, Sql.render_ofItems, Item.print, Item.print, Item.print, Item.print,
      ← String.append_assoc, ← String.append_assoc, String.append_empty, String.empty_append]
    rfl
  · rw [Sql.params_ofItems, Sql.params_ofItems]
    simp

end Compiled

namespace Memory

open Compiled (IsSingle countAll)

section

variable {q : Compiled} {rows : List Record}

/-- Rows are counted by the query for their number. -/
theorem runQuery_countAll {filters : List Predicate} {hit : List Record}
    (matched : matching filters rows = .ok hit) :
    runQuery (countAll filters) rows =
      .ok [.ofPairs [("count", .int (Int64.ofNat hit.length))]] := by
  have lower : "COUNT".toLower = "count" := by decide +kernel
  have counted : aggregateTerm hit (.aggregate "COUNT" false (.star none)) =
      .ok ("count", .int (Int64.ofNat hit.length)) := by
    change Except.ok ("COUNT".toLower, Value.int (Int64.ofNat (hit.map _).length)) = _
    rw [lower, List.length_map]
  have made : aggregate hit (countAll filters).projection =
      .ok (.ofPairs [("count", .int (Int64.ofNat hit.length))]) := by
    have single : (countAll filters).projection = [.aggregate "COUNT" false (.star none)] := rfl
    rw [aggregate, single, List.mapM_cons, counted]
    rfl
  have projected : project (countAll filters).projection hit =
      .ok [.ofPairs [("count", .int (Int64.ofNat hit.length))]] := by
    change (aggregate hit (countAll filters).projection).map (fun r => [r]) = _
    rw [made]
    rfl
  have unordered : sort hit (countAll filters).orders = .ok hit := sort_nil hit
  exact runQuery_of_steps matched unordered projected

/-- One row is answered by a query of aggregates. -/
theorem length_of_aggregates {projection : List ColumnExpr} {shown : List Record}
    (aggregates : projection.any (·.isAggregate) = true)
    (projected : project projection rows = .ok shown) : shown.length = 1 := by
  have some : projection ≠ [] := by
    rintro rfl
    cases aggregates
  rw [project, if_neg (by simpa using some), if_pos aggregates] at projected
  obtain ⟨row, -, rfl⟩ := exists_of_map projected
  rfl

/-- What a query without order and paging answers are the rows under its filters, projected. -/
theorem exists_of_unpaged {answer : List Record} (ran : runQuery (unpaged q) rows = .ok answer) :
    ∃ shown, matching q.filters rows = .ok (rows.filter (passes q.filters)) ∧
      project q.projection (rows.filter (passes q.filters)) = .ok shown ∧
      answer = if q.distinct then dedup shown else shown := by
  obtain ⟨hit, matched, ran⟩ := exists_of_bind ran
  obtain ⟨sorted, done, ran⟩ := exists_of_bind ran
  obtain ⟨shown, projected, ran⟩ := exists_of_bind ran
  obtain rfl := Except.ok.inj ran
  obtain rfl : sorted = hit := sort_eq_ok done
  have matched : matching q.filters rows = .ok sorted := matched
  obtain ⟨-, rfl⟩ := matching_eq_ok matched
  exact ⟨shown, matched, projected, rfl⟩

theorem length_of_project {projection : List ColumnExpr} {shown : List Record}
    (projected : project projection rows = .ok shown) :
    shown.length = if projection.any (·.isAggregate) then 1 else rows.length := by
  cases aggregates : projection.any (·.isAggregate) with
  | true => exact length_of_aggregates aggregates projected
  | false =>
    obtain ⟨rfl, -⟩ := project_eq_ok aggregates projected
    exact List.length_map _

end

section

variable {s : Store} {scope : Scope} {table : String} {q : Compiled} {n : UInt64}

/-- What is counted is what would be selected without order and paging. -/
theorem Store.exists_of_count (counted : (s.perform scope (.count table q)).1 = .ok n) :
    ∃ ts t answer, s.tablesOf scope = .ok ts ∧ ts.get? table = some t ∧
      runQuery (unpaged q) t.rows = .ok answer ∧ n = answer.length.toUInt64 := by
  have answered : (s.answer scope (.count table q)).1 = .ok n := counted
  obtain ⟨ts, ts', tables, answered, -⟩ := Store.answer_eq_ok (Prod.ext answered rfl)
  obtain ⟨m, counted, same⟩ := exists_of_map answered
  cases same
  obtain ⟨answer, selected, rfl⟩ := exists_of_map counted
  obtain ⟨_, -, selected⟩ := exists_of_bind selected
  obtain ⟨t, found, ran⟩ := exists_of_bind selected
  exact ⟨ts, t, answer, tables, Tables.get_eq_ok.mp found, ran, rfl⟩

theorem run_count {α : Type} [Entity α] (repo : Repository α) {clauses : List Query.Clause}
    (compiled : Query.compileClauses clauses = .ok q) (session : Session Store) :
    ((repo.count clauses).run.run session).1 =
      (session.store.perform repo.scope (.count (Entity.info α).table q)).1.mapError
        StoreError.classify := by
  have accepted : (Repository.compiled clauses : Action Store Compiled).run.run session =
      (.ok q, session) := by
    rw [Repository.compiled, compiled]
    rfl
  rw [Repository.count, run_bind_ok accepted, run_ask]
  rfl

theorem run_hasAny {α : Type} [Entity α] (repo : Repository α) {clauses : List Query.Clause}
    (compiled : Query.compileClauses clauses = .ok q) {session : Session Store}
    (counted : (session.store.perform repo.scope (.count (Entity.info α).table q)).1 = .ok n) :
    ((repo.hasAny clauses).run.run session).1 = .ok (decide (n > 0)) := by
  have count := run_count repo compiled session
  rw [counted] at count
  rw [Repository.hasAny, run_bind_ok (Prod.ext count rfl)]
  rfl

theorem toUInt64_pos {m : Nat} (small : m < UInt64.size) : m.toUInt64 > 0 ↔ 0 < m := by
  have value : m.toUInt64.toNat = m := by
    rw [Nat.toUInt64_eq, UInt64.toNat_ofNat_of_lt' small]
  rw [gt_iff_lt, UInt64.lt_iff_toNat_lt, value]
  rfl

end

/-- What the store counts for a query of one table, in whatever scope and state. It is what the
count statement is about: the rows under the filters, as the query for their number says, or the
distinct rows of the subquery, whatever the order and the page. Where the projection is one of
aggregates the query is answered with one row, and one is counted. So there is any row to a query
that is not distinct if one satisfies the filters or the projection is one of aggregates. -/
theorem count_of_single (s : Store) (scope : Scope) (table : String) {q : Compiled} {n : UInt64}
    (single : q.IsSingle) (counted : (s.perform scope (.count table q)).1 = .ok n) :
    (∀ orders limit offset, (s.perform scope (.count table
      { q with orders := orders, limit := limit, offset := offset })).1 = .ok n) ∧
    ∃ ts t, s.tablesOf scope = .ok ts ∧ ts.get? table = some t ∧
      (∀ row ∈ t.rows, satisfiesAll row q.filters = .ok (passes q.filters row)) ∧
      (q.distinct = false →
        (∀ i, (q.countSql i).Wraps "" ((countAll q.filters).selectSql i) "") ∧
        runQuery (countAll q.filters) t.rows =
          .ok [.ofPairs [("count", .int (Int64.ofNat (t.rows.countP (passes q.filters))))]] ∧
        n = (if q.aggregates then 1 else t.rows.countP (passes q.filters)).toUInt64) ∧
      (q.distinct = true →
        (∀ i, (q.countSql i).Wraps "SELECT COUNT(*) FROM (" ((unpaged q).selectSql i) ") AS t") ∧
        ∃ shown kept, project q.projection (t.rows.filter (passes q.filters)) = .ok shown ∧
          Represents kept shown ∧ runQuery (unpaged q) t.rows = .ok kept ∧
          n = kept.length.toUInt64) ∧
      ∀ {α : Type} [Entity α] (repo : Repository α) (clauses : List Query.Clause)
        (session : Session Store), session.store = s → repo.scope = scope →
        (Entity.info α).table = table → Query.compileClauses clauses = .ok q →
        q.distinct = false → t.rows.length < UInt64.size →
        ((repo.hasAny clauses).run.run session).1 =
          .ok (q.aggregates || t.rows.any (passes q.filters)) := by
  refine ⟨fun _ _ _ => counted, ?_⟩
  obtain ⟨ts, t, answer, tables, found, ran, number⟩ := Store.exists_of_count counted
  obtain ⟨shown, matched, projected, rfl⟩ := exists_of_unpaged ran
  have shownLength := length_of_project projected
  rw [← List.countP_eq_length_filter] at shownLength
  have rowsCounted (plain : q.distinct = false) :
      n = (if q.aggregates then 1 else t.rows.countP (passes q.filters)).toUInt64 := by
    rw [number, plain, if_neg Bool.false_ne_true, shownLength]
    rfl
  refine ⟨ts, t, tables, found, (matching_eq_ok matched).1, ?_, ?_, ?_⟩
  · intro plain
    refine ⟨Compiled.countSql_of_single single plain, ?_, rowsCounted plain⟩
    rw [runQuery_countAll matched, List.countP_eq_length_filter]
  · intro distinct
    rw [distinct, if_pos rfl] at ran number
    exact ⟨Compiled.countSql_of_distinct distinct, shown, dedup shown, projected,
      represents_dedup shown, ran, number⟩
  · rintro α _ repo clauses session rfl rfl rfl compiled plain small
    have below : (if q.aggregates then 1 else t.rows.countP (passes q.filters)) < UInt64.size := by
      split
      · decide
      · exact Nat.lt_of_le_of_lt List.countP_le_length small
    rw [run_hasAny repo compiled counted, rowsCounted plain]
    congr 1
    rw [Bool.eq_iff_iff, decide_eq_true_iff, toUInt64_pos below, Bool.or_eq_true,
      List.any_eq_true]
    cases q.aggregates with
    | true => simp
    | false => simp [List.countP_pos_iff]

/-- A table of the numbers 1, 2 and 3. -/
def numbered : Store :=
  Step.after ∅ [.ask .direct (.createTable ⟨"numbers", [Field.ofType "n" .bigInt]⟩),
    .ask .direct (.insert "numbers"
      [.ofPairs [("n", .int 1)], .ofPairs [("n", .int 2)], .ofPairs [("n", .int 3)]] [])]

/-- Of the numbers above 1 the first is asked for, and both are counted, as on any other page. -/
theorem numbers_counted :
    let q : Compiled :=
      { Compiled.filtered [.compare (.column ⟨[.plain "n"]⟩) .gt (.int 1)] with limit := some 1 }
    q.IsSingle ∧ (numbered.perform .direct (.count "numbers" q)).1 = .ok 2 ∧
      ∀ orders limit offset, (numbered.perform .direct (.count "numbers"
        { q with orders := orders, limit := limit, offset := offset })).1 = .ok 2 := by
  intro q
  have single : q.IsSingle := ⟨rfl, rfl, rfl⟩
  have counted : (numbered.perform .direct (.count "numbers" q)).1 = .ok 2 := rfl
  exact ⟨single, counted, (count_of_single numbered .direct "numbers" single counted).1⟩

/-- The count statement of a query for the number of rows is that of all rows, of which there are
three. But one row is counted, that of its answer. -/
theorem aggregate_counted_once :
    let q : Compiled := countAll []
    q.IsSingle ∧ q.distinct = false ∧
      (q.countSql ⟨[.plain "numbers"]⟩).toSql = "SELECT COUNT(*) FROM numbers" ∧
      (numbered.rows "numbers").map (fun rows => rows.countP (passes q.filters)) = .ok 3 ∧
      (numbered.perform .direct (.count "numbers" q)).1 = .ok 1 :=
  ⟨⟨rfl, rfl, rfl⟩, rfl, by decide, rfl, rfl⟩

end Memory

end EntityStore
