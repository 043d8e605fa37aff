import EntityStore.Proofs.Memory.Select
import EntityStore.Proofs.Memory.Step

/-!
# Queries of aggregates

Each term of such a query comes to a value over the rows that the query is about, the same value
as in a query of its own. The one record of the answer holds the values under the names of their
functions. So a term is lost where a later one has its function.
-/

namespace EntityStore

/-- The function of an aggregate. -/
def ColumnExpr.function? : ColumnExpr → Option String
  | .aggregate func _ _ => some func
  | .term _ => none

namespace Compiled

/-- The query for the rows that another one is about, as they are stored. -/
def whole (q : Compiled) : Compiled :=
  { q with projection := [], distinct := false, limit := none, offset := none }

/-- The query for one term over the rows that another query is about. -/
def alone (q : Compiled) (c : ColumnExpr) : Compiled := { q.whole with projection := [c] }

end Compiled

/-! ## Names that are set more than once -/

namespace Record

open Memory (dedup represents_dedup)

variable {pairs : List (String × Value)}

theorem columns_ofPairs_eq_dedup (pairs : List (String × Value)) :
    (ofPairs pairs).columns = dedup (pairs.map (·.1)) := by
  induction pairs using List.reverseRecOn with
  | nil => rfl
  | append_singleton pairs p ih =>
    have known : (ofPairs pairs).contains p.1 = (dedup (pairs.map (·.1))).contains p.1 := by
      rw [← ih, Bool.eq_iff_iff, contains_eq_isSome, ← mem_columns, List.contains_iff_mem]
    have last : dedup ((pairs ++ [p]).map (·.1)) =
        if (dedup (pairs.map (·.1))).contains p.1 then dedup (pairs.map (·.1))
        else dedup (pairs.map (·.1)) ++ [p.1] := by
      rw [List.map_append, dedup, List.foldl_append]
      rfl
    rw [ofPairs, setAll_concat, columns_set, last, ← known, ← ih]
    rfl

/-- A record has as many columns as were set if and only if no name was set twice. -/
theorem size_ofPairs : (ofPairs pairs).size = pairs.length ↔ (pairs.map (·.1)).Nodup := by
  constructor
  · intro full
    have kept : (ofPairs pairs).columns.Sublist (pairs.map (·.1)) := by
      rw [columns_ofPairs_eq_dedup]
      exact (represents_dedup _).sublist
    have all : (ofPairs pairs).columns = pairs.map (·.1) :=
      kept.eq_of_length (by rw [columns, List.length_map, List.length_map]; exact full)
    rw [← all]
    exact nodup_columns_ofPairs pairs
  · intro distinct
    rw [size, entries_ofPairs distinct]

/-- The last value that is set under a name is there. -/
theorem get?_ofPairs_last {front back : List (String × Value)} {p : String × Value}
    (last : p.1 ∉ back.map (·.1)) : (ofPairs (front ++ p :: back)).get? p.1 = some p.2 := by
  rw [get?_ofPairs_append, get?_ofPairs_cons, get?_ofPairs_of_notMem last, if_pos rfl]
  rfl

end Record

namespace Memory

/-! ## Terms -/

section

variable {rows : List Record} {c : ColumnExpr} {r : String × Value}

/-- The functions of aggregates that the store knows. -/
def functions : List String := ["COUNT", "SUM", "AVG", "MIN", "MAX"]

theorem toLower_injOn : ∀ f ∈ functions, ∀ g ∈ functions, f.toLower = g.toLower → f = g := by
  decide +kernel

theorem mem_functions {func : String} {vs : List Value} {v : Value}
    (valued : aggregateValue func vs = .ok v) : func ∈ functions := by
  unfold aggregateValue at valued
  split at valued
  case h_6 => cases valued
  all_goals simp [functions]

theorem aggregateTerm_eq_ok (valued : aggregateTerm rows c = .ok r) :
    ∃ func ∈ functions, c.function? = some func ∧ r.1 = func.toLower := by
  cases c with
  | term => cases valued
  | aggregate func distinct arg =>
    obtain ⟨vs, -, valued⟩ := exists_of_bind valued
    obtain ⟨v, known, valued⟩ := exists_of_bind valued
    cases valued
    exact ⟨func, mem_functions known, rfl, rfl⟩

/-- Terms have results of different names if and only if they have different functions. -/
theorem nodup_functions_iff {projection : List ColumnExpr} {results : List (String × Value)}
    (each : List.Forall₂ (fun c r => aggregateTerm rows c = .ok r) projection results) :
    (results.map (·.1)).Nodup ↔ (projection.map (·.function?)).Nodup := by
  obtain ⟨funcs, named, lowered, known⟩ : ∃ funcs : List String,
      projection.map (·.function?) = funcs.map some ∧
        results.map (·.1) = funcs.map String.toLower ∧ ∀ f ∈ funcs, f ∈ functions := by
    induction each with
    | nil => exact ⟨[], rfl, rfl, nofun⟩
    | cons here _ ih =>
      obtain ⟨funcs, named, lowered, known⟩ := ih
      obtain ⟨func, own, function, name⟩ := aggregateTerm_eq_ok here
      refine ⟨func :: funcs, by simp [named, function], by simp [lowered, name], ?_⟩
      exact List.forall_mem_cons.mpr ⟨own, known⟩
  rw [named, lowered, List.nodup_map_iff fun _ _ => Option.some.inj]
  constructor
  · exact List.Nodup.of_map String.toLower
  · intro distinct
    exact distinct.map_on fun f inF g inG => toLower_injOn f (known f inF) g (known g inG)

end

/-! ## Answers -/

section

variable {q : Compiled} {rows : List Record}

/-- A query is about rows that do not depend on its projection, distinctness and page. -/
theorem runQuery_eq_bind (q : Compiled) (rows : List Record) :
    runQuery q rows = runQuery q.whole rows >>= fun hit =>
      (project q.projection hit).map
        fun shown => page q.offset q.limit (if q.distinct then dedup shown else shown) := by
  have stored (sorted : List Record) : project q.whole.projection sorted = .ok sorted := rfl
  cases matched : matching q.filters rows with
  | error e =>
    have early : matching q.whole.filters rows = .error e := matched
    rw [runQuery, runQuery, matched, early]
    rfl
  | ok hit =>
    have same : matching q.whole.filters rows = .ok hit := matched
    cases done : sort hit q.orders with
    | error e =>
      have early : sort hit q.whole.orders = .error e := done
      rw [runQuery, runQuery, matched, same]
      change (sort hit q.orders >>= _) = (sort hit q.whole.orders >>= _) >>= _
      rw [done, early]
      rfl
    | ok sorted =>
      rw [runQuery_of_steps same done (stored sorted), runQuery, matched]
      change (sort hit q.orders >>= _) = Except.map _ (project q.projection sorted)
      rw [done]
      change (project q.projection sorted >>= _) = _
      cases project q.projection sorted <;> rfl

theorem runQuery_of_aggregates (nonempty : q.projection ≠ [])
    (aggregates : ∀ c ∈ q.projection, c.isAggregate = true) :
    runQuery q rows = runQuery q.whole rows >>= fun hit =>
      (q.projection.mapM (aggregateTerm hit)).map
        fun results => page q.offset q.limit [.ofPairs results] := by
  have any : q.projection.any (·.isAggregate) = true := by
    obtain ⟨c, member⟩ := List.exists_mem_of_ne_nil q.projection nonempty
    exact List.any_eq_true.mpr ⟨c, member, aggregates c member⟩
  have single (record : Record) : (if q.distinct then dedup [record] else [record]) = [record] :=
    ite_self [record]
  rw [runQuery_eq_bind]
  congr 1
  funext hit
  rw [project, if_neg (by simpa using nonempty), if_pos any, aggregate]
  cases q.projection.mapM (aggregateTerm hit) with
  | error e => rfl
  | ok results => exact congrArg (fun shown => Except.ok (page q.offset q.limit shown)) (single _)

theorem runQuery_alone {c : ColumnExpr} (aggregate : c.isAggregate = true) :
    runQuery (q.alone c) rows =
      runQuery q.whole rows >>= fun hit => (aggregateTerm hit c).map fun r => [⟨[r]⟩] := by
  rw [runQuery_of_aggregates (q := q.alone c) (List.cons_ne_nil c [])
    (fun d member => List.mem_singleton.mp member ▸ aggregate)]
  change (runQuery q.whole rows >>= fun hit => Except.map _ ([c].mapM (aggregateTerm hit))) = _
  cases runQuery q.whole rows with
  | error e => rfl
  | ok hit =>
    change Except.map _ ([c].mapM (aggregateTerm hit)) = (aggregateTerm hit c).map _
    rw [List.mapM_cons]
    cases aggregateTerm hit c <;> rfl

end

section

variable {s : Store} {scope : Scope} {table : String} {q q' : Compiled}

/-- What the store answers to a selection. -/
def Store.selected (s : Store) (scope : Scope) (table : String) (q : Compiled) :
    Except StoreError (List Record) :=
  (s.perform scope (.select table q)).1

/-- Queries that are alike on the rows of every table are alike in the store. -/
theorem Store.selected_eq_bind {f : List Record → Except StoreError (List Record)}
    (same : checkSupported q' = checkSupported q)
    (ran : ∀ rows, runQuery q' rows = runQuery q rows >>= f) :
    s.selected scope table q' = s.selected scope table q >>= f := by
  rw [selected, selected, perform_select, perform_select]
  cases s.tablesOf scope with
  | error e => rfl
  | ok ts =>
    change ts.select table q' = ts.select table q >>= f
    rw [Tables.select, Tables.select, same]
    cases checkSupported q with
    | error e => rfl
    | ok =>
      change (ts.get table >>= fun t => runQuery q' t.rows) =
        (ts.get table >>= fun t => runQuery q t.rows) >>= f
      cases ts.get table with
      | error e => rfl
      | ok t => exact ran t.rows

/-- A query is about the rows of its table that satisfy the filters. -/
theorem Store.perm_of_whole {hit : List Record}
    (about : s.selected scope table q.whole = .ok hit) :
    ∃ ts t, s.tablesOf scope = .ok ts ∧ ts.get? table = some t ∧
      hit.Perm (t.rows.filter (passes q.filters)) := by
  rw [selected, perform_select] at about
  obtain ⟨ts, tables, about⟩ := exists_of_bind about
  obtain ⟨_, -, about⟩ := exists_of_bind about
  obtain ⟨t, found, about⟩ := exists_of_bind about
  obtain ⟨matched, met, about⟩ := exists_of_bind about
  obtain ⟨sorted, done, about⟩ := exists_of_bind about
  obtain ⟨-, rfl⟩ := matching_eq_ok met
  obtain rfl := sort_eq_ok done
  obtain rfl := Except.ok.inj about
  exact ⟨ts, t, tables, Tables.get_eq_ok.mp found, ordered_perm q.orders _⟩

theorem Store.selected_of_aggregates (nonempty : q.projection ≠ [])
    (aggregates : ∀ c ∈ q.projection, c.isAggregate = true) :
    s.selected scope table q = s.selected scope table q.whole >>= fun hit =>
      (q.projection.mapM (aggregateTerm hit)).map
        fun results => page q.offset q.limit [.ofPairs results] :=
  selected_eq_bind rfl fun _ => runQuery_of_aggregates nonempty aggregates

theorem Store.selected_alone {c : ColumnExpr} (aggregate : c.isAggregate = true) :
    s.selected scope table (q.alone c) = s.selected scope table q.whole >>= fun hit =>
      (aggregateTerm hit c).map fun r => [⟨[r]⟩] :=
  selected_eq_bind rfl fun _ => runQuery_alone aggregate

end

/-- A query of aggregates fails as the first of its terms that fails on its own. -/
theorem Store.selected_eq_error_iff {s : Store} {scope : Scope} {table : String} {q : Compiled}
    (nonempty : q.projection ≠ []) (aggregates : ∀ c ∈ q.projection, c.isAggregate = true)
    (e : StoreError) :
    s.selected scope table q = .error e ↔
      ∃ before c after, q.projection = before ++ c :: after ∧
        (∀ b ∈ before, ∃ answer, s.selected scope table (q.alone b) = .ok answer) ∧
        s.selected scope table (q.alone c) = .error e := by
  rw [selected_of_aggregates nonempty aggregates]
  have alone (c : ColumnExpr) (member : c ∈ q.projection) :
      s.selected scope table (q.alone c) = s.selected scope table q.whole >>= fun hit =>
        (aggregateTerm hit c).map fun r => [⟨[r]⟩] := selected_alone (aggregates c member)
  cases about : s.selected scope table q.whole with
  | error e' =>
    have fails (c : ColumnExpr) (member : c ∈ q.projection) :
        s.selected scope table (q.alone c) = .error e' := by
      rw [alone c member, about]
      rfl
    constructor
    · rintro ⟨⟩
      obtain ⟨c, cs, terms⟩ := List.exists_cons_of_ne_nil nonempty
      exact ⟨[], c, cs, terms, nofun, fails c (terms ▸ List.mem_cons_self)⟩
    · rintro ⟨before, c, after, terms, -, failed⟩
      rwa [fails c (terms ▸ List.mem_append_right before List.mem_cons_self)] at failed
  | ok hit =>
    have own (c : ColumnExpr) (member : c ∈ q.projection) :
        s.selected scope table (q.alone c) = (aggregateTerm hit c).map fun r => [⟨[r]⟩] := by
      rw [alone c member, about]
      rfl
    change (q.projection.mapM (aggregateTerm hit)).map _ = .error e ↔ _
    rw [map_eq_error, mapM_eq_error]
    refine exists_congr fun before => exists_congr fun c => exists_congr fun after =>
      and_congr_right fun terms => ?_
    have inside : ∀ b ∈ before, b ∈ q.projection := fun b member =>
      terms ▸ List.mem_append_left _ member
    rw [own c (terms ▸ List.mem_append_right before List.mem_cons_self), map_eq_error]
    refine and_congr_left' (forall₂_congr fun b member => ?_)
    rw [own b (inside b member)]
    cases aggregateTerm hit b with
    | error e => exact iff_of_false nofun nofun
    | ok r => exact iff_of_true ⟨r, rfl⟩ ⟨_, rfl⟩

/-- The record that holds the results of terms. Its columns are their names, in the order of their
first terms, and a column holds the last result of its name. So there is a column for every term,
with its result, if and only if no two terms have one function. -/
structure Tallied (terms : List ColumnExpr) (results : List (String × Value))
    (record : Record) : Prop where
  columns : record.columns = dedup (results.map (·.1))
  last : ∀ front r back, results = front ++ r :: back → r.1 ∉ back.map (·.1) →
    record.get? r.1 = some r.2
  size : record.size = terms.length ↔ (terms.map (·.function?)).Nodup
  entries : (terms.map (·.function?)).Nodup → record.entries = results

theorem tallied_ofPairs {rows : List Record} {terms : List ColumnExpr}
    {results : List (String × Value)}
    (each : List.Forall₂ (fun c r => aggregateTerm rows c = .ok r) terms results) :
    Tallied terms results (.ofPairs results) := by
  have names := nodup_functions_iff each
  constructor
  case columns => exact Record.columns_ofPairs_eq_dedup results
  case last =>
    rintro front r back rfl last
    exact Record.get?_ofPairs_last last
  case size =>
    rw [← names, each.length_eq]
    exact Record.size_ofPairs
  case entries =>
    intro apart
    exact Record.entries_ofPairs (names.mpr apart)

/-- Queries of aggregates, in whatever store, scope and state, with whatever filters. They fail as
the first of their terms that fails on its own. Otherwise the answer is the page of one record,
made from the results that the terms have on their own, each under the name of its function in
lower case: their values over the rows of the table that satisfy the filters. -/
theorem aggregates_answered (s : Store) (scope : Scope) (table : String) {q : Compiled}
    (nonempty : q.projection ≠ []) (aggregates : ∀ c ∈ q.projection, c.isAggregate = true) :
    (∀ e, s.selected scope table q = .error e ↔
      ∃ before c after, q.projection = before ++ c :: after ∧
        (∀ b ∈ before, ∃ answer, s.selected scope table (q.alone b) = .ok answer) ∧
        s.selected scope table (q.alone c) = .error e) ∧
    ∀ answer, s.selected scope table q = .ok answer →
      ∃ ts t hit results record, s.tablesOf scope = .ok ts ∧ ts.get? table = some t ∧
        s.selected scope table q.whole = .ok hit ∧
        hit.Perm (t.rows.filter (passes q.filters)) ∧
        List.Forall₂ (fun c r => aggregateTerm hit c = .ok r ∧
          c.function?.map String.toLower = r.1 ∧
          s.selected scope table (q.alone c) = .ok [⟨[r]⟩]) q.projection results ∧
        answer = page q.offset q.limit [record] ∧ Tallied q.projection results record := by
  refine ⟨Store.selected_eq_error_iff nonempty aggregates, fun answer answered => ?_⟩
  rw [Store.selected_of_aggregates nonempty aggregates] at answered
  obtain ⟨hit, about, answered⟩ := exists_of_bind answered
  obtain ⟨results, valued, rfl⟩ := exists_of_map answered
  have each := forall₂_of_mapM valued
  obtain ⟨ts, t, tables, found, matching⟩ := Store.perm_of_whole about
  refine ⟨ts, t, hit, results, .ofPairs results, tables, found, about, matching, ?_, rfl,
    tallied_ofPairs each⟩
  refine List.forall₂_iff_get.mpr ⟨each.length_eq, fun i inTerms inResults => ?_⟩
  have value := (List.forall₂_iff_get.mp each).2 i inTerms inResults
  obtain ⟨func, -, function, lowered⟩ := aggregateTerm_eq_ok value
  refine ⟨value, by rw [function, lowered]; rfl, ?_⟩
  rw [Store.selected_alone (aggregates _ (List.get_mem q.projection ⟨i, inTerms⟩)), about]
  exact congrArg (Except.map _) value

/-- The points (1, 10) and (2, 20). -/
def points : List Record :=
  [⟨[("x", .int 1), ("y", .int 10)]⟩, ⟨[("x", .int 2), ("y", .int 20)]⟩]

/-- A table of the points. -/
def plotted : Store :=
  Step.after ∅ [.ask .direct (.createTable
      ⟨"points", [Field.ofType "x" .bigInt, Field.ofType "y" .bigInt]⟩),
    .ask .direct (.insert "points" points [])]

/-- The query for aggregates of all points. -/
def tally (terms : List ColumnExpr) : Compiled := { Compiled.filtered [] with projection := terms }

/-- The sum of a coordinate. -/
def coordinateSum (coordinate : String) : ColumnExpr :=
  .aggregate "SUM" false (.column ⟨[.plain coordinate]⟩)

theorem selected_tally {terms : List ColumnExpr} {results : List (String × Value)}
    (nonempty : terms ≠ []) (aggregates : ∀ c ∈ terms, c.isAggregate = true)
    (each : List.Forall₂ (fun c r => aggregateTerm points c = .ok r) terms results) :
    plotted.selected .direct "points" (tally terms) = .ok [.ofPairs results] := by
  rw [Store.selected_of_aggregates (q := tally terms) nonempty aggregates]
  change (terms.mapM (aggregateTerm points)).map _ = _
  rw [mapM_eq_ok.mpr each]
  rfl

/-- The number of the points and the sum of a coordinate are both answered. -/
theorem points_tallied :
    let q := tally [.aggregate "COUNT" false (.star none), coordinateSum "y"]
    q.projection ≠ [] ∧ (∀ c ∈ q.projection, c.isAggregate = true) ∧
      ∃ results record, plotted.selected .direct "points" q = .ok [record] ∧
        Tallied q.projection results record ∧
        record.entries = [("count", .int 2), ("sum", .int 30)] := by
  intro q
  have nonempty : q.projection ≠ [] := List.cons_ne_nil _ _
  have aggregates : ∀ c ∈ q.projection, c.isAggregate = true := by decide
  have counted : "COUNT".toLower = "count" := by decide +kernel
  have summed : "SUM".toLower = "sum" := by decide +kernel
  have accepted : plotted.selected .direct "points" q =
      .ok [.ofPairs [("count", .int 2), ("sum", .int 30)]] := by
    rw [← counted, ← summed]
    exact selected_tally nonempty aggregates (.cons rfl (.cons rfl .nil))
  obtain ⟨_, _, _, results, record, -, -, -, -, -, answer, tallied⟩ :=
    (aggregates_answered plotted .direct "points" nonempty aggregates).2 _ accepted
  obtain rfl : .ofPairs [("count", .int 2), ("sum", .int 30)] = record :=
    List.head_eq_of_cons_eq answer
  exact ⟨nonempty, aggregates, results, _, accepted, tallied, rfl⟩

/-- Of the sums of two coordinates the first is lost. -/
theorem first_sum_lost :
    plotted.selected .direct "points" (tally [coordinateSum "x"]) = .ok [⟨[("sum", .int 3)]⟩] ∧
      plotted.selected .direct "points" (tally [coordinateSum "y"]) = .ok [⟨[("sum", .int 30)]⟩] ∧
      plotted.selected .direct "points" (tally [coordinateSum "x", coordinateSum "y"]) =
        .ok [⟨[("sum", .int 30)]⟩] := by
  have summed : "SUM".toLower = "sum" := by decide +kernel
  have x : aggregateTerm points (coordinateSum "x") = .ok ("sum", .int 3) := by
    rw [← summed]
    rfl
  have y : aggregateTerm points (coordinateSum "y") = .ok ("sum", .int 30) := by
    rw [← summed]
    rfl
  exact ⟨selected_tally (List.cons_ne_nil _ _) (by decide) (.cons x .nil),
    selected_tally (List.cons_ne_nil _ _) (by decide) (.cons y .nil),
    selected_tally (List.cons_ne_nil _ _) (by decide) (.cons x (.cons y .nil))⟩

end Memory

end EntityStore
