import EntityStore.Proofs.Memory.Select
import EntityStore.Proofs.Memory.Shape
import EntityStore.Proofs.Repository.KeyOperation

/-!
# Finding by key

Rows carry the columns of their table, so looking for a key fails on no row, and finds the one row
that has it. This needs the key column to be spelled as it is named: the column of a filter is an
identifier, and rows are asked for its name.
-/

namespace EntityStore

namespace Memory

/-! ## Rows of a table -/

/-- As in `KeyedTables`, and the rows of the entity's table carry its columns. -/
structure WholeTables (info : EntityInfo) (key : Field) (ts : Tables) : Prop
    extends KeyedTables info key ts where
  whole : ∀ t, ts.get? info.table = some t → t.Whole

section

variable {info : EntityInfo} {key : Field} {ts ts' : Tables}

theorem wholeTables_empty (info : EntityInfo) (key : Field) : WholeTables info key .empty where
  toKeyedTables := keyedTables_empty info key
  whole := nofun

/-- A table that is put under a name has to be whole if it is the entity's. -/
theorem whole_set {name : String} {t' : Table}
    (before : ∀ t, ts.get? info.table = some t → t.Whole)
    (changed : name = info.table → t'.Whole) :
    ∀ t, (ts.set name t').get? info.table = some t → t.Whole := by
  intro t found
  rw [Tables.get?_set] at found
  split at found
  · rename_i own
    cases found
    exact changed own
  · exact before t found

/-- Whatever is asked for, the rows keep the columns of the table. -/
theorem WholeTables.answer (h : WholeTables info key ts) (fielded : info.fields ≠ []) {β : Type}
    {r : Request β} {x : β} (answered : ts.answer r = .ok (x, ts')) :
    ∀ t, ts'.get? info.table = some t → t.Whole := by
  have change := Tables.change_answer answered
  have whole {name : String} {t : Table} (found : ts.get? name = some t)
      (own : name = info.table) : t.Whole ∧ t.fields ≠ [] := by
    subst own
    exact ⟨h.whole t found, by rwa [h.fields t found]⟩
  cases change with
  | read => exact h.whole
  | inserted found done =>
    refine whole_set h.whole fun own => ?_
    exact (whole found own).1.insert (fun none => absurd none (whole found own).2) done
  | updated found done =>
    refine whole_set h.whole fun own => ?_
    exact (whole found own).1.update (fun none => absurd none (whole found own).2) done
  | deleted found done => exact whole_set h.whole fun own => (whole found own).1.delete done
  | created absent | laid absent => exact whole_set h.whole fun _ _ member => nomatch member
  | dropped =>
    intro t found
    rw [Tables.get?_erase] at found
    split at found
    · cases found
    · exact h.whole t found
  | extended found => exact whole_set h.whole fun own => (whole found own).1.addFields _
  | indexed found done =>
    obtain ⟨rfl, -⟩ := Table.addIndex_eq_ok done
    exact whole_set h.whole fun own => (whole found own).1
  | unindexed found => exact whole_set h.whole fun own => (whole found own).1

theorem Store.Written.whole {α : Type} [Entity α] {s : Store} (h : Written α key s)
    (required : (Entity.info α).requirePrimaryKey = .ok key)
    (typed : ∀ e : α, key.type.Admits ((Entity.toRecord e).getD key.column)) :
    s.Holds (WholeTables (Entity.info α) key) := by
  have fielded : (Entity.info α).fields ≠ [] := by
    intro none
    unfold EntityInfo.requirePrimaryKey EntityInfo.primaryKey? at required
    rw [none] at required
    cases required
  refine h.induction ?_ (holds_empty (wholeTables_empty _ key))
  intro s st allowed holds
  refine holds.next (wholeTables_empty _ key) ?_
  intro β scope r ts ts' x asked before answered
  subst asked
  exact ⟨before.toKeyedTables.answer required typed allowed answered, before.answer fielded answered⟩

end

/-- In a scope, the table of a name has the row. -/
def Store.HasRow (s : Store) (scope : Scope) (table : String) (row : Record) : Prop :=
  ∃ ts t, s.tablesOf scope = .ok ts ∧ ts.get? table = some t ∧ row ∈ t.rows

theorem Store.hasRow_of_set {s : Store} {scope : Scope} {ts : Tables} {table : String} {t : Table}
    {row : Record} (tables : s.tablesOf scope = .ok (ts.set table t)) (member : row ∈ t.rows) :
    s.HasRow scope table row :=
  ⟨_, t, tables, (ts.get?_set table table t).trans (if_pos rfl), member⟩

/-! ## Finding a row -/

section

open Repository

variable {column : String} {v : Value} {rows : List Record}

/-- Rows that carry the key column are judged by what they hold there. -/
theorem matching_of_get? (carried : ∀ row ∈ rows, (row.get? column).isSome = true) :
    matching [.compare (.column ⟨[.plain column]⟩) .eq v] rows =
      .ok (rows.filter (hits column v)) := by
  rw [matching_compare]
  refine (if_pos (List.all_eq_true.mpr carried)).trans ?_
  rfl

/-- The query for one row by filters. -/
theorem runQuery_first {filters : List Predicate} {found : List Record}
    (matched : matching filters rows = .ok found) :
    runQuery (Compiled.filtered filters).first rows = .ok (found.take 1) :=
  runQuery_of_steps matched (sort_nil found) rfl

end

section

variable {α : Type} [Entity α] {key : Field} {ts : Tables} {t : Table} {row : Record} {v : Value}

theorem filter_of_pairwise {p : Record → Bool} {rows : List Record}
    (apart : rows.Pairwise fun a b => ¬(p a = true ∧ p b = true)) (member : row ∈ rows)
    (hit : p row = true) : rows.filter p = [row] := by
  obtain ⟨front, back, rfl⟩ := List.append_of_mem member
  obtain ⟨-, behind, before⟩ := List.pairwise_append.mp apart
  have inFront : front.filter p = [] := by
    rw [List.filter_eq_nil_iff]
    exact fun other place same => before other place row List.mem_cons_self ⟨same, hit⟩
  have inBack : back.filter p = [] := by
    rw [List.filter_eq_nil_iff]
    exact fun other place same => (List.pairwise_cons.mp behind).1 other place ⟨hit, same⟩
  rw [List.filter_append, List.filter_cons_of_pos hit, inFront, inBack]
  rfl

/-- In a table with a key of one column a row is found by its key. -/
theorem select_key (h : WholeTables (Entity.info α) key ts)
    (found : ts.get? (Entity.info α).table = some t)
    (single : keyColumns (Entity.info α).fields = [key.column]) (member : row ∈ t.rows)
    (unambiguous : v.Unambiguous) (hit : Repository.hits key.column v row = true) :
    ts.select (Entity.info α).table
      (Compiled.filtered [.compare (.column ⟨[.plain key.column]⟩) .eq v]).first = .ok [row] := by
  have named : t.hasColumn key.column = true := by
    have listed : key.column ∈ keyColumns (Entity.info α).fields := by simp [single]
    obtain ⟨f, inKey, same⟩ := List.mem_map.mp listed
    rw [hasColumn_iff, h.fields t found]
    exact ⟨f, (List.mem_filter.mp inKey).1, same⟩
  have carried : ∀ row ∈ t.rows, (row.get? key.column).isSome = true := by
    intro row member
    rw [h.whole t found row member, named]
  have only : t.rows.filter (Repository.hits key.column v) = [row] := by
    refine filter_of_pairwise ?_ member hit
    refine (h.pairwise found single unambiguous).imp ?_
    rintro a b apart ⟨left, right⟩
    exact apart ⟨eq_of_beq left, eq_of_beq right⟩
  rw [Tables.select, Tables.get_eq_ok.mpr found]
  change runQuery _ t.rows = _
  rw [runQuery_first (matching_of_get? carried), only]
  rfl

end

/-- The first row that a query selects is fetched. -/
theorem run_fetchOne_of_select {s : Session Store} {scope : Scope} {ts : Tables} {table : String}
    {q : Compiled} {row : Record} {rows : List Record} (tables : s.store.tablesOf scope = .ok ts)
    (selected : ts.select table q.first = .ok (row :: rows)) :
    ∃ s', (Action.fetchOne scope table q).run.run s = (.ok row, s') := by
  have performed : s.store.perform scope (.select table q.first) =
      (.ok (row :: rows), s.store) := by
    rw [Store.perform_select, tables]
    exact congrArg (·, s.store) selected
  have answered := congrArg (fun reply => (reply.1 >>= firstRow).mapError StoreError.classify)
    performed
  exact ⟨_, (Action.run_fetchOne ..).trans (congrArg (·, _) answered)⟩

/-- What is found by a key is the entity of the first row that the query selects. -/
theorem run_find {α : Type} [Entity α] (repo : Repository α) {key : Value} {filters : List Predicate}
    {s : Session Store} {ts : Tables} {row : Record} {rows : List Record} {e : α}
    (filtered : Repository.keyFilter (Entity.info α) key = .ok filters)
    (tables : s.store.tablesOf repo.scope = .ok ts)
    (selected : ts.select (Entity.info α).table (Compiled.filtered filters).first = .ok (row :: rows))
    (read : Entity.fromRecord row = .ok e) :
    ((repo.find key).run.run s).1 = .ok (Entity.hooks.afterFind e).2 := by
  let noted := s.note [.log (Repository.line (Entity.info α).name "find_by_id" "select" [])]
  have filtering : (Attempt.ofExcept (Repository.keyFilter (Entity.info α) key) :
      Action Store _).run.run s = (.ok filters, s) := by rw [run_ofExcept, filtered]
  have logging : (Repository.logOp α "find_by_id" "select" [] : Action Store Unit).run.run s =
      (.ok (), noted) := run_log _ s
  obtain ⟨s', fetching⟩ := run_fetchOne_of_select (s := noted) tables selected
  have decoding : (Repository.decodeRow α row : Action Store α).run.run s' = (.ok e, s') := by
    rw [Repository.decodeRow, run_ofExcept, read]
    rfl
  obtain ⟨_, hooked⟩ := Repository.run_found repo e s'
  rw [Repository.find, run_bind_ok filtering, run_bind_ok logging, run_bind_ok fetching,
    run_bind_ok decoding, hooked]

/-! ## Keys that are spelled otherwise -/

theorem mem_of_matching {filters : List Predicate} {rows found : List Record} {row : Record}
    (matched : matching filters rows = .ok found) (member : row ∈ found) :
    row ∈ rows ∧ satisfiesAll row filters = .ok true := by
  obtain ⟨ms, judged, rfl⟩ := exists_of_map matched
  obtain ⟨rfl, each⟩ := marked_eq_ok judged
  obtain ⟨⟨row, hit⟩, inMarked, rfl⟩ := List.mem_map.mp member
  obtain ⟨inMarks, yes⟩ := List.mem_filter.mp inMarked
  cases hit with
  | true => exact ⟨List.mem_map_of_mem inMarks, each _ inMarks⟩
  | false => cases yes

/-- A row is fetched only if one satisfies the filters. -/
theorem exists_of_fetchOne {s s' : Session Store} {scope : Scope} {table : String}
    {filters : List Predicate} {row : Record}
    (fetched : (Action.fetchOne scope table (.filtered filters)).run.run s = (.ok row, s')) :
    ∃ ts t row, s.store.tablesOf scope = .ok ts ∧ ts.get? table = some t ∧ row ∈ t.rows ∧
      satisfiesAll row filters = .ok true := by
  rw [Action.fetchOne, run_classified] at fetched
  have fetched := ok_of_mapError (Prod.mk.inj fetched).1
  obtain ⟨rows, mid, asked, first⟩ := exists_of_run_bind (Prod.ext fetched rfl)
  have asked := (run_reply ..).symm.trans asked
  have result : (s.store.answer scope (.select table (Compiled.filtered filters).first)).1 =
      .ok rows := (Prod.mk.inj asked).1
  obtain ⟨ts, _, tables, answered, -⟩ := Store.answer_eq_ok (Prod.ext result rfl)
  obtain ⟨_, selected, same⟩ := exists_of_map answered
  cases same
  obtain ⟨_, -, selected⟩ := exists_of_bind selected
  obtain ⟨t, found, selected⟩ := exists_of_bind selected
  obtain ⟨hit, matched, -⟩ := exists_of_bind selected
  have matched : matching filters t.rows = .ok hit := matched
  rw [runQuery_first matched] at selected
  obtain rfl : hit.take 1 = rows := Except.ok.inj selected
  cases hit with
  | nil => cases first
  | cons row rest =>
    obtain ⟨inRows, satisfied⟩ := mem_of_matching matched List.mem_cons_self
    exact ⟨ts, t, row, tables, Tables.get_eq_ok.mp found, inRows, satisfied⟩

/-- Nothing is found by a key whose column is spelled otherwise than it is named, unless that
spelling names another column. -/
theorem not_found_of_spelling {α : Type} [Entity α] (repo : Repository α) {key : Field}
    {column : Ident} {s : Session Store} (written : Store.Written α key s.store)
    (required : (Entity.info α).requirePrimaryKey = .ok key)
    (typed : ∀ e : α, key.type.Admits ((Entity.toRecord e).getD key.column))
    (spelled : Query.ident key.column = .ok column)
    (other : ∀ f ∈ (Entity.info α).fields, f.column ≠ column.name) (v : Value) (e : α) :
    ((repo.find v).run.run s).1 ≠ .ok e := by
  intro found
  obtain ⟨filters, made, ran⟩ := exists_of_run_ofExcept (Prod.ext found rfl)
  obtain ⟨_, _, logged, ran⟩ := exists_of_run_bind ran
  cases logged
  obtain ⟨row, _, fetched, -⟩ := exists_of_run_bind ran
  obtain ⟨ts, t, row, own, there, member, satisfied⟩ := exists_of_fetchOne fetched
  rw [Repository.keyFilter_of_ident required spelled] at made
  split at made
  · cases made
  · cases made
    -- the row carries the column that the filter names, which is none of the table
    obtain ⟨_, compared, -⟩ := exists_of_bind satisfied
    obtain ⟨w, read, -⟩ := exists_of_map compared
    have tables := (written.whole required typed).tablesOf own
    have carried := tables.whole t there row member column.name
    rw [get?_of_columnValue read] at carried
    obtain ⟨f, inFields, named⟩ := hasColumn_iff.mp carried.symm
    rw [tables.fields t there] at inFields
    exact other f inFields named

end Memory

end EntityStore
