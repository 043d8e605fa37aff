import EntityStore.Proofs.Outcome
import EntityStore.Proofs.Sql.Written
import Mathlib.Data.List.Nodup
import Mathlib.Data.List.Perm.Basic

/-!
# Values are bound, never written

The text of a statement is determined by its shape: replacing every value by null (and the
items of a membership test by as many nulls) changes no character of it, in either style of
placeholders. The parameters are the values of the predicates and rows in the order of the
text, one for each placeholder.
-/

namespace EntityStore

open Sql (Item ofItems separate)

namespace Sql

/-- A statement that binds the given values, each in the place that the items say. -/
structure Binds (q : Sql) (is : List Item) (vs : List Value) : Prop where
  params : q.params = vs
  placeholders : q.placeholders = vs.length
  inPlace : ∀ form : Value → String, q.spell form = Item.spell form is

theorem binds_ofItems {is : List Item} {vs : List Value} (h : Item.values is = vs) :
    (ofItems is).Binds is vs :=
  ⟨h ▸ params_ofItems is, h ▸ placeholders_ofItems is, fun form => spell_ofItems form is⟩

/-- Statements with the same text, whatever they bind. -/
def SameText (q r : Sql) : Prop := ∀ style, q.render style = r.render style

theorem sameText_of_blank {is js : List Item} (h : is.map Item.blank = js.map Item.blank) :
    (ofItems is).SameText (ofItems js) := by
  intro style
  rw [render_ofItems, render_ofItems, ← Item.print_blank, h, Item.print_blank]

theorem blank_separate {α β : Type} {f : α → List Item} {g : β → List Item} {t : α → β}
    (h : ∀ x, g (t x) = (f x).map Item.blank) (separator : String) (xs : List α) :
    separate separator g (xs.map t) = (separate separator f xs).map Item.blank := by
  cases xs with
  | nil => rfl
  | cons x xs =>
    simp [separate, h, List.flatMap_map, List.map_flatMap, Item.blank]

end Sql

/-! ## Predicates -/

namespace Predicate

/-- Nulls in the place of the values that are compared with, as many as there are. -/
def blankValue (op : Operator) (value : Value) : Value :=
  if op.takesList then .list ((items value).map fun _ => .null) else .null

mutual

/-- The predicate with null for every value. -/
def blank : Predicate → Predicate
  | .compare column op value => .compare column op (blankValue op value)
  | .all ps => .all (blankAll ps)
  | .any ps => .any (blankAll ps)

def blankAll : List Predicate → List Predicate
  | [] => []
  | p :: ps => blank p :: blankAll ps

end

/-- The values that a comparison binds. -/
def boundValues (op : Operator) (value : Value) : List Value :=
  if op.takesList then items value else if op.takesValue then [value] else []

mutual

/-- The values that a predicate binds, from left to right. -/
def bound : Predicate → List Value
  | .compare _ op value => boundValues op value
  | .all ps | .any ps => boundAll ps

def boundAll : List Predicate → List Value
  | [] => []
  | p :: ps => bound p ++ boundAll ps

end

theorem values_compareItems (column : ColumnExpr) (op : Operator) (value : Value) :
    Item.values (compareItems column op value) = boundValues op value := by
  unfold compareItems boundValues
  split
  · cases items value with
    | nil => rfl
    | cons v vs => simp [Sql.values_separate]
  · cases op.takesValue <;> rfl

mutual

theorem values_written : ∀ p, Item.values (written p) = bound p
  | .compare column op value => values_compareItems column op value
  | .all [] => rfl
  | .any [] => rfl
  | .all (p :: ps) | .any (p :: ps) => by
    simp [written, bound, boundAll, values_written p, values_writtenRest _ ps]

theorem values_writtenRest (separator : String) :
    ∀ ps, Item.values (writtenRest separator ps) = boundAll ps
  | [] => rfl
  | p :: ps => by
    simp [writtenRest, boundAll, values_written p, values_writtenRest separator ps]

end

theorem values_clauseItems (keyword : String) (ps : List Predicate) :
    Item.values (clauseItems keyword ps) = ps.flatMap bound := by
  cases ps with
  | nil => rfl
  | cons p ps => simp [clauseItems, Item.values_flatMap, values_written]

theorem compareItems_blank (column : ColumnExpr) (op : Operator) (value : Value) :
    compareItems column op (blankValue op value) =
      (compareItems column op value).map Item.blank := by
  by_cases list : op.takesList
  · have blanks : items (blankValue op value) = (items value).map fun _ => .null := by
      rw [blankValue, if_pos list]
      rfl
    rw [compareItems, compareItems, if_pos list, if_pos list, blanks]
    cases items value with
    | nil => rfl
    | cons v vs =>
      have separated := Sql.blank_separate (f := fun w => [Item.value w])
        (g := fun w => [Item.value w]) (t := fun _ => Value.null) (fun _ => rfl) ", " (v :: vs)
      rw [List.map_cons] at separated
      simp only [List.map_cons, separated, List.map_append]
      rfl
  · rw [compareItems, compareItems, if_neg list, if_neg list, blankValue, if_neg list]
    cases op.takesValue <;> rfl

mutual

theorem written_blank : ∀ p, written (blank p) = (written p).map Item.blank
  | .compare column op value => compareItems_blank column op value
  | .all [] => rfl
  | .any [] => rfl
  | .all (p :: ps) | .any (p :: ps) => by
    simp [blank, blankAll, written, written_blank p, writtenRest_blank _ ps, Item.blank]

theorem writtenRest_blank (separator : String) :
    ∀ ps, writtenRest separator (blankAll ps) = (writtenRest separator ps).map Item.blank
  | [] => rfl
  | p :: ps => by
    simp [blankAll, writtenRest, written_blank p, writtenRest_blank separator ps, Item.blank]

end

theorem clauseItems_blank (keyword : String) (ps : List Predicate) :
    clauseItems keyword (ps.map blank) = (clauseItems keyword ps).map Item.blank := by
  cases ps with
  | nil => rfl
  | cons p ps =>
    simp [clauseItems, written_blank, List.flatMap_map, List.map_flatMap, Item.blank]

end Predicate

/-! ## Queries -/

namespace Compiled

/-- The query with null for every value that its conditions compare with. -/
def blank (q : Compiled) : Compiled :=
  { q with filters := q.filters.map Predicate.blank, having := q.having.map Predicate.blank }

/-- The values that a query binds: those of its filters, then those of its HAVING clause. -/
def bound (q : Compiled) : List Value :=
  q.filters.flatMap Predicate.bound ++ q.having.flatMap Predicate.bound

variable (q : Compiled)

theorem values_bodyItems : Item.values q.bodyItems = q.bound := by
  have joins : Item.values (q.joins.flatMap joinItems) = [] := by
    rw [Item.values_flatMap, List.flatMap_eq_nil_iff]
    rintro ⟨kind, table, label, on⟩ -
    cases label <;> cases on <;> rfl
  have groups : Item.values q.groupItems = [] := by
    unfold groupItems
    split
    · rfl
    · simp [Sql.values_separate, identItems]
  simp [bodyItems, joins, groups, Predicate.values_clauseItems, bound]

theorem values_projectionItems : Item.values q.projectionItems = [] := by
  unfold projectionItems
  split <;> split <;> simp [Sql.values_separate, columnItems]

theorem values_pageItems : Item.values q.pageItems = [] := by
  have orders : Item.values q.orderItems = [] := by
    unfold orderItems
    split
    · rfl
    · simp [Sql.values_separate, termItems]
  have page (keyword : String) (n : Option UInt64) : Item.values (boundItems keyword n) = [] := by
    cases n <;> rfl
  simp [pageItems, orders, page]

theorem values_selectItems (table : Ident) : Item.values (q.selectItems table) = q.bound := by
  simp [selectItems, selectOpening, values_bodyItems, values_pageItems, values_projectionItems]

theorem values_countItems (table : Ident) : Item.values (q.countItems table) = q.bound := by
  unfold countItems countOpening countEnd
  split <;> simp [values_bodyItems, values_projectionItems]

theorem bodyItems_blank : q.blank.bodyItems.map Item.blank = q.bodyItems.map Item.blank := by
  simp [bodyItems, blank, groupItems, Predicate.clauseItems_blank]

theorem needsSubquery_blank : q.blank.needsSubquery = q.needsSubquery := by
  simp [needsSubquery, blank]

theorem selectItems_blank (table : Ident) :
    (q.blank.selectItems table).map Item.blank = (q.selectItems table).map Item.blank := by
  simp only [selectItems, List.map_append, bodyItems_blank]
  rfl

theorem countItems_blank (table : Ident) :
    (q.blank.countItems table).map Item.blank = (q.countItems table).map Item.blank := by
  simp only [countItems, countOpening, countEnd, List.map_append, bodyItems_blank,
    needsSubquery_blank]
  rfl

theorem selectSql_blank (table : Ident) :
    (q.blank.selectSql table).SameText (q.selectSql table) := by
  rw [selectSql_eq, selectSql_eq]
  exact Sql.sameText_of_blank (q.selectItems_blank table)

theorem countSql_blank (table : Ident) :
    (q.blank.countSql table).SameText (q.countSql table) := by
  rw [countSql_eq, countSql_eq]
  exact Sql.sameText_of_blank (q.countItems_blank table)

end Compiled

/-! ## Writes -/

namespace Record

/-- The record with null for every value. -/
def blank (r : Record) : Record := ⟨r.entries.map fun e => (e.1, .null)⟩

theorem columns_blank (r : Record) : r.blank.columns = r.columns := by
  simp [columns, blank]

theorem get?_blank (r : Record) (column : String) :
    r.blank.get? column = (r.get? column).map fun _ => .null := by
  simp only [get?, blank, List.find?_map, Option.map_map]
  rfl

theorem get?_eq_none {r : Record} {column : String} (h : column ∉ r.columns) :
    r.get? column = none := by
  rw [get?, Option.map_eq_none_iff, List.find?_eq_none]
  intro e he
  simp only [decide_eq_true_eq]
  rintro rfl
  exact h (List.mem_map_of_mem he)

/-- A record that has no column twice has its values in the order of its columns. -/
theorem filterMap_get? {r : Record} (distinct : r.columns.Nodup) :
    r.columns.filterMap r.get? = r.values := by
  obtain ⟨entries⟩ := r
  simp only [columns] at distinct
  simp only [columns, values]
  induction entries with
  | nil => rfl
  | cons e es ih =>
    obtain ⟨c, v⟩ := e
    obtain ⟨fresh, rest⟩ := List.nodup_cons.mp distinct
    have first : get? ⟨(c, v) :: es⟩ c = some v := by simp [get?]
    rw [List.map_cons, List.map_cons, List.filterMap_cons_some first, ← ih rest]
    refine congrArg _ (List.filterMap_congr fun d hd => ?_)
    have other : c ≠ d := by
      rintro rfl
      exact fresh hd
    simp [get?, other]

end Record

namespace Postgres.Statement

theorem columnsOf_blank (rows : List Record) :
    columnsOf (rows.map Record.blank) = columnsOf rows := by
  simp [columnsOf, List.foldl_map, Record.columns_blank]

theorem cellItems_blank (row : Record) (column : String) :
    cellItems row.blank column = (cellItems row column).map Item.blank := by
  rw [cellItems, Record.get?_blank, cellItems]
  cases row.get? column <;> rfl

theorem tupleItems_blank (columns : List String) (row : Record) :
    tupleItems columns row.blank = (tupleItems columns row).map Item.blank := by
  have cells := Sql.blank_separate (f := cellItems row) (g := cellItems row.blank) (t := id)
    (cellItems_blank row) ", " columns
  rw [List.map_id] at cells
  simp [tupleItems, cells, Item.blank]

theorem insertItems_blank (table : Ident) (listed returned : List Ident) (rows : List Record) :
    (insertItems table listed returned (rows.map Record.blank)).map Item.blank =
      (insertItems table listed returned rows).map Item.blank := by
  have tuples := Sql.blank_separate (tupleItems_blank (columnsOf rows)) ", " rows
  simp only [insertItems, rowItems, columnsOf_blank, List.length_map, tuples]
  split <;> simp

theorem values_insertItems (table : Ident) (listed returned : List Ident) (rows : List Record) :
    Item.values (insertItems table listed returned rows) =
      rows.flatMap fun row => (columnsOf rows).filterMap row.get? := by
  have cell (row : Record) (c : String) : Item.values (cellItems row c) = (row.get? c).toList := by
    unfold cellItems
    cases row.get? c <;> rfl
  have returnedNone : Item.values (returningItems returned) = [] := by
    unfold returningItems
    split
    · rfl
    · simp [Sql.values_separate, identItems]
  simp only [insertItems, rowItems, Item.values_append, returnedNone]
  split
  case isTrue none => simp [List.isEmpty_iff.mp none]
  case isFalse =>
    simp [Sql.values_separate, identItems, tupleItems, cell, List.filterMap_eq_flatMap_toList]

/-! The columns of an insertion are those of its rows, each once, so that every value of a row
has one place in the row's tuple. -/

theorem mem_addNew {c : String} {seen new : List String} :
    c ∈ addNew seen new ↔ c ∈ seen ∨ c ∈ new := by
  induction new generalizing seen with
  | nil => simp [addNew]
  | cons d new ih =>
    rw [addNew, List.foldl_cons]
    refine ih.trans ?_
    by_cases known : d ∈ seen
    · simp only [List.contains_eq_mem, known, decide_true, if_true, List.mem_cons]
      constructor
      · rintro (h | h) <;> simp [h]
      · rintro (h | rfl | h) <;> simp_all
    · simp [known, or_assoc]

theorem nodup_addNew {seen : List String} (new : List String) (h : seen.Nodup) :
    (addNew seen new).Nodup := by
  induction new generalizing seen with
  | nil => exact h
  | cons d new ih =>
    rw [addNew, List.foldl_cons]
    apply ih
    by_cases known : d ∈ seen
    · simpa [known] using h
    · simpa [known, List.concat_eq_append] using List.Nodup.concat known h

theorem mem_columnsOf {c : String} {rows : List Record} :
    c ∈ columnsOf rows ↔ ∃ row ∈ rows, c ∈ row.columns := by
  have go (seen : List String) :
      c ∈ rows.foldl (fun cs r => addNew cs r.columns) seen ↔
        c ∈ seen ∨ ∃ row ∈ rows, c ∈ row.columns := by
    induction rows generalizing seen with
    | nil => simp
    | cons row rows ih => simp [ih, mem_addNew, or_assoc]
  simpa [columnsOf] using go []

theorem nodup_columnsOf (rows : List Record) : (columnsOf rows).Nodup := by
  have go (seen : List String) (h : seen.Nodup) :
      (rows.foldl (fun cs r => addNew cs r.columns) seen).Nodup := by
    induction rows generalizing seen with
    | nil => exact h
    | cons row rows ih => exact ih _ (nodup_addNew _ h)
  exact go [] List.nodup_nil

theorem perm_rowValues {rows : List Record} {row : Record} (member : row ∈ rows)
    (distinct : row.columns.Nodup) :
    ((columnsOf rows).filterMap row.get?).Perm row.values := by
  have present : ((columnsOf rows).filter (· ∈ row.columns)).Perm row.columns := by
    rw [List.perm_ext_iff_of_nodup ((nodup_columnsOf rows).filter _) distinct]
    intro c
    simp only [List.mem_filter, decide_eq_true_eq, and_iff_right_iff_imp]
    exact fun h => mem_columnsOf.mpr ⟨row, member, h⟩
  have skipped : (columnsOf rows).filterMap row.get? =
      ((columnsOf rows).filter (· ∈ row.columns)).filterMap row.get? := by
    rw [List.filterMap_filter]
    refine List.filterMap_congr fun c _ => ?_
    by_cases has : c ∈ row.columns
    · simp [has]
    · simp [has, Record.get?_eq_none has]
  rw [skipped, ← Record.filterMap_get? distinct]
  exact present.filterMap _

theorem updateItems_blank (table : Ident) (columns : List Ident) (values : List Value)
    (filters : List Predicate) :
    updateItems table columns (values.map fun _ => .null) (filters.map Predicate.blank) =
      (updateItems table columns values filters).map Item.blank := by
  have changes := Sql.blank_separate (f := changeItems) (g := changeItems)
    (t := fun c => (c.1, .null)) (fun _ => rfl) ", " (columns.zip values)
  simp only [updateItems, Predicate.clauseItems_blank, List.map_append, ← changes,
    List.zip_map_right]
  rfl

theorem values_updateItems (table : Ident) (columns : List Ident) (values : List Value)
    (filters : List Predicate) (h : columns.length = values.length) :
    Item.values (updateItems table columns values filters) =
      values ++ filters.flatMap Predicate.bound := by
  have changes : ((columns.zip values).flatMap fun c => [c.2]) = values := by
    rw [← List.map_eq_flatMap, List.map_snd_zip (Nat.le_of_eq h.symm)]
  simp [updateItems, Sql.values_separate, changeItems, changes, Predicate.values_clauseItems]

theorem deleteItems_blank (table : Ident) (filters : List Predicate) :
    deleteItems table (filters.map Predicate.blank) =
      (deleteItems table filters).map Item.blank := by
  simp only [deleteItems, Predicate.clauseItems_blank, List.map_append]
  rfl

/-- Outcomes that fail alike or have the same text, whatever is bound. -/
def SameOutcome (a b : Except Error Sql) : Prop :=
  ∀ style, a.map (·.render style) = b.map (·.render style)

theorem sameOutcome_bind {α : Type} {x : Except Error α} {f g : α → Except Error Sql}
    (h : ∀ a, SameOutcome (f a) (g a)) : SameOutcome (x >>= f) (x >>= g) := by
  intro style
  cases x with
  | error e => rfl
  | ok a => exact h a style

theorem sameOutcome_ok {q r : Sql} (h : q.SameText r) :
    SameOutcome (.ok q) (.ok r) := fun style => congrArg Except.ok (h style)

theorem insert_blank (table : String) (rows : List Record) (returning : List String) :
    SameOutcome (insert table (rows.map Record.blank) returning) (insert table rows returning) := by
  rw [insert_eq, insert_eq, columnsOf_blank]
  refine sameOutcome_bind fun t => sameOutcome_bind fun listed =>
    sameOutcome_bind fun returned => ?_
  exact sameOutcome_ok (Sql.sameText_of_blank (insertItems_blank t listed returned rows))

theorem update_blank (table : String) (changes : Record) (filters : List Predicate) :
    SameOutcome (update table changes.blank (filters.map Predicate.blank))
      (update table changes filters) := by
  have empty : changes.blank.isEmpty = changes.isEmpty := by simp [Record.isEmpty, Record.blank]
  have values : changes.blank.values = changes.values.map fun _ => .null := by
    simp [Record.values, Record.blank]
  rw [update_eq, update_eq, empty, Record.columns_blank, values]
  split
  · exact fun style => rfl
  · refine sameOutcome_bind fun t => sameOutcome_bind fun columns => sameOutcome_ok ?_
    apply Sql.sameText_of_blank
    rw [updateItems_blank, List.map_map, Item.blank_comp_blank]

theorem delete_blank (table : String) (filters : List Predicate) :
    SameOutcome (delete table (filters.map Predicate.blank)) (delete table filters) := by
  rw [delete_eq, delete_eq]
  refine sameOutcome_bind fun t => sameOutcome_ok ?_
  apply Sql.sameText_of_blank
  rw [deleteItems_blank, List.map_map, Item.blank_comp_blank]

theorem insert_binds {table : String} {rows : List Record} {returning : List String} {q : Sql}
    (h : insert table rows returning = .ok q) :
    ∃ t listed returned, Query.ident table = .ok t ∧ idents (columnsOf rows) = .ok listed ∧
      idents returning = .ok returned ∧
      q.Binds (insertItems t listed returned rows)
        (rows.flatMap fun row => (columnsOf rows).filterMap row.get?) := by
  rw [insert_eq] at h
  obtain ⟨t, named, h⟩ := exists_of_bind h
  obtain ⟨listed, columns, h⟩ := exists_of_bind h
  obtain ⟨returned, answered, h⟩ := exists_of_bind h
  cases h
  exact ⟨t, listed, returned, named, columns, answered,
    Sql.binds_ofItems (values_insertItems t listed returned rows)⟩

/-- An insertion of rows that have no column twice binds every value of every row once. -/
theorem insert_params_perm {table : String} {rows : List Record} {returning : List String}
    {q : Sql} (h : insert table rows returning = .ok q)
    (distinct : ∀ row ∈ rows, row.columns.Nodup) :
    q.params.Perm (rows.flatMap Record.values) := by
  obtain ⟨t, listed, returned, -, -, -, bound⟩ := insert_binds h
  rw [bound.params]
  exact List.Perm.flatMap_left rows fun row member => perm_rowValues member (distinct row member)

theorem update_binds {table : String} {changes : Record} {filters : List Predicate} {q : Sql}
    (h : update table changes filters = .ok q) :
    ∃ t columns, Query.ident table = .ok t ∧ idents changes.columns = .ok columns ∧
      q.Binds (updateItems t columns changes.values filters)
        (changes.values ++ filters.flatMap Predicate.bound) := by
  rw [update_eq] at h
  split at h
  · cases h
  · obtain ⟨t, named, h⟩ := exists_of_bind h
    obtain ⟨columns, listed, h⟩ := exists_of_bind h
    cases h
    have lengths : columns.length = changes.values.length := by
      rw [length_of_mapM listed, Record.columns, Record.values, List.length_map, List.length_map]
    exact ⟨t, columns, named, listed,
      Sql.binds_ofItems (values_updateItems t columns changes.values filters lengths)⟩

theorem delete_binds {table : String} {filters : List Predicate} {q : Sql}
    (h : delete table filters = .ok q) :
    ∃ t, Query.ident table = .ok t ∧
      q.Binds (deleteItems t filters) (filters.flatMap Predicate.bound) := by
  rw [delete_eq] at h
  obtain ⟨t, named, rfl⟩ := exists_of_map h
  exact ⟨t, named, Sql.binds_ofItems (Predicate.values_clauseItems " WHERE " filters)⟩

end Postgres.Statement

open Postgres.Statement

/-- Statements of one shape have one text in either style, and each binds exactly its values,
one for each placeholder and in its place: those of a query's filters before those of its
HAVING clause, those of the rows in tuple order, those that are set before those of the
filters. -/
theorem values_bound_in_place :
    (∀ (q r : Compiled) (table : Ident), q.blank = r.blank →
      (q.selectSql table).SameText (r.selectSql table) ∧
        (q.countSql table).SameText (r.countSql table)) ∧
    (∀ (q : Compiled) (table : Ident),
      (q.selectSql table).Binds (q.selectItems table) q.bound ∧
        (q.countSql table).Binds (q.countItems table) q.bound) ∧
    (∀ (table : String) (rows others : List Record) (returning : List String),
      rows.map Record.blank = others.map Record.blank →
        SameOutcome (insert table rows returning) (insert table others returning)) ∧
    (∀ (table : String) (rows : List Record) (returning : List String) (q : Sql),
      insert table rows returning = .ok q →
        (∃ t listed returned, Query.ident table = .ok t ∧
          idents (columnsOf rows) = .ok listed ∧ idents returning = .ok returned ∧
          q.Binds (insertItems t listed returned rows)
            (rows.flatMap fun row => (columnsOf rows).filterMap row.get?)) ∧
        ((∀ row ∈ rows, row.columns.Nodup) → q.params.Perm (rows.flatMap Record.values))) ∧
    (∀ (table : String) (changes others : Record) (filters preds : List Predicate),
      changes.blank = others.blank → filters.map Predicate.blank = preds.map Predicate.blank →
        SameOutcome (update table changes filters) (update table others preds) ∧
          SameOutcome (delete table filters) (delete table preds)) ∧
    (∀ (table : String) (changes : Record) (filters : List Predicate) (q : Sql),
      update table changes filters = .ok q →
        ∃ t columns, Query.ident table = .ok t ∧ idents changes.columns = .ok columns ∧
          q.Binds (updateItems t columns changes.values filters)
            (changes.values ++ filters.flatMap Predicate.bound)) ∧
    (∀ (table : String) (filters : List Predicate) (q : Sql), delete table filters = .ok q →
      ∃ t, Query.ident table = .ok t ∧
        q.Binds (deleteItems t filters) (filters.flatMap Predicate.bound)) := by
  refine ⟨fun q r table same => ⟨fun style => ?_, fun style => ?_⟩, fun q table => ⟨?_, ?_⟩,
    fun table rows others returning same style => ?_,
    fun table rows returning q h => ⟨insert_binds h, insert_params_perm h⟩,
    fun table changes others filters preds same alike => ⟨fun style => ?_, fun style => ?_⟩,
    fun table changes filters q => update_binds, fun table filters q => delete_binds⟩
  · rw [← q.selectSql_blank table style, same, r.selectSql_blank table style]
  · rw [← q.countSql_blank table style, same, r.countSql_blank table style]
  · exact q.selectSql_eq table ▸ Sql.binds_ofItems (q.values_selectItems table)
  · exact q.countSql_eq table ▸ Sql.binds_ofItems (q.values_countItems table)
  · rw [← insert_blank table rows returning style, same, insert_blank table others returning style]
  · rw [← update_blank table changes filters style, same, alike,
      update_blank table others preds style]
  · rw [← delete_blank table filters style, alike, delete_blank table preds style]

end EntityStore
