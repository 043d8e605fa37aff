import EntityStore.Proofs.Memory.Shape
import EntityStore.Proofs.Memory.Step

/-!
# Migrations of tables

A migration puts the missing fields behind those of a table and a null into their columns in every
row. What a row holds in the columns that the table has stays. But a table without fields takes
rows with any columns, so a row may hold a value in a column that its table lacks, and a migration
that adds this column sets it to null. Where no such row was ever written, migrations lose nothing.
-/

namespace EntityStore

/-- The second row carries all that the first one does, and nothing but nulls beyond it. -/
structure Record.Grows (row row' : Record) : Prop where
  kept : ∀ c v, row.get? c = some v → row'.get? c = some v
  added : ∀ c v, row.get? c = none → row'.get? c = some v → v = .null

theorem Record.Grows.refl (row : Record) : row.Grows row where
  kept := fun _ _ => id
  added := by
    intro c v absent present
    rw [absent] at present
    cases present

namespace Memory

/-- The second row is null in the columns that the fields add to the table, and as the first one
in all others. -/
def Table.Widens (t : Table) (fields : List Field) (row row' : Record) : Prop :=
  ∀ c, row'.get? c =
    if !t.hasColumn c && fields.any (·.column = c) then some .null else row.get? c

/-- Some row holds a value in a column that the fields add to the table. -/
def Table.Buries (t : Table) (fields : List Field) : Prop :=
  ∃ row ∈ t.rows, ∃ f ∈ fields, t.hasColumn f.column = false ∧ row.getD f.column ≠ .null

/-- Every table is there with all its rows in their order, each of them with all its values. -/
def Tables.Keeps (ts ts' : Tables) : Prop :=
  ∀ name t, ts.get? name = some t →
    ∃ t', ts'.get? name = some t' ∧ List.Forall₂ Record.Grows t.rows t'.rows

/-- The request writes columns into a table without fields. -/
def Tables.Strays (ts : Tables) {α : Type} : Request α → Prop
  | .insert name rows _ =>
    ∃ t, ts.get? name = some t ∧ t.fields = [] ∧ ∃ row ∈ rows, row.columns ≠ []
  | .update name changes _ =>
    ∃ t, ts.get? name = some t ∧ t.fields = [] ∧ changes.columns ≠ []
  | _ => False

/-- A step that is answered and writes no columns into a table without fields. -/
def Store.Declares (s : Store) : Step → Prop
  | .ask scope r => ∀ ts ts' x, s.tablesOf scope = .ok ts →
      ts.answer r = .ok (x, ts') → ¬ts.Strays r
  | _ => True

/-! ## Rows -/

section

variable {t : Table} {fields : List Field} {row row' : Record}

theorem widens_addFields (t : Table) (fields : List Field) :
    List.Forall₂ (t.Widens fields) t.rows (t.addFields fields).rows := by
  rw [addFields_eq]
  exact List.forall₂_map_right_iff.mpr
    (List.forall₂_same.mpr fun row _ => get?_setAll_missing row)

/-- A row that is widened loses what it held in the columns that are added, and nothing else. -/
theorem Table.Widens.grows_iff (h : t.Widens fields row row') : row.Grows row' ↔
    ∀ f ∈ fields, t.hasColumn f.column = false → row.getD f.column = .null := by
  have isAdded {f : Field} (member : f ∈ fields) (new : t.hasColumn f.column = false) :
      (!t.hasColumn f.column && fields.any (·.column = f.column)) = true := by
    rw [new, Bool.not_false, Bool.true_and]
    exact List.any_eq_true.mpr ⟨f, member, decide_eq_true rfl⟩
  constructor
  · intro grows f member new
    have null : row'.get? f.column = some .null := by rw [h, if_pos (isAdded member new)]
    cases held : row.get? f.column with
    | none => rw [Record.getD, held, Option.getD_none]
    | some v =>
      rw [grows.kept _ v held] at null
      rw [Record.getD, held, Option.getD_some]
      exact Option.some.inj null
  · intro empty
    constructor
    · intro c v held
      rw [h]
      split
      · rename_i added
        obtain ⟨new, named⟩ := Bool.and_eq_true_iff.mp added
        obtain ⟨f, member, column⟩ := List.any_eq_true.mp named
        obtain rfl : f.column = c := of_decide_eq_true column
        have null := empty f member (Bool.not_eq_true' _ |>.mp new)
        rw [Record.getD, held, Option.getD_some] at null
        rw [null]
      · exact held
    · intro c v absent present
      rw [h] at present
      split at present
      · exact (Option.some.inj present).symm
      · rw [absent] at present
        cases present

theorem forall₂_grows_iff {rows rows' : List Record}
    (widens : List.Forall₂ (t.Widens fields) rows rows') :
    List.Forall₂ Record.Grows rows rows' ↔ ∀ row ∈ rows, ∀ f ∈ fields,
      t.hasColumn f.column = false → row.getD f.column = .null := by
  induction widens with
  | nil => exact iff_of_true .nil nofun
  | cons first _ ih => rw [List.forall₂_cons, List.forall_mem_cons, first.grows_iff, ih]

theorem grows_addFields_iff :
    List.Forall₂ Record.Grows t.rows (t.addFields fields).rows ↔ ¬t.Buries fields := by
  rw [forall₂_grows_iff (widens_addFields t fields)]
  unfold Table.Buries
  push Not
  rfl

/-- Rows that carry the columns of their table only have nothing to lose. -/
theorem Table.Whole.not_buries (h : t.Whole) : ¬t.Buries fields := by
  rintro ⟨row, inRows, f, -, new, held⟩
  have absent := h row inRows f.column
  rw [new] at absent
  rw [Record.getD, Option.not_isSome_iff_eq_none.mp (Bool.eq_false_iff.mp absent)] at held
  exact held rfl

end

/-! ## Tables -/

namespace Tables

variable {ts ts' : Tables} {schema : TableSchema}

/-- The tables of other names stay as they are. -/
theorem get?_migrate_of_ne {name : String} (other : schema.name ≠ name) :
    (ts.migrate schema).get? name = ts.get? name := by
  unfold migrate
  cases ts.get? schema.name <;> exact (get?_set _ _ _ _).trans (if_neg other)

/-- The table of the schema has its missing fields afterwards; one that is not there is laid out. -/
theorem get?_migrate (ts : Tables) (schema : TableSchema) : (ts.migrate schema).get? schema.name =
    some (match ts.get? schema.name with
      | none => .ofFields schema.fields
      | some t => t.addFields schema.fields) := by
  unfold migrate
  cases ts.get? schema.name <;> exact (get?_set _ _ _ _).trans (if_pos rfl)

theorem keeps_migrate_iff : ts.Keeps (ts.migrate schema) ↔
    ∀ t, ts.get? schema.name = some t → ¬t.Buries schema.fields := by
  constructor
  · intro keeps t found
    obtain ⟨t', found', grows⟩ := keeps schema.name t found
    rw [get?_migrate, found] at found'
    cases found'
    exact grows_addFields_iff.mp grows
  · intro spared name t found
    by_cases own : schema.name = name
    · subst own
      refine ⟨t.addFields schema.fields, ?_, grows_addFields_iff.mpr (spared t found)⟩
      rw [get?_migrate, found]
    · refine ⟨t, (get?_migrate_of_ne own).trans found, ?_⟩
      exact List.forall₂_same.mpr fun row _ => .refl row

/-- Rows carry the columns of their tables only, as long as no others are written. -/
theorem Each.whole_of_declared {α : Type} {r : Request α} {x : α} (h : ts.Each Table.Whole)
    (answered : ts.answer r = .ok (x, ts')) (declared : ¬ts.Strays r) : ts'.Each Table.Whole := by
  have change := change_answer answered
  cases change with
  | read => exact h
  | inserted found done =>
    refine h.set_iff.mpr ((h _ _ found).insert ?_ done)
    intro none row member
    refine Classical.byContradiction fun columns => ?_
    exact declared ⟨_, found, none, row, member, columns⟩
  | updated found done =>
    refine h.set_iff.mpr ((h _ _ found).update ?_ done)
    intro none
    exact Classical.byContradiction fun columns => declared ⟨_, found, none, columns⟩
  | deleted found done => exact h.set_iff.mpr ((h _ _ found).delete done)
  | created absent | laid absent => exact h.set_iff.mpr fun _ member => nomatch member
  | dropped => exact h.erase _
  | extended found => exact h.set_iff.mpr ((h _ _ found).addFields _)
  | indexed found done =>
    obtain ⟨rfl, -⟩ := Table.addIndex_eq_ok done
    have whole := h _ _ found
    exact h.set_iff.mpr whole
  | unindexed found =>
    have whole := h _ _ found
    exact h.set_iff.mpr whole

end Tables

/-! ## Stores -/

theorem Store.Holds.whole_along {s : Store} (h : s.Holds (Tables.Each Table.Whole))
    {steps : List Step} (along : Step.Along Store.Declares s steps) :
    (Step.after s steps).Holds (Tables.Each Table.Whole) := by
  refine along.induction ?_ h
  intro s st declares whole
  refine whole.next_of_scope Tables.each_empty ?_
  rintro α scope r ts ts' x rfl tables before answered
  exact before.whole_of_declared answered (declares ts ts' x tables answered)

/-- A migration is answered in every state. It leaves the other tables as they are, and all rows
of its own table in their order, each of them null in the columns that the schema adds to the table
and as it was in all others. So no value is lost exactly if no row holds one in a column that its
table lacks and the schema adds. In a state that steps lead to which write no columns into a table
without fields, no migration whatsoever loses a value. -/
theorem migration_keeps_declared_values {s : Store} {scope : Scope} {ts : Tables}
    (tables : s.tablesOf scope = .ok ts) (schema : TableSchema) :
    s.perform scope (.migrateTable schema) = (.ok (), s.setTables scope (ts.migrate schema)) ∧
      (∀ name, schema.name ≠ name → (ts.migrate schema).get? name = ts.get? name) ∧
      (∀ t, ts.get? schema.name = some t → ∃ t', (ts.migrate schema).get? schema.name = some t' ∧
        List.Forall₂ (t.Widens schema.fields) t.rows t'.rows) ∧
      (ts.Keeps (ts.migrate schema) ↔
        ∀ t, ts.get? schema.name = some t → ¬t.Buries schema.fields) ∧
      ∀ steps, Step.Along Store.Declares (∅ : Store) steps → Step.after (∅ : Store) steps = s →
        ts.Keeps (ts.migrate schema) := by
  have answered : ts.answer (.migrateTable schema) = .ok ((), ts.migrate schema) := rfl
  refine ⟨Store.answer_of_ok tables answered, fun name => Tables.get?_migrate_of_ne, ?_,
    Tables.keeps_migrate_iff, ?_⟩
  · intro t found
    refine ⟨t.addFields schema.fields, ?_, widens_addFields t schema.fields⟩
    rw [Tables.get?_migrate, found]
  · rintro steps along rfl
    have whole : (Step.after (∅ : Store) steps).Holds (Tables.Each Table.Whole) :=
      (Store.holds_empty Tables.each_empty).whole_along along
    refine Tables.keeps_migrate_iff.mpr ?_
    intro t found
    exact (whole.tablesOf tables schema.name t found).not_buries

/-- A table of notes. -/
def notes (columns : List String) : TableSchema := ⟨"notes", columns.map (Field.ofType · .text)⟩

def jot (columns : List String) : Request (List Record) :=
  .insert "notes" [.ofPairs (columns.map (·, .text "x"))] []

/-- In a table without fields a note keeps its text when another column is added, but not when the
column of the text is. In a table with that field it stays in either case. -/
theorem note_kept_where_declared :
    let bare : Store := Step.after ∅
      [.ask .direct (.createTable (notes [])), .ask .direct (jot ["text"])]
    let laid : Store := Step.after ∅
      [.ask .direct (.createTable (notes ["text"])), .ask .direct (jot ["text"])]
    bare.tables.Keeps (bare.tables.migrate (notes ["title"])) ∧
      ¬bare.tables.Keeps (bare.tables.migrate (notes ["title", "text"])) ∧
      laid.tables.Keeps (laid.tables.migrate (notes ["title", "text"])) := by
  intro bare laid
  have exactly (schema : TableSchema) :=
    migration_keeps_declared_values (show bare.tablesOf .direct = .ok bare.tables from rfl) schema
  have safely := migration_keeps_declared_values
    (show laid.tablesOf .direct = .ok laid.tables from rfl) (notes ["title", "text"])
  have declared : Step.Along Store.Declares (∅ : Store)
      [.ask .direct (.createTable (notes ["text"])), .ask .direct (jot ["text"])] := by
    refine ⟨fun _ _ _ _ _ => id, ?_, trivial⟩
    rintro ts ts' x tables - ⟨t, found, none, -⟩
    cases tables
    cases found
    cases none
  refine ⟨(exactly (notes ["title"])).2.2.2.1.mpr ?_, ?_, safely.2.2.2.2 _ declared rfl⟩
  · rintro t found ⟨row, inRows, f, inFields, -, held⟩
    cases found
    cases List.mem_singleton.mp inRows
    cases List.mem_singleton.mp inFields
    exact held rfl
  · intro keeps
    refine (exactly (notes ["title", "text"])).2.2.2.1.mp keeps _ rfl ?_
    exact ⟨_, List.mem_cons_self, _, List.mem_cons_of_mem _ List.mem_cons_self, rfl, nofun⟩

/-- A migration loses the value of a row in a column that the row carried. -/
theorem undeclared_value_lost :
    let s : Store := Step.after ∅
      [.ask .direct (.createTable (notes [])), .ask .direct (jot ["text"])]
    ¬s.tables.Keeps (s.tables.migrate (notes ["text"])) := by
  intro s keeps
  obtain ⟨t', found, grows⟩ := keeps "notes" _ rfl
  cases found
  cases grows with
  | cons first _ => cases first.kept "text" (.text "x") rfl

end Memory

end EntityStore
