import EntityStore.Proofs.Memory.Migration
import EntityStore.Proofs.Repository.Creation
import EntityStore.Repository.Migration
import EntityStore.Sample.Schema

/-!
# Migrations of entities

The status of a migration names the columns that the live table lacks, and the migration adds
columns. Both look for them on their own, the status among the names of the live columns and the
migration field by field, but for fields with different columns they find the same.
-/

namespace EntityStore

namespace Memory

namespace Tables

variable {ts : Tables} {schema : TableSchema}

/-- The columns of a table, none if there is no such table. -/
def columns (ts : Tables) (name : String) : List String :=
  ((ts.get? name).map fun t => t.fields.map Field.column).getD []

def indexes (ts : Tables) (name : String) : List Index :=
  ((ts.get? name).map (·.indexes)).getD []

/-! ## The migrated table -/

theorem contains_migrate (ts : Tables) (schema : TableSchema) :
    (ts.migrate schema).contains schema.name = true := by
  rw [contains_eq_isSome, get?_migrate]
  rfl

theorem hasColumn_eq (t : Table) (c : String) :
    t.hasColumn c = decide (c ∈ t.fields.map Field.column) := by
  rw [Bool.eq_iff_iff, hasColumn_iff, decide_eq_true_iff, List.mem_map]

/-- The columns that the table lacks come behind its own. -/
theorem columns_migrate (distinct : (schema.fields.map Field.column).Nodup) :
    (ts.migrate schema).columns schema.name = ts.columns schema.name ++
      (schema.fields.map Field.column).filter (· ∉ ts.columns schema.name) := by
  rw [columns, get?_migrate, columns]
  cases ts.get? schema.name with
  | none => simp [Table.ofFields]
  | some t =>
    simp only [Option.map_some, Option.getD_some, addFields_eq, missing_of_nodup distinct,
      List.map_append, List.filter_map, hasColumn_eq, decide_not]
    rfl

theorem indexes_migrate (ts : Tables) (schema : TableSchema) (name : String) :
    (ts.migrate schema).indexes name = ts.indexes name := by
  unfold indexes
  by_cases own : schema.name = name
  · subst own
    rw [get?_migrate]
    cases ts.get? schema.name with
    | none => rfl
    | some t =>
      dsimp only
      rw [addFields_eq]
      rfl
  · rw [get?_migrate_of_ne own]

/-- A migrated table has all columns of the schema, so that a second migration adds none. -/
theorem migrate_migrate (ts : Tables) (schema : TableSchema) :
    (ts.migrate schema).migrate schema = ts.migrate schema := by
  have again : ∀ t, (∀ f ∈ schema.fields, t.hasColumn f.column = true) →
      (ts.set schema.name t).migrate schema = ts.set schema.name t := by
    intro t complete
    rw [migrate, get?_set, if_pos rfl]
    dsimp only
    rw [addFields_of_hasColumn complete, set_set]
  cases found : ts.get? schema.name with
  | none =>
    have laid : ts.migrate schema = ts.set schema.name (.ofFields schema.fields) := by
      rw [migrate, found]
    rw [laid]
    exact again _ fun f member => hasColumn_iff.mpr ⟨f, member, rfl⟩
  | some t =>
    have extended : ts.migrate schema = ts.set schema.name (t.addFields schema.fields) := by
      rw [migrate, found]
    rw [extended]
    apply again
    intro f member
    have named : schema.fields.any (·.column = f.column) = true :=
      List.any_eq_true.mpr ⟨f, member, decide_eq_true rfl⟩
    rw [hasColumn_addFields, named, Bool.or_true]

end Tables

end Memory

/-! ## Entities -/

namespace Repository

open Memory

variable {α : Type} [Entity α] {repo : Repository α} {s : Session Memory.Store} {ts : Tables}

theorem pendingColumns_eq (info : EntityInfo) (live : List String) : pendingColumns info live =
    (info.columns.filter (· ∉ live)).map fun c => "add column " ++ info.table ++ "." ++ c := by
  rw [pendingColumns, EntityInfo.columns, List.filter_map, List.map_map]
  rfl

theorem run_migrateTable (tables : s.store.tablesOf repo.scope = .ok ts) :
    (repo.migrateTable.run.run s).1 = .ok () ∧ (repo.migrateTable.run.run s).2.store =
      s.store.setTables repo.scope (ts.migrate (Entity.info α).schema) := by
  have performed : s.store.perform repo.scope (.migrateTable (Entity.info α).schema) =
      (.ok (), s.store.setTables repo.scope (ts.migrate (Entity.info α).schema)) := by
    have answered : ts.answer (.migrateTable (Entity.info α).schema) =
        .ok ((), ts.migrate (Entity.info α).schema) := rfl
    exact Store.answer_of_ok tables answered
  rw [migrateTable, run_ask_of_perform performed]
  exact ⟨rfl, rfl⟩

/-- A request that its tables answer as they are leaves the store. -/
theorem run_ask_of_read {β : Type} {scope : Scope} {r : Request β} {x : β}
    (tables : s.store.tablesOf scope = .ok ts) (performed : s.store.perform scope r =
      s.store.answer scope r) (answered : ts.answer r = .ok (x, ts)) :
    ∃ s', (Action.ask scope r).run.run s = (.ok x, s') ∧ s'.store = s.store := by
  rw [Store.answer_of_ok tables answered, Store.setTables_self tables] at performed
  exact ⟨_, run_ask_of_perform performed, rfl⟩

/-- The status reads the names of the live columns and leaves the store. -/
theorem run_migrationStatus (tables : s.store.tablesOf repo.scope = .ok ts) :
    (repo.migrationStatus.run.run s).1 = .ok ⟨ts.contains (Entity.info α).table,
      if ts.contains (Entity.info α).table then
        pendingColumns (Entity.info α) (ts.columns (Entity.info α).table)
      else ["create table " ++ (Entity.info α).table]⟩ ∧
    (repo.migrationStatus.run.run s).2.store = s.store := by
  have looked : ts.answer (.hasTable (Entity.info α).table) =
      .ok (ts.contains (Entity.info α).table, ts) := rfl
  obtain ⟨mid, asked, same⟩ := run_ask_of_read tables rfl looked
  rw [migrationStatus, run_bind_ok asked]
  cases there : ts.contains (Entity.info α).table with
  | false => exact ⟨rfl, same⟩
  | true =>
    rw [Tables.contains_eq_isSome] at there
    obtain ⟨t, found⟩ := Option.isSome_iff_exists.mp there
    have answered : ts.answer (.tableColumns (Entity.info α).table) =
        .ok (t.fields.map Field.column, ts) := by
      rw [Tables.answer, Tables.get_eq_ok.mpr found]
      rfl
    rw [← same] at tables
    obtain ⟨last, listed, kept⟩ := run_ask_of_read tables rfl answered
    rw [if_pos rfl, if_pos rfl, run_bind_ok listed, Tables.columns, found]
    exact ⟨rfl, kept.trans same⟩

/-- Of an entity with different columns, in whatever state the store is: the status names what a
migration does, the table to create or the columns to add, in the order of the fields. The migration
answers; it adds just these columns behind those that there are, and leaves the other tables and all
indexes. The status has nothing pending then, and a second migration changes nothing. -/
theorem migration_does_what_is_pending (distinct : (Entity.info α).columns.Nodup)
    (repo : Repository α) (s : Session Memory.Store) (ts : Tables)
    (tables : s.store.tablesOf repo.scope = .ok ts) :
    let table := (Entity.info α).table
    let added := (Entity.info α).columns.filter (· ∉ ts.columns table)
    let migrated := repo.migrateTable.run.run s
    let status : MigrationStatus := ⟨ts.contains table, if ts.contains table then
        added.map fun c => "add column " ++ table ++ "." ++ c
      else ["create table " ++ table]⟩
    ((repo.migrationStatus.run.run s).1 = .ok status ∧
        (repo.migrationStatus.run.run s).2.store = s.store) ∧
      migrated.1 = .ok () ∧
      (∃ ts', migrated.2.store = s.store.setTables repo.scope ts' ∧
        ts'.contains table = true ∧ ts'.columns table = ts.columns table ++ added ∧
        (∀ name, table ≠ name → ts'.get? name = ts.get? name) ∧
        ∀ name, ts'.indexes name = ts.indexes name) ∧
      ((repo.migrationStatus.run.run migrated.2).1 = .ok ⟨true, []⟩ ∧
        MigrationStatus.needsMigration ⟨true, []⟩ = false) ∧
      (repo.migrateTable.run.run migrated.2).1 = .ok () ∧
      (repo.migrateTable.run.run migrated.2).2.store = migrated.2.store := by
  intro table added migrated status
  obtain ⟨told, kept⟩ := run_migrationStatus tables
  obtain ⟨done, store⟩ := run_migrateTable tables
  rw [pendingColumns_eq] at told
  let ts' := ts.migrate (Entity.info α).schema
  have present : ts'.contains table = true := Tables.contains_migrate ts (Entity.info α).schema
  have columns : ts'.columns table = ts.columns table ++ added := Tables.columns_migrate distinct
  have tables' : migrated.2.store.tablesOf repo.scope = .ok ts' := by
    rw [store]
    exact Store.tablesOf_setTables tables
  have others : ∀ name, table ≠ name → ts'.get? name = ts.get? name :=
    fun name other => Tables.get?_migrate_of_ne other
  refine ⟨⟨told, kept⟩, done, ⟨ts', store, present, columns, others,
    Tables.indexes_migrate ts _⟩, ⟨?_, rfl⟩, ?_⟩
  · have nothing : pendingColumns (Entity.info α) (ts'.columns table) = [] := by
      rw [pendingColumns_eq, columns, List.map_eq_nil_iff, List.filter_eq_nil_iff]
      intro c listed
      by_cases old : c ∈ ts.columns table
      · simp [old]
      · simp [added, old, listed]
    rw [(run_migrationStatus tables').1, present, if_pos rfl, nothing]
  · obtain ⟨again, store'⟩ := run_migrateTable tables'
    refine ⟨again, ?_⟩
    rw [store', Tables.migrate_migrate, Store.setTables_self tables']

/-- A table of old accounts gets the columns of the new ones behind its own. -/
theorem users_migrated :
    let repo : Repository Sample.User := .direct
    let s : Session Memory.Store :=
      .start (Step.after ∅ [.ask .direct (.createTable Sample.oldUser.info.schema)])
    let migrated := repo.migrateTable.run.run s
    (repo.migrationStatus.run.run s).1 = .ok ⟨true, ["add column users.name",
        "add column users.years", "add column users.nickname", "add column users.balance",
        "add column users.active"]⟩ ∧
      migrated.1 = .ok () ∧
      migrated.2.store.tables.columns "users" =
        ["id", "email", "name", "years", "nickname", "balance", "active"] ∧
      (repo.migrationStatus.run.run migrated.2).1 = .ok ⟨true, []⟩ := by
  intro repo s migrated
  have distinct : (Entity.info Sample.User).columns.Nodup := by decide
  obtain ⟨⟨told, -⟩, done, ⟨ts', store, -, columns, -⟩, ⟨settled, -⟩, -⟩ :=
    migration_does_what_is_pending distinct repo s s.store.tables rfl
  refine ⟨told, done, ?_, settled⟩
  rw [store]
  exact columns

end Repository

end EntityStore
