import EntityStore.Proofs.Memory.Caution
import EntityStore.Proofs.Postgres.Migration

/-!
# Validation errors

An operation that fails with a validation error has not changed anything: on either store what is
refused is refused before the first write. The one exception is a migration on the server of a
table that is there, which is refused for a column's name after it has added the columns in front.
-/

namespace EntityStore

/-- A request that failed did so with the error of the store. -/
theorem exists_error_of_ask {σ β : Type} [Store σ] {scope : Scope} {r : Request β} {s : Session σ}
    {err : Error} (failed : failure? ((Action.ask scope r).run.run s).1 = some err) :
    ∃ e, (Store.perform scope r s.store).result = .error e ∧ e.classify = err := by
  rw [run_ask] at failed
  cases result : (Store.perform scope r s.store).result with
  | ok x =>
    rw [result] at failed
    cases failed
  | error e =>
    rw [result] at failed
    exact ⟨e, rfl, Option.some.inj failed⟩

/-- Whatever operation fails with a validation error, in memory all tables are as they were and no
transaction has changed, and on a server no statement was sent that changes rows or tables, unless
the operation is a migration and stumbles. A migration that stumbles fails with a validation error,
and it has sent such a statement. -/
theorem validation_errors_come_first {α : Type} [Entity α] (lawful : Entity.LawfulRows α)
    (repo : Repository α) :
    (∀ {β : Type} (op : Operation α β) (s : Session Memory.Store) (err : Error),
      op.error? ((op.run repo).run s).1 = some err → err.kind = .validation →
        Memory.Store.Alike s.store ((op.run repo).run s).2.store) ∧
    (∀ {β : Type} (op : Operation α β) (s : Session Postgres.Store) (err : Error),
      op.error? ((op.run repo).run s).1 = some err → err.kind = .validation →
        s.store.Unwritten ((op.run repo).run s).2.store ∨
          op.Migrates ∧ s.store.Stumbles repo.scope (Entity.info α).schema) ∧
    ∀ s : Session Postgres.Store, s.store.Stumbles repo.scope (Entity.info α).schema →
      ∃ err, (repo.migrateTable.run.run s).1 = .error err ∧ err.kind = .validation ∧
        ¬s.store.Unwritten (repo.migrateTable.run.run s).2.store := by
  refine ⟨?memory, ?server, ?stumbling⟩
  case memory =>
    intro β op s err failed refuses
    refine op.kept_of_refuses Memory.Store.cautious lawful repo (fun _ => ?_) failed refuses
    exact Repository.wary_ask_of_kept fun refused _ => Memory.Store.alike_perform_of_refused refused
  case server =>
    intro β op s err failed refuses
    by_cases migrates : op.Migrates
    · cases op with
      | migrateTable =>
        obtain ⟨e, refused, rfl⟩ := exists_error_of_ask failed
        change s.store.Unwritten (repo.migrateTable.run.run s).2.store ∨ _
        rw [Repository.migrateTable, run_ask]
        exact (Postgres.Store.unwritten_or_stumbles refused refuses).imp_right (⟨trivial, ·⟩)
      | _ => cases migrates
    · left
      exact op.kept_of_refuses Postgres.Store.cautious lawful repo (absurd · migrates) failed refuses
  case stumbling =>
    intro s stumbles
    obtain ⟨err, refuses, refused, written⟩ := stumbles.refused
    rw [Repository.migrateTable, run_ask, refused]
    exact ⟨err, rfl, refuses, written⟩

/-! ## A column that cannot be added -/

section

def numberColumn : ColumnSpec := { name := "id", type := .int64, primaryKey := true }

def dueColumn : ColumnSpec := { name := "due", column := "due date", type := .option .timestamp }

def reminder : Layout := { name := "Reminder", table := "reminders", columns := [numberColumn, dueColumn] }

instance : Entity (reminder.Item Unit) := reminder.entity {}

/-- The server has the table of reminders, which has no column yet. -/
def bareTable : Postgres.Store :=
  .scripted
    [⟨some [.text], [("exists", .bool)], [[some [1]]], "SELECT 1", none⟩,
      ⟨some [.text], [("column_name", .text)], [], "SELECT 0", none⟩]

theorem ident_number : Query.ident numberColumn.column = .ok ⟨[.plain "id"]⟩ := by cbv

theorem ident_due : Query.ident dueColumn.column =
    .error (.validation "invalid identifier 'due date': unexpected character ' '") := by
  have fault : Ident.parse "due date" = .error (.unexpected ' ') := by cbv
  have message : (Ident.Fault.unexpected ' ').message "due date" =
      "invalid identifier 'due date': unexpected character ' '" := by decide
  change Query.ident "due date" = _
  rw [Query.ident, Query.checkIdent, fault]
  exact congrArg (fun m => Except.error (Error.validation m)) message

theorem ident_reminders : Query.ident "reminders" = .ok ⟨[.plain "reminders"]⟩ := by cbv

theorem bareTable_stumble : ∃ mid t, Postgres.Exchange.Stumble bareTable .direct
    (Entity.info (reminder.Item Unit)).schema mid t [] [numberColumn.field] dueColumn.field [] := by
  refine ⟨_, _, rfl, rfl, rfl, ⟨_, ident_reminders⟩, rfl, List.cons_ne_nil _ _, ?_, ⟨_, ident_due⟩,
    List.forall_mem_nil _⟩
  intro g member
  rw [List.mem_singleton.mp member]
  exact ⟨_, ident_number⟩

/-- Changes of nothing are refused on either store; and on the server with the bare table so is the
migration, behind its first column. -/
theorem reminder_operations_refused :
    let repo : Repository (reminder.Item Unit) := .direct
    let idle : Operation (reminder.Item Unit) (Except Error Unit) := .updatePartial (.int 1) .empty
    Memory.Store.Alike ∅ ((idle.run repo).run (Session.start (∅ : Memory.Store))).2.store ∧
      bareTable.Unwritten ((idle.run repo).run (Session.start bareTable)).2.store ∧
      ∃ err, (repo.migrateTable.run.run (Session.start bareTable)).1 = .error err ∧
        err.kind = .validation ∧
        ¬bareTable.Unwritten (repo.migrateTable.run.run (Session.start bareTable)).2.store := by
  intro repo idle
  obtain ⟨memory, server, stumbling⟩ := validation_errors_come_first
    (α := reminder.Item Unit) (Layout.lawfulRows {}) repo
  obtain ⟨mid, t, stumble⟩ := bareTable_stumble
  refine ⟨memory idle (.start ∅) Repository.noChanges rfl rfl, ?_, ?_⟩
  · rcases server idle (.start bareTable) Repository.noChanges rfl rfl with unwritten | ⟨migrates, -⟩
    · exact unwritten
    · cases migrates
  · exact stumbling (.start bareTable) ⟨mid, t, _, _, _, _, stumble⟩

theorem added_number : Postgres.Statement.addColumn ⟨[.plain "reminders"]⟩ numberColumn.field =
    .ok "ALTER TABLE reminders ADD COLUMN IF NOT EXISTS id BIGSERIAL" := by
  have named : Query.ident numberColumn.field.column = .ok ⟨[.plain "id"]⟩ := ident_number
  rw [Postgres.Statement.addColumn, Postgres.Statement.columnDefinition,
    Postgres.Statement.column_addedField, named]
  rfl

/-- The migration of reminders is refused for the name of the second column. By then the server has
been told to add the first. -/
theorem column_added_before_refusal :
    let outcome := (Repository.direct : Repository (reminder.Item Unit)).migrateTable.run.run
      (Session.start bareTable)
    outcome.1 = .error (.validation "invalid identifier 'due date': unexpected character ' '") ∧
      outcome.2.store.sent.getLast? =
        some (.direct, .simple "ALTER TABLE reminders ADD COLUMN IF NOT EXISTS id BIGSERIAL") := by
  obtain ⟨mid, t, stumble⟩ := bareTable_stumble
  obtain ⟨t', err, table, texts, ran, named, stop, made, behind⟩ := stumble.run
  cases ident_due.symm.trans stop
  cases ident_reminders.symm.trans named
  cases made with
  | cons here rest =>
    cases rest
    cases added_number.symm.trans here
    have replied : (Store.perform .direct (.migrateTable
        (Entity.info (reminder.Item Unit)).schema) bareTable).result = _ := congrArg Prod.fst ran
    have left : (Store.perform .direct (.migrateTable
        (Entity.info (reminder.Item Unit)).schema) bareTable).store = _ := congrArg (·.2.store) ran
    rw [Repository.migrateTable, run_ask]
    dsimp only
    change (Store.perform .direct (.migrateTable _) bareTable).result.mapError _ = _ ∧
      (Store.perform .direct (.migrateTable _) bareTable).store.sent.getLast? = _
    rw [replied, left, behind]
    refine ⟨rfl, ?_⟩
    simp [Postgres.Store.speak]

end

end EntityStore
