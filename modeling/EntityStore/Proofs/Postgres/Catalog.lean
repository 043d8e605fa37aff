import EntityStore.Proofs.Postgres.Step
import EntityStore.Repository.Migration

/-!
# Questions of the catalog

Whether there is a table and which columns it has is asked with the name of the table as the only
parameter. An answer without a complaint that takes the name for a text is told on. So the requests
can be followed in which a table is created and then compared with its entity.
-/

namespace EntityStore.Postgres

/-! ## Answers -/

/-- The answer to a question of the catalog on one name, which the server takes for a text. -/
structure Answer.OnName (a : Answer) (sql : String) : Prop where
  params : ∃ type : ServerType, type.isText ∧ a.paramTypes sql = [type]
  complaint : a.complaint = none

def Answer.Finds (a : Answer) (there : Bool) : Prop :=
  a.OnName Statement.hasTable ∧ Exchange.onlyRow a >>= Exchange.boolCell a = .ok there

def Answer.Lists (a : Answer) (names : List String) : Prop :=
  a.OnName Statement.tableColumns ∧ a.rows.mapM (Exchange.textCell a) = .ok names

/-- The statement of the catalog with a name for its parameter. -/
def Sent.onName (sql name : String) : Sent := .prepared sql (some [some (Wire.ofText name)])

section

variable {scope : Scope} {sql name : String} {t : Talk} {s : Store}

namespace Exchange

theorem run_catalog (op : String) (taken : t.store.upcoming.OnName sql) :
    (catalog scope op sql [name]).run.run t =
      (.ok t.store.upcoming, ⟨t.store.speak scope [.onName sql name],
        t.log ++ [statementLine t.store.logLimit op sql 1]⟩) := by
  obtain ⟨⟨type, textual, types⟩, quiet⟩ := taken
  have logged : (logStatement op sql 1).run.run t =
      (.ok (), { t with log := t.log ++ [statementLine t.store.logLimit op sql 1] }) := rfl
  have fits : Param.ofName name type = some (some (Wire.ofText name)) := if_pos textual
  have bound : bindAll (t.store.upcoming.paramTypes sql) [.ofName name] =
      .ok [some (Wire.ofText name)] := by
    rw [types]
    change bind 0 [type] [.ofName name] = _
    rw [bind, fits]
    rfl
  change (logStatement op sql 1 >>= fun _ => prepared scope sql [.ofName name]).run.run t = _
  rw [run_bind_ok logged]
  exact run_prepared_bound quiet bound

end Exchange

/-! ### Requests -/

section

variable (connected : s.grant scope = .ok ())

include connected

theorem run_question {β : Type} {read : Answer → Except QueryFault β} {x : β} (op : String)
    (taken : s.upcoming.OnName sql) (told : read s.upcoming = .ok x) :
    (do
      Exchange.acquire scope
      let a ← Exchange.catalog scope op sql [name]
      Exchange.ofFault (read a) : Exchange β).run.run ⟨s, []⟩ =
      (.ok x, ⟨s.speak scope [.onName sql name], [statementLine s.logLimit op sql 1]⟩) := by
  have asked : (Exchange.catalog scope op sql [name]).run.run ⟨s, []⟩ = _ :=
    Exchange.run_catalog op taken
  rw [run_bind_ok (Exchange.run_acquire_granted connected), run_bind_ok asked, Exchange.run_ofFault, told]
  rfl

theorem perform_hasTable {there : Bool} (told : s.upcoming.Finds there) : ∃ log,
    EntityStore.Store.perform scope (.hasTable name) s =
      ⟨.ok there, s.speak scope [.onName Statement.hasTable name], log⟩ := by
  have ran : (Exchange.perform scope (.hasTable name)).run.run ⟨s, []⟩ = _ :=
    run_question connected "has_table" told.1 told.2
  exact ⟨_, Store.perform_of_run ran⟩

theorem perform_tableColumns {names : List String} (told : s.upcoming.Lists names) : ∃ log,
    EntityStore.Store.perform scope (.tableColumns name) s =
      ⟨.ok names, s.speak scope [.onName Statement.tableColumns name], log⟩ := by
  have ran : (Exchange.perform scope (.tableColumns name)).run.run ⟨s, []⟩ = _ :=
    run_question connected "table_columns" told.1 told.2
  exact ⟨_, Store.perform_of_run ran⟩

theorem perform_createTable {schema : TableSchema} (made : Statement.createTable schema = .ok sql)
    (quiet : s.upcoming.complaint = none) : ∃ log,
    EntityStore.Store.perform scope (.createTable schema) s =
      ⟨.ok (), s.speak scope [.simple sql], log⟩ := by
  have built : (Exchange.built (Statement.createTable schema)).run.run ⟨s, []⟩ =
      (.ok sql, ⟨s, []⟩) := by
    rw [Exchange.run_built, made]
    rfl
  have ran : (Exchange.perform scope (.createTable schema)).run.run ⟨s, []⟩ =
      (.ok (), ⟨s.speak scope [.simple sql], [statementLine s.logLimit "ddl" sql 0]⟩) := by
    rw [Exchange.perform, Exchange.defineBuilt, run_bind_ok built,
      run_bind_ok (Exchange.run_acquire_granted connected), Exchange.run_define,
      Answer.verdict_eq_ok.mpr quiet]
    rfl
  exact ⟨_, Store.perform_of_run ran⟩

end

end

/-! ## Tables of entities -/

section

variable {α : Type} {s : Session Store}

theorem run_ask_answered {scope : Scope} {r : Request α} {x : α} {left : Store}
    {log : List LogLine}
    (performed : EntityStore.Store.perform scope r s.store = ⟨.ok x, left, log⟩) :
    ∃ s', (Action.ask scope r).run.run s = (.ok x, s') ∧ s'.store = left := by
  rw [run_ask, performed]
  exact ⟨_, rfl, rfl⟩

theorem grant_speak (s : Store) (scope : Scope) (said : List Sent) :
    (s.speak scope said).grant scope = s.grant scope := by
  cases scope <;> rfl

theorem upcoming_speak (s : Store) (scope : Scope) (said : List Sent) :
    (s.speak scope said).upcoming = (s.script.drop said.length).headD .plain := rfl

variable [Entity α] {repo : Repository α} (connected : s.store.grant repo.scope = .ok ())

include connected

/-- A table that the server does not know is defined. -/
theorem run_createTable {sql : String} (missing : s.store.upcoming.Finds false)
    (made : Statement.createTable (Entity.info α).schema = .ok sql)
    (quiet : ((s.store.script.drop 1).headD .plain).complaint = none) :
    ∃ s', repo.createTable.run.run s = (.ok (), s') ∧ s'.store = s.store.speak repo.scope
      [.onName Statement.hasTable (Entity.info α).table, .simple sql] := by
  obtain ⟨log, performed⟩ : ∃ log,
      EntityStore.Store.perform repo.scope (.hasTable (Entity.info α).table) s.store = _ :=
    perform_hasTable connected missing
  obtain ⟨mid, asked, looked⟩ := run_ask_answered performed
  have granted : mid.store.grant repo.scope = .ok () := by rw [looked, grant_speak, connected]
  have accepted : mid.store.upcoming.complaint = none := by
    rw [looked, upcoming_speak]
    exact quiet
  obtain ⟨log, performed⟩ := perform_createTable granted made accepted
  obtain ⟨s', defined, behind⟩ := run_ask_answered performed
  rw [looked, Store.speak_speak] at behind
  refine ⟨s', ?_, behind⟩
  rw [Repository.createTable, run_bind_ok asked]
  exact defined

/-- The status of a table that the server knows lacks the columns that are not listed. -/
theorem run_migrationStatus {names : List String} (found : s.store.upcoming.Finds true)
    (lists : ((s.store.script.drop 1).headD .plain).Lists names) :
    ∃ s', repo.migrationStatus.run.run s =
        (.ok ⟨true, Repository.pendingColumns (Entity.info α) names⟩, s') ∧
      s'.store = s.store.speak repo.scope [.onName Statement.hasTable (Entity.info α).table,
        .onName Statement.tableColumns (Entity.info α).table] := by
  obtain ⟨log, performed⟩ : ∃ log,
      EntityStore.Store.perform repo.scope (.hasTable (Entity.info α).table) s.store = _ :=
    perform_hasTable connected found
  obtain ⟨mid, asked, looked⟩ := run_ask_answered performed
  have granted : mid.store.grant repo.scope = .ok () := by rw [looked, grant_speak, connected]
  have listed : mid.store.upcoming.Lists names := by
    rw [looked, upcoming_speak]
    exact lists
  obtain ⟨log, performed⟩ : ∃ log,
      EntityStore.Store.perform repo.scope (.tableColumns (Entity.info α).table) mid.store = _ :=
    perform_tableColumns granted listed
  obtain ⟨s', told, behind⟩ := run_ask_answered performed
  rw [looked, Store.speak_speak] at behind
  refine ⟨s', ?_, behind⟩
  rw [Repository.migrationStatus, run_bind_ok asked, if_pos rfl, run_bind_ok told]
  rfl

end

/-- The server knows no table, accepts the definition of one, and finds it then with columns of
these names. -/
structure Store.Creates (s : Store) (scope : Scope) (names : List String) : Prop where
  connected : s.grant scope = .ok ()
  answers : ∃ absent defined present listed rest,
    s.script = absent :: defined :: present :: listed :: rest ∧
      absent.Finds false ∧ defined.complaint = none ∧ present.Finds true ∧ listed.Lists names

/-- What is sent when a table is created and then compared with its entity. -/
def creation (table sql : String) : List Sent :=
  [.onName Statement.hasTable table, .simple sql, .onName Statement.hasTable table,
    .onName Statement.tableColumns table]

theorem run_status_of_created {α : Type} [Entity α] {repo : Repository α} {s : Session Store}
    {names : List String} {sql : String}
    (made : Statement.createTable (Entity.info α).schema = .ok sql)
    (creates : s.store.Creates repo.scope names) :
    ∃ s', (do repo.createTable; repo.migrationStatus : Action Store _).run.run s =
        (.ok ⟨true, Repository.pendingColumns (Entity.info α) names⟩, s') ∧
      s'.store = s.store.speak repo.scope (creation (Entity.info α).table sql) := by
  obtain ⟨connected, absent, defined, present, listed, rest, script, absents, quiet, presents,
    lists⟩ := creates
  have missing : s.store.upcoming.Finds false := by
    rw [Store.upcoming, script]
    exact absents
  have accepted : ((s.store.script.drop 1).headD .plain).complaint = none := by
    rw [script]
    exact quiet
  obtain ⟨mid, created, defines⟩ := run_createTable connected missing made accepted
  have granted : mid.store.grant repo.scope = .ok () := by rw [defines, grant_speak, connected]
  have found : mid.store.upcoming.Finds true := by
    rw [defines, upcoming_speak, script]
    exact presents
  have told : ((mid.store.script.drop 1).headD .plain).Lists names := by
    rw [defines, Store.speak, script]
    exact lists
  obtain ⟨s', ran, behind⟩ := run_migrationStatus granted found told
  rw [defines, Store.speak_speak] at behind
  exact ⟨s', (run_bind_ok created).trans ran, behind⟩

end EntityStore.Postgres
