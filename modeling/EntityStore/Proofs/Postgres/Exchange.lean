import EntityStore.Postgres.Store
import EntityStore.Proofs.Outcome
import EntityStore.Proofs.Session

/-!
# What exchanges send

Every statement takes the next of the server's answers and is sent in the scope of its request;
of the store nothing else changes. To send statements of a kind only is closed under sequencing,
so it is followed from the single statement to every request. No request sends a statement of
those by which transactions are steered.
-/

namespace EntityStore.Postgres

variable {α β : Type}

namespace Store

/-- The server's answer to the next statement. -/
def upcoming (s : Store) : Answer := s.script.headD .plain

/-- The store behind statements that were sent in a scope, each of which took an answer. -/
def speak (s : Store) (scope : Scope) (said : List Sent) : Store :=
  { s with
    script := s.script.drop said.length
    sent := s.sent ++ said.map (scope, ·) }

@[simp]
theorem transactions_speak (s : Store) (scope : Scope) (said : List Sent) :
    (s.speak scope said).transactions = s.transactions := rfl

@[simp]
theorem speak_nil (s : Store) (scope : Scope) : s.speak scope [] = s := by
  simp [speak]

@[simp]
theorem speak_speak (s : Store) (scope : Scope) (said more : List Sent) :
    (s.speak scope said).speak scope more = s.speak scope (said ++ more) := by
  simp [speak]

/-- Whether a connection is to be had for a scope. -/
def grant (s : Store) : Scope → Except StoreError Unit
  | .direct =>
    match s.refusal with
    | some code => .error (.connection (.server code))
    | none => .ok ()
  | .tx id => if s.transactions[id]? = some .held then .ok () else .error .transactionClosed

end Store

/-- Whether the server complains. -/
def Answer.verdict (a : Answer) : Except StoreError Unit :=
  match a.complaint with
  | some c => .error (.query (.server c.code))
  | none => .ok ()

theorem Answer.verdict_eq_ok {a : Answer} : a.verdict = .ok () ↔ a.complaint = none := by
  rw [verdict]
  cases a.complaint <;> simp

/-! ## Single statements -/

namespace Exchange

theorem run_ofExcept (x : Except StoreError α) (t : Talk) : (ofExcept x).run.run t = (x, t) := by
  cases x <;> rfl

theorem run_ofFault (x : Except QueryFault α) (t : Talk) :
    (ofFault x).run.run t = (x.mapError .query, t) := by
  cases x <;> rfl

theorem run_built (x : Except Error α) (t : Talk) :
    (built x).run.run t = (x.mapError .rejected, t) := by
  cases x <;> rfl

theorem run_complain (a : Answer) (t : Talk) : (complain a).run.run t = (a.verdict, t) := by
  rw [complain, Answer.verdict]
  cases a.complaint <;> rfl

theorem run_get (t : Talk) : (get : Exchange Talk).run.run t = (.ok t, t) := rfl

theorem run_acquire (scope : Scope) (t : Talk) :
    (acquire scope).run.run t = (t.store.grant scope, t) := by
  cases scope with
  | direct =>
    rw [acquire, run_bind_ok (run_get t), Store.grant]
    cases t.store.refusal <;> rfl
  | tx id =>
    rw [acquire, run_bind_ok (run_get t), Store.grant]
    rcases t.store.transactions[id]? with _ | ⟨_ | _ | _⟩ <;> rfl

theorem run_acquire_granted {scope : Scope} {s : Store} (connected : s.grant scope = .ok ()) :
    (acquire scope).run.run ⟨s, []⟩ = (.ok (), ⟨s, []⟩) := by
  rw [run_acquire, connected]

/-- A statement takes the answer that comes next. -/
theorem run_nextAnswer (t : Talk) :
    nextAnswer.run.run t =
      (.ok t.store.upcoming, { t with store := { t.store with script := t.store.script.tail } }) := by
  rw [nextAnswer, run_bind_ok (run_get t), Store.upcoming]
  obtain ⟨⟨script, refusal, sent, transactions, logLimit⟩, log⟩ := t
  cases script <;> rfl

theorem run_record (scope : Scope) (m : Sent) (t : Talk) :
    (record scope m).run.run t =
      (.ok (), { t with store := { t.store with sent := t.store.sent ++ [(scope, m)] } }) := rfl

/-- What was sent before the next answer is looked at. -/
theorem run_next_record (scope : Scope) (m : Sent) (t : Talk) :
    (record scope m).run.run
        { t with store := { t.store with script := t.store.script.tail } } =
      (.ok (), { t with store := t.store.speak scope [m] }) := by
  rw [run_record, Store.speak, List.length_singleton, List.drop_one]
  rfl

theorem run_simple (scope : Scope) (sql : String) (t : Talk) :
    (simple scope sql).run.run t =
      (t.store.upcoming.verdict, { t with store := t.store.speak scope [.simple sql] }) := by
  rw [simple, run_bind_ok (run_nextAnswer t), run_bind_ok (run_next_record scope _ t), run_complain]

theorem run_define (scope : Scope) (sql : String) (t : Talk) :
    (define scope sql).run.run t = (t.store.upcoming.verdict,
      ⟨t.store.speak scope [.simple sql], t.log ++ [statementLine t.store.logLimit "ddl" sql 0]⟩) := by
  have logged : (logStatement "ddl" sql 0).run.run t =
      (.ok (), { t with log := t.log ++ [statementLine t.store.logLimit "ddl" sql 0] }) := rfl
  rw [define, run_bind_ok logged, run_simple]

/-- A prepared statement is sent with its parameters, if it comes to that, and answers with what
the server said. -/
theorem run_prepared (scope : Scope) (sql : String) (params : List Param) (t : Talk) :
    ∃ bound result, (prepared scope sql params).run.run t =
        (result, { t with store := t.store.speak scope [.prepared sql bound] }) ∧
      ∀ a, result = .ok a → a = t.store.upcoming := by
  rw [prepared, run_bind_ok (run_nextAnswer t)]
  by_cases early : failsEarly t.store.upcoming
  · obtain ⟨c, complaint⟩ : ∃ c, t.store.upcoming.complaint = some c := by
      cases complaint : t.store.upcoming.complaint with
      | none => simp [failsEarly, complaint] at early
      | some c => exact ⟨c, rfl⟩
    have complains : (complain t.store.upcoming).run.run
        { t with store := t.store.speak scope [.prepared sql none] } =
          (.error (.query (.server c.code)),
            { t with store := t.store.speak scope [.prepared sql none] }) := by
      rw [run_complain, Answer.verdict, complaint]
    rw [if_pos early, run_bind_ok (run_next_record scope _ t), run_bind_error complains]
    exact ⟨none, _, rfl, nofun⟩
  · rw [if_neg early, run_bind_ok (run_next_record scope _ t)]
    cases bound : bindAll (t.store.upcoming.paramTypes sql) params with
    | error fault =>
      rw [run_bind_error (run_ofFault _ _)]
      exact ⟨none, _, rfl, nofun⟩
    | ok cells =>
      rw [run_bind_ok (run_ofFault _ _)]
      cases verdict : t.store.upcoming.verdict with
      | error e =>
        rw [run_bind_error ((run_complain _ _).trans (by rw [verdict]))]
        exact ⟨some cells, _, rfl, nofun⟩
      | ok u =>
        rw [run_bind_ok ((run_complain _ _).trans (by rw [verdict]))]
        refine ⟨some cells, _, rfl, ?_⟩
        intro a answered
        cases answered
        rfl

/-- A statement without a complaint whose parameters fit is answered. -/
theorem run_prepared_bound {scope : Scope} {sql : String} {params : List Param}
    {cells : List Cell} {t : Talk} (quiet : t.store.upcoming.complaint = none)
    (bound : bindAll (t.store.upcoming.paramTypes sql) params = .ok cells) :
    (prepared scope sql params).run.run t = (.ok t.store.upcoming,
      { t with store := t.store.speak scope [.prepared sql (some cells)] }) := by
  have late : ¬failsEarly t.store.upcoming = true := by
    rw [failsEarly, quiet]
    exact Bool.false_ne_true
  have accepted : t.store.upcoming.verdict = .ok () := Answer.verdict_eq_ok.mpr quiet
  rw [prepared, run_bind_ok (run_nextAnswer t), if_neg late,
    run_bind_ok (run_next_record scope _ t), bound, run_bind_ok (run_ofFault _ _)]
  have silent := run_complain t.store.upcoming
    { t with store := t.store.speak scope [.prepared sql (some cells)] }
  rw [accepted] at silent
  exact run_bind_ok silent

theorem run_ask (scope : Scope) (op sql : String) (values : List Value) (t : Talk) :
    ∃ bound result, (ask scope op sql values).run.run t =
        (result, ⟨t.store.speak scope [.prepared sql bound],
          t.log ++ [statementLine t.store.logLimit op sql values.length]⟩) ∧
      ∀ a, result = .ok a → a = t.store.upcoming := by
  have logged : (logStatement op sql values.length).run.run t =
      (.ok (), { t with log := t.log ++ [statementLine t.store.logLimit op sql values.length] }) :=
    rfl
  rw [ask, run_bind_ok logged]
  exact run_prepared scope sql _ _

/-! ## Sending statements of a kind -/

/-- Whatever the talk, the exchange sends statements of a kind in a scope and changes nothing
else of the store. -/
def Sends (scope : Scope) (P : Sent → Prop) (act : Exchange α) : Prop :=
  ∀ t, ∃ said, (∀ m ∈ said, P m) ∧ (act.run.run t).2.store = t.store.speak scope said

section

variable {scope : Scope} {P : Sent → Prop} {act : Exchange α} {next : α → Exchange β}

theorem sends_of_silent (silent : ∀ t, (act.run.run t).2.store = t.store) : Sends scope P act := by
  intro t
  refine ⟨[], nofun, ?_⟩
  rw [silent, Store.speak_nil]

theorem sends_pure (x : α) : Sends scope P (pure x) := sends_of_silent fun _ => rfl

theorem sends_ofExcept (x : Except StoreError α) : Sends scope P (ofExcept x) := by
  apply sends_of_silent
  intro t
  rw [run_ofExcept]

theorem sends_ofFault (x : Except QueryFault α) : Sends scope P (ofFault x) := by
  apply sends_of_silent
  intro t
  rw [run_ofFault]

theorem sends_acquire : Sends scope P (acquire scope) := by
  apply sends_of_silent
  intro t
  rw [run_acquire]

theorem sends_bind (first : Sends scope P act) (rest : ∀ x, Sends scope P (next x)) :
    Sends scope P (act >>= next) := by
  intro t
  obtain ⟨said, allowed, behind⟩ := first t
  obtain ⟨result, mid, ran⟩ : ∃ result mid, act.run.run t = (result, mid) := ⟨_, _, rfl⟩
  rw [ran] at behind
  cases result with
  | error e =>
    rw [run_bind_error ran]
    exact ⟨said, allowed, behind⟩
  | ok x =>
    obtain ⟨more, allowedMore, behindMore⟩ := rest x mid
    refine ⟨said ++ more, ?_, ?_⟩
    · intro m member
      exact (List.mem_append.mp member).elim (allowed m) (allowedMore m)
    · rw [run_bind_ok ran, behindMore, behind, Store.speak_speak]

/-- What follows a part of a statement is reached only with that part. -/
theorem sends_bind_built {x : Except Error α} (rest : ∀ y, x = .ok y → Sends scope P (next y)) :
    Sends scope P (built x >>= next) := by
  cases x with
  | error e => exact sends_of_silent fun _ => rfl
  | ok y => exact rest y rfl

theorem sends_prepared {sql : String} (allowed : ∀ bound, P (.prepared sql bound))
    (params : List Param) : Sends scope P (prepared scope sql params) := by
  intro t
  obtain ⟨bound, result, ran, -⟩ := run_prepared scope sql params t
  refine ⟨[.prepared sql bound], ?_, by rw [ran]⟩
  intro m member
  rw [List.mem_singleton.mp member]
  exact allowed bound

theorem sends_define {sql : String} (allowed : P (.simple sql)) :
    Sends scope P (define scope sql) := by
  intro t
  refine ⟨[.simple sql], ?_, by rw [run_define]⟩
  intro m member
  rwa [List.mem_singleton.mp member]

end

end Exchange

/-! ## Statements that steer transactions -/

/-- The text opens a transaction or steers one. -/
def Steers (sql : String) : Prop :=
  (∃ options : TxOptions, sql = options.beginSql) ∨ ∃ c, Statement.control c = .ok sql

/-- The statement opens a transaction or steers one. -/
def Sent.Steers : Sent → Prop
  | .simple sql => Postgres.Steers sql
  | .prepared .. => False

/-- The first letters by which a text that steers is told from any other. -/
theorem Steers.opening {sql : String} (h : Steers sql) :
    sql.toList.take 2 ∈ [['B', 'E'], ['C', 'O'], ['R', 'O'], ['S', 'A'], ['R', 'E']] := by
  rcases h with ⟨options, rfl⟩ | ⟨c, text⟩
  · simp [TxOptions.beginSql]
  · cases c with
    | commit | rollback =>
      cases text
      simp
    | savepoint name | rollbackTo name | release name =>
      obtain ⟨i, -, rfl⟩ := exists_of_map text
      simp

/-- The text defines a table or an index, or is a ping. -/
def Defines (sql : String) : Prop :=
  sql.toList.take 2 ∈ [['C', 'R'], ['A', 'L'], ['D', 'R'], ['S', 'E']]

theorem Defines.not_steers {sql : String} (h : Defines sql) : ¬Steers sql := by
  intro steers
  have opening := steers.opening
  simp only [Defines, List.mem_cons, List.not_mem_nil, or_false] at h opening
  rcases h with h | h | h | h <;> rw [h] at opening <;> simp at opening

namespace Statement

variable {sql : String}

theorem defines_createTable {schema : TableSchema} (h : createTable schema = .ok sql) :
    Defines sql := by
  obtain ⟨columns, -, h⟩ := exists_of_bind h
  obtain ⟨clause, -, h⟩ := exists_of_bind h
  obtain ⟨table, -, h⟩ := exists_of_bind h
  cases h
  simp [Defines]

theorem defines_addColumn {table : Ident} {f : Field} (h : addColumn table f = .ok sql) :
    Defines sql := by
  obtain ⟨d, -, rfl⟩ := exists_of_map h
  simp [Defines]

theorem defines_dropTable {table : String} (h : dropTable table = .ok sql) : Defines sql := by
  obtain ⟨i, -, rfl⟩ := exists_of_map h
  simp [Defines]

theorem defines_createIndex {index : Index} (h : createIndex index = .ok sql) : Defines sql := by
  obtain ⟨columns, -, h⟩ := exists_of_bind h
  obtain ⟨i, -, h⟩ := exists_of_bind h
  obtain ⟨table, -, h⟩ := exists_of_bind h
  cases h
  simp [Defines]

theorem defines_dropIndex {index : String} (h : dropIndex index = .ok sql) : Defines sql := by
  obtain ⟨i, -, rfl⟩ := exists_of_map h
  simp [Defines]

theorem defines_ping : Defines ping := by
  simp [Defines, ping]

end Statement

/-! ## Requests -/

namespace Exchange

variable {scope : Scope}

section

variable {P : Sent → Prop}

theorem sends_ask {sql : String} (allowed : ∀ bound, P (.prepared sql bound)) (op : String)
    (values : List Value) : Sends scope P (ask scope op sql values) := by
  apply sends_bind
  · exact sends_of_silent fun _ => rfl
  · intro _
    exact sends_prepared allowed _

theorem sends_catalog {sql : String} (allowed : ∀ bound, P (.prepared sql bound)) (op : String)
    (names : List String) : Sends scope P (catalog scope op sql names) := by
  apply sends_bind
  · exact sends_of_silent fun _ => rfl
  · intro _
    exact sends_prepared allowed _

theorem sends_acquired {act : Exchange α} (h : Sends scope P act) :
    Sends scope P (do acquire scope; act) :=
  sends_bind sends_acquire fun _ => h

theorem sends_select {table : String} {q : Compiled}
    (allowed : ∀ i bound, P (.prepared (q.selectSql i).toSql bound)) :
    Sends scope P (perform scope (.select table q)) := by
  apply sends_acquired
  apply sends_bind_built
  intro i _
  exact sends_bind (sends_ask (allowed i) _ _) fun _ => sends_ofExcept _

theorem sends_count {table : String} {q : Compiled}
    (allowed : ∀ i bound, P (.prepared (q.countSql i).toSql bound)) :
    Sends scope P (perform scope (.count table q)) := by
  apply sends_acquired
  apply sends_bind_built
  intro i _
  apply sends_bind (sends_ask (allowed i) _ _)
  intro a
  apply sends_bind (sends_ofFault _)
  intro n
  exact sends_pure _

theorem sends_hasTable (allowed : ∀ bound, P (.prepared Statement.hasTable bound))
    (table : String) : Sends scope P (hasTable scope table) :=
  sends_bind (sends_catalog allowed _ _) fun _ => sends_ofFault _

theorem sends_tableColumns (allowed : ∀ bound, P (.prepared Statement.tableColumns bound))
    (table : String) : Sends scope P (tableColumns scope table) :=
  sends_bind (sends_catalog allowed _ _) fun _ => sends_ofFault _

theorem sends_hasIndex (allowed : ∀ bound, P (.prepared Statement.hasIndex bound))
    (table name : String) : Sends scope P (hasIndex scope table name) :=
  sends_bind (sends_catalog allowed _ _) fun _ => sends_ofFault _

theorem sends_defineBuilt {sql : Except Error String}
    (allowed : ∀ text, sql = .ok text → P (.simple text)) :
    Sends scope P (defineBuilt scope sql) := by
  apply sends_bind_built
  intro text made
  apply sends_bind sends_acquire
  intro _
  exact sends_define (allowed text made)

end

/-- The statement is one of a request, not one that steers. -/
abbrev Plain (m : Sent) : Prop := ¬m.Steers

theorem plain_prepared {sql : String} (bound : Option (List Cell)) : Plain (.prepared sql bound) := id

theorem sends_insert (table : String) (rows : List Record) (returning : List String) :
    Sends scope Plain (insert scope table rows returning) := by
  unfold insert
  by_cases none : rows.isEmpty
  · rw [if_pos none]
    exact sends_pure _
  · rw [if_neg none]
    apply sends_bind_built
    intro q _
    apply sends_bind (sends_ask plain_prepared _ _)
    intro a
    by_cases nothing : returning.isEmpty
    · rw [if_pos nothing]
      exact sends_pure _
    · rw [if_neg nothing]
      exact sends_ofExcept _

theorem sends_addColumns (table : Ident) (fields : List Field) :
    Sends scope Plain (addColumns scope table fields) := by
  induction fields with
  | nil => exact sends_pure _
  | cons f fields ih =>
    apply sends_bind_built
    intro sql text
    apply sends_bind (sends_define (Statement.defines_addColumn text).not_steers)
    intro _
    exact ih

theorem sends_migrate (schema : TableSchema) : Sends scope Plain (migrate scope schema) := by
  apply sends_bind (sends_hasTable plain_prepared _)
  rintro (_ | _)
  · apply sends_bind_built
    intro sql text
    exact sends_define (Statement.defines_createTable text).not_steers
  · apply sends_bind (sends_tableColumns plain_prepared _)
    intro live
    apply sends_bind_built
    intro table _
    exact sends_addColumns table _

theorem sends_change (op : String) (q : Except Error Sql) :
    Sends scope Plain (change scope op q) := by
  apply sends_bind_built
  intro q _
  apply sends_bind sends_acquire
  intro _
  apply sends_bind (sends_ask plain_prepared _ _)
  intro a
  exact sends_pure _

theorem sends_defined {sql : Except Error String}
    (defines : ∀ text, sql = .ok text → Defines text) :
    Sends scope Plain (defineBuilt scope sql) :=
  sends_defineBuilt fun text made => (defines text made).not_steers

/-- A request sends statements in its scope, none of which steers a transaction, and leaves the
transactions as they are. -/
theorem sends_perform (scope : Scope) (r : Request α) : Sends scope Plain (perform scope r) := by
  cases r with
  | select table q => exact sends_select fun _ => plain_prepared
  | count table q => exact sends_count fun _ => plain_prepared
  | insert table rows returning => exact sends_acquired (sends_insert table rows returning)
  | update table changes filters => exact sends_change _ _
  | delete table filters => exact sends_change _ _
  | rawQuery sql args =>
    exact sends_acquired (sends_bind (sends_ask plain_prepared _ _) fun _ => sends_ofExcept _)
  | rawExec sql args =>
    exact sends_acquired (sends_bind (sends_ask plain_prepared _ _) fun _ => sends_pure _)
  | hasTable table => exact sends_acquired (sends_hasTable plain_prepared table)
  | createTable schema => exact sends_defined fun _ => Statement.defines_createTable
  | dropTable table => exact sends_defined fun _ => Statement.defines_dropTable
  | migrateTable schema => exact sends_acquired (sends_migrate schema)
  | tableColumns table => exact sends_acquired (sends_tableColumns plain_prepared table)
  | hasIndex table name => exact sends_acquired (sends_hasIndex plain_prepared table name)
  | createIndex index => exact sends_defined fun _ => Statement.defines_createIndex
  | dropIndex table name => exact sends_defined fun _ => Statement.defines_dropIndex
  | ping =>
    apply sends_defined
    intro text made
    cases made
    exact Statement.defines_ping

theorem store_acquired_of_refused {act : Exchange α} {t : Talk} {e : StoreError}
    (refused : t.store.grant scope = .error e) :
    ((do acquire scope; act).run.run t).2.store = t.store := by
  have acquired := run_acquire scope t
  rw [refused] at acquired
  rw [run_bind_error acquired]

theorem store_built_of_refused {x : Except Error α} {act : α → Exchange β} {t : Talk}
    {e : StoreError} (refused : t.store.grant scope = .error e) :
    ((do let y ← built x; acquire scope; act y).run.run t).2.store = t.store := by
  cases x with
  | error err => rfl
  | ok y => exact store_acquired_of_refused refused

/-- A request that gets no connection sends nothing. -/
theorem store_perform_of_refused {r : Request α} {t : Talk} {e : StoreError}
    (refused : t.store.grant scope = .error e) : ((perform scope r).run.run t).2.store = t.store := by
  cases r with
  | update | delete | createTable | dropTable | createIndex | dropIndex | ping =>
    exact store_built_of_refused refused
  | _ => exact store_acquired_of_refused refused

end Exchange

end EntityStore.Postgres
