import EntityStore.Proofs.Postgres.Step
import EntityStore.Proofs.Repository.Caution
import EntityStore.Proofs.Sql.Binding

/-!
# Caution on the server

Which statements write is told from their first word. Every request builds what it sends before
it sends it, so one that is refused has sent nothing that writes. Only a migration of a table that
is there builds one statement for each column that is missing, behind the one that it has sent for
the column before.
-/

namespace EntityStore.Postgres

variable {α β : Type}

/-- The words that a statement begins with which changes rows or tables. -/
def writingWords : List String := ["INSERT", "UPDATE", "DELETE", "CREATE", "ALTER", "DROP"]

/-- The text of a statement that changes rows or tables. -/
def Writes (sql : String) : Prop := ∃ word ∈ writingWords, word.toList <+: sql.toList

def Sent.text : Sent → String
  | .simple sql | .prepared sql _ => sql

def Sent.Writes (m : Sent) : Prop := Postgres.Writes m.text

theorem Writes.opening {sql : String} (h : Writes sql) :
    sql.toList.head? ∈ [some 'I', some 'U', some 'D', some 'C', some 'A'] := by
  obtain ⟨word, member, rest, text⟩ := h
  rw [← text]
  simp only [writingWords, List.mem_cons, List.not_mem_nil, or_false] at member
  rcases member with rfl | rfl | rfl | rfl | rfl | rfl <;> simp

theorem not_writes_append {first : String} (rest : String)
    (other : first.toList.head? ∈ [some 'S', some 'B', some 'R']) : ¬Writes (first ++ rest) := by
  intro writes
  have opening := writes.opening
  rw [String.toList_append] at opening
  cases letters : first.toList with
  | nil => simp [letters] at other
  | cons c cs =>
    rw [letters] at other opening
    simp only [List.head?_cons, List.cons_append, List.mem_cons, List.not_mem_nil, or_false] at other opening
    rcases other with h | h | h <;> simp [h] at opening

namespace Statement

theorem select_not_writes (q : Compiled) (table : Ident) : ¬Writes (q.selectSql table).toSql := by
  rw [Sql.toSql, q.selectSql_eq, Sql.render_ofItems]
  exact not_writes_append _ (by simp)

theorem count_not_writes (q : Compiled) (table : Ident) : ¬Writes (q.countSql table).toSql := by
  rw [Sql.toSql, q.countSql_eq, Sql.render_ofItems, Compiled.countItems, Compiled.countOpening]
  split <;> exact not_writes_append _ (by simp)

theorem hasTable_not_writes : ¬Writes hasTable := not_writes_append _ (by simp)

theorem tableColumns_not_writes : ¬Writes tableColumns := not_writes_append _ (by simp)

theorem hasIndex_not_writes : ¬Writes hasIndex := not_writes_append _ (by simp)

theorem ping_not_writes : ¬Writes ping := fun writes => by simpa [ping] using writes.opening

theorem begin_not_writes (options : TxOptions) : ¬Writes options.beginSql := by
  rw [TxOptions.beginSql, String.append_assoc]
  exact not_writes_append _ (by simp)

theorem rollback_not_writes : ¬Writes "ROLLBACK" := fun writes => by simpa using writes.opening

end Statement

/-! ## Stores that were not written to -/

/-- Of what was sent between two states nothing writes. -/
def Store.Unwritten (s s' : Store) : Prop :=
  ∃ said, s'.sent = s.sent ++ said ∧ ∀ m ∈ said, ¬m.2.Writes

namespace Store

variable {s s' s'' : Store}

theorem Unwritten.refl (s : Store) : s.Unwritten s := ⟨[], (List.append_nil _).symm, nofun⟩

theorem Unwritten.trans (h : s.Unwritten s') (h' : s'.Unwritten s'') : s.Unwritten s'' := by
  obtain ⟨said, sent, plain⟩ := h
  obtain ⟨more, later, plain'⟩ := h'
  refine ⟨said ++ more, by rw [later, sent, List.append_assoc], ?_⟩
  intro m member
  exact (List.mem_append.mp member).elim (plain m) (plain' m)

theorem unwritten_speak {scope : Scope} {said : List Sent} (plain : ∀ m ∈ said, ¬m.Writes) :
    s.Unwritten (s.speak scope said) := by
  refine ⟨_, rfl, ?_⟩
  intro m member
  obtain ⟨text, inSaid, rfl⟩ := List.mem_map.mp member
  exact plain text inSaid

end Store

/-! ## Exchanges -/

namespace Exchange

/-- The exchange sends nothing that writes. -/
abbrev Still (act : Exchange α) : Prop :=
  EntityStore.Still (fun t t' => t.store.Unwritten t'.store) act

/-- The exchange refuses nothing. -/
abbrev Firm (act : Exchange α) : Prop := EntityStore.Firm StoreError.Refuses act

/-- Before the exchange refuses something it sends nothing that writes. -/
abbrev Wary (act : Exchange α) : Prop :=
  EntityStore.Wary (fun t t' => t.store.Unwritten t'.store) StoreError.Refuses act

variable {scope : Scope} {act : Exchange α} {next : α → Exchange β}

theorem still_of_sends (sends : Sends scope (¬·.Writes) act) : Still act := by
  intro t
  obtain ⟨said, plain, behind⟩ := sends t
  rw [behind]
  exact Store.unwritten_speak plain

theorem still_acquire : Still (acquire scope) := still_of_sends sends_acquire

theorem wary_behind (still : Still act) (rest : ∀ x, Wary (next x)) : Wary (act >>= next) :=
  EntityStore.Wary.behind rest Store.Unwritten.trans still

/-- What is refused for a part of a statement is refused before it is sent. -/
theorem wary_built {x : Except Error α} (rest : ∀ y, x = .ok y → Firm (next y)) :
    Wary (built x >>= next) := by
  cases x with
  | error e =>
    refine EntityStore.Still.wary fun t => ?_
    exact .refl t.store
  | ok y => exact EntityStore.Firm.wary (rest y rfl)

/-! ### What refuses nothing -/

theorem firm_of_succeeds (succeeds : ∀ t, ∃ x t', act.run.run t = (.ok x, t')) : Firm act := by
  intro t e t' ran
  obtain ⟨x, behind, done⟩ := succeeds t
  rw [done] at ran
  cases ran

theorem firm_ofExcept {x : Except StoreError α} (h : ∀ e, x = .error e → ¬e.Refuses) :
    Firm (ofExcept x) := by
  intro t e t' ran
  rw [run_ofExcept] at ran
  exact h e (Prod.mk.inj ran).1

theorem query_not_refuses (fault : QueryFault) : ¬(StoreError.query fault).Refuses := by
  rw [StoreError.refuses_iff]
  rintro ⟨err, same, -⟩
  cases same

theorem firm_ofFault (x : Except QueryFault α) : Firm (ofFault x) := by
  intro t e t' ran
  rw [run_ofFault] at ran
  obtain ⟨failed, -⟩ := Prod.mk.inj ran
  cases x with
  | error fault =>
    cases failed
    exact query_not_refuses fault
  | ok y => cases failed

theorem firm_complain (a : Answer) : Firm (complain a) := by
  intro t e t' ran
  rw [run_complain, Answer.verdict] at ran
  obtain ⟨failed, -⟩ := Prod.mk.inj ran
  split at failed
  · cases failed
    exact query_not_refuses _
  · cases failed

theorem firm_acquire : Firm (acquire scope) := by
  intro t e t' ran
  rw [run_acquire] at ran
  obtain ⟨failed, -⟩ := Prod.mk.inj ran
  unfold Store.grant at failed
  split at failed
  · split at failed
    · cases failed
      exact nofun
    · cases failed
  · split at failed
    · cases failed
    · cases failed
      exact nofun

theorem firm_nextAnswer : Firm nextAnswer := firm_of_succeeds fun t => ⟨_, _, run_nextAnswer t⟩

theorem firm_record (m : Sent) : Firm (record scope m) :=
  firm_of_succeeds fun t => ⟨_, _, run_record scope m t⟩

theorem firm_logStatement (op sql : String) (params : Nat) : Firm (logStatement op sql params) :=
  firm_of_succeeds fun _ => ⟨_, _, rfl⟩

theorem firm_simple (sql : String) : Firm (simple scope sql) := by
  refine firm_nextAnswer.bind fun a => ?_
  exact (firm_record _).bind fun _ => firm_complain a

theorem firm_define (sql : String) : Firm (define scope sql) :=
  (firm_logStatement _ _ _).bind fun _ => firm_simple sql

theorem firm_prepared (sql : String) (params : List Param) : Firm (prepared scope sql params) := by
  refine firm_nextAnswer.bind fun a => ?_
  split
  · refine (firm_record _).bind fun _ => ?_
    exact (firm_complain a).bind fun _ => firm_pure a
  · refine (firm_record _).bind fun _ => ?_
    refine (firm_ofFault _).bind fun _ => ?_
    exact (firm_complain a).bind fun _ => firm_pure a

theorem firm_ask (op sql : String) (values : List Value) : Firm (ask scope op sql values) :=
  (firm_logStatement _ _ _).bind fun _ => firm_prepared sql _

theorem firm_catalog (op sql : String) (names : List String) : Firm (catalog scope op sql names) :=
  (firm_logStatement _ _ _).bind fun _ => firm_prepared sql _

theorem decodeFrom_not_refuses {index : Nat} {columns : List (String × ServerType)}
    {cells : List Cell} {e : StoreError} (failed : decodeFrom index columns cells = .error e) :
    ¬e.Refuses := by
  induction columns generalizing index cells with
  | nil => cases failed
  | cons c columns ih =>
    obtain ⟨column, type⟩ := c
    rcases error_of_bind failed with here | ⟨v, -, rest⟩
    · unfold decodeCell at here
      split at here
      · cases here
        exact nofun
      · cases here
      · split at here
        · cases here
        · cases here
          exact nofun
    · rcases error_of_bind rest with later | ⟨vs, -, done⟩
      · exact ih later
      · cases done

theorem firm_records (a : Answer) : Firm (records a) := by
  refine firm_ofExcept ?_
  generalize a.rows = rows
  intro e failed
  induction rows with
  | nil => cases failed
  | cons row rows ih =>
    rw [List.mapM_cons] at failed
    rcases error_of_bind failed with here | ⟨r, -, rest⟩
    · rw [decodeRow] at here
      cases decoded : decodeFrom 0 a.columns row with
      | ok pairs =>
        rw [decoded] at here
        cases here
      | error e' =>
        rw [decoded] at here
        cases here
        exact decodeFrom_not_refuses decoded
    · rcases error_of_bind rest with later | ⟨rs, -, done⟩
      · exact ih later
      · cases done

theorem firm_hasTable (table : String) : Firm (hasTable scope table) :=
  (firm_catalog _ _ _).bind fun _ => firm_ofFault _

theorem firm_tableColumns (table : String) : Firm (tableColumns scope table) :=
  (firm_catalog _ _ _).bind fun _ => firm_ofFault _

/-! ### Requests -/

theorem sends_of_reads {r : Request α} (reads : r.ReadOnly) :
    Sends scope (¬·.Writes) (perform scope r) := by
  cases r with
  | select table q => exact sends_select fun i _ => Statement.select_not_writes q i
  | count table q => exact sends_count fun i _ => Statement.count_not_writes q i
  | hasTable table =>
    exact sends_acquired (sends_hasTable (fun _ => Statement.hasTable_not_writes) table)
  | tableColumns table =>
    exact sends_acquired (sends_tableColumns (fun _ => Statement.tableColumns_not_writes) table)
  | hasIndex table name =>
    exact sends_acquired (sends_hasIndex (fun _ => Statement.hasIndex_not_writes) table name)
  | ping =>
    refine sends_defineBuilt fun text made => ?_
    cases made
    exact Statement.ping_not_writes
  | _ => cases reads

theorem still_of_reads {r : Request α} (reads : r.ReadOnly) : Still (perform scope r) :=
  still_of_sends (sends_of_reads reads)

theorem wary_change (op : String) (q : Except Error Sql) : Wary (change scope op q) := by
  refine wary_built fun q _ => ?_
  refine firm_acquire.bind fun _ => ?_
  exact (firm_ask _ _ _).bind fun a => firm_pure _

theorem wary_defineBuilt (sql : Except Error String) : Wary (defineBuilt scope sql) := by
  refine wary_built fun text _ => ?_
  exact firm_acquire.bind fun _ => firm_define text

/-- Once its statement is built an insert refuses nothing. -/
theorem firm_insert_of_built {rows : List Record} {returning : List String} {q : Sql} : Firm (do
      let a ← askSql scope "insert" q
      if returning.isEmpty then return rows.map fun _ => .empty
      records a : Exchange (List Record)) := by
  refine (firm_ask _ _ _).bind fun a => ?_
  split
  · exact firm_pure _
  · exact firm_records a

theorem wary_insert (table : String) (rows : List Record) (returning : List String) :
    Wary (insert scope table rows returning) := by
  unfold insert
  split
  · exact (firm_pure _).wary
  · refine wary_built fun q _ => ?_
    exact firm_insert_of_built

/-- A request that refuses something has sent nothing that writes, migrations apart. -/
theorem wary_perform {r : Request α} (other : ¬r.Migrates) : Wary (perform scope r) := by
  cases r with
  | insert table rows returning => exact wary_behind still_acquire fun _ => wary_insert table rows returning
  | update table changes filters => exact wary_change _ _
  | delete table filters => exact wary_change _ _
  | rawQuery sql args =>
    refine EntityStore.Firm.wary (firm_acquire.bind fun _ => ?_)
    exact (firm_ask _ _ _).bind firm_records
  | rawExec sql args =>
    refine EntityStore.Firm.wary (firm_acquire.bind fun _ => ?_)
    exact (firm_ask _ _ _).bind fun a => firm_pure _
  | createTable schema => exact wary_defineBuilt _
  | dropTable table => exact wary_defineBuilt _
  | createIndex index => exact wary_defineBuilt _
  | dropIndex table name => exact wary_defineBuilt _
  | migrateTable schema => exact absurd trivial other
  | _ => exact EntityStore.Still.wary (still_of_reads trivial)

end Exchange

/-! ## Inserts alike -/

namespace Statement

theorem exists_ident_of_idents {names : List String} {is : List Ident} (made : idents names = .ok is)
    {name : String} (member : name ∈ names) : ∃ i, Query.ident name = .ok i :=
  exists_of_mapM made member

/-- Where rows can be inserted, so can others with columns of theirs or columns that are asked
for. -/
theorem exists_insert {table : String} {rows rows' : List Record} {returning : List String} {q : Sql}
    (made : insert table rows returning = .ok q)
    (shared : ∀ row' ∈ rows', ∀ c ∈ row'.columns, c ∈ returning ∨ ∃ row ∈ rows, c ∈ row.columns) :
    ∃ q', insert table rows' returning = .ok q' := by
  rw [insert_eq] at made ⊢
  obtain ⟨t, named, made⟩ := exists_of_bind made
  obtain ⟨listed, columns, made⟩ := exists_of_bind made
  obtain ⟨returned, asked, -⟩ := exists_of_bind made
  have listable : ∀ c ∈ columnsOf rows', ∃ i, Query.ident c = .ok i := by
    intro c member
    obtain ⟨row', inRows, inRow⟩ := mem_columnsOf.mp member
    rcases shared row' inRows c inRow with generated | ⟨row, inFirst, held⟩
    · exact exists_ident_of_idents asked generated
    · exact exists_ident_of_idents columns (mem_columnsOf.mpr ⟨row, inFirst, held⟩)
  obtain ⟨listed', columns'⟩ := exists_mapM listable
  rw [named, idents, columns', asked]
  exact ⟨_, rfl⟩

end Statement

namespace Store

open EntityStore.Store (perform begin control)

/-- An insert of rows that was answered had a statement. -/
theorem exists_insert_of_answered {scope : Scope} {table : String} {rows answers : List Record}
    {returning : List String} {s : Store} (some : rows ≠ [])
    (answered : (perform scope (.insert table rows returning) s).result = .ok answers) :
    ∃ q, Statement.insert table rows returning = .ok q := by
  have ran : (Exchange.perform scope (.insert table rows returning)).run.run ⟨s, []⟩ =
      (.ok answers, _) := Prod.ext answered rfl
  obtain ⟨-, mid, -, ran⟩ := exists_of_run_bind ran
  rw [Exchange.insert, if_neg (by simpa using some)] at ran
  cases built : Statement.insert table rows returning with
  | error e =>
    rw [built] at ran
    cases ran
  | ok q => exact ⟨q, rfl⟩

theorem insert_not_refuses {scope : Scope} {table : String} {rows : List Record}
    {returning : List String} {s : Store} {q : Sql} {e : StoreError}
    (made : Statement.insert table rows returning = .ok q)
    (failed : (perform scope (.insert table rows returning) s).result = .error e) : ¬e.Refuses := by
  have firm : Exchange.Firm (Exchange.perform scope (.insert table rows returning)) := by
    refine Exchange.firm_acquire.bind fun _ => ?_
    unfold Exchange.insert
    split
    · exact firm_pure _
    · rw [made]
      exact Exchange.firm_insert_of_built
  exact firm ⟨s, []⟩ e _ (Prod.ext failed rfl)

theorem begin_not_refuses {options : TxOptions} {s : Store} {e : StoreError}
    (failed : (begin options s).result = .error e) : ¬e.Refuses := by
  have firm : Exchange.Firm (Exchange.begin options) := by
    refine Exchange.firm_acquire.bind fun _ => ?_
    refine (Exchange.firm_of_succeeds fun t => ⟨t, t, rfl⟩).bind fun t => ?_
    refine (Exchange.firm_define _).bind fun _ => ?_
    exact Exchange.firm_of_succeeds fun t => ⟨_, _, rfl⟩
  exact firm ⟨s, []⟩ e _ (Prod.ext failed rfl)

theorem commit_not_refuses {id : Nat} {s : Store} {e : StoreError}
    (failed : (control id .commit s).result = .error e) : ¬e.Refuses := by
  by_cases held : s.transactions[id]? = some .held
  · rw [control_held rfl held] at failed
    exact Exchange.firm_complain s.upcoming ⟨s, []⟩ e ⟨s, []⟩
      ((Exchange.run_complain _ _).trans (Prod.ext failed rfl))
  · rw [control_closed rfl held] at failed
    cases failed
    exact nofun

theorem unwritten_begin (options : TxOptions) (s : Store) :
    s.Unwritten (begin options s).store := by
  have plain : ∀ m ∈ [Sent.simple options.beginSql], ¬m.Writes :=
    List.forall_mem_singleton.mpr (Statement.begin_not_writes options)
  rcases cases_begin options s with ⟨e, same⟩ | ⟨e, -, same⟩ | ⟨-, same⟩
  · rw [same]
    exact .refl s
  · rw [same]
    exact unwritten_speak plain
  · rw [same]
    exact unwritten_speak plain

theorem unwritten_rollback (id : Nat) (s : Store) :
    s.Unwritten (control id .rollback s).store := by
  by_cases held : s.transactions[id]? = some .held
  · rw [control_held rfl held]
    exact unwritten_speak (List.forall_mem_singleton.mpr Statement.rollback_not_writes)
  · rw [control_closed rfl held]
    exact .refl s

theorem cautious : Cautious Unwritten where
  refl := .refl
  trans := Unwritten.trans
  reads reads _ s := Exchange.still_of_reads reads ⟨s, []⟩
  refuses other failed refuses :=
    Exchange.wary_perform other ⟨_, []⟩ _ _ (Prod.ext failed rfl) refuses
  inserts some shared answered failed := by
    obtain ⟨q, made⟩ := exists_insert_of_answered some answered
    obtain ⟨q', made'⟩ := Statement.exists_insert made shared
    exact insert_not_refuses made' failed
  opens failed := begin_not_refuses failed
  commits failed := commit_not_refuses failed
  brackets := .inl ⟨unwritten_begin {}, unwritten_rollback⟩

end Store

end EntityStore.Postgres
