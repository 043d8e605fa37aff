import EntityStore.Proofs.Postgres.Caution

/-!
# Migrations on the server

A migration of a table that is there adds the missing columns one after the other, and the
statement for a column is built only when those before it are sent. So the name of a column that is
no identifier is refused behind the columns in front of it.
-/

namespace EntityStore.Postgres

open EntityStore.Store (perform)

theorem refuses_of_ident {name : String} {err : Error} (failed : Query.ident name = .error err) :
    err.Refuses := by
  unfold Query.ident at failed
  cases checked : Query.checkIdent name with
  | ok i =>
    rw [checked] at failed
    cases failed
  | error fault =>
    rw [checked] at failed
    cases failed
    rfl

/-- The server complains about none of the next so many statements. -/
def Store.Accepts (s : Store) (n : Nat) : Prop := ∀ a ∈ s.script.take n, a.complaint = none

theorem Store.accepts_succ {s : Store} (scope : Scope) (m : Sent) {n : Nat} :
    s.Accepts (n + 1) ↔ s.upcoming.verdict = .ok () ∧ (s.speak scope [m]).Accepts n := by
  unfold Accepts upcoming speak
  cases s.script with
  | nil => simp [Answer.verdict, Answer.plain]
  | cons a script => simp [Answer.verdict_eq_ok]

namespace Statement

variable {table : Ident} {f : Field}

theorem column_addedField (f : Field) : (addedField f).column = f.column := by
  unfold addedField
  split <;> rfl

theorem exists_addColumn (table : Ident) {i : Ident} (named : Query.ident f.column = .ok i) :
    ∃ sql, addColumn table f = .ok sql := by
  rw [addColumn, columnDefinition, column_addedField, named]
  exact ⟨_, rfl⟩

theorem addColumn_of_error {err : Error} (unnamed : Query.ident f.column = .error err) :
    addColumn table f = .error err := by
  rw [addColumn, columnDefinition, column_addedField, unnamed]
  rfl

theorem addColumn_writes {sql : String} (made : addColumn table f = .ok sql) : Writes sql := by
  obtain ⟨d, -, rfl⟩ := exists_of_map made
  refine ⟨"ALTER", by simp [writingWords], ?_⟩
  simp only [String.toList_append, List.append_assoc]
  exact List.IsPrefix.trans (by decide) (List.prefix_append _ _)

end Statement

namespace Exchange

variable {scope : Scope} {table : Ident} {f : Field} {fields front back : List Field} {t t' : Talk}

/-- The talk behind a statement that was sent as its text. -/
def Talk.behind (t : Talk) (scope : Scope) (sql : String) : Talk :=
  ⟨t.store.speak scope [.simple sql], t.log ++ [statementLine t.store.logLimit "ddl" sql 0]⟩

theorem run_addColumns_cons {sql : String} (made : Statement.addColumn table f = .ok sql) :
    (addColumns scope table (f :: fields)).run.run t =
      match t.store.upcoming.verdict with
      | .error e => (.error e, Talk.behind t scope sql)
      | .ok () => (addColumns scope table fields).run.run (Talk.behind t scope sql) := by
  have built : (built (Statement.addColumn table f)).run.run t = (.ok sql, t) := by
    rw [run_built, made]
    rfl
  have defined := run_define scope sql t
  rw [addColumns, run_bind_ok built]
  cases verdict : t.store.upcoming.verdict with
  | error e =>
    rw [verdict] at defined
    rw [run_bind_error defined]
    rfl
  | ok u =>
    rw [verdict] at defined
    rw [run_bind_ok defined]
    rfl

theorem run_addColumns_refused {err : Error} (unnamed : Query.ident f.column = .error err) :
    (addColumns scope table (f :: fields)).run.run t = (.error (.rejected err), t) := by
  have refused : (built (Statement.addColumn table f)).run.run t = (.error (.rejected err), t) := by
    rw [run_built, Statement.addColumn_of_error unnamed]
    rfl
  rw [addColumns, run_bind_error refused]

/-- Columns that are added one by one are added up to the first whose name is no identifier, if the
server accepts those. -/
theorem exists_front_of_addColumns {e : StoreError}
    (ran : (addColumns scope table fields).run.run t = (.error e, t')) (refuses : e.Refuses) :
    ∃ front f back, fields = front ++ f :: back ∧ (∀ g ∈ front, ∃ i, Query.ident g.column = .ok i) ∧
      (∃ err, Query.ident f.column = .error err) ∧ t.store.Accepts front.length ∧
      (front = [] → t' = t) := by
  induction fields generalizing t with
  | nil => cases ran
  | cons f fields ih =>
    cases named : Query.ident f.column with
    | error err =>
      rw [run_addColumns_refused named] at ran
      obtain ⟨-, rfl⟩ := Prod.mk.inj ran
      exact ⟨[], f, fields, rfl, List.forall_mem_nil _, ⟨err, named⟩, List.forall_mem_nil _, fun _ => rfl⟩
    | ok i =>
      obtain ⟨sql, made⟩ := Statement.exists_addColumn table named
      rw [run_addColumns_cons made] at ran
      cases verdict : t.store.upcoming.verdict with
      | error e' =>
        rw [verdict] at ran
        obtain ⟨failed, -⟩ := Prod.mk.inj ran
        cases failed
        have complained := run_complain t.store.upcoming t
        rw [verdict] at complained
        exact absurd refuses (firm_complain _ _ _ _ complained)
      | ok u =>
        rw [verdict] at ran
        obtain ⟨front, g, back, rfl, idents, stop, accepted, -⟩ := ih ran
        refine ⟨f :: front, g, back, rfl, ?_, stop, ?_, nofun⟩
        · intro h member
          rcases List.mem_cons.mp member with rfl | member
          · exact ⟨i, named⟩
          · exact idents h member
        · exact (Store.accepts_succ scope (.simple sql)).mpr ⟨verdict, accepted⟩

theorem run_addColumns_stops (table : Ident) {err : Error} (back : List Field)
    (idents : ∀ g ∈ front, ∃ i, Query.ident g.column = .ok i)
    (stop : Query.ident f.column = .error err) (accepted : t.store.Accepts front.length) :
    ∃ t' texts, (addColumns scope table (front ++ f :: back)).run.run t = (.error (.rejected err), t') ∧
      List.Forall₂ (fun g sql => Statement.addColumn table g = .ok sql) front texts ∧
      t'.store = t.store.speak scope (texts.map .simple) := by
  induction front generalizing t with
  | nil => exact ⟨t, [], run_addColumns_refused stop, .nil, (Store.speak_nil _ _).symm⟩
  | cons g front ih =>
    obtain ⟨i, named⟩ := idents g List.mem_cons_self
    obtain ⟨sql, made⟩ := Statement.exists_addColumn table named
    obtain ⟨verdict, rest⟩ := (Store.accepts_succ scope (.simple sql)).mp accepted
    obtain ⟨t', texts, ran, each, behind⟩ :=
      ih (t := Talk.behind t scope sql) (fun h member => idents h (List.mem_cons_of_mem g member)) rest
    refine ⟨t', sql :: texts, ?_, .cons made each, ?_⟩
    · rw [List.cons_append, run_addColumns_cons made, verdict]
      exact ran
    · rw [behind, Talk.behind, Store.speak_speak]
      rfl

/-- A migration finds its table and comes to a missing column whose name is no identifier, behind
others that it can add and that the server accepts. -/
structure Stumble (s : Store) (scope : Scope) (schema : TableSchema) (mid t : Talk)
    (live : List String) (front : List Field) (f : Field) (back : List Field) : Prop where
  connected : s.grant scope = .ok ()
  found : (hasTable scope schema.name).run.run ⟨s, []⟩ = (.ok true, mid)
  listed : (tableColumns scope schema.name).run.run mid = (.ok live, t)
  table : ∃ i, Query.ident schema.name = .ok i
  missing : schema.fields.filter (fun g => !live.contains g.column) = front ++ f :: back
  behind : front ≠ []
  idents : ∀ g ∈ front, ∃ i, Query.ident g.column = .ok i
  stop : ∃ err, Query.ident f.column = .error err
  accepted : t.store.Accepts front.length

variable {s : Store} {schema : TableSchema}

theorem still_hasTable (scope : Scope) (table : String) : Still (hasTable scope table) :=
  still_of_sends (sends_hasTable (fun _ => Statement.hasTable_not_writes) table)

theorem still_tableColumns (scope : Scope) (table : String) : Still (tableColumns scope table) :=
  still_of_sends (sends_tableColumns (fun _ => Statement.tableColumns_not_writes) table)

/-- A migration that refuses something has sent nothing that writes, unless it stumbles. -/
theorem unwritten_or_stumble {e : StoreError}
    (ran : (perform scope (.migrateTable schema)).run.run ⟨s, []⟩ = (.error e, t'))
    (refuses : e.Refuses) : s.Unwritten t'.store ∨
      ∃ mid t live front f back, Stumble s scope schema mid t live front f back := by
  rcases error_of_run_bind ran with unconnected | ⟨⟨⟩, start, acquired, ran⟩
  · exact absurd refuses (firm_acquire _ _ _ unconnected)
  rw [run_acquire] at acquired
  obtain ⟨connected, rfl⟩ := Prod.mk.inj acquired
  rcases error_of_run_bind ran with unseen | ⟨there, mid, found, ran⟩
  · exact absurd refuses (firm_hasTable _ _ _ _ unseen)
  have looked := still_hasTable scope schema.name ⟨s, []⟩
  rw [found] at looked
  cases there with
  | false =>
    have creates : Wary (built (Statement.createTable schema) >>= define scope) :=
      wary_built fun sql _ => firm_define sql
    exact .inl (looked.trans (creates mid e t' ran refuses))
  | true =>
    rcases error_of_run_bind ran with unlisted | ⟨live, t, listed, ran⟩
    · exact absurd refuses (firm_tableColumns _ _ _ _ unlisted)
    have reads := still_tableColumns scope schema.name mid
    rw [listed] at reads
    have before : s.Unwritten t.store := looked.trans reads
    rcases error_of_run_bind ran with unnamed | ⟨table, start, named, ran⟩
    · rw [run_built] at unnamed
      obtain ⟨-, rfl⟩ := Prod.mk.inj unnamed
      exact .inl before
    · rw [run_built] at named
      obtain ⟨identified, rfl⟩ := Prod.mk.inj named
      obtain ⟨front, f, back, missing, idents, stop, accepted, still⟩ :=
        exists_front_of_addColumns ran refuses
      by_cases first : front = []
      · rw [still first]
        exact .inl before
      · exact .inr ⟨mid, t, live, front, f, back, connected, found, listed,
          ⟨table, ok_of_mapError identified⟩, missing, first, idents, stop, accepted⟩

/-- A migration that stumbles is refused behind the columns that it has added. -/
theorem Stumble.run {mid : Talk} {live : List String}
    (h : Stumble s scope schema mid t live front f back) : ∃ t' err table texts,
      (perform scope (.migrateTable schema)).run.run ⟨s, []⟩ = (.error (.rejected err), t') ∧
      Query.ident schema.name = .ok table ∧ Query.ident f.column = .error err ∧
      List.Forall₂ (fun g sql => Statement.addColumn table g = .ok sql) front texts ∧
      t'.store = t.store.speak scope (texts.map .simple) := by
  obtain ⟨table, named⟩ := h.table
  obtain ⟨err, stop⟩ := h.stop
  obtain ⟨t', texts, ran, made, behind⟩ :=
    run_addColumns_stops table back h.idents stop h.accepted
  refine ⟨t', err, table, texts, ?_, named, stop, made, behind⟩
  have acquired := run_acquire scope ⟨s, []⟩
  rw [h.connected] at acquired
  have built : (built (Query.ident schema.name)).run.run t = (.ok table, t) := by
    rw [run_built, named]
    rfl
  rw [perform, run_bind_ok acquired, migrate, run_bind_ok h.found, if_pos rfl,
    run_bind_ok h.listed, run_bind_ok built, h.missing]
  exact ran

end Exchange

namespace Store

variable {s : Store} {scope : Scope} {schema : TableSchema}

/-- A migration of a table that is there is refused for the name of a column behind which it has
added others. -/
def Stumbles (s : Store) (scope : Scope) (schema : TableSchema) : Prop :=
  ∃ mid t live front f back, Exchange.Stumble s scope schema mid t live front f back

theorem unwritten_or_stumbles {e : StoreError}
    (failed : (perform scope (.migrateTable schema) s).result = .error e) (refuses : e.Refuses) :
    s.Unwritten (perform scope (.migrateTable schema) s).store ∨ s.Stumbles scope schema :=
  Exchange.unwritten_or_stumble (Prod.ext failed rfl) refuses

theorem not_unwritten {s' : Store} {said : List (Scope × Sent)} {m : Scope × Sent}
    (sent : s'.sent = s.sent ++ said) (member : m ∈ said) (writes : m.2.Writes) :
    ¬s.Unwritten s' := by
  rintro ⟨said', sent', plain⟩
  rw [sent] at sent'
  rw [← List.append_cancel_left sent'] at plain
  exact plain m member writes

/-- A migration that stumbles is refused, and it has written. -/
theorem Stumbles.refused (h : s.Stumbles scope schema) : ∃ err : Error, err.Refuses ∧
    (perform scope (.migrateTable schema) s).result = .error (.rejected err) ∧
    ¬s.Unwritten (perform scope (.migrateTable schema) s).store := by
  obtain ⟨mid, t, live, front, f, back, stumble⟩ := h
  obtain ⟨t', err, table, texts, ran, -, stop, made, behind⟩ := stumble.run
  have looked := Exchange.still_hasTable scope schema.name ⟨s, []⟩
  rw [stumble.found] at looked
  have reads := Exchange.still_tableColumns scope schema.name mid
  rw [stumble.listed] at reads
  obtain ⟨said, sent, -⟩ := looked.trans reads
  refine ⟨err, refuses_of_ident stop, congrArg Prod.fst ran, ?_⟩
  have final : (perform scope (.migrateTable schema) s).store = t'.store := congrArg (·.2.store) ran
  rw [final, behind]
  have added : (t.store.speak scope (texts.map .simple)).sent =
      s.sent ++ (said ++ (texts.map Sent.simple).map (scope, ·)) := by
    rw [← List.append_assoc, ← sent]
    rfl
  cases made with
  | nil => exact absurd rfl stumble.behind
  | cons here rest =>
    refine not_unwritten (m := (scope, .simple _)) added ?_ (Statement.addColumn_writes here)
    exact List.mem_append_right said List.mem_cons_self

end Store

end EntityStore.Postgres
