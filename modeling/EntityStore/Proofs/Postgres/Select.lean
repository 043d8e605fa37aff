import EntityStore.Proofs.Entity
import EntityStore.Proofs.Postgres.Step
import EntityStore.Proofs.Record
import EntityStore.Proofs.Repository.Query
import EntityStore.Sample.Schema

/-!
# Rows that the server answers

A select sends one statement and decodes the rows of the answer, cell by cell, each into the
column of its name. An entity is read from such a row by the names of its own columns.
-/

namespace EntityStore.Postgres

/-! ## Rows -/

namespace Exchange

/-- A decoded row has the columns of the answer. -/
theorem names_of_decodeFrom {index : Nat} {columns : List (String × ServerType)}
    {cells : List Cell} {pairs : List (String × Value)}
    (decoded : decodeFrom index columns cells = .ok pairs) :
    pairs.map (·.1) = columns.map (·.1) := by
  induction columns generalizing index cells pairs with
  | nil =>
    cases decoded
    rfl
  | cons c columns ih =>
    obtain ⟨v, -, decoded⟩ := exists_of_bind decoded
    obtain ⟨rest, later, decoded⟩ := exists_of_bind decoded
    cases decoded
    rw [List.map_cons, List.map_cons, ih later]

end Exchange

theorem decode?_int8 {bs : Wire.Bytes} {i : Int} (whole : bs.length = 8)
    (value : Wire.toInt bs = i) : Wire.decode? .int8 bs = some (.int (.ofInt i)) := by
  simp [Wire.decode?, Wire.exactly, whole, value]

theorem decode?_one : Wire.decode? .int8 [0, 0, 0, 0, 0, 0, 0, 1] = some (.int 1) :=
  decode?_int8 rfl (show Wire.toInt [0, 0, 0, 0, 0, 0, 0, 1] = 1 by decide)

theorem decode?_ann : Wire.decode? .text [65, 110, 110] = some (.text "Ann") := rfl

def authorColumns : List (String × ServerType) := [("id", .int8), ("name", .text)]

/-! ## Selects -/

/-- A select that answers sent one statement, and its rows are those of the server's answer. -/
theorem exists_of_select {scope : Scope} {table : String} {q : Compiled} {s : Store}
    {rows : List Record}
    (answered : (EntityStore.Store.perform scope (.select table q) s).result = .ok rows) :
    ∃ i bound, Query.ident table = .ok i ∧
      (EntityStore.Store.perform scope (.select table q) s).store =
        s.speak scope [.prepared (q.selectSql i).toSql bound] ∧
      s.upcoming.rows.mapM (Exchange.decodeRow s.upcoming) = .ok rows := by
  obtain ⟨t, ran⟩ : ∃ t, (Exchange.perform scope (.select table q)).run.run ⟨s, []⟩ =
      (.ok rows, t) := ⟨_, Prod.ext answered rfl⟩
  have behind : (EntityStore.Store.perform scope (.select table q) s).store = t.store :=
    congrArg (·.2.store) ran
  obtain ⟨_, t₁, acquired, ran⟩ := exists_of_run_bind ran
  rw [Exchange.run_acquire] at acquired
  obtain ⟨-, rfl⟩ := Prod.mk.inj acquired
  obtain ⟨i, t₂, built, ran⟩ := exists_of_run_bind ran
  rw [Exchange.run_built] at built
  obtain ⟨named, rfl⟩ := Prod.mk.inj built
  obtain ⟨a, t₃, asked, ran⟩ := exists_of_run_bind ran
  obtain ⟨bound, result, sent, upcoming⟩ :=
    Exchange.run_ask scope "select" (q.selectSql i).toSql (q.selectSql i).params ⟨s, []⟩
  obtain ⟨rfl, rfl⟩ := Prod.mk.inj (sent.symm.trans asked)
  rw [upcoming a rfl, Exchange.records, Exchange.run_ofExcept] at ran
  obtain ⟨decoded, rfl⟩ := Prod.mk.inj ran
  exact ⟨i, bound, ok_of_mapError named, behind, decoded⟩

/-- A select without a complaint whose parameters fit answers the decoded rows. -/
theorem perform_select {scope : Scope} {table : String} {q : Compiled} {s : Store} {i : Ident}
    {cells : List Cell} {rows : List Record} (connected : s.grant scope = .ok ())
    (named : Query.ident table = .ok i) (quiet : s.upcoming.complaint = none)
    (bound : Exchange.bindAll (s.upcoming.paramTypes (q.selectSql i).toSql)
      ((q.selectSql i).params.map .ofValue) = .ok cells)
    (decoded : s.upcoming.rows.mapM (Exchange.decodeRow s.upcoming) = .ok rows) : ∃ log,
    EntityStore.Store.perform scope (.select table q) s =
      ⟨.ok rows, s.speak scope [.prepared (q.selectSql i).toSql (some cells)], log⟩ := by
  let sql := (q.selectSql i).toSql
  let logged : Talk := ⟨s, [statementLine s.logLimit "select" sql (q.selectSql i).params.length]⟩
  have built : (Exchange.built (Query.ident table)).run.run ⟨s, []⟩ = (.ok i, ⟨s, []⟩) := by
    rw [Exchange.run_built, named]
    rfl
  have asked : (Exchange.askSql scope "select" (q.selectSql i)).run.run ⟨s, []⟩ =
      (.ok s.upcoming, { logged with store := s.speak scope [.prepared sql (some cells)] }) := by
    have written : (Exchange.logStatement "select" sql (q.selectSql i).params.length).run.run
        ⟨s, []⟩ = (.ok (), logged) := rfl
    rw [Exchange.askSql, Exchange.ask, run_bind_ok written]
    exact Exchange.run_prepared_bound quiet bound
  have ran : (Exchange.perform scope (.select table q)).run.run ⟨s, []⟩ =
      (.ok rows, { logged with store := s.speak scope [.prepared sql (some cells)] }) := by
    rw [Exchange.perform, run_bind_ok (Exchange.run_acquire_granted connected), run_bind_ok built,
      run_bind_ok asked, Exchange.records, Exchange.run_ofExcept, decoded]
  exact ⟨_, Store.perform_of_run ran⟩

/-! ## Queries -/

/-- A query that answers sent its statement first. Each entity is what the hook of found entities
makes of one that was read from a row of the server's answer, field by field from the column of
its name. -/
theorem exists_of_layout_query {l : Layout} {Extra : Type} [Inhabited Extra]
    {hooks : Hooks (l.Item Extra)} {repo : Repository (l.Item Extra)}
    {clauses : List Query.Clause} {s s' : Session Store} {found : List (l.Item Extra)}
    (ran : letI := l.entity hooks; (repo.query clauses).run.run s = (.ok found, s')) :
    ∃ q table bound more, Query.compileClauses clauses = .ok q ∧ Query.ident l.table = .ok table ∧
      s'.store.sent = s.store.sent ++
        (repo.scope, .prepared (q.selectSql table).toSql bound) :: more ∧
      List.Forall₂ (fun row e => ∃ pairs, ∃ read : l.Item Extra,
          Exchange.decodeFrom 0 s.store.upcoming.columns row = .ok pairs ∧
          e = (hooks.afterFind read).2 ∧
          Cells.Each (fun c x => (Record.ofPairs pairs).decodeD c.column c.type.default = .ok x)
            l.columns read.cells)
        s.store.upcoming.rows found := by
  let _ := l.entity hooks
  obtain ⟨q, rows, decoded, loaded, sent, mid, behind, compiled, asked, read, attached, hooked,
    leads⟩ := Repository.exists_of_query ran
  rw [run_ask] at asked
  obtain ⟨answered, rfl⟩ := Prod.mk.inj asked
  obtain ⟨table, bound, named, spoken, records⟩ := exists_of_select (ok_of_mapError answered)
  obtain ⟨more, later⟩ := Store.sent_of_leads leads
  refine ⟨q, table, bound, more, compiled, named, ?_, ?_⟩
  · have said : (EntityStore.Store.perform repo.scope (.select l.table q) s.store).store =
        s.store.speak repo.scope [.prepared (q.selectSql table).toSql bound] := spoken
    rw [later]
    change (EntityStore.Store.perform repo.scope (.select l.table q) s.store).store.sent ++ more = _
    rw [said, Store.speak, List.append_assoc]
    rfl
  · have kept : List.Forall₂ (fun e e' => Layout.Item.cells e' = Layout.Item.cells e)
        decoded loaded :=
      Repository.forall₂_kept_of_loadRelations (fun _ _ _ _ => Layout.Item.cells_attach) attached
    have chain :=
      forall₂_comp (forall₂_of_mapM records) (forall₂_comp read (forall₂_comp kept hooked))
    refine chain.imp ?_
    rintro row e ⟨record, recorded, first, fromRow, item, same, rfl⟩
    obtain ⟨pairs, split, rfl⟩ := exists_of_map recorded
    obtain ⟨cells, fromCells, rfl⟩ := exists_of_map fromRow
    refine ⟨pairs, item, split, rfl, ?_⟩
    rw [same]
    exact Cells.each_of_ofRecord fromCells

end EntityStore.Postgres
