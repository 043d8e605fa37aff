import EntityStore.Proofs.Layout
import EntityStore.Proofs.Repository.KeyOperation
import EntityStore.Proofs.Repository.Loading

/-!
# Preloaded relations

A query loads the relations that its clauses name for the entities that it has read from its
answer. Rows are found by the key that an entity has. This is what the stored row holds if the
query answers with the column; where it leaves the column out, the entity has the default of the
column, and it gets the rows of that.
-/

namespace EntityStore

namespace Query

variable {name : String} {clauses : List Clause}

theorem mem_preloads_apply {q : Query} {c : Clause} :
    name ∈ (apply q c).preloads ↔ c = .preload name ∨ name ∈ q.preloads := by
  cases c with
  | preload r =>
    rw [apply, List.mem_append, List.mem_singleton, Clause.preload.injEq, or_comm, eq_comm]
  | _ => simp [apply]

theorem mem_preloads_foldl {q : Query} :
    name ∈ (clauses.foldl apply q).preloads ↔ .preload name ∈ clauses ∨ name ∈ q.preloads := by
  induction clauses generalizing q with
  | nil => exact (or_iff_right List.not_mem_nil).symm
  | cons c clauses ih =>
    rw [List.foldl_cons, ih, mem_preloads_apply, List.mem_cons, ← or_assoc,
      or_comm (a := .preload name ∈ clauses), eq_comm]

/-- The relations that are loaded are those that clauses preload. -/
theorem mem_preloads {q : Compiled} (compiled : compileClauses clauses = .ok q) :
    name ∈ q.preloads ↔ .preload name ∈ clauses := by
  obtain ⟨_, -, compiled⟩ := exists_of_bind compiled
  obtain ⟨_, -, compiled⟩ := exists_of_bind compiled
  obtain ⟨_, -, compiled⟩ := exists_of_bind compiled
  obtain ⟨_, -, compiled⟩ := exists_of_bind compiled
  obtain ⟨_, -, compiled⟩ := exists_of_bind compiled
  obtain ⟨_, -, compiled⟩ := exists_of_bind compiled
  cases compiled
  exact mem_preloads_foldl.trans (or_iff_left List.not_mem_nil)

end Query

namespace Memory.Store

variable {s : Store} {scope : Scope} {table : String} {q : Compiled}

/-- The rows of a table. -/
def rowsOf (s : Store) (scope : Scope) (table : String) : Except StoreError (List Record) := do
  return (← (← s.tablesOf scope).get table).rows

theorem exists_of_select {answer : List Record}
    (selected : (s.perform scope (.select table q)).1 = .ok answer) :
    ∃ rows, s.rowsOf scope table = .ok rows ∧ runQuery q rows = .ok answer := by
  rw [perform_select] at selected
  obtain ⟨ts, tables, selected⟩ := exists_of_bind selected
  obtain ⟨_, -, selected⟩ := exists_of_bind selected
  obtain ⟨t, found, ran⟩ := exists_of_bind selected
  refine ⟨t.rows, ?_, ran⟩
  rw [rowsOf, tables]
  change (ts.get table >>= fun t => pure t.rows) = _
  rw [found]
  rfl

end Memory.Store

namespace Repository

section

variable {α : Type} [Entity α] {scope : Scope} {r : Relation} {name : String} {names : List String}
  {es es' : List α} {session session' : Session Memory.Store}

/-- Each entity has the rows of its key, whatever else is loaded. -/
theorem attached_of_loadRelations (lawful : Entity.LawfulAttach α) (member : name ∈ names)
    (found : findRelation α name = .ok r) (plain : (Ident.Part.plain r.relatedColumn).WellFormed)
    (ran : (loadRelations scope names es).run.run session = (.ok es', session')) :
    List.Forall₂ (fun e e' => ∃ rows,
        ownRows session.store scope r (relationKey r e) = .ok rows ∧
        Entity.attach name rows e' = .ok e') es es' := by
  induction names generalizing es session with
  | nil => cases member
  | cons first names ih =>
    obtain ⟨r', mid, t, found', ran', attached, rest⟩ := exists_of_loadRelations_cons ran
    have same : t.store = session.store := by
      have reads : Attempt.Takes Step.Reads (if es.isEmpty then pure [] else
          loadRelation scope r' es : Action Memory.Store (List α)) := by
        split
        · exact Attempt.takes_pure _
        · exact takes_loadRelation (fun _ _ => Step.reads_select) r' es
      exact Memory.store_of_reads reads ran'
    by_cases later : name ∈ names
    · refine (forall₂_comp attached (ih later rest)).imp ?_
      rintro e e' ⟨m, ⟨_, here⟩, rows, own, held⟩
      rw [same, relationKey_of_attach lawful here] at own
      exact ⟨rows, own, held⟩
    · -- the relation is loaded here for the last time
      obtain rfl := (List.mem_cons.mp member).resolve_right later
      cases found'.symm.trans found
      obtain ⟨_, _, loaded, -, each⟩ :=
        run_loadRelation_unless_empty scope session plain es
      obtain ⟨rfl, -⟩ := Prod.mk.inj (loaded.symm.trans ran')
      refine (forall₂_comp ((each mid).mp rfl) (forall₂_of_loadRelations rest)).imp ?_
      rintro e e' ⟨m, here, chain⟩
      obtain ⟨rows, own, here⟩ := exists_of_bind here
      rw [name_of_findRelation found] at here
      refine ⟨rows, own, ?_⟩
      clear * - lawful here chain later
      induction chain with
      | refl => exact lawful.again here
      | tail _ last ih =>
        obtain ⟨other, member, _, attached⟩ := last
        have apart : name ≠ other := fun same => later (same ▸ member)
        exact lawful.kept apart ih attached

end

end Repository

/-! ## The key of an entity that a query answers -/

section

variable {l : Layout} {Extra : Type} {q : Compiled} {column : String} {row : Record} {key : Value}

/-- The column of an entity that counts under a name: the last one. -/
def Layout.column? (l : Layout) (column : String) : Option ColumnSpec :=
  l.columns.findRev? (·.column = column)

/-- The key that an entity has in a column when a query has read it from a stored row. -/
structure Layout.KeyFrom (l : Layout) (q : Compiled) (column : String) (row : Record)
    (key : Value) : Prop where
  /-- Without such a column there is no key. -/
  absent : l.column? column = none → key = .null
  /-- A column that the query leaves out has the default of its type, whatever the row holds. -/
  dropped : ∀ c, l.column? column = some c →
    q.keeps column = false ∨ row.get? column = none → key = Column.toValue c.type.default
  /-- Of a column that the query keeps the value is decoded for the entity. -/
  kept : ∀ c, l.column? column = some c → q.keeps column = true →
    ∀ v, row.get? column = some v →
      ∃ x : c.type.Carrier, decode v = .ok x ∧ key = Column.toValue x
  /-- A value that is one of the column's type is the key itself. -/
  faithful : ∀ c, l.column? column = some c → q.keeps column = true →
    ∀ x : c.type.Carrier, c.type.Settled x → row.get? column = some (Column.toValue x) →
      key = row.getD column

theorem Layout.keyFrom_of_ofRecord {shown : Record} {xs : Cells l.columns}
    (shows : shown.get? column = if q.keeps column then row.get? column else none)
    (read : Cells.ofRecord shown l.columns = .ok xs) :
    l.KeyFrom q column row ((Record.ofPairs (Cells.toPairs l.columns xs)).getD column) := by
  have held := Cells.get?_toPairs_of_ofRecord read column
  rw [← Layout.column?] at held
  rw [Record.getD]
  cases last : l.column? column with
  | none =>
    rw [last] at held
    have absent : (Record.ofPairs (Cells.toPairs l.columns xs)).get? column = none := held
    rw [absent]
    have none (c : ColumnSpec) : l.column? column ≠ some c := by
      simp [last]
    exact ⟨fun _ => rfl, fun c found => absurd found (none c), fun c found => absurd found (none c),
      fun c found => absurd found (none c)⟩
  | some c =>
    rw [last] at held
    obtain ⟨x, decoded, written⟩ := held
    rw [written]
    have reads {v : Value} (keeps : q.keeps column = true) (stored : row.get? column = some v) :
        decode v = .ok x := by
      rw [keeps, if_pos rfl, stored] at shows
      exact Cells.decode_of_decodeD shows decoded
    refine ⟨fun none => ?_, ?_, ?_, ?_⟩
    · cases last.symm.trans none
    · intro d found left
      cases last.symm.trans found
      have missing : shown.get? column = none := by
        rw [shows]
        rcases left with dropped | absent
        · rw [dropped, if_neg Bool.false_ne_true]
        · rw [absent, ite_self]
      rw [Record.decodeD, missing] at decoded
      cases decoded
      rfl
    · intro d found keeps v stored
      cases last.symm.trans found
      exact ⟨x, reads keeps stored, rfl⟩
    · intro d found keeps y settled stored
      cases last.symm.trans found
      have same := (ColumnType.decode_toValue settled).symm.trans (reads keeps stored)
      cases same
      rw [Record.getD, stored]

/-- What becomes of an entity that is read from a row and has a relation loaded by its key: the
rows of the key are attached, and then the hook of found entities runs. -/
def Layout.Preloaded (hooks : Hooks (l.Item Extra)) (s : Memory.Store) (scope : Scope)
    (r : Relation) (shown : Record) (key : Value) (e' : l.Item Extra) : Prop :=
  ∃ (e : l.Item Extra) (related : List Record),
    Cells.ofRecord shown l.columns = .ok e.cells ∧ key = e.toRecord.getD r.parentColumn ∧
    Repository.ownRows s scope r key = .ok related ∧
    Attachments.From r.name related l.relations e.loaded ∧ e' = (hooks.afterFind e).2

/-- What a query answers that preloads a relation. For each row of its answer there is one entity,
in their order, which was read from the row and has for the relation exactly the rows of its key.
If the query has no aggregates, these rows are the images of the stored rows that it picks, and
`KeyFrom` tells the key by the stored row: it is the value there if the query keeps the column. -/
theorem preloaded_by_key [Inhabited Extra] (hooks : Hooks (l.Item Extra))
    (repo : Repository (l.Item Extra)) {clauses : List Query.Clause} {name : String} {r : Relation}
    {found : List (l.Item Extra)} {session session' : Session Memory.Store}
    (preloads : .preload name ∈ clauses)
    (declared : (l.relations.map (·.relation)).find? (·.name = name) = some r)
    (plain : (Ident.Part.plain r.relatedColumn).WellFormed)
    (distinct : ∀ rows, session.store.rowsOf repo.scope l.table = .ok rows →
      ∀ row ∈ rows, row.columns.Nodup)
    (ran : letI := l.entity hooks; (repo.query clauses).run.run session = (.ok found, session')) :
    ∃ q rows answer, Query.compileClauses clauses = .ok q ∧
      session.store.rowsOf repo.scope l.table = .ok rows ∧
      Memory.runQuery q rows = .ok answer ∧
      List.Forall₂ (fun shown e' => ∃ key,
          Layout.Preloaded hooks session.store repo.scope r shown key e') answer found ∧
      (q.aggregates = false → List.Forall₂ (fun row e' => ∃ key,
          Layout.Preloaded hooks session.store repo.scope r (Memory.image q.projection row) key e' ∧
          l.KeyFrom q r.parentColumn row key)
        (Memory.chosen q rows) found) := by
  let _ := l.entity hooks
  obtain ⟨q, answer, decoded, loaded, sent, behind, compiled, asked, read, attached, hooked, -⟩ :=
    Repository.exists_of_run_query ran
  have same : sent.store = (Repository.asking (l.Item Extra) session q).store :=
    Memory.store_of_reads (Attempt.takes_ask Step.reads_select) asked
  change sent.store = session.store at same
  obtain ⟨rows, stored, answers⟩ : ∃ rows, session.store.rowsOf repo.scope l.table = .ok rows ∧
      Memory.runQuery q rows = .ok answer :=
    Memory.Store.exists_of_select (congrArg (·.1) (Memory.perform_of_ask asked))
  have each : List.Forall₂ (fun shown e' => ∃ key,
      Layout.Preloaded hooks session.store repo.scope r shown key e') answer found := by
    have declares : Repository.findRelation (l.Item Extra) name = .ok r :=
      Repository.findRelation_eq declared
    have cells := Repository.forall₂_kept_of_loadRelations (f := Layout.Item.cells)
      (fun _ _ _ _ => Layout.Item.cells_attach) attached
    have held := Repository.attached_of_loadRelations (Layout.lawfulAttach hooks)
      ((Query.mem_preloads compiled).mpr preloads) declares plain attached
    rw [same, ← Repository.name_of_findRelation declares] at held
    refine (forall₂_comp read
      (forall₂_comp (List.Forall₂.mp (fun _ _ => And.intro) cells held) hooked)).imp ?_
    rintro shown e' ⟨first, fromRow, e, ⟨unchanged, related, own, attached⟩, rfl⟩
    obtain ⟨xs, read, rfl⟩ := exists_of_map fromRow
    have written : e.toRecord = Record.ofPairs (Cells.toPairs l.columns xs) :=
      congrArg (fun xs => Record.ofPairs (Cells.toPairs l.columns xs)) unchanged
    refine ⟨_, e, related, ?_, rfl, ?_, Layout.Item.from_of_attach_self attached, rfl⟩
    · rw [unchanged]
      exact read
    · rw [written]
      exact own
  refine ⟨q, rows, answer, compiled, stored, answers, each, ?_⟩
  intro single
  obtain ⟨rfl, -⟩ := Memory.runQuery_eq_ok single answers
  -- in their columns the picked rows show what the query keeps
  have shows : ∀ row ∈ Memory.chosen q rows,
      (Memory.image q.projection row).get? r.parentColumn =
        if q.keeps r.parentColumn then row.get? r.parentColumn else none := by
    intro row member
    have whole := distinct rows stored row (Memory.mem_of_chosen member).1
    exact Memory.get?_image single answers member whole r.parentColumn
  refine ((List.forall₂_and_left _ _).mpr ⟨shows, List.forall₂_map_left_iff.mp each⟩).imp ?_
  rintro row e' ⟨shown, key, e, related, read, rfl, rest⟩
  exact ⟨_, ⟨e, related, read, rfl, rest⟩, Layout.keyFrom_of_ofRecord shown read⟩

end

/-! ### An author and her posts -/

def annRow : Record := .ofPairs [("id", .int 1), ("name", .text "Ann")]

/-- The first author beside the posts. -/
def authored : Memory.Store :=
  Step.after Repository.posted [.ask .direct (.createTable ⟨"authors", []⟩),
    .ask .direct (.insert "authors" [annRow] [])]

def postsOfAuthor : Relation := ⟨"posts", .hasMany, "posts", "author_id", "id"⟩

/-- A query for one column of all rows. -/
def onlyColumn (column : String) : Compiled :=
  { Compiled.everything with
    projection := [.column ⟨[.plain column]⟩]
    preloads := ["posts"] }

/-- A query for the number preloads the posts of that number. -/
theorem posts_preloaded_by_number : ∃ (e : Sample.Author) (related : List Record),
    (((.direct : Repository Sample.Author).query [.select ["id"], .preload "posts"]).run.run
      (Session.start authored)).1 = .ok [e] ∧
    Repository.ownRows authored .direct postsOfAuthor (.int 1) = .ok related ∧
    Attachments.From "posts" related Sample.author.relations e.loaded := by
  have ran : (((.direct : Repository Sample.Author).query
      [.select ["id"], .preload "posts"]).run.run (Session.start authored)).1 =
        .ok [⟨(1, "", ()), ([(5, some 1, "a", ()), (8, some 1, "d", ())], none, [], ()), ()⟩] := by
    cbv
  have compiled : Query.compileClauses [.select ["id"], .preload "posts"] =
      .ok (onlyColumn "id") := by
    cbv
  have held : authored.rowsOf .direct Sample.author.table = .ok [annRow] := rfl
  have plain : (Ident.Part.plain postsOfAuthor.relatedColumn).WellFormed :=
    ⟨'a', "uthor_id".toList, rfl, rfl, List.all_eq_true.mp rfl⟩
  have distinct : ∀ rows, authored.rowsOf .direct Sample.author.table = .ok rows →
      ∀ row ∈ rows, row.columns.Nodup := by
    intro rows stored row member
    cases held.symm.trans stored
    rw [List.mem_singleton.mp member]
    decide
  have preloads : .preload "posts" ∈ [Query.Clause.select ["id"], .preload "posts"] :=
    List.mem_cons_of_mem _ List.mem_cons_self
  have declared : (Sample.author.relations.map (·.relation)).find? (·.name = "posts") =
      some postsOfAuthor := rfl
  obtain ⟨q, rows, answer, compiled', stored, -, -, each⟩ :=
    preloaded_by_key {} .direct preloads declared plain distinct (Prod.ext ran rfl)
  cases compiled.symm.trans compiled'
  cases held.symm.trans stored
  have picked : Memory.chosen (onlyColumn "id") [annRow] = [annRow] := rfl
  have each := each rfl
  rw [picked] at each
  cases each with
  | cons first _ =>
    obtain ⟨key, ⟨e, related, -, -, own, loaded, same⟩, keyed⟩ := first
    have number : key = .int 1 :=
      keyed.faithful { name := "id", type := .int64, primaryKey := true } rfl rfl (1 : Int64)
        trivial rfl
    rw [number] at own
    refine ⟨_, related, ran, own, ?_⟩
    rw [same]
    exact loaded

/-- A query for the name picks the row of the author, who has two posts, and preloads none. -/
theorem posts_missed_without_number :
    Query.compileClauses [.select ["name"], .preload "posts"] = .ok (onlyColumn "name") ∧
      authored.rowsOf .direct Sample.author.table = .ok [annRow] ∧
      Memory.chosen (onlyColumn "name") [annRow] = [annRow] ∧
      annRow.getD postsOfAuthor.parentColumn = .int 1 ∧
      (Repository.ownRows authored .direct postsOfAuthor (.int 1)).map (·.length) = .ok 2 ∧
      (((.direct : Repository Sample.Author).query [.select ["name"], .preload "posts"]).run.run
        (Session.start authored)).1 = .ok [⟨(0, "Ann", ()), ([], none, [], ()), ()⟩] := by
  exact ⟨by cbv, rfl, rfl, rfl, rfl, by cbv⟩

end EntityStore
