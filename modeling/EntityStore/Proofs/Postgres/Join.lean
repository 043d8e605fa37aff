import EntityStore.Proofs.Postgres.Select
import Mathlib.Order.Basic

/-!
# Queries with joins

A query that names no columns is answered with those of all its tables, first those of the
entity's own. A row becomes a record, in which no name occurs twice, so that of columns with one
name the last one counts, and the entity is read from the record by name. So a field comes from
the entity's own table only if no joined table has a column of its name.
-/

namespace EntityStore

/-! ## What a query answers -/

namespace Query

/-- Without a clause that selects columns the statement selects all of them. -/
theorem projection_of_unselected {clauses : List Clause} {q : Compiled}
    (unselected : ∀ fields, .select fields ∉ clauses) (compiled : compileClauses clauses = .ok q) :
    q.projection = [] := by
  have fields : (ofClauses clauses).fields = [] := by
    rw [ofClauses]
    refine List.foldlRecOn (motive := fun q : Query => q.fields = []) clauses apply rfl ?_
    intro q none clause member
    cases clause with
    | select fields => exact absurd member (unselected fields)
    | _ => exact none
  obtain ⟨filters, -, compiled⟩ := exists_of_bind compiled
  obtain ⟨projection, projected, compiled⟩ := exists_of_bind compiled
  obtain ⟨orders, -, compiled⟩ := exists_of_bind compiled
  obtain ⟨joins, -, compiled⟩ := exists_of_bind compiled
  obtain ⟨groups, -, compiled⟩ := exists_of_bind compiled
  obtain ⟨having, -, compiled⟩ := exists_of_bind compiled
  cases compiled
  rw [fields] at projected
  cases projected
  rfl

end Query

namespace Postgres

/-! ## Rows of several tables -/

namespace Exchange

/-- The columns of a row decode one table after the other. -/
theorem exists_of_decodeFrom_append {index : Nat} {front back : List (String × ServerType)}
    {cells : List Cell} {pairs : List (String × Value)}
    (decoded : decodeFrom index (front ++ back) cells = .ok pairs) :
    ∃ own others, decodeFrom index front cells = .ok own ∧
      decodeFrom (index + front.length) back (cells.drop front.length) = .ok others ∧
      pairs = own ++ others := by
  induction front generalizing index cells pairs with
  | nil => exact ⟨[], pairs, rfl, decoded, rfl⟩
  | cons c front ih =>
    obtain ⟨v, here, decoded⟩ := exists_of_bind decoded
    obtain ⟨rest, later, decoded⟩ := exists_of_bind decoded
    cases decoded
    obtain ⟨own, others, decodedOwn, decodedOthers, rfl⟩ := ih later
    refine ⟨(c.1, v) :: own, others, ?_, ?_, rfl⟩
    · rw [decodeFrom, here]
      change ((decodeFrom (index + 1) front cells.tail).bind fun rest => .ok ((c.1, v) :: rest)) = _
      rw [decodedOwn]
      rfl
    · rw [List.length_cons, ← List.drop_tail, Nat.add_comm front.length, ← Nat.add_assoc]
      exact decodedOthers

end Exchange

/-- In a row of several tables a column is the last one of its name. -/
theorem decode?_of_joined {α : Type} [Decode α] {own others : List (String × Value)} {c : String}
    {default x : α} (named : c ∈ own.map (·.1))
    (read : (Record.ofPairs (own ++ others)).decodeD c default = .ok x) :
    (c ∉ others.map (·.1) → (Record.ofPairs own).decode? α c = .ok x) ∧
      (c ∈ others.map (·.1) → (Record.ofPairs others).decode? α c = .ok x) := by
  rw [Record.decodeD, Record.get?_ofPairs_append] at read
  constructor
  · intro apart
    obtain ⟨v, held⟩ := Record.exists_get?_ofPairs named
    rw [Record.get?_ofPairs_of_notMem apart, Option.none_or, held] at read
    rw [Record.decode?, held]
    exact read
  · intro shared
    obtain ⟨v, held⟩ := Record.exists_get?_ofPairs shared
    rw [held, Option.some_or] at read
    rw [Record.decode?, held]
    exact read

/-! ## Queries of several tables -/

/-! ### Authors with their posts -/

/-- The first author beside the seventh post. -/
def authorBesidePost : List Cell :=
  [some [0, 0, 0, 0, 0, 0, 0, 1], some [65, 110, 110], some [0, 0, 0, 0, 0, 0, 0, 7],
    some [0, 0, 0, 0, 0, 0, 0, 1], some [116]]

def postColumns : List (String × ServerType) := [("id", .int8), ("author_id", .int8), ("title", .text)]

def joinedAnswer : Answer :=
  ⟨some [], authorColumns ++ postColumns, [authorBesidePost], "SELECT 1", none⟩

/-- What a record keeps of both. -/
def joinedRecord : Record :=
  .ofPairs [("id", .int 7), ("name", .text "Ann"), ("author_id", .int 1), ("title", .text "t")]

theorem decode?_seven : Wire.decode? .int8 [0, 0, 0, 0, 0, 0, 0, 7] = some (.int 7) :=
  decode?_int8 rfl (show Wire.toInt [0, 0, 0, 0, 0, 0, 0, 7] = 7 by decide)

theorem decodeFrom_author : Exchange.decodeFrom 0 authorColumns authorBesidePost =
    .ok [("id", .int 1), ("name", .text "Ann")] := by
  simp [authorBesidePost, authorColumns, Exchange.decodeFrom, Exchange.decodeCell, decode?_one,
    decode?_ann]
  rfl

theorem decodeRow_joined :
    joinedAnswer.rows.mapM (Exchange.decodeRow joinedAnswer) = .ok [joinedRecord] := by
  have title : Wire.decode? .text [116] = some (.text "t") := rfl
  simp [joinedAnswer, authorBesidePost, authorColumns, postColumns, Exchange.decodeRow,
    Exchange.decodeFrom, Exchange.decodeCell, decode?_one, decode?_seven, decode?_ann, title]
  rfl

def withPosts : List Query.Clause :=
  [.join ⟨.inner, "posts", none, some "posts.author_id = authors.id"⟩]

def compiledPosts : Compiled :=
  { Compiled.everything with
    joins := [⟨.inner, ⟨[.plain "posts"]⟩, none, some "posts.author_id = authors.id"⟩] }

theorem perform_withPosts :
    (EntityStore.Store.perform .direct (.select "authors" compiledPosts)
      (Store.scripted [joinedAnswer])).result = .ok [joinedRecord] := by
  have connected : (Store.scripted [joinedAnswer]).grant .direct = .ok () := rfl
  have named : Query.ident "authors" = .ok ⟨[.plain "authors"]⟩ := by cbv
  obtain ⟨log, performed⟩ : ∃ log, EntityStore.Store.perform .direct
      (.select "authors" compiledPosts) (Store.scripted [joinedAnswer]) = _ :=
    perform_select connected named rfl rfl decodeRow_joined
  rw [performed]

/-- The author is answered with the number of the post. -/
theorem run_withPosts : ∃ s',
    ((.direct : Repository Sample.Author).query withPosts).run.run
      (Session.start (Store.scripted [joinedAnswer])) = (.ok [.ofCells (7, "Ann", ())], s') := by
  have compiled : Query.compileClauses withPosts = .ok compiledPosts := by cbv
  obtain ⟨s, asked⟩ : ∃ s, (Action.ask .direct (.select "authors" compiledPosts)).run.run
      (Repository.asking Sample.Author (Session.start (Store.scripted [joinedAnswer]))
        compiledPosts) = (.ok [joinedRecord], s) := by
    refine ⟨_, Prod.ext ?_ rfl⟩
    rw [run_ask]
    change (EntityStore.Store.perform .direct (.select "authors" compiledPosts)
      (Store.scripted [joinedAnswer])).result.mapError _ = _
    rw [perform_withPosts]
    rfl
  have ran := Repository.run_query (.direct : Repository Sample.Author) compiled asked
  exact ⟨_, ran.trans (Prod.ext rfl rfl)⟩

/-- What a query of several tables answers, if it names no columns and the server answers with
those of the entity's own table and then those of the others. Each entity is what the hook of
found entities makes of one that was read from a row, and each of its fields is the decoded value
of the entity's own column if no other table has a column of that name; otherwise it is the
decoded value of the last such column of the other tables. -/
theorem joined_query_fields {l : Layout} {Extra : Type} [Inhabited Extra]
    (hooks : Hooks (l.Item Extra)) (repo : Repository (l.Item Extra))
    {clauses : List Query.Clause} {base joined : List (String × ServerType)}
    {s s' : Session Store} {found : List (l.Item Extra)}
    (unselected : ∀ fields, .select fields ∉ clauses)
    (starred : s.store.upcoming.columns = base ++ joined)
    (persisted : ∀ c ∈ l.columns, c.column ∈ base.map (·.1))
    (ran : letI := l.entity hooks; (repo.query clauses).run.run s = (.ok found, s')) :
    ∃ q table bound more, Query.compileClauses clauses = .ok q ∧ q.projection = [] ∧
      Query.ident l.table = .ok table ∧
      s'.store.sent = s.store.sent ++
        (repo.scope, .prepared (q.selectSql table).toSql bound) :: more ∧
      List.Forall₂ (fun row e => ∃ own others, ∃ read : l.Item Extra,
          Exchange.decodeFrom 0 base row = .ok own ∧
          Exchange.decodeFrom base.length joined (row.drop base.length) = .ok others ∧
          e = (hooks.afterFind read).2 ∧
          Cells.Each (fun c x =>
            (c.column ∉ joined.map (·.1) →
              (Record.ofPairs own).decode? c.type.Carrier c.column = .ok x) ∧
            (c.column ∈ joined.map (·.1) →
              (Record.ofPairs others).decode? c.type.Carrier c.column = .ok x))
            l.columns read.cells)
        s.store.upcoming.rows found := by
  let _ := l.entity hooks
  obtain ⟨q, table, bound, more, compiled, named, sent, rows⟩ := exists_of_layout_query ran
  refine ⟨q, table, bound, more, compiled, Query.projection_of_unselected unselected compiled,
    named, sent, rows.imp ?_⟩
  rintro row e ⟨pairs, read, split, hooked, fields⟩
  rw [starred] at split
  obtain ⟨own, others, decodedOwn, decodedOthers, rfl⟩ := Exchange.exists_of_decodeFrom_append split
  rw [Nat.zero_add] at decodedOthers
  refine ⟨own, others, read, decodedOwn, decodedOthers, hooked, fields.imp ?_⟩
  intro c member x here
  have present : c.column ∈ own.map (·.1) := by
    rw [Exchange.names_of_decodeFrom decodedOwn]
    exact persisted c member
  rw [← Exchange.names_of_decodeFrom decodedOthers]
  exact decode?_of_joined present here

/-- The name of an author with a post is the author's own, the number is that of the post. -/
theorem author_joined_fields : ∃ (e : Sample.Author) (own others : List (String × Value)),
    (∃ s', ((.direct : Repository Sample.Author).query withPosts).run.run
      (Session.start (Store.scripted [joinedAnswer])) = (.ok [e], s')) ∧
    Exchange.decodeFrom 0 authorColumns authorBesidePost = .ok own ∧
    Exchange.decodeFrom 2 postColumns (authorBesidePost.drop 2) = .ok others ∧
    (Record.ofPairs own).decode? String "name" = .ok e.cells.2.1 ∧
    (Record.ofPairs others).decode? Int64 "id" = .ok e.cells.1 := by
  obtain ⟨s', ran⟩ := run_withPosts
  have unselected : ∀ fields, Query.Clause.select fields ∉ withPosts := by simp [withPosts]
  have starred : (Session.start (Store.scripted [joinedAnswer])).store.upcoming.columns =
      authorColumns ++ postColumns := rfl
  have persisted : ∀ c ∈ Sample.author.columns, c.column ∈ authorColumns.map (·.1) := by
    simp [Sample.author, authorColumns]
  obtain ⟨q, table, bound, more, -, -, -, -, fields⟩ :=
    joined_query_fields {} .direct unselected starred persisted ran
  cases fields with
  | cons first _ =>
    obtain ⟨own, others, read, decodedOwn, decodedOthers, same, id, name, -⟩ := first
    refine ⟨_, own, others, ⟨s', ran⟩, decodedOwn, decodedOthers, ?_, ?_⟩
    · rw [same]
      exact name.1 (by simp [postColumns])
    · rw [same]
      exact id.2 (by simp [postColumns])

/-- The number of the answered author is not what the author's own column holds. -/
theorem joined_number_replaced : ∃ (e : Sample.Author) (own : List (String × Value)),
    (∃ s', ((.direct : Repository Sample.Author).query withPosts).run.run
      (Session.start (Store.scripted [joinedAnswer])) = (.ok [e], s')) ∧
    joinedAnswer.columns = authorColumns ++ postColumns ∧
    Exchange.decodeFrom 0 authorColumns authorBesidePost = .ok own ∧
    (Record.ofPairs own).decode? Int64 "id" = .ok 1 ∧ e.cells.1 = 7 :=
  ⟨_, _, run_withPosts, rfl, decodeFrom_author, rfl, rfl⟩

end Postgres

end EntityStore
