import EntityStore.Proofs.Memory.Answer
import EntityStore.Proofs.Repository.KeyOperation
import EntityStore.Proofs.Repository.Loading

/-!
# First entities

One entity is asked for by a selection of one row, and relations are loaded for it alone. It comes
out as it would have come out in front of the list that the query answers: the first row is the
first of all, and rows that are attached to an entity do not depend on the entities it is loaded
with. A limit of the query is overridden by that of the one row, also where it is zero.
-/

namespace EntityStore

/-! ## First rows -/

namespace Memory

theorem page_first {limit : Option UInt64} (nonzero : limit ≠ some 0) (offset : Option UInt64)
    (rows : List Record) :
    page offset (some 1) rows = (page offset limit rows).take 1 := by
  cases limit with
  | none => rfl
  | some n =>
    have positive : 1 ≤ n.toNat := by
      refine Nat.pos_of_ne_zero fun zero => nonzero (congrArg some ?_)
      exact UInt64.toNat_inj.mp zero
    rw [page, page, List.take_take, Nat.min_eq_left positive]
    rfl

theorem select_limited_to_nothing {s : Store} {scope : Scope} {table : String} {q : Compiled}
    {rows : List Record} (zero : q.limit = some 0)
    (selected : (s.perform scope (.select table q)).1 = .ok rows) : rows = [] := by
  rw [Store.perform_select] at selected
  obtain ⟨ts, -, selected⟩ := exists_of_bind selected
  obtain ⟨_, -, selected⟩ := exists_of_bind selected
  obtain ⟨t, -, ran⟩ := exists_of_bind selected
  rw [runQuery_eq_page, zero] at ran
  obtain ⟨whole, -, rfl⟩ := exists_of_map ran
  rw [page]
  exact List.take_zero

theorem firstRow_take (rows : List Record) : firstRow (rows.take 1) = firstRow rows := by
  cases rows <;> rfl

theorem runQuery_first_of {q : Compiled} (nonzero : q.limit ≠ some 0) (rows : List Record) :
    runQuery q.first rows = List.take 1 <$> runQuery q rows := by
  rw [runQuery_eq_page q.first, runQuery_eq_page q]
  change (runQuery q.unlimited rows).map _ = _
  cases runQuery q.unlimited rows with
  | error e => rfl
  | ok whole => exact congrArg Except.ok (page_first nonzero q.offset whole)

/-- Unless a query is limited to nothing, the query for its first row answers that row. -/
theorem select_first (s : Store) (scope : Scope) (table : String) {q : Compiled}
    (nonzero : q.limit ≠ some 0) :
    (s.perform scope (.select table q.first)).1 =
      List.take 1 <$> (s.perform scope (.select table q)).1 := by
  rw [Store.perform_select, Store.perform_select, map_bind]
  refine bind_congr fun ts => ?_
  rw [Tables.select, Tables.select, map_bind]
  refine bind_congr fun _ => ?_
  rw [map_bind]
  exact bind_congr fun t => runQuery_first_of nonzero t.rows

end Memory

namespace Repository

variable {α : Type} [Entity α] {scope : Scope} {r : Relation} {s t s' : Session Memory.Store}

/-- Unless a query is limited to nothing, fetching its first row answers the first of its rows. -/
theorem run_fetchOne_select {q : Compiled} (nonzero : q.limit ≠ some 0) (scope : Scope)
    (table : String) (s : Session Memory.Store) :
    ∃ s', (Action.fetchOne scope table q).run.run s =
      (((s.store.perform scope (.select table q)).1 >>= firstRow).mapError StoreError.classify,
        s') ∧ s'.store = s.store := by
  have first : (s.store.perform scope (.select table q.first)).1 >>= firstRow =
      (s.store.perform scope (.select table q)).1 >>= firstRow := by
    rw [Memory.select_first s.store scope table nonzero, bind_map_left]
    simp only [Memory.firstRow_take]
  have kept : (s.store.perform scope (.select table q.first)).2 = s.store :=
    congrArg Prod.snd (s.store.perform_select scope table q.first)
  have classified := congrArg (fun answer => answer.mapError StoreError.classify) first
  exact ⟨_, (Action.run_fetchOne scope table q s).trans (congrArg (·, _) classified), kept⟩

/-! ## Relations of one entity -/

/-- The rows of the related table that hold anything in the column by the very name that the
relation has for it hold what they hold in the column that the name is read as. -/
def Coherent (s : Memory.Store) (scope : Scope) (r : Relation) : Prop :=
  ∀ i, Query.ident r.relatedColumn = .ok i → ∀ rows, s.carrying scope r.table i.name = .ok rows →
    ∀ row ∈ rows, row.get? r.relatedColumn = none ∨ row.get? r.relatedColumn = row.get? i.name

/-- A plain name is read as it stands. -/
theorem coherent_of_plain (plain : (Ident.Part.plain r.relatedColumn).WellFormed)
    (s : Memory.Store) (scope : Scope) : Coherent s scope r := by
  intro i named rows _ row _
  rw [Query.ident_plain plain] at named
  obtain rfl := Except.ok.inj named
  exact .inr rfl

theorem wantedKeys_singleton (key : Value) :
    wantedKeys [key] = if key.isNull then [] else [key] := by
  cases null : key.isNull <;> simp [wantedKeys, null]

/-- Of the rows that are selected for all keys those of one key are as if selected for it alone. -/
theorem related_alone {keys : List Value} {key : Value} {rows : List Record}
    (coherent : Coherent s.store scope r) (member : key ∈ keys)
    (found : related s.store scope r (wantedKeys keys) = .ok rows) :
    ∃ own, related s.store scope r (wantedKeys [key]) = .ok own ∧
      matchingRows r.relatedColumn key own = matchingRows r.relatedColumn key rows := by
  cases null : key.isNull with
  | true =>
    refine ⟨[], ?_, ?_⟩
    · rw [wantedKeys_singleton, null]
      rfl
    · rw [matchingRows_null null, matchingRows_null null]
  | false =>
    have wanted : wantedKeys keys ≠ [] := by
      intro nothing
      have := isNull_of_wantedKeys nothing key member
      rw [null] at this
      cases this
    have wantedAlone : wantedKeys [key] ≠ [] := by
      rw [wantedKeys_singleton, null]
      exact List.cons_ne_nil key []
    rw [related, if_neg (mt List.isEmpty_iff.mp wanted)] at found
    obtain ⟨i, named, found⟩ := exists_of_bind found
    obtain ⟨all, carried, rfl⟩ := exists_of_map (ok_of_mapError found)
    have same := coherent i named all carried
    refine ⟨all.filter fun row =>
      Memory.compares (row.getD i.name) .isIn (.list (wantedKeys [key])), ?_, ?_⟩
    · rw [related, if_neg (mt List.isEmpty_iff.mp wantedAlone), named]
      change ((s.store.carrying scope r.table i.name).map _).mapError _ = _
      rw [carried]
      rfl
    · rw [matchingRows_among member same, matchingRows_among (List.mem_singleton_self key) same]

/-- An entity that a relation is loaded for comes out the same among others and alone. -/
theorem run_loadRelation_alone {e : α} {es es' : List α} (coherent : Coherent s.store scope r)
    (same : t.store = s.store)
    (ran : (loadRelation scope r (e :: es)).run.run s = (.ok es', s')) :
    ∃ e' rest t', es' = e' :: rest ∧
      (loadRelation scope r [e]).run.run t = (.ok [e'], t') ∧
      s'.store = s.store ∧ t'.store = s.store := by
  obtain ⟨mid, asked, kept⟩ := run_related (r := r) scope s ((e :: es).map (relationKey r))
  obtain ⟨mid', asked', kept'⟩ := run_related (r := r) scope t ([e].map (relationKey r))
  rw [loadRelation, run_bind_ofExcept asked] at ran
  obtain ⟨loaded, rfl⟩ := Prod.mk.inj ran
  obtain ⟨rows, found, attached⟩ := exists_of_bind loaded
  obtain ⟨own, foundAlone, own_eq⟩ := related_alone coherent List.mem_cons_self found
  obtain ⟨e', rest, here, -, rfl⟩ := List.forall₂_cons_left_iff.mp (forall₂_of_mapM attached)
  refine ⟨e', rest, mid', rfl, ?_, kept, kept'.trans same⟩
  have alone : related s.store scope r (wantedKeys ([e].map (relationKey r))) = .ok own :=
    foundAlone
  rw [loadRelation, run_bind_ofExcept asked', same, alone]
  rw [← own_eq] at here
  exact congrArg (·, mid') (mapM_eq_ok.mpr (.cons here .nil))

/-- The relations of the names are coherent. -/
def AllCoherent (α : Type) [Entity α] (s : Memory.Store) (scope : Scope) (names : List String) :
    Prop :=
  ∀ name ∈ names, ∀ r, findRelation α name = .ok r → Coherent s scope r

theorem run_loadRelations_alone {names : List String} {e : α} {es es' : List α}
    (coherent : AllCoherent α s.store scope names) (same : t.store = s.store)
    (ran : (loadRelations scope names (e :: es)).run.run s = (.ok es', s')) :
    ∃ e' rest t', es' = e' :: rest ∧
      (loadRelations scope names [e]).run.run t = (.ok [e'], t') ∧
      s'.store = s.store ∧ t'.store = s.store := by
  induction names generalizing e es s t with
  | nil =>
    cases ran
    exact ⟨e, es, t, rfl, rfl, rfl, same⟩
  | cons name names ih =>
    obtain ⟨here, later⟩ := List.forall_mem_cons.mp coherent
    obtain ⟨r, mid, s₁, found, loaded, -, ran⟩ := exists_of_loadRelations_cons ran
    obtain ⟨e₁, es₁, t₁, rfl, alone, kept, kept'⟩ :=
      run_loadRelation_alone (here r found) same loaded
    obtain ⟨e', rest, t', rfl, rest_alone, last, last'⟩ :=
      ih (kept ▸ later) (kept'.trans kept.symm) ran
    refine ⟨e', rest, t', rfl, ?_, last.trans kept, last'.trans kept⟩
    rw [loadRelations_cons names found]
    exact (run_bind_ok alone).trans rest_alone

/-! ## Queries -/

theorem run_found_eq (repo : Repository α) (e : α) (s : Session Memory.Store) :
    (repo.found e).run.run s =
      (.ok (Entity.hooks.afterFind e).2, s.note (repo.lateEvents .afterFind e)) :=
  Mutation.run_changed (run_late repo .afterFind e s)

theorem run_mapM_found (repo : Repository α) (es : List α) (s : Session Memory.Store) :
    (es.mapM repo.found : Action Memory.Store (List α)).run.run s =
      (.ok (es.map fun e => (Entity.hooks.afterFind e).2),
        s.note (es.flatMap (repo.lateEvents .afterFind))) := by
  induction es generalizing s with
  | nil => exact congrArg (Prod.mk _) (Mutation.note_nil s).symm
  | cons e es ih =>
    rw [List.mapM_cons, run_bind_ok (run_found_eq repo e s), run_bind_ok (ih _), Mutation.note_note]
    rfl

section

variable {repo : Repository α} {clauses : List Query.Clause} {q : Compiled}

theorem run_queryOne (compiles : Query.compileClauses clauses = .ok q)
    (s : Session Memory.Store) :
    (repo.queryOne clauses).run.run s =
      (Action.fetchOne repo.scope (Entity.info α).table q >>= repo.finish q.preloads).run.run
        (s.note [.log (line (Entity.info α).name "query_one" "select" [])]) := by
  have accepted : (compiled clauses : Action Memory.Store Compiled).run.run s = (.ok q, s) := by
    rw [Repository.compiled, compiles]
    rfl
  have logged : (logOp α "query_one" "select" [] : Action Memory.Store Unit).run.run s =
      (.ok (), _) := run_log _ s
  rw [queryOne, run_bind_ok accepted, run_bind_ok logged]

/-- What is fetched for one entity if the query for all answers. -/
theorem run_fetchOne_of_query {rows : List Record} {sent : Session Memory.Store}
    (nonzero : q.limit ≠ some 0)
    (asked : (Action.ask repo.scope (.select (Entity.info α).table q)).run.run s =
      (.ok rows, sent))
    (same : t.store = s.store) :
    sent.store = s.store ∧ ∃ t', t'.store = s.store ∧
      (Action.fetchOne repo.scope (Entity.info α).table q).run.run t =
        ((firstRow rows).mapError StoreError.classify, t') := by
  have performed := Memory.perform_of_ask asked
  obtain ⟨t', fetched, kept⟩ := run_fetchOne_select nonzero repo.scope (Entity.info α).table t
  refine ⟨?_, t', kept.trans same, ?_⟩
  · rw [Memory.Store.perform_select] at performed
    exact (Prod.mk.inj performed).2.symm
  · rw [fetched, same, performed]
    rfl

/-- An entity that the query answers first is what is answered alone. -/
theorem run_queryOne_of_query {e : α} {es : List α}
    (coherent : ∀ q, Query.compileClauses clauses = .ok q →
      AllCoherent α s.store repo.scope q.preloads)
    (ran : (repo.query clauses).run.run s = (.ok (e :: es), s')) :
    ∃ (first : α) (others : List α) (before before' : Session Memory.Store),
      e = (Entity.hooks.afterFind first).2 ∧
      s' = before.note ((first :: others).flatMap (repo.lateEvents .afterFind)) ∧
      (repo.queryOne clauses).run.run s =
        (.ok e, before'.note (repo.lateEvents .afterFind first)) ∧
      before.store = s.store ∧ before'.store = s.store := by
  obtain ⟨q, rows, decoded, loaded, sent, before, compiles, asked, read, attached, -, last⟩ :=
    exists_of_run_query ran
  rw [run_mapM_found] at last
  obtain ⟨answer, rfl⟩ := Prod.mk.inj last
  obtain ⟨first, others, rfl, rfl, -⟩ := List.map_eq_cons_iff.mp (Except.ok.inj answer)
  obtain ⟨d, ds, -, -, rfl⟩ :=
    List.forall₂_cons_right_iff.mp (forall₂_of_loadRelations attached)
  obtain ⟨row, rest, decodes, -, rfl⟩ := List.forall₂_cons_right_iff.mp read
  have nonzero : q.limit ≠ some 0 := by
    intro zero
    have selected := congrArg Prod.fst (Memory.perform_of_ask asked)
    exact List.cons_ne_nil row rest (Memory.select_limited_to_nothing zero selected)
  obtain ⟨kept, t, store, fetched⟩ := run_fetchOne_of_query nonzero asked
    (t := s.note [.log (line (Entity.info α).name "query_one" "select" [])]) rfl
  change sent.store = s.store at kept
  have coherent : AllCoherent α sent.store repo.scope q.preloads := kept ▸ coherent q compiles
  obtain ⟨_, _, before', same, alone, last, last'⟩ :=
    run_loadRelations_alone coherent (t := t) (store.trans kept.symm) attached
  obtain ⟨rfl, rfl⟩ := List.cons.inj same
  refine ⟨first, others, before, before', rfl, rfl, ?_, last.trans kept, last'.trans kept⟩
  have decoded : (decodeRow α row : Action Memory.Store α).run.run t = (.ok d, t) := by
    rw [decodeRow, decodes]
    rfl
  rw [run_queryOne compiles, run_bind_ok fetched, finish, run_bind_ok decoded, run_bind_ok alone]
  exact run_found_eq repo first before'

/-- Where the query answers nothing, nothing is found, unless it was limited to nothing. -/
theorem run_queryOne_of_empty (compiles : Query.compileClauses clauses = .ok q)
    (nonzero : q.limit ≠ some 0) (ran : (repo.query clauses).run.run s = (.ok [], s')) :
    ((repo.queryOne clauses).run.run s).1 = .error StoreError.noRows.classify := by
  obtain ⟨q', rows, decoded, loaded, sent, before, compiles', asked, read, attached, -, last⟩ :=
    exists_of_run_query ran
  obtain rfl := Except.ok.inj (compiles.symm.trans compiles')
  rw [run_mapM_found] at last
  obtain rfl := List.map_eq_nil_iff.mp (Except.ok.inj (Prod.mk.inj last).1)
  obtain rfl := List.forall₂_nil_right_iff.mp (forall₂_of_loadRelations attached)
  obtain rfl := List.forall₂_nil_right_iff.mp read
  obtain ⟨-, t, -, fetched⟩ := run_fetchOne_of_query nonzero asked
    (t := s.note [.log (line (Entity.info α).name "query_one" "select" [])]) rfl
  rw [run_queryOne compiles, run_bind_error fetched]

theorem compileClauses_limit (clauses : List Query.Clause) (n : UInt64) :
    Query.compileClauses (clauses ++ [.limit n]) =
      (fun q => { q with limit := some n }) <$> Query.compileClauses clauses := by
  have last : Query.ofClauses (clauses ++ [.limit n]) =
      { Query.ofClauses clauses with limit := some n } := by
    rw [Query.ofClauses, List.foldl_append]
    rfl
  rw [Query.compileClauses, last, Query.compileClauses]
  simp only [Query.compile, map_bind, map_pure]

/-- A limit makes no difference to what is asked for one entity. -/
theorem queryOne_limit (repo : Repository α) (clauses : List Query.Clause) (n : UInt64) :
    (repo.queryOne (clauses ++ [.limit n]) : Action Memory.Store α) = repo.queryOne clauses := by
  rw [queryOne, queryOne, compiled, compiled, compileClauses_limit]
  cases Query.compileClauses clauses <;> rfl

end

/-- Where the query answers, the entity that is asked for alone is the first that it answers, with
the same rows attached and after the same run of the hook of found entities; where it answers no
entity, none is found. Relations have to be coherent, and where no entity is answered because the
query was limited to nothing, the first entity is answered nonetheless: what is asked for one
entity does not depend on the limit. -/
theorem queryOne_is_first (repo : Repository α) (clauses : List Query.Clause)
    (session : Session Memory.Store)
    (coherent : ∀ q, Query.compileClauses clauses = .ok q →
      AllCoherent α session.store repo.scope q.preloads) :
    (∀ e es after, (repo.query clauses).run.run session = (.ok (e :: es), after) →
      ∃ (first : α) (others : List α) (before before' : Session Memory.Store),
        e = (Entity.hooks.afterFind first).2 ∧
        after = before.note ((first :: others).flatMap (repo.lateEvents .afterFind)) ∧
        (repo.queryOne clauses).run.run session =
          (.ok e, before'.note (repo.lateEvents .afterFind first)) ∧
        before.store = session.store ∧ before'.store = session.store) ∧
    (∀ q after, Query.compileClauses clauses = .ok q → q.limit ≠ some 0 →
      (repo.query clauses).run.run session = (.ok [], after) →
      ((repo.queryOne clauses).run.run session).1 = .error StoreError.noRows.classify ∧
        StoreError.noRows.classify.kind = .notFound) ∧
    ∀ n, (repo.queryOne (clauses ++ [.limit n])).run.run session =
      (repo.queryOne clauses).run.run session := by
  refine ⟨?_, ?_, ?_⟩
  · intro e es after ran
    exact run_queryOne_of_query coherent ran
  · intro q after compiles nonzero ran
    exact ⟨run_queryOne_of_empty compiles nonzero ran, rfl⟩
  · intro n
    rw [queryOne_limit]

/-- Two authors. -/
def peopled : Memory.Store :=
  Step.after ∅ [.ask .direct (.createTable ⟨"authors", []⟩), .ask .direct (.insert "authors"
    [.ofPairs [("id", .int 2), ("name", .text "Ben")],
      .ofPairs [("id", .int 1), ("name", .text "Ann")]] [])]

/-- Two authors with their posts. -/
def postedBoth : Memory.Store :=
  Step.after peopled [.ask .direct (.createTable ⟨"posts", []⟩), .ask .direct (.insert "posts"
    [.ofPairs [("id", .int 5), ("author_id", .int 1), ("title", .text "a")],
      .ofPairs [("id", .int 6), ("author_id", .int 2), ("title", .text "b")]] [])]

/-- Of two authors the first is answered alone as among both, with the one post. -/
theorem first_author_with_posts :
    let repo : Repository Sample.Author := .direct
    let clauses : List Query.Clause := [.preload "posts", .limit 5]
    let ben : Sample.Author := ⟨(2, "Ben", ()), ([(6, some 2, "b", ())], none, [], ()), ()⟩
    let ann : Sample.Author := ⟨(1, "Ann", ()), ([(5, some 1, "a", ())], none, [], ()), ()⟩
    (∀ q, Query.compileClauses clauses = .ok q →
      AllCoherent Sample.Author postedBoth repo.scope q.preloads) ∧
    ((repo.query clauses).run.run (Session.start postedBoth)).1 = .ok [ben, ann] ∧
    ((repo.queryOne clauses).run.run (Session.start postedBoth)).1 = .ok ben := by
  intro repo clauses ben ann
  have coherent : ∀ q, Query.compileClauses clauses = .ok q →
      AllCoherent Sample.Author postedBoth repo.scope q.preloads := by
    rintro q compiles name member r found
    cases compiles
    exact coherent_of_plain (plainly_posts name member r found) postedBoth repo.scope
  have both : ((repo.query clauses).run.run (Session.start postedBoth)).1 = .ok [ben, ann] := by
    cbv
  obtain ⟨heads, -, -⟩ := queryOne_is_first repo clauses (Session.start postedBoth) coherent
  obtain ⟨_, _, _, _, -, -, alone, -, -⟩ := heads ben [ann] _ (Prod.ext both rfl)
  exact ⟨coherent, both, congrArg Prod.fst alone⟩

/-- Limited to nothing, the query answers no author, and yet one is found. -/
theorem limit_of_nothing_overridden :
    let repo : Repository Sample.Author := .direct
    ((repo.query [.limit 0]).run.run (Session.start peopled)).1 = .ok [] ∧
      ((repo.queryOne [.limit 0]).run.run (Session.start peopled)).1 =
        .ok (.ofCells (2, "Ben", ())) :=
  ⟨rfl, rfl⟩

/-! ### A quoted column -/

/-- Authors whose posts are matched by a column with a quoted name. -/
def quoting : Layout :=
  { Sample.author with
    relations := [⟨⟨"posts", .hasMany, "posts", "\"author_id\"", "id"⟩, Sample.post.columns⟩] }

instance : Entity (quoting.Item Unit) := quoting.entity {}

/-- A post that is the first author's by its column, and the second's by one whose name has the
quotes in it. -/
def doublyPosted : Memory.Store :=
  Step.after peopled [.ask .direct (.createTable ⟨"posts", []⟩), .ask .direct (.insert "posts"
    [.ofPairs [("id", .int 5), ("author_id", .int 1), ("\"author_id\"", .int 2),
      ("title", .text "a")]] [])]

/-- Where a relation is not coherent, the second author gets the post among both authors, and does
not get it alone. -/
theorem quoted_column_differs :
    let repo : Repository (quoting.Item Unit) := .direct
    ((repo.query [.preload "posts"]).run.run (Session.start doublyPosted)).1 =
        .ok [⟨(2, "Ben", ()), ([(5, some 1, "a", ())], ()), ()⟩, .ofCells (1, "Ann", ())] ∧
      ((repo.queryOne [.preload "posts"]).run.run (Session.start doublyPosted)).1 =
        .ok (.ofCells (2, "Ben", ())) := by
  constructor <;> cbv

end Repository

end EntityStore
