import EntityStore.Proofs.Repository.Migration

/-!
# Indexes of entities

An index is known by its name, which is put together from the table and the columns. So an index
on some columns is in the way of one on others if both come to the same name. All indexes that a
repository creates have such names, and this is all that its calls depend on.
-/

namespace EntityStore

/-! ## Names -/

/-- The columns are those of a list of fields. -/
def EntityInfo.Resolves (info : EntityInfo) (columns : List String) : Prop :=
  ∃ fields, fields ≠ [] ∧ fields.mapM (Repository.resolveColumn info) = .ok columns

/-- No two lists of columns are joined to the same text. -/
def EntityInfo.Separable (info : EntityInfo) : Prop :=
  ∀ cs ds, info.Resolves cs → info.Resolves ds →
    "_".intercalate cs = "_".intercalate ds → cs = ds

/-- Texts that are joined by a character that none of them has can be told apart again. -/
theorem eq_of_intercalate_eq {cs ds : List String} (someC : cs ≠ []) (someD : ds ≠ [])
    (plainC : ∀ c ∈ cs, '_' ∉ c.toList) (plainD : ∀ d ∈ ds, '_' ∉ d.toList)
    (same : "_".intercalate cs = "_".intercalate ds) : cs = ds := by
  have split (es : List String) (some : es ≠ []) (plain : ∀ e ∈ es, '_' ∉ e.toList) :
      List.splitOn '_' ("_".intercalate es).toList = es.map String.toList := by
    rw [String.toList_intercalate]
    refine List.splitOn_intercalate '_' ?_ (by simpa using some)
    intro l member
    obtain ⟨e, inEs, rfl⟩ := List.mem_map.mp member
    exact plain e inEs
  refine List.map_injective_iff.mpr (fun _ _ => String.toList_injective) ?_
  rw [← split cs someC plainC, ← split ds someD plainD, same]

namespace EntityInfo

variable {info : EntityInfo} {columns : List String}

theorem mem_columns_of_resolveColumn {name c : String}
    (resolved : Repository.resolveColumn info name = .ok c) : c ∈ info.columns := by
  unfold Repository.resolveColumn at resolved
  split at resolved
  case h_2 => cases resolved
  case h_1 f found =>
    cases resolved
    refine List.mem_map_of_mem ?_
    unfold resolve? at found
    split at found
    case h_1 g named =>
      obtain rfl := Option.some.inj found
      exact List.mem_of_find?_eq_some named
    case h_2 => exact List.mem_of_find?_eq_some found

theorem Resolves.mem_columns (resolves : info.Resolves columns) :
    ∀ c ∈ columns, c ∈ info.columns := by
  obtain ⟨fields, -, resolved⟩ := resolves
  have each := forall₂_of_mapM resolved
  clear resolved
  induction each with
  | nil => exact nofun
  | cons here _ ih =>
    exact List.forall_mem_cons.mpr ⟨mem_columns_of_resolveColumn here, ih⟩

theorem Resolves.ne_nil (resolves : info.Resolves columns) : columns ≠ [] := by
  obtain ⟨fields, some, resolved⟩ := resolves
  rintro rfl
  exact some (List.length_eq_zero_iff.mp (length_of_mapM resolved).symm)

theorem separable_of_notMem (plain : ∀ c ∈ info.columns, '_' ∉ c.toList) : info.Separable :=
  fun _ _ left right => eq_of_intercalate_eq left.ne_nil right.ne_nil
    (fun c member => plain c (left.mem_columns c member))
    (fun c member => plain c (right.mem_columns c member))

end EntityInfo

/-! ## Tables -/

namespace Memory.Tables

variable {ts ts' : Tables} {table name : String} {index : Index} {e : StoreError}

theorem indexes_set_self (ts : Tables) (name : String) (t : Table) :
    (ts.set name t).indexes name = t.indexes := by
  rw [indexes, get?_set, if_pos rfl]
  rfl

theorem indexes_of_get? {t : Table} (found : ts.get? name = some t) :
    ts.indexes name = t.indexes := by
  rw [indexes, found]
  rfl

theorem hasIndex_iff : ((ts.get? table).map (·.hasIndex name)).getD false = true ↔
    ∃ ix ∈ ts.indexes table, ix.name = name := by
  rw [indexes]
  cases ts.get? table with
  | none => simp
  | some t => simp [Table.hasIndex]

theorem indexes_addIndex (done : ts.addIndex index = .ok ts') :
    ts'.indexes index.table = ts.indexes index.table ++ [index] := by
  obtain ⟨t, found, done⟩ := exists_of_bind done
  obtain ⟨t', added, done⟩ := exists_of_bind done
  cases done
  obtain ⟨rfl, -⟩ := Table.addIndex_eq_ok added
  rw [indexes_set_self, indexes_of_get? (get_eq_ok.mp found)]

theorem indexes_dropIndex (ts : Tables) (table name : String) :
    (ts.dropIndex table name).indexes table = (ts.indexes table).filter (·.name ≠ name) := by
  rw [dropIndex]
  cases found : ts.get? table with
  | none =>
    rw [indexes, found]
    rfl
  | some t =>
    dsimp only
    rw [indexes_set_self, indexes_of_get? found]
    rfl

theorem cause_of_checkColumns {t : Table} {columns : List String}
    (failed : t.checkColumns columns = .error e) : e.classify.cause ≠ none := by
  unfold Table.checkColumns at failed
  split at failed
  · cases failed
  · split at failed
    · cases failed
      exact Option.some_ne_none _
    · cases failed

theorem cause_of_checkKey {rows : List Record} {key : List String}
    (failed : checkKey table rows key = .error e) : e.classify.cause ≠ none := by
  unfold checkKey at failed
  split at failed
  · cases failed
    exact Option.some_ne_none _
  · cases failed

/-- What goes wrong in the store keeps its text as a cause. -/
theorem cause_of_addIndex (failed : ts.addIndex index = .error e) : e.classify.cause ≠ none := by
  rcases error_of_bind failed with missing | ⟨t, -, failed⟩
  · unfold get at missing
    split at missing <;> cases missing
    exact Option.some_ne_none _
  rcases error_of_bind failed with failed | ⟨_, -, impossible⟩
  case inr => cases impossible
  unfold Table.addIndex at failed
  by_cases taken : t.hasIndex index.name = true
  · rw [if_pos taken] at failed
    cases failed
    exact Option.some_ne_none _
  rw [if_neg taken] at failed
  rcases error_of_bind failed with failed | ⟨_, -, failed⟩
  · exact cause_of_checkColumns failed
  by_cases unique : index.unique = true
  · simp only [if_pos unique] at failed
    rcases error_of_bind failed with failed | ⟨_, -, impossible⟩
    · exact cause_of_checkKey failed
    · cases impossible
  · simp only [if_neg unique] at failed
    cases failed

/-- A table takes an index of a new name on columns that it has, if the rows need not differ. -/
theorem exists_addIndex {t : Table} (found : ts.get? index.table = some t)
    (fresh : t.indexes = []) (has : ∀ c ∈ index.columns, t.hasColumn c = true)
    (loose : index.unique = false) : ∃ ts', ts.addIndex index = .ok ts' := by
  have new : t.hasIndex index.name = false := by
    rw [Table.hasIndex, fresh]
    rfl
  have columns : t.checkColumns index.columns = .ok () := by
    rw [Table.checkColumns]
    split
    · rfl
    · have none : index.columns.find? (fun c => !t.hasColumn c) = none :=
        List.find?_eq_none.mpr fun c member => by simp [has c member]
      rw [none]
  have added : t.addIndex index = .ok { t with indexes := t.indexes ++ [index] } := by
    rw [Table.addIndex, new, if_neg Bool.false_ne_true]
    simp only [columns, loose]
    rfl
  refine ⟨ts.set index.table { t with indexes := t.indexes ++ [index] }, ?_⟩
  rw [addIndex, get_eq_ok.mpr found]
  change (t.addIndex index >>= fun t' => _) = _
  rw [added]
  rfl

end Memory.Tables

/-! ## Calls -/

namespace Repository

open Memory

variable {α : Type} [Entity α]

/-- A call that is about the indexes of an entity. -/
inductive IndexCall where
  | create (fields : List String) (unique : Bool)
  | drop (name : String)

def IndexCall.action (repo : Repository α) : IndexCall → Action Memory.Store Unit
  | .create fields unique => repo.createIndex fields unique
  | .drop name => repo.dropIndex name

/-- The session after some calls, whether they fail or not. -/
def afterCalls (repo : Repository α) (s : Session Memory.Store) (calls : List IndexCall) :
    Session Memory.Store :=
  calls.foldl (fun s c => ((c.action repo).run.run s).2) s

/-- The indexes on the entity's table. -/
def indexesIn (repo : Repository α) (s : Session Memory.Store) : List Index :=
  match s.store.tablesOf repo.scope with
  | .ok ts => ts.indexes (Entity.info α).table
  | .error _ => []

section

variable {repo : Repository α} {s : Session Memory.Store} {ts : Tables}
  {fields columns : List String} {unique : Bool} {index : Index}

theorem indexesIn_of_tables (tables : s.store.tablesOf repo.scope = .ok ts) :
    repo.indexesIn s = ts.indexes (Entity.info α).table := by
  rw [indexesIn, tables]

theorem indexOn_of_resolved {info : EntityInfo} (some : fields ≠ [])
    (resolved : fields.mapM (resolveColumn info) = .ok columns) (unique : Bool) :
    indexOn info fields unique =
      .ok ⟨indexName info.table columns, info.table, columns, unique⟩ := by
  rw [indexOn, if_neg (by simpa using some), resolved]
  rfl

theorem exists_of_indexOn {info : EntityInfo} (made : indexOn info fields unique = .ok index) :
    ∃ columns, fields ≠ [] ∧ fields.mapM (resolveColumn info) = .ok columns ∧
      index = ⟨indexName info.table columns, info.table, columns, unique⟩ := by
  unfold indexOn at made
  split at made
  · cases made
  · rename_i some
    obtain ⟨columns, resolved, rfl⟩ := exists_of_map made
    exact ⟨columns, by simpa using some, resolved, rfl⟩

/-- What creating an index answers and makes of the tables: a name that is taken is refused before
the store is asked. -/
def creation (ts : Tables) (index : Index) : Except Error Unit × Tables :=
  if (ts.indexes index.table).any (·.name = index.name) then (.error (indexExists index.name), ts)
  else
    match ts.addIndex index with
    | .ok ts' => (.ok (), ts')
    | .error e => (.error e.classify, ts)

theorem run_createIndex (tables : s.store.tablesOf repo.scope = .ok ts)
    (made : indexOn (Entity.info α) fields unique = .ok index) :
    ((repo.createIndex fields unique).run.run s).1 = (creation ts index).1 ∧
      ((repo.createIndex fields unique).run.run s).2.store.tablesOf repo.scope =
        .ok (creation ts index).2 := by
  have asIndex : (Attempt.ofExcept (indexOn (Entity.info α) fields unique) :
      Action Memory.Store Index).run.run s = (.ok index, s) := by
    rw [made]
    rfl
  have taken_iff : ((ts.get? index.table).map (·.hasIndex index.name)).getD false =
      (ts.indexes index.table).any (·.name = index.name) := by
    rw [Bool.eq_iff_iff, Tables.hasIndex_iff]
    simp
  have looked : ts.answer (.hasIndex index.table index.name) =
      .ok ((ts.indexes index.table).any (·.name = index.name), ts) :=
    congrArg (fun b => Except.ok (b, ts)) taken_iff
  obtain ⟨mid, asked, same⟩ := run_ask_of_read tables rfl looked
  rw [createIndex, run_bind_ok asIndex, run_bind_ok asked, creation]
  cases taken : (ts.indexes index.table).any (·.name = index.name) with
  | true => exact ⟨rfl, same ▸ tables⟩
  | false =>
    rw [← same] at tables
    cases added : ts.addIndex index with
    | error e =>
      have refused : ts.answer (.createIndex index) = .error e := congrArg (Except.map _) added
      have performed : mid.store.perform repo.scope (.createIndex index) = (.error e, mid.store) :=
        Store.answer_of_error tables refused
      dsimp only
      rw [if_neg Bool.false_ne_true, run_ask_of_perform performed]
      exact ⟨rfl, tables⟩
    | ok ts' =>
      have answered : ts.answer (.createIndex index) = .ok ((), ts') :=
        congrArg (Except.map _) added
      have performed : mid.store.perform repo.scope (.createIndex index) =
          (.ok (), mid.store.setTables repo.scope ts') := Store.answer_of_ok tables answered
      dsimp only
      rw [if_neg Bool.false_ne_true, run_ask_of_perform performed]
      exact ⟨rfl, Store.tablesOf_setTables tables⟩

theorem tablesOf_dropIndex (tables : s.store.tablesOf repo.scope = .ok ts) (name : String) :
    ∃ ts', ((repo.dropIndex name).run.run s).2.store.tablesOf repo.scope = .ok ts' ∧
      (ts' = ts ∨ ts' = ts.dropIndex (Entity.info α).table name) := by
  rw [dropIndex]
  cases named : Query.ident name with
  | error e => exact ⟨ts, tables, .inl rfl⟩
  | ok i =>
    have answered : ts.answer (.dropIndex (Entity.info α).table name) =
        .ok ((), ts.dropIndex (Entity.info α).table name) := rfl
    have performed : s.store.perform repo.scope (.dropIndex (Entity.info α).table name) =
        (.ok (), s.store.setTables repo.scope (ts.dropIndex (Entity.info α).table name)) :=
      Store.answer_of_ok tables answered
    rw [run_bind_ok (run_ofExcept (.ok i) s), run_ask_of_perform performed]
    exact ⟨_, Store.tablesOf_setTables tables, .inr rfl⟩

end

/-! ## Histories -/

/-- Indexes whose names are put together from columns of the entity. -/
def Generated (info : EntityInfo) (indexes : List Index) : Prop :=
  ∀ ix ∈ indexes, ix.name = indexName info.table ix.columns ∧ info.Resolves ix.columns

section

variable {repo : Repository α} {s : Session Memory.Store} {ts : Tables}
  {fields columns : List String} {unique : Bool}

/-- A call puts the names of indexes together, if it creates one at all. -/
theorem generated_step (tables : s.store.tablesOf repo.scope = .ok ts)
    (before : Generated (Entity.info α) (ts.indexes (Entity.info α).table)) (c : IndexCall) :
    ∃ ts', ((c.action repo).run.run s).2.store.tablesOf repo.scope = .ok ts' ∧
      Generated (Entity.info α) (ts'.indexes (Entity.info α).table) := by
  cases c with
  | create fields unique =>
    cases made : indexOn (Entity.info α) fields unique with
    | error e =>
      refine ⟨ts, ?_, before⟩
      rw [IndexCall.action, createIndex, made]
      exact tables
    | ok index =>
      refine ⟨(creation ts index).2, (run_createIndex tables made).2, ?_⟩
      obtain ⟨columns, some, resolved, rfl⟩ := exists_of_indexOn made
      rw [creation]
      split
      · exact before
      · split
        next ts' added =>
          dsimp only
          rw [Tables.indexes_addIndex added]
          refine List.forall_mem_append.mpr ⟨before, ?_⟩
          rintro ix member
          obtain rfl := List.mem_singleton.mp member
          exact ⟨rfl, fields, some, resolved⟩
        next => exact before
  | drop name =>
    obtain ⟨ts', tables', rfl | rfl⟩ := tablesOf_dropIndex tables name
    · exact ⟨_, tables', before⟩
    · refine ⟨_, tables', ?_⟩
      rw [Tables.indexes_dropIndex]
      exact fun ix member => before ix (List.mem_of_mem_filter member)

theorem generated_afterCalls (calls : List IndexCall)
    (tables : s.store.tablesOf repo.scope = .ok ts)
    (before : Generated (Entity.info α) (ts.indexes (Entity.info α).table)) :
    ∃ ts', (repo.afterCalls s calls).store.tablesOf repo.scope = .ok ts' ∧
      Generated (Entity.info α) (ts'.indexes (Entity.info α).table) := by
  induction calls generalizing s ts with
  | nil => exact ⟨ts, tables, before⟩
  | cons c calls ih =>
    obtain ⟨mid, tables', between⟩ := generated_step tables before c
    exact ih tables' between

/-- A creation is refused for an index that exists if and only if there is one of the same name,
which is one whose columns are joined to the same text. -/
theorem createIndex_eq_exists (tables : s.store.tablesOf repo.scope = .ok ts)
    (generated : Generated (Entity.info α) (ts.indexes (Entity.info α).table)) (some : fields ≠ [])
    (resolved : fields.mapM (resolveColumn (Entity.info α)) = .ok columns) :
    ((repo.createIndex fields unique).run.run s).1 =
        .error (indexExists (indexName (Entity.info α).table columns)) ↔
      ∃ ix ∈ repo.indexesIn s, "_".intercalate ix.columns = "_".intercalate columns := by
  have names (ix : Index) (member : ix ∈ ts.indexes (Entity.info α).table) :
      ix.name = indexName (Entity.info α).table columns ↔
        "_".intercalate ix.columns = "_".intercalate columns := by
    rw [(generated ix member).1, indexName, indexName, String.append_right_inj]
  rw [(run_createIndex tables (indexOn_of_resolved some resolved unique)).1,
    indexesIn_of_tables tables, creation]
  by_cases taken : ∃ ix ∈ ts.indexes (Entity.info α).table,
      "_".intercalate ix.columns = "_".intercalate columns
  · refine iff_of_true ?_ taken
    obtain ⟨ix, member, same⟩ := taken
    have named := (names ix member).mpr same
    rw [if_pos (List.any_eq_true.mpr ⟨ix, member, decide_eq_true named⟩)]
  · refine iff_of_false ?_ taken
    have free : ¬(ts.indexes (Entity.info α).table).any
        (·.name = indexName (Entity.info α).table columns) = true := by
      intro any
      obtain ⟨ix, member, named⟩ := List.any_eq_true.mp any
      exact taken ⟨ix, member, (names ix member).mp (of_decide_eq_true named)⟩
    rw [if_neg free]
    split
    next => exact nofun
    next e failed =>
      intro refused
      have cause : e.classify.cause = none := congrArg Error.cause (Except.error.inj refused)
      exact Tables.cause_of_addIndex failed cause

end

/-- The first index on a table that has the columns is created. -/
theorem indexesIn_after_create {repo : Repository α} {s : Session Memory.Store} {ts : Tables}
    {t : Table} {fields columns : List String} (tables : s.store.tablesOf repo.scope = .ok ts)
    (none : ts.indexes (Entity.info α).table = []) (found : ts.get? (Entity.info α).table = some t)
    (has : ∀ c ∈ (Entity.info α).columns, t.hasColumn c = true) (some : fields ≠ [])
    (resolved : fields.mapM (resolveColumn (Entity.info α)) = .ok columns) :
    repo.indexesIn (repo.afterCalls s [.create fields false]) =
      [⟨indexName (Entity.info α).table columns, (Entity.info α).table, columns, false⟩] := by
  let index : Index :=
    ⟨indexName (Entity.info α).table columns, (Entity.info α).table, columns, false⟩
  have resolves : (Entity.info α).Resolves columns := ⟨fields, some, resolved⟩
  have fresh : t.indexes = [] := by rw [← Tables.indexes_of_get? found, none]
  have there : ts.get? index.table = Option.some t := found
  obtain ⟨ts', added⟩ :=
    Tables.exists_addIndex there fresh (fun c member => has c (resolves.mem_columns c member)) rfl
  have clear : (ts.indexes index.table).any (·.name = index.name) = false := by
    change (ts.indexes (Entity.info α).table).any _ = false
    rw [none]
    rfl
  have left : (repo.afterCalls s [.create fields false]).store.tablesOf repo.scope =
      .ok (creation ts index).2 :=
    (run_createIndex tables (indexOn_of_resolved some resolved false)).2
  rw [creation, clear, if_neg Bool.false_ne_true, added] at left
  rw [indexesIn_of_tables left]
  change ts'.indexes index.table = [index]
  rw [Tables.indexes_addIndex added]
  change ts.indexes (Entity.info α).table ++ [index] = [index]
  rw [none, List.nil_append]

/-- A creation on columns of the entity is refused for an index that exists if and only if there is
one on just these columns. -/
def ConflictsWithItself (repo : Repository α) (s : Session Memory.Store) : Prop :=
  ∀ fields columns unique, fields ≠ [] →
    fields.mapM (resolveColumn (Entity.info α)) = .ok columns →
    (((repo.createIndex fields unique).run.run s).1 =
        .error (indexExists (indexName (Entity.info α).table columns)) ↔
      ∃ ix ∈ repo.indexesIn s, ix.columns = columns)

/-- Indexes that a repository creates and drops on a table that had none, in a transaction or not.
After whatever calls, a creation is refused for an index that exists if and only if there is one
whose columns are joined to the same text. For an entity whose lists of columns are all joined to
different texts, as they are without underscores in the columns, this is an index on just these
columns. For any other entity, some calls on a table of its own leave an index that is in the way
of one on other columns. -/
theorem index_conflicts (repo : Repository α) (s : Session Memory.Store) (ts : Tables)
    (tables : s.store.tablesOf repo.scope = .ok ts)
    (none : ts.indexes (Entity.info α).table = []) :
    (∀ calls fields columns unique, fields ≠ [] →
      fields.mapM (resolveColumn (Entity.info α)) = .ok columns →
      (((repo.createIndex fields unique).run.run (repo.afterCalls s calls)).1 =
          .error (indexExists (indexName (Entity.info α).table columns)) ↔
        ∃ ix ∈ repo.indexesIn (repo.afterCalls s calls),
          "_".intercalate ix.columns = "_".intercalate columns)) ∧
    ((Entity.info α).Separable → ∀ calls, repo.ConflictsWithItself (repo.afterCalls s calls)) ∧
    ((∀ c ∈ (Entity.info α).columns, '_' ∉ c.toList) → (Entity.info α).Separable) ∧
    ∀ t, ts.get? (Entity.info α).table = some t →
      (∀ c ∈ (Entity.info α).columns, t.hasColumn c = true) →
      (∀ calls, repo.ConflictsWithItself (repo.afterCalls s calls)) →
      (Entity.info α).Separable := by
  have start : Generated (Entity.info α) (ts.indexes (Entity.info α).table) := by
    rw [none]
    exact nofun
  have joined (calls fields columns unique) (some : fields ≠ [])
      (resolved : fields.mapM (resolveColumn (Entity.info α)) = .ok columns) :
      ((repo.createIndex fields unique).run.run (repo.afterCalls s calls)).1 =
          .error (indexExists (indexName (Entity.info α).table columns)) ↔
        ∃ ix ∈ repo.indexesIn (repo.afterCalls s calls),
          "_".intercalate ix.columns = "_".intercalate columns := by
    obtain ⟨ts', tables', generated⟩ := generated_afterCalls calls tables start
    exact createIndex_eq_exists tables' generated some resolved
  refine ⟨joined, ?_, EntityInfo.separable_of_notMem, ?_⟩
  · intro separable calls fields columns unique some resolved
    obtain ⟨ts', tables', generated⟩ := generated_afterCalls calls tables start
    rw [joined calls fields columns unique some resolved, indexesIn_of_tables tables']
    refine exists_congr fun ix => and_congr_right fun member => ?_
    exact ⟨separable ix.columns columns (generated ix member).2 ⟨fields, some, resolved⟩,
      congrArg _⟩
  · rintro t found has law cs ds ⟨fs, someC, resolvedC⟩ ⟨gs, someD, resolvedD⟩ same
    -- An index on `cs` can be created first, and is in the way of one on `ds` then.
    have created := indexesIn_after_create tables none found has someC resolvedC
    have refused := (joined [.create fs false] gs ds false someD resolvedD).mpr
      ⟨_, created ▸ List.mem_singleton_self _, same⟩
    obtain ⟨ix, member, own⟩ := (law [.create fs false] gs ds false someD resolvedD).mp refused
    rw [created, List.mem_singleton] at member
    rw [← own, member]

/-- The name and the age of accounts are indexed. They are not a second time, under whichever names
of the fields, but the other way round they are. -/
theorem users_indexed :
    let repo : Repository Sample.User := .direct
    let s : Session Memory.Store :=
      .start (Step.after ∅ [.ask .direct (.createTable Sample.user.info.schema)])
    let s' := repo.afterCalls s [.create ["name", "age"] false]
    s.store.tables.indexes "users" = [] ∧
      ((repo.createIndex ["name", "years"] true).run.run s').1 =
        .error (indexExists "idx_users_name_years") ∧
      ((repo.createIndex ["age", "name"] true).run.run s').1 ≠
        .error (indexExists "idx_users_years_name") := by
  intro repo s s'
  have none : s.store.tables.indexes "users" = [] := rfl
  obtain ⟨-, conflicts, plain, -⟩ := index_conflicts repo s s.store.tables rfl none
  have law := conflicts (plain (by decide +kernel)) [.create ["name", "age"] false]
  have created : repo.indexesIn s' =
      [⟨"idx_users_name_years", "users", ["name", "years"], false⟩] := rfl
  refine ⟨none, ?_, ?_⟩
  · exact (law ["name", "years"] ["name", "years"] true (List.cons_ne_nil _ _) rfl).mpr
      ⟨_, created ▸ List.mem_singleton_self _, rfl⟩
  · intro refused
    obtain ⟨ix, member, columns⟩ :=
      (law ["age", "name"] ["years", "name"] true (List.cons_ne_nil _ _) rfl).mp refused
    rw [created, List.mem_singleton] at member
    rw [member] at columns
    exact absurd columns (by decide)

/-- Bookings of rooms, with a column whose name is put together from others. -/
def booking : Layout where
  name := "Booking"
  table := "bookings"
  columns :=
    [{ name := "room", type := .int64, primaryKey := true }, { name := "night", type := .int64 },
      { name := "room_night", type := .text }]

/-- The index on rooms and nights is in the way of one on the column `room_night`. -/
theorem booking_names_collide :
    letI : Entity (booking.Item Unit) := booking.entity {}
    let repo : Repository (booking.Item Unit) := .direct
    let s : Session Memory.Store :=
      .start (Step.after ∅ [.ask .direct (.createTable booking.info.schema)])
    let s' := repo.afterCalls s [.create ["room", "night"] false]
    repo.indexesIn s = [] ∧
      repo.indexesIn s' = [⟨"idx_bookings_room_night", "bookings", ["room", "night"], false⟩] ∧
      ((repo.createIndex ["room_night"] false).run.run s').1 =
        .error (indexExists "idx_bookings_room_night") :=
  ⟨rfl, rfl, rfl⟩

end Repository

end EntityStore
