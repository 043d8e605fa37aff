import EntityStore.Proofs.Layout
import EntityStore.Proofs.Memory.Drawn
import EntityStore.Proofs.Memory.Required
import EntityStore.Proofs.Repository.Creation
import EntityStore.Proofs.Repository.Find

/-!
# Reading back what was written

An entity that was created or updated is found by its key afterwards, with the cells that it has.
Its row is in the table, the cells are decoded from the row as they were encoded, and no other row
of the table has its key.
-/

namespace EntityStore

namespace Memory

/-! ## Inserting a row -/

section

variable {t t' : Table} {row full : Record} {lastId lastId' : Int64} {c : String} {v : Value}

theorem insert_one {name : String} {returning : List String} {answers : List Record}
    (done : t.insert name [row] returning = .ok (t', answers)) :
    ∃ full lastId, t.newRow row t.lastId = .ok (full, lastId) ∧
      t' = { t with rows := t.rows ++ [full], lastId := lastId } ∧
      answers = [full.project returning] := by
  obtain ⟨⟨fulls, lastId⟩, made, rest⟩ := exists_of_bind done
  obtain ⟨_, -, same⟩ := exists_of_bind rest
  cases same
  obtain ⟨full, last, others, one, none, rfl⟩ := newRows_cons made
  cases none
  exact ⟨full, _, one, rfl, rfl⟩

/-- A new row holds what it was given, unless that is an unset key which the store generates. -/
theorem newRow_of_set (made : t.newRow row lastId = .ok (full, lastId')) (given : row.get? c = some v)
    (set : ∀ f ∈ t.fields, f.column = c → f.autoIncrement = true → v.isUnsetKey = false) :
    full.get? c = some v := by
  have fills := Table.Fills.of_newRow made
  have value : row.getD c = v := by
    rw [Record.getD, given]
    rfl
  have keeps : ¬Draws t.fields row c := by
    rintro ⟨f, found, auto, unset⟩
    obtain ⟨inFields, named⟩ := of_findRev?_eq_some found
    rw [value, set f inFields named auto] at unset
    cases unset
  have present := fills.columns c
  rw [given, Option.isSome_some, Bool.or_true] at present
  obtain ⟨w, held⟩ := Option.isSome_iff_exists.mp present
  have same := fills.kept c keeps
  rw [value, Record.getD, held] at same
  rw [held]
  exact congrArg some same

end

/-- What a successful creation has done: the table has one more row, and the entity has what the
store generated for it. -/
theorem exists_of_create {α : Type} [Entity α] {repo : Repository α} {e e' : α}
    {s s' : Session Store} (done : (repo.create.runOn e).run s = ((.ok (), e'), s')) :
    ∃ ts t full lastId e₂, s.store.tablesOf repo.scope = .ok ts ∧
      ts.get? (Entity.info α).table = some t ∧
      t.newRow (Repository.insertable (Entity.info α)
        (Entity.toRecord (Entity.hooks.beforeCreate e).2)) t.lastId = .ok (full, lastId) ∧
      s'.store.HasRow repo.scope (Entity.info α).table full ∧
      Entity.applyRecord (full.project (Entity.info α).generatedColumns)
        (Entity.hooks.beforeCreate e).2 = (.ok (), e₂) ∧
      e' = (Entity.hooks.afterCreate e₂).2 := by
  -- the check and the hook before the write leave the store
  obtain ⟨s₁, kept₁, ran⟩ := Mutation.exists_of_early done
  obtain ⟨s₂, kept₂, ran⟩ := Mutation.exists_of_early ran
  have entity : (Entity.hooks.at .beforeCreate (Entity.hooks.at .validate e).2).2 =
      (Entity.hooks.beforeCreate e).2 := rfl
  rw [entity] at ran
  obtain ⟨_, _, s₃, got, ran⟩ := Mutation.exists_of_runOn_bind ran
  cases got
  obtain ⟨_, s₃, logged, ran⟩ := Mutation.exists_of_act ran
  cases logged
  obtain ⟨answers, s₄, asked, ran⟩ := Mutation.exists_of_act ran
  have wrote : ({ s.store with insertCalls := s.store.insertCalls + 1 } : Store).answer repo.scope
      (.insert (Entity.info α).table [Repository.insertable (Entity.info α)
        (Entity.toRecord (Entity.hooks.beforeCreate e).2)] (Entity.info α).generatedColumns) =
          (.ok answers, s₄.store) := by
    rw [← kept₁, ← kept₂]
    exact perform_of_ask asked
  obtain ⟨ts, ts', tables, answered, stored⟩ := Store.answer_eq_ok wrote
  obtain ⟨t, t', found, inserted, rfl⟩ := Tables.insert_of_answer answered
  obtain ⟨full, lastId, made, rfl, rfl⟩ := insert_one inserted
  have tables' : s.store.tablesOf repo.scope = .ok ts :=
    (Store.tablesOf_counted s.store _ repo.scope).symm.trans tables
  -- what the store generated is written back, and the late hook runs
  obtain ⟨_, e₂, s₅, edited, ran⟩ := Mutation.exists_of_runOn_bind ran
  obtain ⟨_, edit⟩ := edits_edit _ (Entity.hooks.beforeCreate e).2 s₄
  obtain ⟨applied, rfl⟩ := Prod.mk.inj (edit.symm.trans edited)
  obtain ⟨succeeded, rfl⟩ := Prod.mk.inj applied
  have late := (Repository.run_late repo .afterCreate _ _).symm.trans ran
  obtain ⟨changed, rfl⟩ := Prod.mk.inj late
  obtain ⟨-, rfl⟩ := Prod.mk.inj changed
  have left : s₄.store.tablesOf repo.scope = .ok (ts.set (Entity.info α).table
      { t with rows := t.rows ++ [full], lastId := lastId }) := by
    rw [stored]
    exact Store.tablesOf_setTables tables
  have added :=
    Store.hasRow_of_set left (List.mem_append_right t.rows (List.mem_singleton_self full))
  exact ⟨ts, t, full, lastId, _, tables', found, made, added,
    Prod.ext (ok_of_mapError succeeded) rfl, rfl⟩

end Memory

/-! ## Keyed layouts -/

/-- The columns of the layout differ, and one of them is the key, which is an integer, a text or an
identifier in a column of a plain name. -/
structure Layout.Keyed (l : Layout) (key : Field) : Prop where
  distinct : (l.columns.map (·.column)).Nodup
  required : l.info.requirePrimaryKey = .ok key
  single : keyColumns l.info.fields = [key.column]
  typed : key.type.IsKey
  plain : (Ident.Part.plain key.column).WellFormed

namespace Layout.Keyed

variable {l : Layout} {key : Field}

theorem primary (keyed : l.Keyed key) :
    (l.columns.map (·.field)).find? (·.primaryKey) = some key := by
  have required := keyed.required
  unfold EntityInfo.requirePrimaryKey at required
  split at required
  · rename_i f found
    cases required
    exact found
  · cases required

theorem mem_fields (keyed : l.Keyed key) : key ∈ l.info.fields :=
  List.mem_of_find?_eq_some keyed.primary

theorem not_nullable (keyed : l.Keyed key) : key.nullable = false := by
  have primary : key.primaryKey = true := List.find?_some keyed.primary
  obtain ⟨c, -, rfl⟩ := List.mem_map.mp keyed.mem_fields
  have same : c.primaryKey = true := primary
  change (!c.primaryKey && _) = false
  rw [same]
  rfl

/-- Entities have a value of the key's type in the key column. -/
theorem admits {Extra : Type} (keyed : l.Keyed key) (e : l.Item Extra) :
    key.type.Admits (e.toRecord.getD key.column) :=
  Layout.admits_key keyed.distinct keyed.required keyed.typed e

theorem get?_key {Extra : Type} (keyed : l.Keyed key) (e : l.Item Extra) :
    e.toRecord.get? key.column = some (Cells.key l.columns e.cells) :=
  e.get?_toRecord keyed.distinct (Cells.mem_key keyed.primary e.cells)

theorem admits_key {Extra : Type} (keyed : l.Keyed key) (e : l.Item Extra) :
    key.type.Admits (Cells.key l.columns e.cells) := by
  have admitted := keyed.admits e
  rwa [Record.getD, keyed.get?_key] at admitted

theorem coherent (keyed : l.Keyed key) : Coherent l.info.fields := by
  intro f inF g inG named
  obtain ⟨c, inC, rfl⟩ := List.mem_map.mp inF
  obtain ⟨d, inD, rfl⟩ := List.mem_map.mp inG
  have same : c = d := List.inj_on_of_nodup_map keyed.distinct inC inD named
  rw [same]

end Layout.Keyed

namespace Value

variable {type : FieldType} {v w : Value}

theorem unambiguous_of_admits (admitted : type.Admits v) : v.Unambiguous := by
  apply unambiguous_of_ne_float
  rintro x rfl
  cases type <;> exact admitted

theorem compare_self_of_admits (admitted : type.Admits v) (held : v ≠ .null) :
    v.compare? v = some .eq := by
  rcases FieldType.of_admits admitted with rfl | ⟨i, rfl⟩ | ⟨-, s, rfl⟩ | ⟨-, u, rfl⟩
  · exact absurd rfl held
  · exact congrArg some Std.ReflCmp.compare_self
  · exact congrArg some Std.ReflCmp.compare_self
  · exact congrArg some (Nat.compare_eq_eq.mpr rfl)

theorem ne_null_of_compare (same : v.compare? w = some .eq) : v ≠ .null := by
  rintro rfl
  cases same

/-- Values of one key column that compare as equal are the same. -/
theorem eq_of_compare_admits (left : type.Admits v) (right : type.Admits w)
    (same : v.compare? w = some .eq) : v = w := by
  rcases FieldType.of_admits left with rfl | ⟨i, rfl⟩ | ⟨text, s, rfl⟩ | ⟨uuid, u, rfl⟩
  · cases same
  · rcases FieldType.of_admits right with rfl | ⟨j, rfl⟩ | ⟨-, t, rfl⟩ | ⟨-, u, rfl⟩
    · cases same
    · exact congrArg Value.int (Std.LawfulEqCmp.eq_of_compare (Option.some.inj same))
    · cases same
    · cases same
  · rcases FieldType.of_admits right with rfl | ⟨j, rfl⟩ | ⟨-, t, rfl⟩ | ⟨uuid, -⟩
    · cases same
    · cases same
    · exact congrArg Value.text (eq_of_compare_text (Option.some.inj same))
    · rw [text] at uuid
      cases uuid
  · rcases FieldType.of_admits right with rfl | ⟨j, rfl⟩ | ⟨text, -⟩ | ⟨-, w, rfl⟩
    · cases same
    · cases same
    · rw [uuid] at text
      cases text
    · exact congrArg Value.uuid (eq_of_compare_uuid (Option.some.inj same))

end Value

section

open Repository

variable {l : Layout} {Extra : Type} {key : Field}

/-- The new row of an entity holds each of its cells, unless that is an unset key which the store
generates. -/
theorem get?_newRow (distinct : (l.columns.map (·.column)).Nodup) {e : l.Item Extra}
    {t : Memory.Table} (fields : t.fields = l.info.fields) {full : Record} {lastId : Int64}
    (made : t.newRow (insertable l.info e.toRecord) t.lastId = .ok (full, lastId))
    {p : String × Value} (member : p ∈ Cells.toPairs l.columns e.cells)
    (set : p.1 ∈ l.info.generatedColumns → p.2.isUnsetKey = false) : full.get? p.1 = some p.2 := by
  have given := e.get?_toRecord distinct member
  have kept : (insertable l.info e.toRecord).get? p.1 = some p.2 := by
    rw [Repository.get?_insertable, given, if_neg]
    rintro ⟨generated, unset⟩
    exact Bool.false_ne_true ((set generated).symm.trans unset)
  refine Memory.newRow_of_set made kept ?_
  intro f inFields named auto
  apply set
  rw [fields] at inFields
  exact List.mem_map.mpr ⟨f, List.mem_filter.mpr ⟨inFields, auto⟩, named⟩

/-- Of the new row of an entity, the cells are read that the entity has after the columns which
the store generates were written back to it. -/
theorem ofRecord_newRow (keyed : l.Keyed key) {e : l.Item Extra}
    (settled : Cells.Settled l.columns e.cells) {t : Memory.Table}
    (fields : t.fields = l.info.fields) {full : Record} {lastId : Int64} {ys : Cells l.columns}
    (made : t.newRow (insertable l.info e.toRecord) t.lastId = .ok (full, lastId))
    (applied : Cells.apply (full.project l.info.generatedColumns) l.columns e.cells =
      (.ok (), ys)) : Cells.ofRecord full l.columns = .ok ys := by
  refine Cells.ofRecord_of_apply settled ?_ ?_ applied
  · intro column v answered
    rw [Record.get?_project] at answered
    split at answered
    · exact answered
    · cases answered
  · intro p member unanswered
    refine get?_newRow keyed.distinct fields made member ?_
    -- a generated column is answered, since every column of the table is in the row
    intro generated
    rw [Record.get?_project, if_pos generated] at unanswered
    obtain ⟨f, inGenerated, named⟩ := List.mem_map.mp generated
    have inFields : f ∈ t.fields := by
      rw [fields]
      exact (List.mem_filter.mp inGenerated).1
    have present := Memory.isSome_newRow (absurd · (List.ne_nil_of_mem inFields)) made p.1
    rw [unanswered, ← named, Memory.hasColumn_of_mem inFields] at present
    cases present

/-- A row of a key holds the key, if both are of the key column's type. -/
theorem get?_of_hits {type : FieldType} {column : String} {row : Record} {v : Value}
    (admitted : type.Admits (row.getD column)) (given : type.Admits v)
    (hit : hits column v row = true) : row.get? column = some v ∧ v ≠ .null := by
  have compared : (row.getD column).compare? v = some .eq := eq_of_beq hit
  have held := Value.ne_null_of_compare compared
  have same := Value.eq_of_compare_admits admitted given compared
  rw [Record.get?_of_getD held, ← same]
  exact ⟨rfl, held⟩

/-- A row of the entity's key has all cells of the entity once its other columns are set. -/
theorem get?_setAll_toRecord (keyed : l.Keyed key) {e : l.Item Extra} {row : Record}
    (admitted : key.type.Admits (row.getD key.column))
    (hit : hits key.column (Cells.key l.columns e.cells) row = true) {p : String × Value}
    (member : p ∈ Cells.toPairs l.columns e.cells) :
    (row.setAll (e.toRecord.remove key.column).entries).get? p.1 = some p.2 := by
  have distinct : e.toRecord.columns.Nodup := by
    have columns := Cells.toPairs_columns l.columns e.cells
    rw [Layout.Item.toRecord, Record.columns_ofPairs (columns ▸ keyed.distinct), columns]
    exact keyed.distinct
  have held := e.get?_toRecord keyed.distinct member
  rw [Record.get?_setAll_remove distinct]
  by_cases isKey : key.column = p.1
  · -- the key column is not set, but the row is of the entity's key
    rw [← isKey, keyed.get?_key] at held
    rw [if_pos isKey, ← isKey, ← held]
    exact (get?_of_hits admitted (keyed.admits_key e) hit).1
  · rw [if_neg isKey, held, Option.some_or]

end

/-! ## Finding what was saved -/

section

open Repository

variable {l : Layout} {Extra : Type} [Inhabited Extra] {key : Field}

/-- Entities without hooks. -/
local instance unhooked {l : Layout} {Extra : Type} [Inhabited Extra] : Entity (l.Item Extra) :=
  l.entity {}

/-- A row of the entity's table is found by the key that it holds. -/
theorem find_stored (keyed : l.Keyed key) (repo : Repository (l.Item Extra))
    {s : Session Memory.Store} {ts : Memory.Tables} {t : Memory.Table} {row : Record}
    {xs : Cells l.columns} (h : Memory.WholeTables l.info key ts)
    (tables : s.store.tablesOf repo.scope = .ok ts) (found : ts.get? l.table = some t)
    (member : row ∈ t.rows) (held : row.getD key.column ≠ .null)
    (read : Cells.ofRecord row l.columns = .ok xs) :
    ((repo.find (Cells.key l.columns xs)).run.run s).1 = .ok (.ofCells xs) := by
  have admitted := h.admitted t found row member
  have there := Record.get?_of_getD held
  generalize value : row.getD key.column = v at admitted held there
  have same : Cells.key l.columns xs = v :=
    Cells.key_of_ofRecord keyed.primary keyed.typed there admitted held read
  have hit : hits key.column v row = true := by
    rw [hits, value, Value.compare_self_of_admits admitted held]
    rfl
  have filtered : keyFilter l.info v =
      .ok [.compare (.column ⟨[.plain key.column]⟩) .eq v] := by
    rw [keyFilter_eq keyed.required keyed.plain, if_neg]
    cases v with
    | null => exact absurd rfl held
    | _ => exact Bool.false_ne_true
  have selected := Memory.select_key (α := l.Item Extra) h found keyed.single member
    (Value.unambiguous_of_admits admitted) hit
  have decoded : (Entity.fromRecord row : Except StoreError (l.Item Extra)) = .ok (.ofCells xs) := by
    change (Cells.ofRecord row l.columns).map _ = _
    rw [read]
    rfl
  rw [same]
  exact Memory.run_find repo filtered tables selected decoded

/-- A row that an operation has left in the entity's table is found by its key. -/
theorem find_written (keyed : l.Keyed key) {β : Type} (op : Operation (l.Item Extra) β)
    (gives : op.Gives key.AdmitsIn) (repo : Repository (l.Item Extra))
    {s s' : Session Memory.Store} {x : β} (written : Memory.Store.Written (l.Item Extra) key s.store)
    (done : (op.run repo).run s = (x, s')) {row : Record} {xs : Cells l.columns}
    (stored : s'.store.HasRow repo.scope l.table row) (held : row.getD key.column ≠ .null)
    (read : Cells.ofRecord row l.columns = .ok xs) :
    ((repo.find (Cells.key l.columns xs)).run.run s').1 = .ok (.ofCells xs) := by
  have after := written.run repo op gives
  rw [done] at after
  obtain ⟨ts, t, tables, found, member⟩ := stored
  have whole := (after.whole keyed.required keyed.admits).tablesOf tables
  exact find_stored keyed repo whole tables found member held read

theorem find_created (keyed : l.Keyed key) (repo : Repository (l.Item Extra))
    {s s' : Session Memory.Store} {e e' : l.Item Extra}
    (settled : Cells.Settled l.columns e.cells) (written : Memory.Store.Written (l.Item Extra) key s.store)
    (done : (repo.create.runOn e).run s = ((.ok (), e'), s')) :
    ((repo.find (Cells.key l.columns e'.cells)).run.run s').1 = .ok (.ofCells e'.cells) ∧
      e'.loaded = e.loaded ∧ e'.extra = e.extra ∧
      ∀ column, (column ∈ l.info.generatedColumns →
          (e.toRecord.getD column).isUnsetKey = false) →
        e'.toRecord.get? column = e.toRecord.get? column := by
  obtain ⟨ts, t, full, lastId, e₂, tables, found, made, stored, applied, rfl⟩ :=
    Memory.exists_of_create done
  have fields := ((written.whole keyed.required keyed.admits).tablesOf tables).fields t found
  obtain ⟨cells, loaded, extra⟩ := Layout.Item.cells_applyRecord applied
  have read := ofRecord_newRow keyed settled fields made cells
  have held : (full.getD key.column).isNull = false := by
    apply Memory.newRow_filled ?_ made ?_ keyed.not_nullable
    · rw [fields]
      exact keyed.coherent
    · rw [fields]
      exact keyed.mem_fields
  refine ⟨?_, loaded, extra, ?_⟩
  · refine find_written keyed (.create e) trivial repo written done stored ?_ read
    intro none
    rw [none] at held
    cases held
  · intro column set
    refine Cells.get?_of_ofRecord settled read ?_
    rintro p member rfl
    refine get?_newRow keyed.distinct fields made member ?_
    intro generated
    have value := set generated
    rw [Record.getD, e.get?_toRecord keyed.distinct member] at value
    exact value

theorem find_updated (keyed : l.Keyed key) (repo : Repository (l.Item Extra))
    {s s' : Session Memory.Store} {e e' : l.Item Extra}
    (settled : Cells.Settled l.columns e.cells) (written : Memory.Store.Written (l.Item Extra) key s.store)
    (done : (repo.update.runOn e).run s = ((.ok (), e'), s')) :
    ((repo.find (Cells.key l.columns e.cells)).run.run s').1 = .ok (.ofCells e.cells) ∧ e' = e := by
  obtain ⟨filters, n, looked, positive, wrote, same⟩ :=
    KeyOperation.performed_update keyed.required done
  have filter := keyFilter_eq_ok keyed.required keyed.plain looked
  subst filter
  have performed : s.store.perform repo.scope ((KeyOperation.update e).request key
      [.compare (.column ⟨[.plain key.column]⟩) .eq (KeyOperation.update e).key]) =
        (.ok n, s'.store) := wrote
  rw [KeyOperation.perform_request] at performed
  obtain ⟨ts, ts', tables, answered, stored⟩ := Memory.Store.answer_eq_ok performed
  obtain ⟨t, found, ⟨row, member, hit⟩, rfl⟩ := KeyOperation.set_of_answer positive answered
  have admitted := ((written.whole keyed.required keyed.admits).tablesOf tables).admitted
    t found row member
  have left : s'.store.tablesOf repo.scope = .ok (ts.set l.table
      { t with rows := t.rows.filterMap ((KeyOperation.update e).outcome key) }) := by
    rw [stored]
    exact Memory.Store.tablesOf_setTables tables
  have outcome : (KeyOperation.update e).outcome key row =
      some (row.setAll (e.toRecord.remove key.column).entries) := by
    rw [KeyOperation.outcome, hit]
    rfl
  have changed := Memory.Store.hasRow_of_set left (List.mem_filterMap.mpr ⟨row, member, outcome⟩)
  have cells : ∀ p ∈ Cells.toPairs l.columns e.cells,
      (row.setAll (e.toRecord.remove key.column).entries).get? p.1 = some p.2 :=
    fun p inPairs => get?_setAll_toRecord keyed admitted hit inPairs
  refine ⟨?_, same⟩
  refine find_written keyed (.update e) trivial repo written done changed ?_
    (Cells.ofRecord_of_holds settled cells)
  rw [Record.getD, cells _ (Cells.mem_key keyed.primary e.cells)]
  exact (get?_of_hits admitted (keyed.admits_key e) hit).2

/-- A saved entity is found by its key, in every cell as it was saved. A created one was saved as it
was given, but for unset keys that the store generates and writes back to it, and an updated one as
it was given. What is not persisted takes its defaults. -/
theorem saved_entity_found (keyed : l.Keyed key) (repo : Repository (l.Item Extra))
    {s : Session Memory.Store} (written : Memory.Store.Written (l.Item Extra) key s.store)
    (e : l.Item Extra) (settled : Cells.Settled l.columns e.cells) :
    (∀ e' s', (repo.create.runOn e).run s = ((.ok (), e'), s') →
      ((repo.find (Entity.primaryKey e')).run.run s').1 = .ok (.ofCells e'.cells) ∧
        e'.loaded = e.loaded ∧ e'.extra = e.extra ∧
        ∀ column, (column ∈ l.info.generatedColumns →
            (e.toRecord.getD column).isUnsetKey = false) →
          e'.toRecord.get? column = e.toRecord.get? column) ∧
      ∀ e' s', (repo.update.runOn e).run s = ((.ok (), e'), s') →
        ((repo.find (Entity.primaryKey e)).run.run s').1 = .ok (.ofCells e.cells) ∧ e' = e := by
  constructor
  · intro e' s' done
    exact find_created keyed repo settled written done
  · intro e' s' done
    exact find_updated keyed repo settled written done

end

namespace Sample

def authorKey : Field := { (Field.ofType "id" .bigInt).asPrimaryKey with autoIncrement := true }

theorem keyed_author : author.Keyed authorKey where
  distinct := by decide
  required := rfl
  single := rfl
  typed := .inl rfl
  plain := ⟨'i', ['d'], rfl, rfl, List.all_eq_true.mp rfl⟩

def badgeKey : Field := (Field.ofType "code" .text).asPrimaryKey

theorem keyed_badge : badge.Keyed badgeKey where
  distinct := by decide
  required := rfl
  single := rfl
  typed := .inr (.inl rfl)
  plain := ⟨'c', ['o', 'd', 'e'], rfl, rfl, List.all_eq_true.mp rfl⟩

def ann : Author := .ofCells (1, "Ann", ())

/-- An author without a number. -/
def bob : Author := .ofCells (0, "Bob", ())

/-- The next author, with a post. -/
def cid : Author := ⟨(2, "Cid", ()), ([(7, some 2, "Title", ())], none, [], ()), ()⟩

def gold : Badge := .ofCells ("gold", some "Ann", ())

def seven : Badge := .ofCells (Uuid.text ⟨7⟩, some "Bob", ())

end Sample

/-- An author without a number is created and found by the one that was drawn, and found under a
new name after an update. What was loaded for the author is not written and not found. -/
theorem author_found_after_saving :
    ∃ (key : Field) (s s' : Session Memory.Store) (drawn : Sample.Author),
      Sample.author.Keyed key ∧
      Memory.Store.Written Sample.Author key (stocked [Sample.ann]).store ∧
      Cells.Settled Sample.author.columns Sample.bob.cells ∧
      (Repository.direct.create.runOn Sample.bob).run (stocked [Sample.ann]) =
        ((.ok (), drawn), s) ∧
      ((Repository.direct.find (.int 2)).run.run s).1 = .ok drawn ∧
      (Repository.direct.update.runOn Sample.cid).run s = ((.ok (), Sample.cid), s') ∧
      ((Repository.direct.find (.int 2)).run.run s').1 =
        .ok (.ofCells (2, "Cid", ()) : Sample.Author) := by
  have written := written_stocked Sample.authorKey [Sample.ann]
  have settled : Cells.Settled Sample.author.columns Sample.bob.cells := ⟨trivial, trivial, trivial⟩
  have settled' : Cells.Settled Sample.author.columns Sample.cid.cells :=
    ⟨trivial, trivial, trivial⟩
  obtain ⟨s, created⟩ : ∃ s, (Repository.direct.create.runOn Sample.bob).run
      (stocked [Sample.ann]) = ((.ok (), .ofCells (2, "Bob", ())), s) := ⟨_, rfl⟩
  have onward : Memory.Store.Written Sample.Author Sample.authorKey s.store := by
    have ran := written.run .direct (.create Sample.bob) trivial
    rw [Operation.run, created] at ran
    exact ran
  have required : (Entity.info Sample.Author).requirePrimaryKey = .ok Sample.authorKey := rfl
  have updates : ((Repository.direct.update.runOn Sample.cid).run
      ((Repository.direct.create.runOn Sample.bob).run (stocked [Sample.ann])).2).1 =
        (.ok (), Sample.cid) := by
    unfold Repository.update
    simp only [Repository.keyFilter_eq required Sample.keyed_author.plain]
    rfl
  rw [created] at updates
  have updated : (Repository.direct.update.runOn Sample.cid).run s = ((.ok (), Sample.cid), _) :=
    Prod.ext updates rfl
  refine ⟨_, s, _, _, Sample.keyed_author, written, settled, created, ?_, updated, ?_⟩
  · exact ((saved_entity_found Sample.keyed_author .direct written _ settled).1 _ _ created).1
  · exact ((saved_entity_found Sample.keyed_author .direct onward _ settled').2 _ _ updated).1

/-- A badge is not found if another one was given its code as an identifier: the two codes are
different values, but they compare as equal, so the other badge is found. -/
theorem badge_found_for_another :
    ∃ (key : Field) (other : Sample.Badge) (s s' : Session Memory.Store),
      Sample.badge.Keyed key ∧ other.cells ≠ Sample.seven.cells ∧
      ((Repository.direct : Repository Sample.Badge).updatePartial (.text "gold")
        (.ofPairs [("code", .uuid ⟨7⟩)])).run.run (stocked [Sample.gold]) = (.ok (), s) ∧
      (Repository.direct.create.runOn Sample.seven).run s = ((.ok (), Sample.seven), s') ∧
      ((Repository.direct.find (Entity.primaryKey Sample.seven)).run.run s').1 = .ok other := by
  have required : (Entity.info Sample.Badge).requirePrimaryKey = .ok Sample.badgeKey := rfl
  refine ⟨Sample.badgeKey, .ofCells (Uuid.text ⟨7⟩, some "Ann", ()), ?_⟩
  unfold Repository.updatePartial Repository.find
  simp only [Repository.keyFilter_eq required Sample.keyed_badge.plain]
  refine ⟨_, _, Sample.keyed_badge, ?_, rfl, rfl, rfl⟩
  intro same
  have holder : some "Ann" = some "Bob" := congrArg (·.2.1) same
  exact absurd holder (by decide)

end EntityStore
