import EntityStore.Entity.Layout
import EntityStore.Proofs.Memory.Uniqueness
import EntityStore.Proofs.Repository.Operation
import EntityStore.Proofs.Uuid
import Mathlib.Data.List.Nodup

/-!
# The key column

What stands in the key column of a table that only repositories of one entity write to. Its
values are of the column's type, or numbers where the store generated them, so that no two of
them compare as equal to one key, unless that is a double which two integers round to.
-/

namespace EntityStore

/-! ## Values of a key -/

/-- The values that stand in a key column of a type: those of an integer, a text or an identifier,
and the numbers that the store generates. -/
def FieldType.Admits : FieldType → Value → Prop
  | _, .null | _, .int _ => True
  | .text, .text _ | .uuid, .uuid _ => True
  | _, _ => False

/-- Changes set the key column to values of its type only. -/
def Field.AdmitsIn (key : Field) (changes : Record) : Prop :=
  ∀ p ∈ changes.entries, p.1 = key.column → key.type.Admits p.2

/-- No two integers compare as equal to the key. -/
def Value.Unambiguous (key : Value) : Prop :=
  ∀ i j : Int64, (Value.int i).compare? key = some .eq → (Value.int j).compare? key = some .eq →
    i = j

namespace Value

/-- A key is ambiguous only if it is a double. -/
theorem unambiguous_of_ne_float {key : Value} (exact : ∀ x, key ≠ .float x) : key.Unambiguous := by
  intro i j left right
  cases key with
  | int k =>
    have first : i = k := Std.LawfulEqCmp.eq_of_compare (Option.some.inj left)
    have second : j = k := Std.LawfulEqCmp.eq_of_compare (Option.some.inj right)
    rw [first, second]
  | float x => exact absurd rfl (exact x)
  | _ => cases left

theorem eq_of_compare_uuid {u v : Uuid} (h : compare u v = .eq) : u = v := by
  have numbers : compare u.bits.toNat v.bits.toNat = .eq := h
  exact congrArg Uuid.mk (BitVec.eq_of_toNat_eq (Nat.compare_eq_eq.mp numbers))

theorem eq_of_compare_text {s t : String} (h : compare s t = .eq) : s = t :=
  Std.LawfulEqCmp.eq_of_compare h

/-- Of a text column two values that compare as equal to one key are the same. -/
theorem text_eq_of_compare {s t : String} {key : Value}
    (left : (Value.text s).compare? key = some .eq)
    (right : (Value.text t).compare? key = some .eq) : s = t := by
  cases key with
  | text k =>
    rw [eq_of_compare_text (Option.some.inj left), eq_of_compare_text (Option.some.inj right)]
  | uuid k =>
    rw [eq_of_compare_text (Option.some.inj left), eq_of_compare_text (Option.some.inj right)]
  | _ => cases left

theorem uuid_eq_of_compare {u v : Uuid} {key : Value}
    (left : (Value.uuid u).compare? key = some .eq)
    (right : (Value.uuid v).compare? key = some .eq) : u = v := by
  cases key with
  | text k =>
    have first : u.text = k := eq_of_compare_text (Option.some.inj left)
    have second : v.text = k := eq_of_compare_text (Option.some.inj right)
    exact Uuid.text_inj (first.trans second.symm)
  | uuid k =>
    rw [eq_of_compare_uuid (Option.some.inj left), eq_of_compare_uuid (Option.some.inj right)]
  | _ => cases left

/-- A number does not compare as equal to what a text or an identifier does. -/
theorem not_compare_int {i : Int64} {v key : Value} (worded : (∃ s, v = .text s) ∨ ∃ u, v = .uuid u)
    (left : (Value.int i).compare? key = some .eq) : v.compare? key ≠ some .eq := by
  intro right
  cases key with
  | int k | float k =>
    rcases worded with ⟨s, rfl⟩ | ⟨u, rfl⟩
    · cases right
    · cases right
  | _ => cases left

end Value

/-- The types of keys. -/
def FieldType.IsKey (type : FieldType) : Prop := type.isInteger = true ∨ type = .text ∨ type = .uuid

theorem FieldType.admits_null (type : FieldType) : type.Admits .null := by
  cases type <;> trivial

theorem FieldType.admits_int (type : FieldType) (i : Int64) : type.Admits (.int i) := by
  cases type <;> trivial

theorem FieldType.of_admits {type : FieldType} {v : Value} (h : type.Admits v) :
    v = .null ∨ (∃ i, v = .int i) ∨ (type = .text ∧ ∃ s, v = .text s) ∨
      (type = .uuid ∧ ∃ u, v = .uuid u) := by
  cases v <;> cases type <;> simp_all [Admits]

namespace Value

/-- Of the values of one key column at most one compares as equal to a key. -/
theorem eq_of_compare_key {type : FieldType} {a b key : Value} (ha : type.Admits a)
    (hb : type.Admits b) (unambiguous : key.Unambiguous) (left : a.compare? key = some .eq)
    (right : b.compare? key = some .eq) : (a == b) = true ∧ a.isNull = false := by
  rcases FieldType.of_admits ha with rfl | ⟨i, rfl⟩ | ⟨text, s, rfl⟩ | ⟨uuid, u, rfl⟩
  · cases left
  · rcases FieldType.of_admits hb with rfl | ⟨j, rfl⟩ | ⟨-, worded⟩ | ⟨-, worded⟩
    · cases right
    · rw [unambiguous i j left right]
      exact ⟨beq_self_eq_true j, rfl⟩
    · exact absurd right (not_compare_int (.inl worded) left)
    · exact absurd right (not_compare_int (.inr worded) left)
  · rcases FieldType.of_admits hb with rfl | ⟨j, rfl⟩ | ⟨-, t, rfl⟩ | ⟨uuid, -⟩
    · cases right
    · exact absurd left (not_compare_int (.inl ⟨s, rfl⟩) right)
    · rw [text_eq_of_compare left right]
      exact ⟨beq_self_eq_true t, rfl⟩
    · rw [text] at uuid
      cases uuid
  · rcases FieldType.of_admits hb with rfl | ⟨j, rfl⟩ | ⟨text, -⟩ | ⟨-, v, rfl⟩
    · cases right
    · exact absurd left (not_compare_int (.inr ⟨u, rfl⟩) right)
    · rw [uuid] at text
      cases text
    · rw [uuid_eq_of_compare left right]
      exact ⟨beq_self_eq_true v, rfl⟩

end Value

/-! ## Entities from layouts -/

/-- What a column of a key's type holds is admitted there. -/
theorem ColumnType.admits_toValue (t : ColumnType) (keyed : (Column.type t.Carrier).IsKey)
    (x : t.Carrier) : (Column.type t.Carrier).Admits (Column.toValue x) := by
  induction t with
  | option t ih =>
    cases x with
    | none => exact FieldType.admits_null _
    | some x => exact ih keyed x
  | bool | float32 | float64 | json | timestamp | localTimestamp | bytes =>
    rcases keyed with integer | text | uuid
    · cases integer
    · cases text
    · cases uuid
  | text | uuid => trivial
  | _ => exact FieldType.admits_int _ _

theorem Cells.mem_toPairs {cs : List ColumnSpec} {xs : Cells cs} {p : String × Value}
    (member : p ∈ Cells.toPairs cs xs) :
    ∃ c ∈ cs, ∃ x : c.type.Carrier, p = (c.column, Column.toValue x) := by
  induction cs with
  | nil => cases member
  | cons c cs ih =>
    rcases List.mem_cons.mp member with rfl | member
    · exact ⟨c, List.mem_cons_self, xs.1, rfl⟩
    · obtain ⟨d, inSpecs, x, same⟩ := ih member
      exact ⟨d, List.mem_cons_of_mem c inSpecs, x, same⟩

/-- An entity from a layout has a value of the column's type in its key column. -/
theorem Layout.admits_key {l : Layout} {Extra : Type} {key : Field}
    (distinct : (l.columns.map (·.column)).Nodup)
    (required : l.info.requirePrimaryKey = .ok key) (keyed : key.type.IsKey)
    (e : l.Item Extra) : key.type.Admits (e.toRecord.getD key.column) := by
  have member : key ∈ l.info.fields := by
    unfold EntityInfo.requirePrimaryKey at required
    split at required
    · rename_i f found
      cases required
      exact List.mem_of_find?_eq_some found
    · cases required
  obtain ⟨c, inColumns, rfl⟩ := List.mem_map.mp member
  rcases Record.get?_setAll .empty (Cells.toPairs l.columns e.cells) c.field.column with
    none | ⟨p, inPairs, named, held⟩
  · rw [Record.getD, Layout.Item.toRecord, Record.ofPairs, none]
    exact FieldType.admits_null _
  · rw [Record.getD, Layout.Item.toRecord, Record.ofPairs, held]
    obtain ⟨d, inSpecs, x, rfl⟩ := Cells.mem_toPairs inPairs
    have same : d = c := List.inj_on_of_nodup_map distinct inSpecs inColumns named
    subst same
    exact d.type.admits_toValue keyed x

/-! ## Steps that write elsewhere -/

/-- The table that a request writes to. -/
def Request.target? {β : Type} : Request β → Option String
  | .insert table .. | .update table .. | .delete table _ | .dropTable table | .dropIndex table _ =>
    some table
  | .createTable schema | .migrateTable schema => some schema.name
  | .createIndex index => some index.table
  | _ => none

/-- The step does not write to a table. -/
def Step.Spares (table : String) : Step → Prop
  | .ask _ r => r.target? ≠ some table
  | _ => True

/-- What is inserted for an entity is its row without the unset keys that the store generates. -/
theorem Repository.get?_insertable (info : EntityInfo) (row : Record) (c : String) :
    (insertable info row).get? c =
      if c ∈ info.generatedColumns ∧ (row.get? c).any Value.isUnsetKey then none
      else row.get? c := by
  unfold insertable
  induction info.generatedColumns generalizing row with
  | nil => simp
  | cons column columns ih =>
    rw [List.foldl_cons, ih]
    by_cases here : column = c
    · subst here
      by_cases unset : (row.get? column).any Value.isUnsetKey
      · simp [unset, Record.get?_remove]
      · simp [unset]
    · have same : (if (row.get? column).any Value.isUnsetKey then row.remove column
          else row).get? c = row.get? c := by
        split
        · rw [Record.get?_remove, if_neg here]
        · rfl
      rw [same]
      simp [Ne.symm here]

namespace Memory

/-- A table that others are written beside stays as it is. -/
theorem Tables.get?_of_spared {ts ts' : Tables} {β : Type} {r : Request β} {x : β} {table : String}
    (spared : r.target? ≠ some table) (answered : ts.answer r = .ok (x, ts')) :
    ts'.get? table = ts.get? table := by
  have change := change_answer answered
  cases change with
  | read => rfl
  | dropped => rw [get?_erase, if_neg fun same => spared (congrArg some same)]
  | _ => rw [get?_set, if_neg fun same => spared (congrArg some same)]

/-! ## The invariant -/

/-- The entity's table, if it is there, has the entity's fields, and values of the key's type in
the key column. -/
structure KeyedTables (info : EntityInfo) (key : Field) (ts : Tables) : Prop where
  unique : ts.Unique
  fields : ∀ t, ts.get? info.table = some t → t.fields = info.fields
  admitted : ∀ t, ts.get? info.table = some t → ∀ r ∈ t.rows, key.type.Admits (r.getD key.column)

theorem keyedTables_empty (info : EntityInfo) (key : Field) : KeyedTables info key .empty where
  unique := Tables.unique_empty
  fields := nofun
  admitted := nofun

variable {info : EntityInfo} {key : Field} {ts ts' : Tables} {t t' : Table} {name : String}

/-- What has to be shown when the entity's table is replaced. -/
theorem KeyedTables.of_set (unique : (ts.set info.table t).Unique) (fields : t.fields = info.fields)
    (admitted : ∀ r ∈ t.rows, key.type.Admits (r.getD key.column)) :
    KeyedTables info key (ts.set info.table t) where
  unique := unique
  fields u found := by
    rw [Tables.get?_set, if_pos rfl] at found
    cases found
    exact fields
  admitted u found := by
    rw [Tables.get?_set, if_pos rfl] at found
    cases found
    exact admitted

theorem admits_of_insert {row full : Record} {lastId lastId' : Int64}
    (given : key.type.Admits (row.getD key.column))
    (made : t.newRow (Repository.insertable info row) lastId = .ok (full, lastId')) :
    key.type.Admits (full.getD key.column) := by
  rcases newRow_value made key.column with same | none | ⟨i, generated⟩
  · rw [same]
    rw [Record.getD, Repository.get?_insertable]
    split
    · exact key.type.admits_null
    · exact given
  · rw [none]
    exact key.type.admits_null
  · rw [generated]
    exact key.type.admits_int i

theorem admits_of_setAll {row changes : Record} (before : key.type.Admits (row.getD key.column))
    (given : key.AdmitsIn changes) : key.type.Admits ((row.setAll changes.entries).getD key.column) := by
  rcases Record.get?_setAll row changes.entries key.column with kept | ⟨p, member, named, set⟩
  · rwa [Record.getD, kept]
  · rw [Record.getD, set]
    exact given p member named

/-- An update that gives the key column values of its type only keeps it of that type. -/
theorem admits_of_update {changes : Record} {filters : List Predicate} {n : UInt64}
    (before : ∀ r ∈ t.rows, key.type.Admits (r.getD key.column)) (given : key.AdmitsIn changes)
    (done : t.update name changes filters = .ok (t', n)) :
    ∀ r ∈ t'.rows, key.type.Admits (r.getD key.column) := by
  intro r member
  obtain ⟨row, stored, ⟨-, rfl⟩ | ⟨-, rfl⟩⟩ := (mem_rows_update done).mp member
  · exact admits_of_setAll (before row stored) given
  · exact before r stored

/-- New rows of entities have values of the key's type in the key column. -/
theorem admits_of_inserts {α : Type} [Entity α] {es : List α} {returning : List String}
    {answers : List Record} (before : ∀ r ∈ t.rows, key.type.Admits (r.getD key.column))
    (typed : ∀ e : α, key.type.Admits ((Entity.toRecord e).getD key.column))
    (done : t.insert name (es.map fun e => Repository.insertable info (Entity.toRecord e)) returning =
      .ok (t', answers)) :
    t'.fields = t.fields ∧ ∀ r ∈ t'.rows, key.type.Admits (r.getD key.column) := by
  obtain ⟨⟨fulls, last⟩, made, rest⟩ := exists_of_bind done
  obtain ⟨_, -, same⟩ := exists_of_bind rest
  cases same
  refine ⟨rfl, ?_⟩
  intro r member
  rcases List.mem_append.mp member with member | member
  · exact before r member
  · obtain ⟨row, inRows, first, next, one⟩ := newRow_of_newRows made r member
    obtain ⟨e, -, rfl⟩ := List.mem_map.mp inRows
    exact admits_of_insert (typed e) one

theorem admitsIn_remove (r : Record) : key.AdmitsIn (r.remove key.column) := by
  intro p member named
  exact absurd named (of_decide_eq_true (List.mem_filter.mp member).2)

/-- Requests of a repository keep the key column of its entity's table of its type. -/
theorem KeyedTables.own {α : Type} [Entity α] (h : KeyedTables (Entity.info α) key ts)
    (required : (Entity.info α).requirePrimaryKey = .ok key)
    (typed : ∀ e : α, key.type.Admits ((Entity.toRecord e).getD key.column))
    {β : Type} {r : Request β} {x : β} (own : OwnRequest α key.AdmitsIn r)
    (answered : ts.answer r = .ok (x, ts')) : KeyedTables (Entity.info α) key ts' := by
  have unique := h.unique.answer answered
  have change := Tables.change_answer answered
  cases change with
  | read => exact h
  | inserted found done =>
    obtain ⟨rfl, -, es, rfl⟩ := own
    obtain ⟨same, admitted⟩ := admits_of_inserts (h.admitted _ found) typed done
    exact .of_set unique (same.trans (h.fields _ found)) admitted
  | updated found done =>
    obtain ⟨rfl, kind⟩ := own
    have kept := h.admitted _ found
    refine .of_set unique ((fields_of_update done).trans (h.fields _ found)) ?_
    rcases kind with given | ⟨e, key', required', rfl⟩
    · exact admits_of_update kept given done
    · rw [required] at required'
      cases required'
      exact admits_of_update kept (admitsIn_remove _) done
  | deleted found done =>
    cases own
    refine .of_set unique ((fields_of_delete done).trans (h.fields _ found)) ?_
    exact fun r member => h.admitted _ found r (mem_rows_of_delete done member)
  | created absent | laid absent =>
    cases own
    exact .of_set unique rfl nofun
  | dropped =>
    cases own
    have gone : (ts.erase (Entity.info α).table).get? (Entity.info α).table = none := by
      rw [Tables.get?_erase, if_pos rfl]
    exact ⟨unique, fun t found => by simp [gone] at found, fun t found => by simp [gone] at found⟩
  | @extended schema t found =>
    cases own
    have fields := h.fields t found
    -- the table has all fields of its entity, so a migration adds none
    have same : t.addFields (Entity.info α).schema.fields = t := by
      refine addFields_of_hasColumn fun f member => ?_
      rw [Table.hasColumn, fields]
      exact List.any_eq_true.mpr ⟨f, member, decide_eq_true rfl⟩
    rw [same] at unique ⊢
    exact .of_set unique fields (h.admitted t found)
  | indexed found done =>
    have fields := h.fields _ (own ▸ found)
    have kept := h.admitted _ (own ▸ found)
    obtain ⟨rfl, -⟩ := Table.addIndex_eq_ok done
    have named : _ = (Entity.info α).table := own
    rw [named] at unique ⊢
    exact .of_set unique fields kept
  | unindexed found =>
    cases own
    have fields := h.fields _ found
    have kept := h.admitted _ found
    exact .of_set unique fields kept

/-- Requests that write elsewhere do so too. -/
theorem KeyedTables.spared {β : Type} {r : Request β} {x : β} (h : KeyedTables info key ts)
    (spared : r.target? ≠ some info.table) (answered : ts.answer r = .ok (x, ts')) :
    KeyedTables info key ts' where
  unique := h.unique.answer answered
  fields := by
    rw [Tables.get?_of_spared spared answered]
    exact h.fields
  admitted := by
    rw [Tables.get?_of_spared spared answered]
    exact h.admitted

/-- So do requests that repositories of the entity make, or that write elsewhere. -/
theorem KeyedTables.answer {α : Type} [Entity α] (h : KeyedTables (Entity.info α) key ts)
    (required : (Entity.info α).requirePrimaryKey = .ok key)
    (typed : ∀ e : α, key.type.Admits ((Entity.toRecord e).getD key.column)) {β : Type}
    {scope : Scope} {r : Request β} {x : β}
    (allowed : OwnStep α key.AdmitsIn .direct (.ask scope r) ∨
      (Step.ask scope r).Spares (Entity.info α).table)
    (answered : ts.answer r = .ok (x, ts')) : KeyedTables (Entity.info α) key ts' := by
  rcases allowed with own | spared
  · cases own with
    | ask own | within own => exact h.own required typed own answered
  · exact h.spared spared answered

/-! ## States -/

/-- A state that comes about by repositories of one entity, whose changes set the key column to
values of its type only, in whatever transactions, and by writes to other tables. -/
def Store.Written (α : Type) [Entity α] (key : Field) (s : Store) : Prop :=
  Leads (fun st => OwnStep α key.AdmitsIn .direct st ∨ st.Spares (Entity.info α).table) ∅ s

theorem Store.Written.holds {α : Type} [Entity α] {s : Store} (h : Written α key s)
    (required : (Entity.info α).requirePrimaryKey = .ok key)
    (typed : ∀ e : α, key.type.Admits ((Entity.toRecord e).getD key.column)) :
    s.Holds (KeyedTables (Entity.info α) key) := by
  refine h.induction ?_ (holds_empty (keyedTables_empty _ key))
  intro s st allowed holds
  refine holds.next (keyedTables_empty _ key) ?_
  intro β scope r ts ts' x asked before answered
  subst asked
  exact before.answer required typed allowed answered

theorem Store.written_empty {α : Type} [Entity α] : Written α key ∅ := Leads.refl _

/-- Every operation of a repository of the entity keeps to that, be it inside a transaction. -/
theorem Store.Written.run {α β : Type} [Entity α] {s : Session Store} (h : Written α key s.store)
    (repo : Repository α) (op : Operation α β) (gives : op.Gives key.AdmitsIn) :
    Written α key ((op.run repo).run s).2.store := by
  refine h.trans ((op.takes_run repo gives s).1.mono ?_)
  obtain ⟨scope, observer⟩ := repo
  intro st own
  left
  cases own with
  | ask own =>
    cases scope with
    | direct => exact .ask own
    | tx id => exact .within own
  | begin => exact .begin
  | within own => exact .within own
  | steer => exact .steer

/-- In such a state at most one row of the entity's table is matched by a key of one column. -/
theorem KeyedTables.pairwise (h : KeyedTables info key ts) (found : ts.get? info.table = some t)
    (single : keyColumns info.fields = [key.column]) {v : Value} (unambiguous : v.Unambiguous) :
    t.rows.Pairwise fun a b => ¬((a.getD key.column).compare? v = some .eq ∧
      (b.getD key.column).compare? v = some .eq) := by
  have isKey : [key.column] ∈ t.keys := by
    refine Table.mem_keys.mpr (.inl ⟨?_, List.cons_ne_nil _ _⟩)
    rw [h.fields t found, single]
  have apart := Table.unique_iff_pairwise.mp (h.unique _ t found) _ isKey
  refine apart.imp_of_mem ?_
  rintro a b inA inB differ ⟨left, right⟩
  refine differ ?_
  intro c member
  rw [List.mem_singleton.mp member]
  exact Value.eq_of_compare_key (h.admitted t found a inA) (h.admitted t found b inB) unambiguous
    left right

end Memory

end EntityStore
