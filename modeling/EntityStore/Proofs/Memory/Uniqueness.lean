import EntityStore.Proofs.Memory.Step
import EntityStore.Proofs.Memory.Table
import EntityStore.Proofs.Value
import EntityStore.Sample.Schema

/-!
# Uniqueness

No two rows of a table agree on one of its keys, whatever was done with the store. Every write
and every new index checks the rows that it leaves; of the requests that check nothing, a
deletion leaves fewer rows, and a migration adds a column that is null in every row, so that no
two rows agree on a key with that column.
-/

namespace EntityStore.Memory

/-- Two rows hold equal values, none of them null, in the columns of a key. -/
def Agree (key : List String) (a b : Record) : Prop :=
  ∀ c ∈ key, (a.getD c == b.getD c) = true ∧ (a.getD c).isNull = false

/-- No two rows of the table agree on one of its keys. -/
def Table.Unique (t : Table) : Prop :=
  ∀ key ∈ t.keys, ∀ (i j : Nat) (a b : Record), i ≠ j →
    t.rows[i]? = some a → t.rows[j]? = some b → ¬Agree key a b

def Tables.Unique (ts : Tables) : Prop := ∀ name t, ts.get? name = some t → t.Unique

/-! ## Rows that agree -/

section

variable {key : List String} {a b : Record} {rows rows' : List Record}

theorem Agree.symm (h : Agree key a b) : Agree key b a := by
  intro c member
  obtain ⟨equal, filled⟩ := h c member
  refine ⟨?_, ?_⟩
  · rw [← equal]
    exact Value.beq_comm _ _
  · rw [← filled]
    exact (Value.isNull_of_beq equal).symm

/-- The check compares the values of the rows that have no null in the key. -/
theorem agree_iff_keyValues : Agree key a b ↔
    (keyValues key a == keyValues key b) = true ∧ (keyValues key a).any (·.isNull) = false ∧
      (keyValues key b).any (·.isNull) = false := by
  have step (c : String) (cs : List String) :
      (keyValues (c :: cs) a == keyValues (c :: cs) b) =
        (a.getD c == b.getD c && keyValues cs a == keyValues cs b) := rfl
  induction key with
  | nil => exact iff_of_true nofun ⟨rfl, rfl, rfl⟩
  | cons c cs ih =>
    have whole : Agree (c :: cs) a b ↔
        ((a.getD c == b.getD c) = true ∧ (a.getD c).isNull = false) ∧ Agree cs a b :=
      List.forall_mem_cons
    rw [whole, step, Bool.and_eq_true]
    simp only [keyValues, List.map_cons, List.any_cons, Bool.or_eq_false_iff] at ih ⊢
    constructor
    · rintro ⟨⟨equal, filled⟩, agree⟩
      obtain ⟨rest, left, right⟩ := ih.mp agree
      have other : (b.getD c).isNull = false := (Value.isNull_of_beq equal).symm.trans filled
      exact ⟨⟨equal, rest⟩, ⟨filled, left⟩, other, right⟩
    · rintro ⟨⟨equal, rest⟩, ⟨filled, left⟩, -, right⟩
      exact ⟨⟨equal, filled⟩, ih.mpr ⟨rest, left, right⟩⟩

theorem pairwise_iff_positions : rows.Pairwise (fun a b => ¬Agree key a b) ↔
    ∀ (i j : Nat) (a b : Record), i ≠ j →
      rows[i]? = some a → rows[j]? = some b → ¬Agree key a b := by
  rw [List.pairwise_iff_getElem]
  constructor
  · intro apart i j a b distinct atI atJ same
    obtain ⟨belowI, rfl⟩ := List.getElem?_eq_some_iff.mp atI
    obtain ⟨belowJ, rfl⟩ := List.getElem?_eq_some_iff.mp atJ
    rcases Nat.lt_or_gt_of_ne distinct with before | behind
    · exact apart i j belowI belowJ before same
    · exact apart j i belowJ belowI behind same.symm
  · intro apart i j belowI belowJ before
    exact apart i j _ _ (Nat.ne_of_lt before) (List.getElem?_eq_getElem belowI)
      (List.getElem?_eq_getElem belowJ)

theorem hasRepeat_eq_false {α : Type} [BEq α] {xs : List α} :
    hasRepeat xs = false ↔ xs.Pairwise fun x y => (x == y) = false := by
  induction xs with
  | nil => exact iff_of_true rfl .nil
  | cons x xs ih =>
    rw [hasRepeat, Bool.or_eq_false_iff, ih, List.pairwise_cons, List.any_eq_false]
    simp only [Bool.not_eq_true]

theorem checkKey_eq_ok {table : String} :
    checkKey table rows key = .ok () ↔ rows.Pairwise fun a b => ¬Agree key a b := by
  have passed : checkKey table rows key = .ok () ↔ hasRepeat (keyed key rows) = false := by
    unfold checkKey
    cases hasRepeat (keyed key rows) <;> simp
  rw [passed, hasRepeat_eq_false, keyed, List.pairwise_filter, List.pairwise_map]
  simp only [agree_iff_keyValues, Bool.not_eq_eq_eq_not, Bool.not_true]
  constructor
  · intro distinct
    refine distinct.imp ?_
    rintro a b apart ⟨equal, left, right⟩
    rw [apart left right] at equal
    cases equal
  · intro distinct
    refine distinct.imp ?_
    intro a b apart left right
    exact Bool.eq_false_iff.mpr fun equal => apart ⟨equal, left, right⟩

theorem checkKeys_eq_ok {table : String} {keys : List (List String)} :
    checkKeys table rows keys = .ok () ↔
      ∀ key ∈ keys, rows.Pairwise fun a b => ¬Agree key a b := by
  induction keys with
  | nil => exact iff_of_true rfl nofun
  | cons key keys ih =>
    have first : checkKey table rows key = .ok () ↔ _ := checkKey_eq_ok
    rw [List.forall_mem_cons, ← first, ← ih]
    have step : checkKeys table rows (key :: keys) =
        checkKey table rows key >>= fun _ => checkKeys table rows keys := rfl
    rw [step]
    cases checkKey table rows key with
    | error e => exact iff_of_false nofun fun both => nomatch both.1
    | ok _ => exact ⟨fun rest => ⟨rfl, rest⟩, And.right⟩

end

/-! ## Tables -/

namespace Table

variable {t t' : Table}

theorem unique_iff_pairwise :
    t.Unique ↔ ∀ key ∈ t.keys, t.rows.Pairwise fun a b => ¬Agree key a b := by
  unfold Unique
  simp only [pairwise_iff_positions]

theorem unique_ofFields (fields : List Field) : (ofFields fields).Unique := by
  intro key _ i j a b _ atI
  cases atI

theorem unique_insert {name : String} {rows answers : List Record} {returning : List String}
    (done : t.insert name rows returning = .ok (t', answers)) : t'.Unique := by
  obtain ⟨⟨fulls, lastId⟩, -, rest⟩ := exists_of_bind done
  obtain ⟨_, checked, same⟩ := exists_of_bind rest
  cases same
  exact unique_iff_pairwise.mpr (checkKeys_eq_ok.mp checked)

theorem unique_update {name : String} {changes : Record} {filters : List Predicate} {n : UInt64}
    (done : t.update name changes filters = .ok (t', n)) : t'.Unique := by
  obtain ⟨_, -, rest⟩ := exists_of_bind done
  obtain ⟨rows, -, rest⟩ := exists_of_bind rest
  obtain ⟨_, checked, same⟩ := exists_of_bind rest
  cases same
  exact unique_iff_pairwise.mpr (checkKeys_eq_ok.mp checked)

theorem Unique.delete (h : t.Unique) {filters : List Predicate} {n : UInt64}
    (done : t.delete filters = .ok (t', n)) : t'.Unique := by
  have fewer := sublist_rows_of_delete done
  obtain ⟨_, -, -, rfl⟩ := rows_of_delete done
  rw [unique_iff_pairwise] at h ⊢
  intro key member
  exact (h key member).sublist fewer

/-- The keys are the primary key, unless it is empty, the unique columns and the unique
indexes. -/
theorem mem_keys {key : List String} : key ∈ t.keys ↔
    (key = keyColumns t.fields ∧ key ≠ []) ∨
      (∃ f ∈ t.fields, f.isUniqueColumn = true ∧ [f.column] = key) ∨
      ∃ index ∈ t.indexes, index.unique = true ∧ index.columns = key := by
  have primary : key ∈ (if (keyColumns t.fields).isEmpty then [] else [keyColumns t.fields]) ↔
      key = keyColumns t.fields ∧ key ≠ [] := by
    cases keyColumns t.fields with
    | nil => simp
    | cons c cs => simpa using fun same : key = c :: cs => same ▸ List.cons_ne_nil c cs
  rw [keys, List.mem_append, List.mem_append, primary, or_assoc]
  simp only [List.mem_map, List.mem_filter, and_assoc]

/-- A key of the table with a further column either has that column or was a key before. -/
theorem mem_keys_append {f : Field} {rows : List Record} {key : List String}
    (h : key ∈ { t with rows := rows, fields := t.fields ++ [f] }.keys) :
    f.column ∈ key ∨ key ∈ t.keys := by
  rcases mem_keys.mp h with ⟨same, filled⟩ | ⟨g, member, unique, rfl⟩ | index
  · dsimp only at same
    by_cases primary : f.primaryKey
    · left
      simp [same, keyColumns, primary]
    · right
      have before : key = keyColumns t.fields := by simpa [keyColumns, primary] using same
      exact mem_keys.mpr (.inl ⟨before, filled⟩)
  · rcases List.mem_append.mp member with before | added
    · right
      exact mem_keys.mpr (.inr (.inl ⟨g, before, unique, rfl⟩))
    · left
      rw [List.mem_singleton.mp added]
      exact List.mem_singleton_self _
  · right
    exact mem_keys.mpr (.inr (.inr index))

theorem Unique.addField (h : t.Unique) (f : Field) : (t.addField f).Unique := by
  unfold Table.addField
  split
  · exact h
  · rw [unique_iff_pairwise] at h ⊢
    intro key member
    rw [List.pairwise_map]
    rcases mem_keys_append member with added | before
    · refine List.pairwise_of_forall ?_
      intro a b agree
      have filled := (agree f.column added).2
      rw [Record.getD_set_self] at filled
      cases filled
    · refine (h key before).imp ?_
      intro a b apart agree
      refine apart ?_
      intro c inKey
      obtain ⟨equal, filled⟩ := agree c inKey
      by_cases here : f.column = c
      · subst here
        rw [Record.getD_set_self] at filled
        cases filled
      · rw [Record.getD_set_of_ne here, Record.getD_set_of_ne here] at equal
        rw [Record.getD_set_of_ne here] at filled
        exact ⟨equal, filled⟩

theorem Unique.addFields (h : t.Unique) (fields : List Field) : (t.addFields fields).Unique := by
  unfold Table.addFields
  induction fields generalizing t with
  | nil => exact h
  | cons f fs ih => exact ih (h.addField f)

theorem Unique.addIndex (h : t.Unique) {index : Index} (done : t.addIndex index = .ok t') :
    t'.Unique := by
  obtain ⟨rfl, checked⟩ := addIndex_eq_ok done
  rw [unique_iff_pairwise] at h ⊢
  intro key member
  rcases mem_keys.mp member with primary | column | ⟨other, inIndexes, unique, rfl⟩
  · exact h key (mem_keys.mpr (.inl primary))
  · exact h key (mem_keys.mpr (.inr (.inl column)))
  · rcases List.mem_append.mp inIndexes with before | added
    · exact h _ (mem_keys.mpr (.inr (.inr ⟨other, before, unique, rfl⟩)))
    · cases List.mem_singleton.mp added
      exact checkKey_eq_ok.mp (checked unique)

theorem Unique.dropIndex (h : t.Unique) (name : String) : (t.dropIndex name).Unique := by
  intro key member
  apply h key
  rcases mem_keys.mp member with primary | column | ⟨other, inIndexes, unique, rfl⟩
  · exact mem_keys.mpr (.inl primary)
  · exact mem_keys.mpr (.inr (.inl column))
  · exact mem_keys.mpr (.inr (.inr ⟨other, (List.mem_filter.mp inIndexes).1, unique, rfl⟩))

end Table

/-! ## Stores -/

namespace Tables

variable {ts : Tables} {name : String} {t : Table}

theorem unique_empty : Tables.empty.Unique := each_empty

theorem Unique.set (h : ts.Unique) (changed : t.Unique) : (ts.set name t).Unique :=
  (Each.set_iff h).mpr changed

theorem Unique.erase (h : ts.Unique) (name : String) : (ts.erase name).Unique := Each.erase h name

theorem Unique.answer (h : ts.Unique) {α : Type} {r : Request α} {x : α} {ts' : Tables}
    (answered : ts.answer r = .ok (x, ts')) : ts'.Unique := by
  have change := change_answer answered
  cases change with
  | read => exact h
  | inserted found done => exact h.set (Table.unique_insert done)
  | updated found done => exact h.set (Table.unique_update done)
  | deleted found done => exact h.set ((h _ _ found).delete done)
  | created absent | laid absent => exact h.set (Table.unique_ofFields _)
  | dropped => exact h.erase _
  | extended found => exact h.set ((h _ _ found).addFields _)
  | indexed found done => exact h.set ((h _ _ found).addIndex done)
  | unindexed found => exact h.set ((h _ _ found).dropIndex _)

end Tables

theorem Store.Holds.unique_after {s : Store} (h : s.Holds Tables.Unique) (steps : List Step) :
    (Step.after s steps).Holds Tables.Unique := by
  refine Step.after_induction (P := fun _ => True) ?_ (fun _ _ => trivial) h
  intro s st _ unique
  refine unique.next Tables.unique_empty ?_
  intro α scope r ts ts' x _ before answered
  exact before.answer answered

/-- The keys of a new table are the columns of its constraints. -/
theorem keys_ofFields (info : EntityInfo) :
    (Table.ofFields info.fields).keys = info.constraints.map (·.columns) := by
  unfold Table.keys Table.ofFields EntityInfo.constraints
  cases keyColumns info.fields <;> simp [Function.comp_def]

/-- A table that was just created is there, has no rows, and has the keys of its entity's
constraints. -/
theorem Store.created_keys {s s' : Store} {scope : Scope} {info : EntityInfo}
    (created : s.perform scope (.createTable info.schema) = (.ok (), s')) :
    ∃ ts t, s'.tablesOf scope = .ok ts ∧ ts.get? info.table = some t ∧ t.rows = [] ∧
      t.keys = info.constraints.map (·.columns) := by
  obtain ⟨ts, ts', tables, answered, rfl⟩ := answer_eq_ok created
  obtain ⟨_, done, same⟩ := exists_of_map answered
  cases same
  obtain ⟨-, rfl⟩ := Tables.create_eq_ok done
  refine ⟨_, _, tablesOf_setTables tables, ?_, rfl, keys_ofFields info⟩
  rw [Tables.get?_set]
  exact if_pos rfl

/-- In every state that any steps lead to, the committed tables, the working tables of every
transaction and the tables of every savepoint are unique. The keys of a table that was just
created are the columns of its entity's constraints. -/
theorem tables_unique :
    (∀ steps : List Step, (Step.after (∅ : Store) steps).Holds Tables.Unique) ∧
      ∀ (s s' : Store) (scope : Scope) (info : EntityInfo),
        s.perform scope (.createTable info.schema) = (.ok (), s') →
          ∃ ts t, s'.tablesOf scope = .ok ts ∧ ts.get? info.table = some t ∧ t.rows = [] ∧
            t.keys = info.constraints.map (·.columns) :=
  ⟨fun steps => (Store.holds_empty Tables.unique_empty).unique_after steps,
    fun _ _ _ _ created => Store.created_keys created⟩

/-- The key of a table of authors is their number. -/
theorem author_table_keys :
    ∃ ts t, ((∅ : Store).perform .direct (.createTable (Entity.info Sample.Author).schema)).2.tablesOf
        .direct = .ok ts ∧
      ts.get? "authors" = some t ∧ t.keys = [["id"]] := by
  obtain ⟨ts, t, tables, found, -, keys⟩ :=
    tables_unique.2 ∅ _ .direct (Entity.info Sample.Author) rfl
  exact ⟨ts, t, tables, found, keys⟩

end EntityStore.Memory
