import EntityStore.Memory.Store
import EntityStore.Proofs.Outcome
import EntityStore.Proofs.Record

/-!
# Writes to tables

Tables under their names, the rows that a write marks, and all that an answered request can do
to the tables, said once in `Tables.Change`.
-/

namespace EntityStore.Memory

/-! ## Tables by name -/

namespace Tables

variable {ts ts' : Tables} {name : String} {t t' : Table}

theorem get?_set (ts : Tables) (name other : String) (t : Table) :
    (ts.set name t).get? other = if name = other then some t else ts.get? other := by
  unfold set
  split
  · rename_i present
    obtain ⟨u, found⟩ := find?_of_any_eq_true present
    rw [get?, find?_replace, found]
    split <;> rfl
  · rename_i absent
    rw [get?, find?_append_of_any_eq_false (eq_false_of_ne_true absent)]
    split <;> rfl

theorem contains_eq_isSome (ts : Tables) (name : String) :
    ts.contains name = (ts.get? name).isSome := by
  rw [contains, get?, Option.isSome_map, List.isSome_find?]

/-- Of two tables that are put under one name the second one counts. -/
theorem set_set (ts : Tables) (name : String) (t u : Table) :
    (ts.set name t).set name u = ts.set name u := by
  have there : (ts.set name t).contains name = true := by
    rw [contains_eq_isSome, get?_set, if_pos rfl]
    rfl
  rw [set, if_pos there]
  unfold set
  split
  · rw [List.map_map]
    congr 2
    funext e
    by_cases here : e.1 = name <;> simp [here]
  · rename_i absent
    have others : ts.entries.map (fun e => if e.1 = name then (name, u) else e) = ts.entries := by
      refine (List.map_congr_left fun e member => if_neg ?_).trans (List.map_id _)
      exact fun here => absent (List.any_eq_true.mpr ⟨e, member, decide_eq_true here⟩)
    simp [others]

theorem get?_erase (ts : Tables) (name other : String) :
    (ts.erase name).get? other = if name = other then none else ts.get? other := by
  rw [get?, erase, find?_filter_ne]
  split <;> rfl

/-- A property of every table. -/
def Each (Q : Table → Prop) (ts : Tables) : Prop := ∀ name t, ts.get? name = some t → Q t

section

variable {Q : Table → Prop}

theorem each_empty : Tables.empty.Each Q := by
  intro name t found
  cases found

theorem Each.set_iff (h : ts.Each Q) : (ts.set name t).Each Q ↔ Q t := by
  constructor
  · intro each
    apply each name t
    rw [get?_set]
    exact if_pos rfl
  · intro changed other u found
    rw [get?_set] at found
    split at found
    · cases found
      exact changed
    · exact h other u found

theorem Each.erase (h : ts.Each Q) (name : String) : (ts.erase name).Each Q := by
  intro other u found
  rw [get?_erase] at found
  split at found
  · cases found
  · exact h other u found

end

theorem get_eq_ok : ts.get name = .ok t ↔ ts.get? name = some t := by
  unfold get
  cases ts.get? name <;> simp

theorem create_eq_ok {schema : TableSchema} (done : ts.create schema = .ok ts') :
    ts.contains schema.name = false ∧ ts' = ts.set schema.name (.ofFields schema.fields) := by
  unfold create at done
  split at done
  · cases done
  · rename_i absent
    cases done
    exact ⟨eq_false_of_ne_true absent, rfl⟩

/-- What an answered request makes of the tables. -/
inductive Change (ts : Tables) : {α : Type} → Request α → α → Tables → Prop where
  | read {α : Type} {r : Request α} {x : α} : Change ts r x ts
  | inserted {name : String} {rows answers : List Record} {returning : List String} {t t' : Table}
      (found : ts.get? name = some t) (done : t.insert name rows returning = .ok (t', answers)) :
      Change ts (.insert name rows returning) answers (ts.set name t')
  | updated {name : String} {changes : Record} {filters : List Predicate} {n : UInt64}
      {t t' : Table} (found : ts.get? name = some t)
      (done : t.update name changes filters = .ok (t', n)) :
      Change ts (.update name changes filters) n (ts.set name t')
  | deleted {name : String} {filters : List Predicate} {n : UInt64} {t t' : Table}
      (found : ts.get? name = some t) (done : t.delete filters = .ok (t', n)) :
      Change ts (.delete name filters) n (ts.set name t')
  | created {schema : TableSchema} (absent : ts.contains schema.name = false) :
      Change ts (.createTable schema) () (ts.set schema.name (.ofFields schema.fields))
  | dropped {name : String} : Change ts (.dropTable name) () (ts.erase name)
  | laid {schema : TableSchema} (absent : ts.get? schema.name = none) :
      Change ts (.migrateTable schema) () (ts.set schema.name (.ofFields schema.fields))
  | extended {schema : TableSchema} {t : Table} (found : ts.get? schema.name = some t) :
      Change ts (.migrateTable schema) () (ts.set schema.name (t.addFields schema.fields))
  | indexed {index : Index} {t t' : Table} (found : ts.get? index.table = some t)
      (done : t.addIndex index = .ok t') :
      Change ts (.createIndex index) () (ts.set index.table t')
  | unindexed {table name : String} {t : Table} (found : ts.get? table = some t) :
      Change ts (.dropIndex table name) () (ts.set table (t.dropIndex name))

theorem insert_of_answer {rows answers : List Record} {returning : List String}
    (answered : ts.answer (.insert name rows returning) = .ok (answers, ts')) :
    ∃ t t', ts.get? name = some t ∧ t.insert name rows returning = .ok (t', answers) ∧
      ts' = ts.set name t' := by
  obtain ⟨t, found, rest⟩ := exists_of_bind answered
  obtain ⟨⟨t', answers⟩, done, same⟩ := exists_of_bind rest
  cases same
  exact ⟨t, t', get_eq_ok.mp found, done, rfl⟩

theorem update_of_answer {changes : Record} {filters : List Predicate} {n : UInt64}
    (answered : ts.answer (.update name changes filters) = .ok (n, ts')) :
    ∃ t t', ts.get? name = some t ∧ t.update name changes filters = .ok (t', n) ∧
      ts' = ts.set name t' := by
  obtain ⟨t, found, rest⟩ := exists_of_bind answered
  obtain ⟨⟨t', n⟩, done, same⟩ := exists_of_bind rest
  cases same
  exact ⟨t, t', get_eq_ok.mp found, done, rfl⟩

theorem delete_of_answer {filters : List Predicate} {n : UInt64}
    (answered : ts.answer (.delete name filters) = .ok (n, ts')) :
    ∃ t t', ts.get? name = some t ∧ t.delete filters = .ok (t', n) ∧ ts' = ts.set name t' := by
  obtain ⟨t, found, rest⟩ := exists_of_bind answered
  obtain ⟨⟨t', n⟩, done, same⟩ := exists_of_bind rest
  cases same
  exact ⟨t, t', get_eq_ok.mp found, done, rfl⟩

theorem change_answer {α : Type} {r : Request α} {x : α} (answered : ts.answer r = .ok (x, ts')) :
    Change ts r x ts' := by
  cases r with
  | select name q | count name q | tableColumns name =>
    obtain ⟨y, -, same⟩ := exists_of_map answered
    cases same
    exact .read
  | hasTable name | hasIndex table name | ping =>
    cases answered
    exact .read
  | rawQuery sql args | rawExec sql args => cases answered
  | insert name rows returning =>
    obtain ⟨t, t', found, done, rfl⟩ := insert_of_answer answered
    exact .inserted found done
  | update name changes filters =>
    obtain ⟨t, t', found, done, rfl⟩ := update_of_answer answered
    exact .updated found done
  | delete name filters =>
    obtain ⟨t, t', found, done, rfl⟩ := delete_of_answer answered
    exact .deleted found done
  | createTable schema =>
    obtain ⟨made, done, same⟩ := exists_of_map answered
    cases same
    obtain ⟨absent, rfl⟩ := create_eq_ok done
    exact .created absent
  | dropTable name =>
    cases answered
    exact .dropped
  | migrateTable schema =>
    cases answered
    unfold migrate
    cases found : ts.get? schema.name with
    | none => exact .laid found
    | some t => exact .extended found
  | createIndex index =>
    obtain ⟨made, done, same⟩ := exists_of_map answered
    cases same
    obtain ⟨t, found, rest⟩ := exists_of_bind done
    obtain ⟨t', added, same⟩ := exists_of_bind rest
    cases same
    exact .indexed (get_eq_ok.mp found) added
  | dropIndex table name =>
    cases answered
    unfold dropIndex
    cases found : ts.get? table with
    | none => exact .read
    | some t => exact .unindexed found

end Tables

/-! ## Marked rows -/

/-- Every row is marked with whether it satisfies the filters. -/
theorem marked_eq_ok {filters : List Predicate} {rows : List Record}
    {ms : List (Record × Bool)} (h : marked filters rows = .ok ms) :
    ms.map (·.1) = rows ∧ ∀ m ∈ ms, satisfiesAll m.1 filters = .ok m.2 := by
  unfold marked at h
  induction rows generalizing ms with
  | nil =>
    cases h
    exact ⟨rfl, nofun⟩
  | cons row rows ih =>
    rw [List.mapM_cons] at h
    obtain ⟨m, first, rest⟩ := exists_of_bind h
    obtain ⟨others, done, same⟩ := exists_of_bind rest
    cases same
    obtain ⟨b, judged, rfl⟩ := exists_of_map first
    obtain ⟨rowsSame, each⟩ := ih done
    refine ⟨congrArg (row :: ·) rowsSame, ?_⟩
    intro m member
    rcases List.mem_cons.mp member with rfl | member
    · exact judged
    · exact each m member

section

variable {t t' : Table} {name : String}

theorem rows_of_insert {rows answers : List Record} {returning : List String}
    (done : t.insert name rows returning = .ok (t', answers)) :
    ∃ fulls lastId, t.newRows rows t.lastId = .ok (fulls, lastId) ∧
      t' = { t with rows := t.rows ++ fulls, lastId := lastId } := by
  obtain ⟨⟨fulls, lastId⟩, made, rest⟩ := exists_of_bind done
  obtain ⟨_, -, same⟩ := exists_of_bind rest
  cases same
  exact ⟨fulls, lastId, made, rfl⟩

theorem rows_of_update {changes : Record} {filters : List Predicate} {n : UInt64}
    (done : t.update name changes filters = .ok (t', n)) :
    ∃ ms, marked filters t.rows = .ok ms ∧ n = countMarked ms ∧ t' = { t with
      rows := ms.map fun m => if m.2 then m.1.setAll changes.entries else m.1 } := by
  obtain ⟨_, -, rest⟩ := exists_of_bind done
  obtain ⟨ms, judged, rest⟩ := exists_of_bind rest
  obtain ⟨_, -, same⟩ := exists_of_bind rest
  cases same
  exact ⟨ms, judged, rfl, rfl⟩

theorem rows_of_delete {filters : List Predicate} {n : UInt64}
    (done : t.delete filters = .ok (t', n)) :
    ∃ ms, marked filters t.rows = .ok ms ∧ n = countMarked ms ∧
      t' = { t with rows := (ms.filter fun m => !m.2).map (·.1) } := by
  obtain ⟨ms, judged, same⟩ := exists_of_bind done
  cases same
  exact ⟨ms, judged, rfl, rfl⟩

theorem fields_of_update {changes : Record} {filters : List Predicate} {n : UInt64}
    (done : t.update name changes filters = .ok (t', n)) : t'.fields = t.fields := by
  obtain ⟨_, -, -, rfl⟩ := rows_of_update done
  rfl

theorem fields_of_delete {filters : List Predicate} {n : UInt64}
    (done : t.delete filters = .ok (t', n)) : t'.fields = t.fields := by
  obtain ⟨_, -, -, rfl⟩ := rows_of_delete done
  rfl

/-- An updated row was there before, and was changed if it satisfied the filters. -/
theorem mem_rows_update {changes : Record} {filters : List Predicate} {n : UInt64}
    (done : t.update name changes filters = .ok (t', n)) {row' : Record} :
    row' ∈ t'.rows ↔ ∃ row ∈ t.rows,
      (satisfiesAll row filters = .ok true ∧ row' = row.setAll changes.entries) ∨
        (satisfiesAll row filters = .ok false ∧ row' = row) := by
  obtain ⟨ms, judged, -, rfl⟩ := rows_of_update done
  obtain ⟨same, each⟩ := marked_eq_ok judged
  constructor
  · intro member
    obtain ⟨⟨row, b⟩, inMs, rfl⟩ := List.mem_map.mp member
    have verdict : satisfiesAll row filters = .ok b := each _ inMs
    refine ⟨row, ?_, ?_⟩
    · rw [← same]
      exact List.mem_map_of_mem inMs
    · cases b with
      | true => exact .inl ⟨verdict, rfl⟩
      | false => exact .inr ⟨verdict, rfl⟩
  · rintro ⟨row, inRows, changed⟩
    rw [← same] at inRows
    obtain ⟨⟨row, b⟩, inMs, rfl⟩ := List.mem_map.mp inRows
    have verdict : satisfiesAll row filters = .ok b := each _ inMs
    refine List.mem_map.mpr ⟨_, inMs, ?_⟩
    rcases changed with ⟨hit, rfl⟩ | ⟨missed, rfl⟩
    · rw [hit] at verdict
      cases verdict
      rfl
    · rw [missed] at verdict
      cases verdict
      rfl

/-- The rows that are left by a deletion stay in their order. -/
theorem sublist_rows_of_delete {filters : List Predicate} {n : UInt64}
    (done : t.delete filters = .ok (t', n)) : t'.rows.Sublist t.rows := by
  obtain ⟨ms, judged, -, rfl⟩ := rows_of_delete done
  rw [← (marked_eq_ok judged).1]
  exact List.filter_sublist.map _

theorem mem_rows_of_delete {filters : List Predicate} {n : UInt64}
    (done : t.delete filters = .ok (t', n)) {row : Record} (member : row ∈ t'.rows) :
    row ∈ t.rows := (sublist_rows_of_delete done).mem member

end

/-! ## Layout -/

/-- Those of the fields whose columns the table lacks, of each column the first. -/
def Table.missing (t : Table) : List Field → List Field
  | [] => []
  | f :: fs =>
    if t.hasColumn f.column then t.missing fs
    else f :: (t.missing fs).filter (·.column ≠ f.column)

/-- The columns of the fields, each with a null. -/
def nulls (fields : List Field) : List (String × Value) := fields.map fun f => (f.column, .null)

section

variable {t : Table} {f : Field} {fields : List Field} {c : String}

theorem hasColumn_iff : t.hasColumn c = true ↔ ∃ f ∈ t.fields, f.column = c := by
  simp [Table.hasColumn]

theorem hasColumn_of_mem (member : f ∈ t.fields) : t.hasColumn f.column = true :=
  hasColumn_iff.mpr ⟨f, member, rfl⟩

theorem addField_of_hasColumn (has : t.hasColumn f.column = true) : t.addField f = t := if_pos has

theorem addField_of_new (new : t.hasColumn f.column = false) : t.addField f =
    { t with rows := t.rows.map (·.set f.column .null), fields := t.fields ++ [f] } :=
  if_neg (Bool.eq_false_iff.mp new)

theorem hasColumn_addField :
    (t.addField f).hasColumn c = (t.hasColumn c || decide (f.column = c)) := by
  cases new : t.hasColumn f.column with
  | true =>
    rw [addField_of_hasColumn new]
    by_cases here : f.column = c
    · rw [← here, new, Bool.true_or]
    · rw [decide_eq_false here, Bool.or_false]
  | false =>
    rw [addField_of_new new]
    simp [Table.hasColumn]

/-! ### Missing fields -/

theorem missing_of_hasColumn (has : ∀ f ∈ fields, t.hasColumn f.column = true) :
    t.missing fields = [] := by
  induction fields with
  | nil => rfl
  | cons f fs ih =>
    rw [Table.missing, if_pos (has f List.mem_cons_self)]
    exact ih fun g member => has g (List.mem_cons_of_mem f member)

/-- Of fields with different columns none is left out but those whose columns the table has. -/
theorem missing_of_nodup (distinct : (fields.map Field.column).Nodup) :
    t.missing fields = fields.filter fun f => !t.hasColumn f.column := by
  induction fields with
  | nil => rfl
  | cons f fs ih =>
    obtain ⟨apart, rest⟩ := List.nodup_cons.mp distinct
    rw [Table.missing, List.filter_cons, ih rest]
    cases t.hasColumn f.column with
    | true => rfl
    | false =>
      have all : (fs.filter fun g => !t.hasColumn g.column).filter (·.column ≠ f.column) =
          fs.filter fun g => !t.hasColumn g.column := by
        rw [List.filter_eq_self]
        intro g member
        refine decide_eq_true ?_
        intro same
        exact apart (same ▸ List.mem_map_of_mem (List.mem_filter.mp member).1)
      rw [all]
      rfl

theorem mem_missing {g : Field} (member : g ∈ t.missing fields) :
    g ∈ fields ∧ t.hasColumn g.column = false := by
  induction fields with
  | nil => cases member
  | cons f fs ih =>
    rw [Table.missing] at member
    split at member
    · exact ⟨List.mem_cons_of_mem f (ih member).1, (ih member).2⟩
    · rename_i new
      rcases List.mem_cons.mp member with rfl | member
      · exact ⟨List.mem_cons_self, eq_false_of_ne_true new⟩
      · obtain ⟨inFields, lacks⟩ := ih (List.mem_filter.mp member).1
        exact ⟨List.mem_cons_of_mem f inFields, lacks⟩

/-- The columns that the table lacks are those of the missing fields. -/
theorem any_missing :
    (t.missing fields).any (·.column = c) = (!t.hasColumn c && fields.any (·.column = c)) := by
  induction fields with
  | nil => exact (Bool.and_false _).symm
  | cons f fs ih =>
    rw [Table.missing, List.any_cons]
    by_cases here : f.column = c
    · subst here
      cases has : t.hasColumn f.column with
      | true =>
        rw [if_pos rfl, ih, has]
        rfl
      | false => simp
    · have others : ((t.missing fs).filter (·.column ≠ f.column)).any (·.column = c) =
          (t.missing fs).any (·.column = c) := by
        rw [List.any_filter]
        congr 1
        funext g
        by_cases there : g.column = c
        · simp [there, Ne.symm here]
        · simp [there]
      split
      · rw [ih, decide_eq_false here, Bool.false_or]
      · rw [List.any_cons, others, ih, decide_eq_false here, Bool.false_or, Bool.false_or]

theorem missing_addField :
    (t.addField f).missing fields = (t.missing fields).filter (·.column ≠ f.column) := by
  induction fields with
  | nil => rfl
  | cons g gs ih =>
    rw [Table.missing, Table.missing, hasColumn_addField]
    cases t.hasColumn g.column with
    | true => exact ih
    | false =>
      by_cases same : f.column = g.column
      · rw [decide_eq_true same]
        simp [ih, same, List.filter_filter]
      · rw [decide_eq_false same]
        simp [ih, Ne.symm same, List.filter_filter, Bool.and_comm]

/-- All that adding fields does: the missing ones come behind those of the table, and their columns
are null in every row. -/
theorem addFields_eq (t : Table) (fields : List Field) : t.addFields fields =
    { t with
      rows := t.rows.map (·.setAll (nulls (t.missing fields)))
      fields := t.fields ++ t.missing fields } := by
  induction fields generalizing t with
  | nil =>
    have same : (fun row : Record => row.setAll (nulls [])) = id := rfl
    simp [Table.addFields, Table.missing, same]
  | cons f fs ih =>
    change (t.addField f).addFields fs = _
    rw [ih, Table.missing]
    cases new : t.hasColumn f.column with
    | true =>
      rw [addField_of_hasColumn new]
      rfl
    | false =>
      rw [missing_addField, addField_of_new new]
      simp only [List.map_map, List.append_assoc, List.singleton_append]
      rfl

/-- Adding the fields that the table has changes nothing. -/
theorem addFields_of_hasColumn (h : ∀ f ∈ fields, t.hasColumn f.column = true) :
    t.addFields fields = t := by
  have same : (fun row : Record => row.setAll (nulls [])) = id := rfl
  rw [addFields_eq, missing_of_hasColumn h, same, List.map_id, List.append_nil]

theorem lastId_addFields : (t.addFields fields).lastId = t.lastId := by rw [addFields_eq]

/-- A field of the table was there before, or it was added for its column. -/
theorem mem_fields_addFields {g : Field} (member : g ∈ (t.addFields fields).fields) :
    g ∈ t.fields ∨ g ∈ fields ∧ t.hasColumn g.column = false := by
  rw [addFields_eq] at member
  rcases List.mem_append.mp member with before | added
  · exact .inl before
  · exact .inr (mem_missing added)

theorem hasColumn_addFields :
    (t.addFields fields).hasColumn c = (t.hasColumn c || fields.any (·.column = c)) := by
  rw [addFields_eq, Table.hasColumn, List.any_append, any_missing, ← Table.hasColumn]
  cases t.hasColumn c <;> simp

theorem length_rows_addFields : (t.addFields fields).rows.length = t.rows.length := by
  rw [addFields_eq]
  exact List.length_map _

theorem get?_ofPairs_nulls :
    (Record.ofPairs (nulls fields)).get? c =
      if fields.any (·.column = c) then some .null else none := by
  induction fields with
  | nil => rfl
  | cons f fs ih =>
    change (Record.ofPairs ((f.column, .null) :: nulls fs)).get? c = _
    rw [Record.get?_ofPairs_cons, ih, List.any_cons]
    by_cases here : f.column = c <;> cases fs.any (·.column = c) <;> simp [here]

/-- A row is null in the columns that are added and as it was in all others. -/
theorem get?_setAll_missing (row : Record) (c : String) :
    (row.setAll (nulls (t.missing fields))).get? c =
      if !t.hasColumn c && fields.any (·.column = c) then some .null else row.get? c := by
  rw [Record.get?_setAll_eq_or, get?_ofPairs_nulls, any_missing]
  split <;> rfl

theorem getD_of_addFields {row' : Record} (member : row' ∈ (t.addFields fields).rows) :
    ∃ row ∈ t.rows, ∀ c, row'.getD c =
      if !t.hasColumn c && fields.any (·.column = c) then .null else row.getD c := by
  rw [addFields_eq] at member
  obtain ⟨row, inRows, rfl⟩ := List.mem_map.mp member
  refine ⟨row, inRows, ?_⟩
  intro c
  rw [Record.getD, get?_setAll_missing]
  split <;> rfl

end

theorem Table.addIndex_eq_ok {t t' : Table} {index : Index} (done : t.addIndex index = .ok t') :
    t' = { t with indexes := t.indexes ++ [index] } ∧
      (index.unique = true → checkKey index.table t.rows index.columns = .ok ()) := by
  unfold Table.addIndex at done
  by_cases taken : t.hasIndex index.name = true
  · rw [if_pos taken] at done
    cases done
  · rw [if_neg taken] at done
    obtain ⟨_, -, rest⟩ := exists_of_bind done
    by_cases unique : index.unique = true
    · simp only [if_pos unique] at rest
      obtain ⟨_, checked, same⟩ := exists_of_bind rest
      cases same
      exact ⟨rfl, fun _ => checked⟩
    · simp only [if_neg unique] at rest
      cases rest
      exact ⟨rfl, fun h => absurd h unique⟩

/-! ## New rows -/

theorem fill_value (f : Field) (given : Value) (lastId : Int64) :
    (fill f given lastId).1 = given ∨ ∃ i, (fill f given lastId).1 = .int i := by
  unfold fill
  split
  · split
    · exact .inr ⟨_, rfl⟩
    · split <;> exact .inl rfl
  · exact .inl rfl

/-- A field keeps what it is given, unless that is an unset key which the store generates. -/
theorem fill_of_set {f : Field} {given : Value} {lastId : Int64}
    (set : f.autoIncrement = true → given.isUnsetKey = false) : (fill f given lastId).1 = given := by
  unfold fill
  split
  · rename_i auto
    rw [set auto]
    cases given <;> rfl
  · rfl

/-- The value of the first field is not null if it must not be, and then come the other fields. -/
theorem fillFields_cons {row full full' : Record} {f : Field} {fs : List Field}
    {lastId lastId' : Int64} (filled : fillFields row (f :: fs) full lastId = .ok (full', lastId')) :
    (f.nullable = false → (fill f (row.getD f.column) lastId).1.isNull = false) ∧
      fillFields row fs (full.set f.column (fill f (row.getD f.column) lastId).1)
        (fill f (row.getD f.column) lastId).2 = .ok (full', lastId') := by
  rw [fillFields] at filled
  dsimp only at filled
  split at filled
  · cases filled
  · rename_i accepted
    refine ⟨?_, filled⟩
    intro required
    simpa [required] using accepted

theorem get?_fillFields_of_notMem {row full full' : Record} {fs : List Field}
    {lastId lastId' : Int64} (filled : fillFields row fs full lastId = .ok (full', lastId'))
    {c : String} (absent : ∀ f ∈ fs, f.column ≠ c) : full'.get? c = full.get? c := by
  induction fs generalizing full lastId with
  | nil =>
    cases filled
    rfl
  | cons f fs ih =>
    obtain ⟨here, absent⟩ := List.forall_mem_cons.mp absent
    rw [ih (fillFields_cons filled).2 absent, Record.get?_set, if_neg here]

/-- What a new row holds was there, was given, or is a number that was generated. -/
theorem fillFields_value {row full full' : Record} {fs : List Field} {lastId lastId' : Int64}
    (filled : fillFields row fs full lastId = .ok (full', lastId')) (c : String) :
    full'.get? c = full.get? c ∨ full'.get? c = some (row.getD c) ∨
      ∃ i, full'.get? c = some (.int i) := by
  induction fs generalizing full lastId with
  | nil =>
    cases filled
    exact .inl rfl
  | cons f fs ih =>
    have value := fill_value f (row.getD f.column) lastId
    rcases ih (fillFields_cons filled).2 with kept | rest
    · rw [Record.get?_set] at kept
      by_cases here : f.column = c
      · rw [if_pos here] at kept
        rw [here] at value kept
        rcases value with given | ⟨i, generated⟩
        · rw [given] at kept
          exact .inr (.inl kept)
        · rw [generated] at kept
          exact .inr (.inr ⟨i, kept⟩)
      · rw [if_neg here] at kept
        exact .inl kept
    · exact .inr rest

theorem get?_addMissing (row given : Record) (c : String) :
    (addMissing row given).get? c = (row.get? c).or (given.get? c) := by
  obtain ⟨entries⟩ := given
  unfold addMissing
  induction entries generalizing row with
  | nil => exact Option.or_none.symm
  | cons e es ih =>
    rw [List.foldl_cons, ih]
    have first : (⟨e :: es⟩ : Record).get? c = if e.1 = c then some e.2 else (⟨es⟩ : Record).get? c := by
      unfold Record.get?
      by_cases here : e.1 = c <;> simp [here]
    rw [first]
    split
    · rename_i present
      obtain ⟨v, found⟩ := find?_of_any_eq_true present
      split
      · rename_i here
        have held : row.get? c = some v := by rw [← here, Record.get?, found]; rfl
        rw [held]
        rfl
      · rfl
    · rename_i absent
      have missing : row.get? e.1 = none := by
        rw [Record.get?, Option.map_eq_none_iff, List.find?_eq_none]
        intro other member named
        exact absent (List.any_eq_true.mpr ⟨other, member, named⟩)
      rw [Record.get?_set]
      split
      · rename_i here
        rw [← here, missing]
        rfl
      · rfl

theorem getD_addMissing {row given : Record} {c : String} (held : (row.getD c).isNull = false) :
    (addMissing row given).getD c = row.getD c := by
  rw [Record.getD, get?_addMissing]
  cases there : row.get? c with
  | none =>
    rw [Record.getD, there] at held
    cases held
  | some v =>
    rw [Record.getD, there]
    rfl

section

variable {t : Table} {row full : Record} {rows fulls : List Record} {lastId lastId' : Int64}

theorem filled_of_newRow (made : t.newRow row lastId = .ok (full, lastId')) :
    ∃ filled, fillFields row t.fields .empty lastId = .ok (filled, lastId') ∧
      full = addMissing filled row := by
  obtain ⟨_, -, rest⟩ := exists_of_bind made
  obtain ⟨⟨filled, last⟩, done, same⟩ := exists_of_bind rest
  cases same
  exact ⟨filled, done, rfl⟩

theorem newRow_value (made : t.newRow row lastId = .ok (full, lastId')) (c : String) :
    full.getD c = row.getD c ∨ full.getD c = .null ∨ ∃ i, full.getD c = .int i := by
  obtain ⟨filled, done, rfl⟩ := filled_of_newRow made
  have value := fillFields_value done c
  rw [Record.getD, get?_addMissing]
  rcases value with none | given | ⟨i, generated⟩
  · left
    rw [none]
    rfl
  · left
    rw [given]
    rfl
  · right
    right
    exact ⟨i, by rw [generated]; rfl⟩

theorem newRows_cons (made : t.newRows (row :: rows) lastId = .ok (fulls, lastId')) :
    ∃ first next others, t.newRow row lastId = .ok (first, next) ∧
      t.newRows rows next = .ok (others, lastId') ∧ fulls = first :: others := by
  obtain ⟨⟨first, next⟩, one, rest⟩ := exists_of_bind made
  obtain ⟨⟨others, last⟩, done, same⟩ := exists_of_bind rest
  cases same
  exact ⟨first, next, others, one, done, rfl⟩

theorem newRow_of_newRows (made : t.newRows rows lastId = .ok (fulls, lastId')) :
    ∀ full ∈ fulls, ∃ row ∈ rows, ∃ before after, t.newRow row before = .ok (full, after) := by
  induction rows generalizing fulls lastId with
  | nil =>
    cases made
    exact nofun
  | cons row rows ih =>
    obtain ⟨first, next, others, one, done, rfl⟩ := newRows_cons made
    intro full member
    rcases List.mem_cons.mp member with rfl | member
    · exact ⟨row, List.mem_cons_self, lastId, next, one⟩
    · obtain ⟨given, inRows, before, after, each⟩ := ih done full member
      exact ⟨given, List.mem_cons_of_mem row inRows, before, after, each⟩

theorem length_newRows (made : t.newRows rows lastId = .ok (fulls, lastId')) :
    fulls.length = rows.length := by
  induction rows generalizing fulls lastId with
  | nil =>
    cases made
    rfl
  | cons row rows ih =>
    obtain ⟨first, next, others, -, done, rfl⟩ := newRows_cons made
    rw [List.length_cons, List.length_cons, ih done]

end

end EntityStore.Memory
