import EntityStore.Proofs.Memory.Known
import EntityStore.Proofs.Memory.Parallel
import EntityStore.Proofs.Memory.Shape

/-!
# Rows in the shape of their table

The rows of a table that was created with fields of distinct columns list the columns of the table,
in its order, whatever was written to it, added to it or rolled back since. What a table was created
with is told by a second run beside the first one, in which tables are only created and dropped.
-/

namespace EntityStore

namespace Record

variable {r : Record} {c : String} {pairs : List (String × Value)}

theorem columns_set_of_mem (known : c ∈ r.columns) (v : Value) : (r.set c v).columns = r.columns := by
  rw [columns_set, contains_eq_isSome, if_pos (mem_columns.mp known)]

theorem columns_set_of_notMem (new : c ∉ r.columns) (v : Value) :
    (r.set c v).columns = r.columns ++ [c] := by
  rw [columns_set, contains_eq_isSome, if_neg fun held => new (mem_columns.mpr held)]

theorem columns_setAll_of_mem (known : ∀ p ∈ pairs, p.1 ∈ r.columns) :
    (r.setAll pairs).columns = r.columns := by
  induction pairs generalizing r with
  | nil => rfl
  | cons p pairs ih =>
    obtain ⟨here, rest⟩ := List.forall_mem_cons.mp known
    have first := columns_set_of_mem here p.2
    rw [setAll, List.foldl_cons]
    exact (ih (first.symm ▸ rest)).trans first

end Record

namespace Memory

/-! ## Rows -/

theorem addMissing_eq_self {row given : Record} (known : ∀ c ∈ given.columns, c ∈ row.columns) :
    addMissing row given = row := by
  obtain ⟨entries⟩ := given
  unfold addMissing
  induction entries with
  | nil => rfl
  | cons e es ih =>
    obtain ⟨here, rest⟩ := List.forall_mem_cons.mp known
    have held : row.contains e.1 = true := by
      rw [Record.contains_eq_isSome]
      exact Record.mem_columns.mp here
    rw [List.foldl_cons, if_pos held]
    exact ih rest

/-- The fields of a new row are filled in one behind the other. -/
theorem columns_fillFields {row full full' : Record} {fs : List Field} {lastId lastId' : Int64}
    (filled : fillFields row fs full lastId = .ok (full', lastId'))
    (distinct : (full.columns ++ fs.map Field.column).Nodup) :
    full'.columns = full.columns ++ fs.map Field.column := by
  induction fs generalizing full lastId with
  | nil =>
    cases filled
    exact (List.append_nil _).symm
  | cons f fs ih =>
    have new : f.column ∉ full.columns := by
      intro member
      exact (List.nodup_append.mp distinct).2.2 _ member _ List.mem_cons_self rfl
    have first := Record.columns_set_of_notMem new (fill f (row.getD f.column) lastId).1
    have rest := ih (fillFields_cons filled).2
    rw [first, List.append_assoc] at rest
    exact rest distinct

namespace Table

/-- The columns of the fields, in their order. -/
def columns (t : Table) : List String := t.fields.map Field.column

theorem mem_columns {t : Table} {c : String} : c ∈ t.columns ↔ t.hasColumn c = true := by
  rw [hasColumn_iff, columns, List.mem_map]

/-! ## Even tables -/

/-- The table has fields with distinct columns, and every row lists these columns in their order. -/
structure Even (t : Table) : Prop where
  some : t.fields ≠ []
  distinct : t.columns.Nodup
  rows : ∀ row ∈ t.rows, row.columns = t.columns

theorem even_ofFields {fields : List Field} (some : fields ≠ [])
    (distinct : (ofFields fields).columns.Nodup) : (ofFields fields).Even :=
  ⟨some, distinct, List.forall_mem_nil _⟩

variable {t t' : Table} {name : String}

theorem Even.newRow (h : t.Even) {row full : Record} {lastId lastId' : Int64}
    (made : t.newRow row lastId = .ok (full, lastId')) : full.columns = t.columns := by
  obtain ⟨_, checked, -⟩ := exists_of_bind made
  obtain ⟨filled, done, rfl⟩ := filled_of_newRow made
  have own : filled.columns = t.columns := columns_fillFields done h.distinct
  rw [addMissing_eq_self]
  · exact own
  · intro c member
    rw [own]
    exact mem_columns.mpr (hasColumn_of_checkColumns h.some checked member)

theorem Even.insert (h : t.Even) {rows answers : List Record} {returning : List String}
    (done : t.insert name rows returning = .ok (t', answers)) : t'.Even := by
  obtain ⟨fulls, lastId, made, rfl⟩ := rows_of_insert done
  refine ⟨h.some, h.distinct, ?_⟩
  intro row member
  rcases List.mem_append.mp member with before | added
  · exact h.rows row before
  · obtain ⟨given, -, _, _, one⟩ := newRow_of_newRows made row added
    exact h.newRow one

theorem Even.update (h : t.Even) {changes : Record} {filters : List Predicate} {n : UInt64}
    (done : t.update name changes filters = .ok (t', n)) : t'.Even := by
  obtain ⟨_, checked, -⟩ := exists_of_bind done
  obtain ⟨_, -, -, rfl⟩ := rows_of_update done
  refine ⟨h.some, h.distinct, ?_⟩
  intro row' member
  obtain ⟨row, inRows, changed⟩ := (mem_rows_update done).mp member
  have before : row.columns = t.columns := h.rows row inRows
  rcases changed with ⟨-, rfl⟩ | ⟨-, rfl⟩
  · rw [Record.columns_setAll_of_mem]
    · exact before
    · intro p inChanges
      rw [before]
      exact mem_columns.mpr
        (hasColumn_of_checkColumns h.some checked (List.mem_map_of_mem inChanges))
  · exact before

theorem Even.delete (h : t.Even) {filters : List Predicate} {n : UInt64}
    (done : t.delete filters = .ok (t', n)) : t'.Even := by
  obtain ⟨_, -, -, rfl⟩ := rows_of_delete done
  refine ⟨h.some, h.distinct, ?_⟩
  intro row member
  exact h.rows row (mem_rows_of_delete done member)

theorem Even.addField (h : t.Even) (f : Field) : (t.addField f).Even := by
  cases has : t.hasColumn f.column with
  | true => rwa [addField_of_hasColumn has]
  | false =>
    have new : f.column ∉ t.columns := fun member =>
      Bool.eq_false_iff.mp has (mem_columns.mp member)
    have columns : (t.fields ++ [f]).map Field.column = t.columns ++ [f.column] := List.map_append
    rw [addField_of_new has]
    refine ⟨List.append_ne_nil_of_left_ne_nil h.some _, ?_, ?_⟩
    · change ((t.fields ++ [f]).map Field.column).Nodup
      rw [columns]
      exact List.nodup_append_comm.mpr (List.nodup_cons.mpr ⟨new, h.distinct⟩)
    · intro row' member
      obtain ⟨row, inRows, rfl⟩ := List.mem_map.mp member
      have before : row.columns = t.columns := h.rows row inRows
      rw [Record.columns_set_of_notMem (before ▸ new), before]
      exact columns.symm

theorem Even.addFields (h : t.Even) (fields : List Field) : (t.addFields fields).Even := by
  induction fields generalizing t with
  | nil => exact h
  | cons f fields ih => exact ih (h.addField f)

/-! ## What a table was created with -/

/-- The table has come from one that was created with some fields and no rows. -/
structure DescendsFrom (t created : Table) : Prop where
  laid : created = .ofFields created.fields
  fields : created.fields <+: t.fields
  even : created.fields ≠ [] → created.columns.Nodup → t.Even

variable {created : Table}

theorem descendsFrom_ofFields (fields : List Field) : (ofFields fields).DescendsFrom (ofFields fields) :=
  ⟨rfl, List.prefix_rfl, even_ofFields⟩

theorem DescendsFrom.change (h : t.DescendsFrom created) (fields : t.fields <+: t'.fields)
    (kept : t.Even → t'.Even) : t'.DescendsFrom created :=
  ⟨h.laid, h.fields.trans fields, fun some distinct => kept (h.even some distinct)⟩

theorem DescendsFrom.addFields (h : t.DescendsFrom created) (fields : List Field) :
    (t.addFields fields).DescendsFrom created := by
  refine h.change ?_ fun even => even.addFields fields
  rw [addFields_eq]
  exact List.prefix_append _ _

end Table

end Memory

/-- What is left of the request where tables are only created and dropped. -/
def Request.laying {α : Type} : Request α → Request Unit
  | .createTable schema | .migrateTable schema => .createTable schema
  | .dropTable name => .dropTable name
  | _ => .ping

/-- The steps with only the creations and removals of tables left of their requests. -/
def Step.laying : List Step → List Step := List.map (Step.replace Request.laying)

namespace Memory

namespace Tables

/-- There are tables under the same names, and they are in a relation. -/
def Related (Q : Table → Table → Prop) (ts us : Tables) : Prop :=
  ∀ name, Option.Rel Q (ts.get? name) (us.get? name)

section

variable {Q : Table → Table → Prop} {ts us : Tables} {name : String} {t u : Table}

theorem related_empty : empty.Related Q empty := fun _ => .none

theorem Related.contains (h : ts.Related Q us) (name : String) :
    us.contains name = ts.contains name := by
  have both := h name
  rw [contains_eq_isSome, contains_eq_isSome]
  generalize ts.get? name = t at both ⊢
  generalize us.get? name = u at both ⊢
  cases both <;> rfl

theorem Related.set (h : ts.Related Q us) (name : String) (both : Q t u) :
    (ts.set name t).Related Q (us.set name u) := by
  intro other
  rw [get?_set, get?_set]
  split
  · exact .some both
  · exact h other

theorem Related.set_left (h : ts.Related Q us) (found : us.get? name = some u) (both : Q t u) :
    (ts.set name t).Related Q us := by
  intro other
  rw [get?_set]
  split
  · rename_i same
    rw [← same, found]
    exact .some both
  · exact h other

theorem Related.erase (h : ts.Related Q us) (name : String) :
    (ts.erase name).Related Q (us.erase name) := by
  intro other
  rw [get?_erase, get?_erase]
  split
  · exact .none
  · exact h other

end

variable {ts us ts' : Tables}

/-- An answered request of which nothing is left when only creations and removals are changes at most
one table, and this table still descends from the same one. -/
theorem Change.edit {α : Type} {r : Request α} {x : α} (change : ts.Change r x ts')
    (silent : r.laying = .ping) :
    ts' = ts ∨ ∃ name t t', ts.get? name = some t ∧ ts' = ts.set name t' ∧
      ∀ created, t.DescendsFrom created → t'.DescendsFrom created := by
  cases change with
  | read => exact .inl rfl
  | inserted found done =>
    refine .inr ⟨_, _, _, found, rfl, fun created h => h.change ?_ fun even => even.insert done⟩
    obtain ⟨_, _, -, rfl⟩ := rows_of_insert done
    exact List.prefix_rfl
  | updated found done =>
    refine .inr ⟨_, _, _, found, rfl, fun created h => h.change ?_ fun even => even.update done⟩
    obtain ⟨_, -, -, rfl⟩ := rows_of_update done
    exact List.prefix_rfl
  | deleted found done =>
    refine .inr ⟨_, _, _, found, rfl, fun created h => h.change ?_ fun even => even.delete done⟩
    obtain ⟨_, -, -, rfl⟩ := rows_of_delete done
    exact List.prefix_rfl
  | indexed found done =>
    obtain ⟨rfl, -⟩ := Table.addIndex_eq_ok done
    refine .inr ⟨_, _, _, found, rfl, fun created h => h.change List.prefix_rfl fun even => ?_⟩
    exact ⟨even.some, even.distinct, even.rows⟩
  | unindexed found =>
    refine .inr ⟨_, _, _, found, rfl, fun created h => h.change List.prefix_rfl fun even => ?_⟩
    exact ⟨even.some, even.distinct, even.rows⟩
  | created | dropped | laid | extended => cases silent

theorem left_createTable (ts : Tables) (schema : TableSchema) :
    ts.left (.createTable schema) = if ts.contains schema.name then ts
      else ts.set schema.name (.ofFields schema.fields) := by
  cases taken : ts.contains schema.name with
  | true => exact left_of_error (by rw [answer, create, if_pos taken]; rfl)
  | false =>
    have absent : ¬ts.contains schema.name = true := Bool.eq_false_iff.mp taken
    exact left_of_ok (x := ()) (by rw [answer, create, if_neg absent]; rfl)

theorem Related.left {α : Type} (h : ts.Related Table.DescendsFrom us) (r : Request α) :
    (ts.left r).Related Table.DescendsFrom (us.left r.laying) := by
  have edit (silent : r.laying = .ping) : (ts.left r).Related Table.DescendsFrom us := by
    cases answered : ts.answer r with
    | error e => rwa [left_of_error answered]
    | ok found =>
      rw [left_of_ok answered]
      rcases (change_answer answered).edit silent with same | ⟨name, t, t', there, same, kept⟩
      · rwa [same]
      · obtain ⟨created, there', descends⟩ := exists_of_rel (h name) there
        rw [same]
        exact h.set_left there' (kept created descends)
  cases r with
  | createTable schema =>
    rw [Request.laying, left_createTable, left_createTable, h.contains]
    split
    · exact h
    · exact h.set schema.name (Table.descendsFrom_ofFields schema.fields)
  | migrateTable schema =>
    have whole : ts.left (.migrateTable schema) = ts.migrate schema := left_of_ok (x := ()) rfl
    rw [Request.laying, whole, left_createTable, h.contains, contains_eq_isSome, migrate]
    cases found : ts.get? schema.name with
    | none => exact h.set schema.name (Table.descendsFrom_ofFields schema.fields)
    | some t =>
      obtain ⟨created, found', descends⟩ := exists_of_rel (h schema.name) found
      exact h.set_left found' (descends.addFields schema.fields)
  | dropTable name => exact h.erase name
  | _ => exact edit rfl

end Tables

/-! ## Reading even tables -/

/-- Where it is named as a column of the table, a column is known in every row: what does not come
to a value is not supported, and an order that has values in the first row has values in all. -/
structure Table.Legible (t : Table) : Prop where
  value : ∀ row ∈ t.rows, ∀ i : Ident, i.name ∈ t.columns → ∃ v, columnValue row (.column i) = .ok v
  filter : ∀ filters, Predicate.AllWithin t.columns filters →
    ∀ row ∈ t.rows, Supported (satisfiesAll row filters)
  order : ∀ orders rows, (∀ row ∈ rows, row ∈ t.rows) → checkOrders rows orders = .ok () →
    ∀ row ∈ rows, ∀ o ∈ orders, ∃ v, columnValue row o.column = .ok v
  projection : ∀ projection : List ColumnExpr, (∀ c ∈ projection, c.Within t.columns) →
    ∀ row ∈ t.rows, Supported (projectRow projection row)
  query : ∀ q : Compiled, q.Within t.columns → Supported (runQuery q t.rows)

theorem Table.Even.legible {t : Table} (h : t.Even) : t.Legible where
  value row member i named :=
    exists_columnValue.mpr ⟨i, rfl, (h.rows row member).symm ▸ named⟩
  filter filters within row member :=
    supported_satisfiesAll filters ((h.rows row member).symm ▸ within)
  order _ _ stored checked :=
    exists_value_of_checkOrders (fun row member => h.rows row (stored row member)) checked
  projection _ within row member :=
    supported_projectRow ((h.rows row member).symm ▸ within)
  query _ within := supported_runQuery h.rows within

/-! ## All states -/

/-- Some of the steps asks for a table of that name with these fields. -/
def Lays (steps : List Step) (name : String) (fields : List Field) : Prop :=
  ∃ scope, .ask scope (.createTable ⟨name, fields⟩) ∈ steps ∨
    .ask scope (.migrateTable ⟨name, fields⟩) ∈ steps

/-- Every table has the fields that some of the steps asks for under its name. -/
def Laid (steps : List Step) (ts : Tables) : Prop :=
  ∀ name t, ts.get? name = some t → Lays steps name t.fields

theorem Laid.create {steps : List Step} {ts ts' : Tables} {schema : TableSchema}
    (h : Laid steps ts) (lays : Lays steps schema.name schema.fields)
    (made : ts.create schema = .ok ts') : Laid steps ts' := by
  obtain ⟨-, rfl⟩ := Tables.create_eq_ok made
  intro name t found
  rw [Tables.get?_set] at found
  split at found
  · rename_i here
    cases found
    exact here ▸ lays
  · exact h name t found

theorem Laid.erase {steps : List Step} {ts : Tables} (h : Laid steps ts) (name : String) :
    Laid steps (ts.erase name) := by
  intro other t found
  rw [Tables.get?_erase] at found
  split at found
  · cases found
  · exact h other t found

theorem holds_laid (steps : List Step) :
    (Step.after (∅ : Store) (Step.laying steps)).Holds (Laid steps) := by
  refine Step.after_induction (P := (· ∈ Step.laying steps)) ?_ (fun _ => id)
    (Store.holds_empty nofun)
  intro s st member h
  refine h.next nofun ?_
  intro α scope r ts ts' x same before answered
  obtain ⟨source, inSteps, rfl⟩ := List.mem_map.mp member
  cases source with
  | begin options | steer id c | abandon id => cases same
  | ask scope' r' =>
    cases same
    cases r' with
    | createTable schema =>
      obtain ⟨_, made, same⟩ := exists_of_map answered
      cases same
      exact before.create ⟨scope, .inl inSteps⟩ made
    | migrateTable schema =>
      obtain ⟨_, made, same⟩ := exists_of_map answered
      cases same
      exact before.create ⟨scope, .inr inSteps⟩ made
    | dropTable name =>
      cases answered
      exact before.erase name
    | _ =>
      cases answered
      exact before

/-- In every state that any steps lead to, every table, be it committed, worked on in a transaction
or kept by a savepoint, was created with some fields: with those that the table of this name and
place has where the steps do nothing but create and drop tables. If there were any and their columns
were distinct, every row lists the columns of the table in their order, and whatever names only
these columns finds them in every row. -/
theorem rows_keep_shape (steps : List Step) {place : Store.Place} {ts : Tables} {name : String}
    {t : Table} (kept : (Step.after (∅ : Store) steps).tablesAt? place = some ts)
    (found : ts.get? name = some t) :
    ∃ laid fields, (Step.after (∅ : Store) (Step.laying steps)).tablesAt? place = some laid ∧
      laid.get? name = some (.ofFields fields) ∧ Lays steps name fields ∧ fields <+: t.fields ∧
      (fields ≠ [] → (fields.map Field.column).Nodup → t.Even ∧ t.Legible) := by
  have related : (Step.after (∅ : Store) steps).Related (Tables.Related Table.DescendsFrom)
      (Step.after ∅ (Step.laying steps)) :=
    (Store.related_empty Tables.related_empty).after Tables.related_empty
      (fun r ts us both => both.left r) steps
  obtain ⟨laid, there, both⟩ := exists_of_rel (related.tablesAt? place) kept
  obtain ⟨created, found', descends⟩ := exists_of_rel (both name) found
  have lays := (holds_laid steps).tablesAt? there name created found'
  refine ⟨laid, created.fields, there, descends.laid ▸ found', lays, descends.fields, ?_⟩
  intro some distinct
  have even := descends.even some distinct
  exact ⟨even, even.legible⟩

/-- In a transaction a column is added to a table, but not to what its savepoint keeps. -/
theorem titles_keep_shape :
    let s : Store := Step.after ∅ [
      .ask .direct (.createTable ⟨"titles", [.ofType "id" .bigInt, .ofType "title" .text]⟩),
      .ask .direct (.insert "titles" [⟨[("title", .text "x"), ("id", .int 1)]⟩] []),
      .begin {}, .steer 0 (.savepoint "before"),
      .ask (.tx 0) (.migrateTable ⟨"titles", [.ofType "note" .text]⟩)]
    (∃ ts t, s.tablesAt? (.working 0) = some ts ∧ ts.get? "titles" = some t ∧
      t.rows.map Record.columns = [["id", "title", "note"]] ∧ t.Even ∧ t.Legible) ∧
    ∃ ts t, s.tablesAt? (.savepoint 0 0) = some ts ∧ ts.get? "titles" = some t ∧
      t.rows.map Record.columns = [["id", "title"]] ∧ t.Even ∧ t.Legible := by
  intro s
  constructor
  · refine ⟨_, _, rfl, rfl, rfl, ?_⟩
    obtain ⟨laid, fields, there, created, -, -, shaped⟩ := rows_keep_shape _
      (show s.tablesAt? (.working 0) = some _ from rfl)
      (show Tables.get? _ "titles" = some _ from rfl)
    cases there
    cases created
    exact shaped (by decide) (by decide)
  · refine ⟨_, _, rfl, rfl, rfl, ?_⟩
    obtain ⟨laid, fields, there, created, -, -, shaped⟩ := rows_keep_shape _
      (show s.tablesAt? (.savepoint 0 0) = some _ from rfl)
      (show Tables.get? _ "titles" = some _ from rfl)
    cases there
    cases created
    exact shaped (by decide) (by decide)

end Memory

end EntityStore
