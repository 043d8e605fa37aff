import EntityStore.Entity.Layout
import EntityStore.Proofs.Memory.Step
import EntityStore.Proofs.Memory.Table

/-!
# Required columns

A column whose field is not nullable is required. An insert refuses a row without a value there,
but the other writes do not look: an update may set a required column to null, and a migration
may add one to a table that has rows. As long as neither is done every required column of every
table is filled, in whatever state the store is.
-/

namespace EntityStore

/-- Fields of one column agree on whether it may be null. -/
def Coherent (fields : List Field) : Prop :=
  ∀ f ∈ fields, ∀ g ∈ fields, f.column = g.column → f.nullable = g.nullable

/-- A table that the request lays out has coherent fields. -/
def Request.Coherent {α : Type} : Request α → Prop
  | .createTable schema | .migrateTable schema => EntityStore.Coherent schema.fields
  | _ => True

namespace Memory

/-- The required columns of a table have a value in every row. -/
structure Table.Filled (t : Table) : Prop where
  coherent : Coherent t.fields
  filled : ∀ f ∈ t.fields, f.nullable = false → ∀ row ∈ t.rows, (row.getD f.column).isNull = false

/-- An update sets a required column to null in some row. -/
def Table.Clears (t : Table) (changes : Record) (filters : List Predicate) : Prop :=
  (∃ f ∈ t.fields, f.nullable = false ∧
      (Record.ofPairs changes.entries).get? f.column = some .null) ∧
    ∃ row ∈ t.rows, satisfiesAll row filters = .ok true

/-- A migration adds a required column to rows. -/
def Table.Outgrown (t : Table) (fields : List Field) : Prop :=
  t.rows ≠ [] ∧ ∃ f ∈ fields, f.nullable = false ∧ t.hasColumn f.column = false

/-- The request puts a null into a required column. -/
def Tables.Voids (ts : Tables) {α : Type} : Request α → Prop
  | .update name changes filters => ∃ t, ts.get? name = some t ∧ t.Clears changes filters
  | .migrateTable schema => ∃ t, ts.get? schema.name = some t ∧ t.Outgrown schema.fields
  | _ => False

/-- A step that is answered and puts no null into a required column. -/
def Store.Spares (s : Store) : Step → Prop
  | .ask scope r => r.Coherent ∧ ∀ ts ts' x, s.tablesOf scope = .ok ts →
      ts.answer r = .ok (x, ts') → ¬ts.Voids r
  | _ => True

/-! ## Rows -/

/-- A new row has a value in a column whose fields are required. -/
theorem fillFields_filled {row full full' : Record} {fs : List Field} {lastId lastId' : Int64}
    {c : String} (filled : fillFields row fs full lastId = .ok (full', lastId'))
    (required : ∀ f ∈ fs, f.column = c → f.nullable = false)
    (held : (∃ f ∈ fs, f.column = c) ∨ (full.getD c).isNull = false) :
    (full'.getD c).isNull = false := by
  induction fs generalizing full lastId with
  | nil =>
    cases filled
    rcases held with ⟨f, member, -⟩ | value
    · cases member
    · exact value
  | cons f fs ih =>
    obtain ⟨accepted, rest⟩ := fillFields_cons filled
    apply ih rest
    · intro g member
      exact required g (List.mem_cons_of_mem f member)
    · by_cases here : f.column = c
      · right
        rw [← here, Record.getD_set_self]
        exact accepted (required f List.mem_cons_self here)
      · rw [Record.getD_set_of_ne here]
        rcases held with ⟨g, member, named⟩ | value
        · left
          rcases List.mem_cons.mp member with rfl | member
          · exact absurd named here
          · exact ⟨g, member, named⟩
        · exact .inr value

theorem newRow_filled {t : Table} {row full : Record} {lastId lastId' : Int64}
    (coherent : Coherent t.fields) (made : t.newRow row lastId = .ok (full, lastId')) {f : Field}
    (member : f ∈ t.fields) (required : f.nullable = false) :
    (full.getD f.column).isNull = false := by
  obtain ⟨filled, done, rfl⟩ := filled_of_newRow made
  have value : (filled.getD f.column).isNull = false := by
    apply fillFields_filled done
    · intro g inFields named
      rw [coherent g inFields f member named]
      exact required
    · exact .inl ⟨f, member, rfl⟩
  rw [getD_addMissing value]
  exact value

/-! ## Tables -/

namespace Table

variable {t t' : Table} {name : String}

theorem filled_ofFields {fields : List Field} (coherent : Coherent fields) :
    (ofFields fields).Filled where
  coherent := coherent
  filled := fun _ _ _ _ member => nomatch member

theorem Filled.insert (h : t.Filled) {rows answers : List Record} {returning : List String}
    (done : t.insert name rows returning = .ok (t', answers)) : t'.Filled := by
  obtain ⟨fulls, lastId, made, rfl⟩ := rows_of_insert done
  refine ⟨h.coherent, ?_⟩
  intro f inFields required row member
  rcases List.mem_append.mp member with before | added
  · exact h.filled f inFields required row before
  · obtain ⟨_, _, _, _, one⟩ := newRow_of_newRows made row added
    exact newRow_filled h.coherent one inFields required

theorem Filled.delete (h : t.Filled) {filters : List Predicate} {n : UInt64}
    (done : t.delete filters = .ok (t', n)) : t'.Filled := by
  have fields : t'.fields = t.fields := by
    obtain ⟨_, -, -, rfl⟩ := rows_of_delete done
    rfl
  refine ⟨fields ▸ h.coherent, ?_⟩
  intro f inFields required row member
  rw [fields] at inFields
  exact h.filled f inFields required row (mem_rows_of_delete done member)

theorem Filled.update_iff (h : t.Filled) {changes : Record} {filters : List Predicate} {n : UInt64}
    (done : t.update name changes filters = .ok (t', n)) :
    t'.Filled ↔ ¬t.Clears changes filters := by
  have fields : t'.fields = t.fields := by
    obtain ⟨_, -, -, rfl⟩ := rows_of_update done
    rfl
  constructor
  · rintro after ⟨⟨f, inFields, required, cleared⟩, row, inRows, hit⟩
    have member : row.setAll changes.entries ∈ t'.rows :=
      (mem_rows_update done).mpr ⟨row, inRows, .inl ⟨hit, rfl⟩⟩
    have value := after.filled f (fields ▸ inFields) required _ member
    rw [Record.getD_setAll, cleared] at value
    cases value
  · intro spared
    refine ⟨fields ▸ h.coherent, ?_⟩
    intro f inFields required row' member
    rw [fields] at inFields
    obtain ⟨row, inRows, ⟨hit, rfl⟩ | ⟨-, rfl⟩⟩ := (mem_rows_update done).mp member
    · rw [Record.getD_setAll]
      cases given : (Record.ofPairs changes.entries).get? f.column with
      | none => exact h.filled f inFields required row inRows
      | some v =>
        cases v with
        | null => exact absurd ⟨⟨f, inFields, required, given⟩, row, inRows, hit⟩ spared
        | _ => rfl
    · exact h.filled f inFields required row' inRows

theorem coherent_addFields {fields : List Field} (before : Coherent t.fields)
    (added : Coherent fields) : Coherent (t.addFields fields).fields := by
  intro f inF g inG same
  -- a column that was added is none that the table had
  rcases mem_fields_addFields inF with oldF | ⟨newF, freshF⟩
  · rcases mem_fields_addFields inG with oldG | ⟨-, freshG⟩
    · exact before f oldF g oldG same
    · rw [← same, hasColumn_of_mem oldF] at freshG
      cases freshG
  · rcases mem_fields_addFields inG with oldG | ⟨newG, -⟩
    · rw [same, hasColumn_of_mem oldG] at freshF
      cases freshF
    · exact added f newF g newG same

theorem Filled.addFields_iff (h : t.Filled) {fields : List Field} (coherent : Coherent fields) :
    (t.addFields fields).Filled ↔ ¬t.Outgrown fields := by
  constructor
  · rintro after ⟨some, f, inFields, required, fresh⟩
    have named : fields.any (·.column = f.column) = true :=
      List.any_eq_true.mpr ⟨f, inFields, decide_eq_true rfl⟩
    have there : (t.addFields fields).hasColumn f.column = true := by
      rw [hasColumn_addFields, named, Bool.or_true]
    obtain ⟨g, inAll, column⟩ := hasColumn_iff.mp there
    rcases mem_fields_addFields inAll with old | ⟨new, -⟩
    · rw [← column, hasColumn_of_mem old] at fresh
      cases fresh
    · have needed : g.nullable = false := (coherent g new f inFields column).trans required
      obtain ⟨row', member⟩ : ∃ row', row' ∈ (t.addFields fields).rows := by
        apply List.exists_mem_of_length_pos
        rw [length_rows_addFields]
        exact List.length_pos_iff.mpr some
      obtain ⟨row, -, value⟩ := getD_of_addFields member
      have filled := after.filled g inAll needed row' member
      rw [column, value, fresh, named] at filled
      cases filled
  · intro spared
    refine ⟨coherent_addFields h.coherent coherent, ?_⟩
    intro f inAll required row' member
    obtain ⟨row, inRows, value⟩ := getD_of_addFields member
    rcases mem_fields_addFields inAll with old | ⟨new, fresh⟩
    · rw [value, hasColumn_of_mem old]
      exact h.filled f old required row inRows
    · exact absurd ⟨List.ne_nil_of_mem inRows, f, new, required, fresh⟩ spared

end Table

/-! ## Stores -/

namespace Tables

variable {ts ts' : Tables} {α : Type} {r : Request α} {x : α}

theorem Each.filled_of_spared (h : ts.Each Table.Filled) (coherent : r.Coherent)
    (answered : ts.answer r = .ok (x, ts')) (spared : ¬ts.Voids r) : ts'.Each Table.Filled := by
  have change := change_answer answered
  cases change with
  | read => exact h
  | inserted found done => exact h.set_iff.mpr ((h _ _ found).insert done)
  | updated found done =>
    refine h.set_iff.mpr (((h _ _ found).update_iff done).mpr ?_)
    exact fun clears => spared ⟨_, found, clears⟩
  | deleted found done => exact h.set_iff.mpr ((h _ _ found).delete done)
  | created absent | laid absent => exact h.set_iff.mpr (Table.filled_ofFields coherent)
  | dropped => exact h.erase _
  | extended found =>
    refine h.set_iff.mpr (((h _ _ found).addFields_iff coherent).mpr ?_)
    exact fun outgrown => spared ⟨_, found, outgrown⟩
  | indexed found done =>
    obtain ⟨rfl, -⟩ := Table.addIndex_eq_ok done
    obtain ⟨coherent, filled⟩ := h _ _ found
    exact h.set_iff.mpr ⟨coherent, filled⟩
  | unindexed found =>
    obtain ⟨coherent, filled⟩ := h _ _ found
    exact h.set_iff.mpr ⟨coherent, filled⟩

/-- The request keeps required columns filled exactly if it puts no null into one. -/
theorem Each.filled_iff (h : ts.Each Table.Filled) (coherent : r.Coherent)
    (answered : ts.answer r = .ok (x, ts')) : ts'.Each Table.Filled ↔ ¬ts.Voids r := by
  refine ⟨?_, h.filled_of_spared coherent answered⟩
  intro after voids
  cases r with
  | update name changes filters =>
    obtain ⟨t, found, clears⟩ := voids
    obtain ⟨u, t', there, done, rfl⟩ := update_of_answer answered
    rw [found] at there
    cases there
    exact ((h _ _ found).update_iff done).mp (h.set_iff.mp after) clears
  | migrateTable schema =>
    obtain ⟨t, found, outgrown⟩ := voids
    cases answered
    rw [migrate, found] at after
    exact ((h _ _ found).addFields_iff coherent).mp (h.set_iff.mp after) outgrown
  | _ => exact voids

end Tables

theorem Store.Holds.filled_along {s : Store} (h : s.Holds (Tables.Each Table.Filled))
    {steps : List Step} (along : Step.Along Store.Spares s steps) :
    (Step.after s steps).Holds (Tables.Each Table.Filled) := by
  refine along.induction ?_ h
  intro s st spares filled
  refine filled.next_of_scope Tables.each_empty ?_
  rintro α scope r ts ts' x rfl tables before answered
  obtain ⟨coherent, spared⟩ := spares
  exact before.filled_of_spared coherent answered (spared ts ts' x tables answered)

/-- The key columns of an entity are required. -/
theorem key_not_nullable {l : Layout} {f : Field} (member : f ∈ l.info.fields)
    (key : f.primaryKey = true) : f.nullable = false := by
  obtain ⟨c, -, rfl⟩ := List.mem_map.mp member
  have primary : c.primaryKey = true := key
  rw [ColumnSpec.field, primary]
  rfl

/-- In a state that steps lead to which put no null into a required column, the required columns
are filled in the committed tables, in the working tables of every transaction and in the tables
of every savepoint. A request that is answered there keeps them filled unless it is an update that
sets a required column to null on some row or a migration that adds one to a table with rows; then
it does not. The key columns of an entity are among the required columns. -/
theorem required_columns_filled {steps : List Step}
    (along : Step.Along Store.Spares (∅ : Store) steps) :
    let s : Store := Step.after ∅ steps
    s.Holds (Tables.Each Table.Filled) ∧
      (∀ {α : Type} (scope : Scope) (r : Request α) (ts ts' : Tables) (x : α),
        s.tablesOf scope = .ok ts → r.Coherent → ts.answer r = .ok (x, ts') →
          ((Step.next s (.ask scope r)).Holds (Tables.Each Table.Filled) ↔ ¬ts.Voids r)) ∧
      ∀ l : Layout, ∀ f ∈ l.info.fields, f.primaryKey = true → f.nullable = false := by
  intro s
  have filled : s.Holds (Tables.Each Table.Filled) :=
    (Store.holds_empty Tables.each_empty).filled_along along
  refine ⟨filled, ?_, ?_⟩
  · intro α scope r ts ts' x tables coherent answered
    rw [filled.next_iff Tables.each_empty tables answered]
    exact (filled.tablesOf tables).filled_iff coherent answered
  · intro l f member key
    exact key_not_nullable member key

/-- A table of people with a generated key and an address that is required. -/
def people : TableSchema :=
  ⟨"people", [{ (Field.ofType "id" .bigInt).asPrimaryKey with autoIncrement := true },
    { Field.ofType "email" .text with unique := true }]⟩

def enroll (email : String) : Request (List Record) :=
  .insert "people" [.ofPairs [("email", .text email)]] ["id"]

/-- An address that is replaced is there afterwards; one that is cleared is not. -/
theorem address_replaced_or_cleared :
    let replace : Request UInt64 := .update "people" (.ofPairs [("email", .text "bob")]) []
    let clear : Request UInt64 := .update "people" (.ofPairs [("email", .null)]) []
    let s : Store := Step.after ∅
      [.ask .direct (.createTable people), .ask .direct (enroll "ann"), .ask .direct replace]
    s.Holds (Tables.Each Table.Filled) ∧
      ¬(Step.next s (.ask .direct clear)).Holds (Tables.Each Table.Filled) := by
  intro replace clear s
  have coherent : Coherent people.fields := by
    unfold Coherent
    decide
  have along : Step.Along Store.Spares (∅ : Store)
      [.ask .direct (.createTable people), .ask .direct (enroll "ann"), .ask .direct replace] := by
    refine ⟨⟨coherent, fun _ _ _ _ _ => id⟩, ⟨trivial, fun _ _ _ _ _ => id⟩, ⟨trivial, ?_⟩, trivial⟩
    rintro ts ts' x tables - ⟨t, found, ⟨f, inFields, -, cleared⟩, -⟩
    cases tables
    cases found
    rcases List.mem_cons.mp inFields with rfl | inFields
    · cases cleared
    · cases List.mem_singleton.mp inFields
      cases cleared
  obtain ⟨filled, kept, -⟩ := required_columns_filled along
  obtain ⟨ts, answered⟩ : ∃ ts, s.tables.answer clear = .ok (1, ts) := ⟨_, rfl⟩
  refine ⟨filled, (kept .direct clear s.tables ts 1 rfl trivial answered).not.mpr ?_⟩
  exact not_not_intro ⟨_, rfl, ⟨_, List.mem_cons_of_mem _ List.mem_cons_self, rfl, rfl⟩, _,
    List.mem_cons_self, rfl⟩

/-- A row has no value in a column that is not nullable. -/
theorem required_column_cleared :
    let s : Store := Step.after ∅ [.ask .direct (.createTable people), .ask .direct (enroll "ann"),
      .ask .direct (.update "people" (.ofPairs [("email", .null)]) [])]
    ∃ t, s.tables.get? "people" = some t ∧ ∃ f ∈ t.fields, f.nullable = false ∧
      ∃ row ∈ t.rows, row.getD f.column = .null :=
  ⟨_, rfl, _, List.mem_cons_of_mem _ List.mem_cons_self, rfl, _, List.mem_cons_self, rfl⟩

end Memory

end EntityStore
