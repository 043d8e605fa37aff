import EntityStore.Declaration.Blueprint
import EntityStore.Proofs.Layout

/-!
# Entities of declarations

A declared field is a relation, is skipped, or is persisted in a column: the one that its attributes
name, else one of its own name. The columns of an accepted declaration are those of its persisted
fields, in their order, and the entities are read from the rows that are written for them if no two
persisted fields share a column, and only then.
-/

namespace EntityStore

namespace Declaration

/-- The name and the column of a field that is persisted. -/
def Field.persisted? (f : Field) : Option (String × String) :=
  match FieldAttributes.read f.attributes, fieldName f with
  | .ok a, .ok name =>
    if a.relation.isSome || a.skip then none else some (name, a.column.getD name)
  | _, _ => none

/-- The names and the columns of the fields that are persisted. -/
def persisted (d : Declaration) : List (String × String) := d.fields.filterMap Field.persisted?

/-! ## The columns of a declaration -/

/-- A field and the column for it. -/
def fieldAndColumn (c : ColumnSpec) : String × String := (c.name, c.column)

theorem fieldAndColumn_of_columnOf {f : Field} {type : TypeExpr} {a : FieldAttributes} {c : ColumnSpec}
    (made : columnOf f type a = .ok c) : fieldAndColumn c = (f.name, a.column.getD f.name) := by
  rw [columnOf] at made
  split at made
  · cases made
  · cases made
    rfl

/-- A field adds a column if it is persisted. -/
theorem columns_of_addField {f : Field} {named : Field × TypeExpr} {b b' : Blueprint}
    (read : readField f = .ok named) (added : addField b named = .ok b') :
    b'.columns.map fieldAndColumn = b.columns.map fieldAndColumn ++ f.persisted?.toList := by
  obtain ⟨name, spelled, read⟩ := exists_of_bind read
  obtain ⟨type, -, read⟩ := exists_of_bind read
  cases read
  obtain ⟨a, attributes, added⟩ := exists_of_bind added
  have attributes : FieldAttributes.read f.attributes = .ok a := attributes
  rw [Field.persisted?, attributes, spelled]
  dsimp only at added ⊢
  split at added
  · rename_i r relation
    obtain ⟨target, -, added⟩ := exists_of_bind added
    cases added
    simp [relation]
  · rename_i relation
    split at added
    · rename_i skip
      cases added
      simp [skip]
    · rename_i kept
      obtain ⟨c, made, added⟩ := exists_of_bind added
      cases added
      simp [relation, kept, fieldAndColumn_of_columnOf made]

theorem columns_of_foldlM {fields : List Field} {named : List (Field × TypeExpr)} {b b' : Blueprint}
    (read : List.Forall₂ (fun f n => readField f = .ok n) fields named)
    (added : named.foldlM addField b = .ok b') :
    b'.columns.map fieldAndColumn = b.columns.map fieldAndColumn ++ fields.filterMap Field.persisted? := by
  induction read generalizing b with
  | nil =>
    cases added
    simp
  | @cons f n fields named here _ ih =>
    obtain ⟨next, first, rest⟩ := exists_of_bind added
    rw [ih rest, columns_of_addField here first, List.append_assoc]
    cases role : f.persisted? with
    | none => rw [List.filterMap_cons_none role, Option.toList_none, List.nil_append]
    | some pair => rw [List.filterMap_cons_some role, Option.toList_some, List.singleton_append]

theorem map_markKey (cs : List ColumnSpec) : (markKey cs).map fieldAndColumn = cs.map fieldAndColumn := by
  induction cs with
  | nil => rfl
  | cons c cs ih =>
    rw [markKey]
    split
    · rfl
    · rw [List.map_cons, ih, List.map_cons]

theorem map_keyed (cs : List ColumnSpec) : (keyed cs).map fieldAndColumn = cs.map fieldAndColumn := by
  rw [keyed]
  split
  · rfl
  · exact map_markKey cs

/-- An accepted declaration is a record, its fields were read and added one after the other. -/
theorem exists_of_blueprint {d : Declaration} {b : Blueprint} (accepted : d.blueprint = .ok b) :
    ∃ (name table : String) (hooks : List HookPoint) (named : List (Field × TypeExpr)) (added : Blueprint),
      d.fields.mapM readField = .ok named ∧
      named.foldlM addField { name := name, table := table, hooks := hooks } = .ok added ∧
      b = { added with columns := keyed added.columns } := by
  rw [blueprint] at accepted
  split at accepted
  case h_2 => cases accepted
  case h_1 =>
    dsimp only at accepted
    split at accepted
    case isTrue => cases accepted
    case isFalse =>
      cases kind : d.kind with
      | choice | unit =>
        rw [kind] at accepted
        cases accepted
      | tuple =>
        rw [kind] at accepted
        obtain ⟨_, -, accepted⟩ := exists_of_bind accepted
        cases accepted
      | record =>
        rw [kind] at accepted
        obtain ⟨named, read, accepted⟩ := exists_of_bind accepted
        obtain ⟨a, -, accepted⟩ := exists_of_bind accepted
        obtain ⟨added, folded, accepted⟩ := exists_of_bind accepted
        split at accepted
        · cases accepted
        · cases accepted
          exact ⟨_, _, _, named, added, read, folded, rfl⟩

/-- The columns of an accepted declaration are those of its persisted fields. -/
theorem columns_of_blueprint {d : Declaration} {b : Blueprint} (accepted : d.blueprint = .ok b) :
    b.columns.map fieldAndColumn = d.persisted := by
  obtain ⟨_, _, _, named, added, read, folded, rfl⟩ := exists_of_blueprint accepted
  rw [map_keyed, columns_of_foldlM (forall₂_of_mapM read) folded]
  rfl

/-! ## Entities and their rows -/

/-- An entity of an accepted declaration is read from the row that is written for it, with its
persisted fields and nothing in the others, and this row has a column for each persisted field, if
no two persisted fields share a column; if two do, some entity is not read back, and no row has a
column for each field. -/
theorem derived_entity_returns {d : Declaration} {b : Blueprint} (accepted : d.blueprint = .ok b)
    (flat : ∀ c ∈ b.columns, ∀ u, c.type ≠ .option (.option u))
    (entities : String → String × List ColumnSpec) (Extra : Type) [Inhabited Extra] :
    ((∀ e : (b.layout entities).Item Extra, Layout.Item.fromRecord e.toRecord =
        .ok (.ofCells e.cells : (b.layout entities).Item Extra)) ↔ (d.persisted.map (·.2)).Nodup) ∧
      ∀ e : (b.layout entities).Item Extra,
        e.toRecord.columns = d.persisted.map (·.2) ↔ (d.persisted.map (·.2)).Nodup := by
  have columns : d.persisted.map (·.2) = (b.layout entities).columns.map (·.column) := by
    rw [← columns_of_blueprint accepted, List.map_map]
    rfl
  rw [columns]
  exact ⟨Layout.Item.fromRecord_toRecord_iff flat, Layout.Item.columns_toRecord_iff⟩

/-- A record with a key, an optional text in a column of another name, a field that is not persisted
and a relation. -/
def note : Declaration :=
  ⟨"Note", .record, [], [⟨"id", "i64", []⟩,
    ⟨"label", "Option<String>", [.assign "column" (.text "tag")]⟩,
    ⟨"cache", "Vec<Entry>", [.flag "skip"]⟩,
    ⟨"entries", "Vec<Entry>", [.list "has_many" [.assign "foreign_key" (.text "note")]]⟩]⟩

def noteBlueprint : Blueprint :=
  { name := "Note", table := "notes", skipped := ["cache"]
    columns := [{ name := "id", type := .int64, primaryKey := true },
      { name := "label", column := "tag", type := .option .text }]
    relations := [⟨"entries", .hasMany, "Entry", "note", none, none⟩] }

/-- The table and the columns of the entries of a note. -/
def noteRelatives : String → String × List ColumnSpec :=
  fun _ => ("entries", [{ name := "id", type := .int64, primaryKey := true }])

/-- A note with a label, an entry that was loaded, and something in the cache. -/
def labelled : (noteBlueprint.layout noteRelatives).Item String :=
  ⟨(7, some "red", ()), ([(1, ())], ()), "cached"⟩

theorem persisted_note : note.persisted = [("id", "id"), ("label", "tag")] := by decide +kernel

/-- The note is read back with its key and its label, and without entries and cache. -/
theorem note_returns :
    note.blueprint = .ok noteBlueprint ∧
      (∀ c ∈ noteBlueprint.columns, ∀ u, c.type ≠ .option (.option u)) ∧
      Layout.Item.fromRecord labelled.toRecord =
        .ok (⟨(7, some "red", ()), ([], ()), ""⟩ : (noteBlueprint.layout noteRelatives).Item String) ∧
      labelled.toRecord.columns = ["id", "tag"] := by
  have accepted : note.blueprint = .ok noteBlueprint := by decide +kernel
  have flat : ∀ c ∈ noteBlueprint.columns, ∀ u, c.type ≠ .option (.option u) := by
    simp [noteBlueprint]
  have distinct : (note.persisted.map (·.2)).Nodup := by
    rw [persisted_note]
    decide
  obtain ⟨returns, columns⟩ := derived_entity_returns accepted flat noteRelatives String
  have recorded := (columns labelled).mpr distinct
  rw [persisted_note] at recorded
  exact ⟨accepted, flat, returns.mpr distinct labelled, recorded⟩

/-- Two fields that share a column, the second one by its attribute. -/
def clash : Declaration :=
  ⟨"Clash", .record, [], [⟨"id", "i64", []⟩, ⟨"label", "String", [.assign "column" (.text "id")]⟩]⟩

def clashBlueprint : Blueprint :=
  { name := "Clash", table := "clashes"
    columns := [{ name := "id", type := .int64, primaryKey := true },
      { name := "label", column := "id", type := .text }] }

def clashing : (clashBlueprint.layout noteRelatives).Item Unit := ⟨(5, "five", ()), (), ()⟩

/-- A declaration is accepted although two fields share a column. The label takes the place of the
number in the row, and the row is not read. -/
theorem shared_column_not_returned :
    clash.blueprint = .ok clashBlueprint ∧
      clashing.toRecord.columns = ["id"] ∧
      (Layout.Item.fromRecord clashing.toRecord :
        Except StoreError ((clashBlueprint.layout noteRelatives).Item Unit)) =
          .error (.decode "id" (.expected "i64" "text")) :=
  ⟨by decide +kernel, by decide, rfl⟩

end Declaration

end EntityStore
