import EntityStore.Proofs.Memory.Table

/-!
# The columns of rows

Every row of a table with fields carries the columns of the table and no others: an insert fills
in the fields that a row does not have, an update may set no other columns, and a migration adds
a new column to every row. A table without fields takes rows with any columns, so that there this
holds only as long as no row with columns is written.
-/

namespace EntityStore.Memory

/-- The rows carry the columns of the table. -/
def Table.Whole (t : Table) : Prop := ∀ row ∈ t.rows, ∀ c, (row.get? c).isSome = t.hasColumn c

section

variable {t t' : Table} {name : String}

/-! ## Rows -/

theorem hasColumn_of_checkColumns (some : t.fields ≠ []) {columns : List String}
    (checked : t.checkColumns columns = .ok ()) {c : String} (member : c ∈ columns) :
    t.hasColumn c = true := by
  unfold Table.checkColumns at checked
  rw [if_neg (by simpa using some)] at checked
  split at checked
  · cases checked
  · rename_i none
    simpa using List.find?_eq_none.mp none c member

theorem isSome_fillFields {row full full' : Record} {fs : List Field} {lastId lastId' : Int64}
    (filled : fillFields row fs full lastId = .ok (full', lastId')) (c : String) :
    (full'.get? c).isSome = ((full.get? c).isSome || fs.any (·.column = c)) := by
  induction fs generalizing full lastId with
  | nil =>
    cases filled
    exact (Bool.or_false _).symm
  | cons f fs ih =>
    rw [ih (fillFields_cons filled).2, Record.get?_set, List.any_cons]
    by_cases here : f.column = c
    · simp [here]
    · simp [here]

/-- A table without fields takes any row; of a new row there it has to be known that it has no
columns either. -/
theorem isSome_newRow {row full : Record} {lastId lastId' : Int64}
    (bare : t.fields = [] → row.columns = [])
    (made : t.newRow row lastId = .ok (full, lastId')) (c : String) :
    (full.get? c).isSome = t.hasColumn c := by
  obtain ⟨_, checked, -⟩ := exists_of_bind made
  obtain ⟨filled, done, rfl⟩ := filled_of_newRow made
  have own : (filled.get? c).isSome = t.hasColumn c := isSome_fillFields done c
  rw [get?_addMissing, Option.isSome_or, own]
  cases given : (row.get? c).isSome with
  | false => exact Bool.or_false _
  | true =>
    have listed : c ∈ row.columns := Record.mem_columns.mpr given
    have some : t.fields ≠ [] := fun none => List.ne_nil_of_mem listed (bare none)
    rw [hasColumn_of_checkColumns some checked listed, Bool.or_true]

theorem isSome_setAll {row changes : Record} (bare : t.fields = [] → changes.columns = [])
    (checked : t.checkColumns changes.columns = .ok ()) {c : String}
    (before : (row.get? c).isSome = t.hasColumn c) :
    ((row.setAll changes.entries).get? c).isSome = t.hasColumn c := by
  rw [Record.get?_setAll_eq_or, Option.isSome_or, before]
  cases set : ((Record.ofPairs changes.entries).get? c).isSome with
  | false => exact Bool.false_or _
  | true =>
    have named : c ∈ changes.columns := by
      refine Classical.byContradiction fun absent => ?_
      rw [Record.get?_ofPairs_of_notMem absent] at set
      cases set
    have some : t.fields ≠ [] := fun none => List.ne_nil_of_mem named (bare none)
    rw [hasColumn_of_checkColumns some checked named, Bool.true_or]

/-! ## Tables -/

namespace Table

theorem Whole.insert (h : t.Whole) {rows answers : List Record} {returning : List String}
    (bare : t.fields = [] → ∀ row ∈ rows, row.columns = [])
    (done : t.insert name rows returning = .ok (t', answers)) : t'.Whole := by
  obtain ⟨fulls, lastId, made, rfl⟩ := rows_of_insert done
  intro row member c
  rcases List.mem_append.mp member with before | added
  · exact h row before c
  · obtain ⟨given, inRows, _, _, one⟩ := newRow_of_newRows made row added
    exact isSome_newRow (fun none => bare none given inRows) one c

theorem Whole.update (h : t.Whole) {changes : Record} {filters : List Predicate} {n : UInt64}
    (bare : t.fields = [] → changes.columns = []) (done : t.update name changes filters = .ok (t', n)) :
    t'.Whole := by
  obtain ⟨_, checked, -⟩ := exists_of_bind done
  intro row' member c
  have changed := (mem_rows_update done).mp member
  obtain ⟨_, -, -, rfl⟩ := rows_of_update done
  obtain ⟨row, stored, ⟨-, rfl⟩ | ⟨-, rfl⟩⟩ := changed
  · exact isSome_setAll bare checked (h row stored c)
  · exact h row' stored c

theorem Whole.delete (h : t.Whole) {filters : List Predicate} {n : UInt64}
    (done : t.delete filters = .ok (t', n)) : t'.Whole := by
  have kept : ∀ row ∈ t'.rows, row ∈ t.rows := fun _ => mem_rows_of_delete done
  obtain ⟨_, -, -, rfl⟩ := rows_of_delete done
  intro row member
  exact h row (kept row member)

theorem Whole.addFields (h : t.Whole) (fields : List Field) : (t.addFields fields).Whole := by
  intro row' member c
  rw [hasColumn_addFields]
  rw [addFields_eq] at member
  obtain ⟨row, inRows, rfl⟩ := List.mem_map.mp member
  rw [get?_setAll_missing]
  cases has : t.hasColumn c <;> cases fields.any (·.column = c) <;> simp [h row inRows c, has]

end Table

end

end EntityStore.Memory
