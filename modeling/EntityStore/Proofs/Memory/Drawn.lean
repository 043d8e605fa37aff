import EntityStore.Proofs.Memory.Counter
import EntityStore.Proofs.Memory.Shape

/-!
# What a new row holds

A new row has the columns of the table and the columns that it is given. What it is given is there,
but for the keys that the row leaves open in a generated column: for these a number is drawn. Rows
are numbered one after the other, and within a row the fields are, so that no number is drawn
twice.
-/

namespace EntityStore.Memory

/-- A row is stored for a given one. -/
structure Table.Fills (t : Table) (given row : Record) : Prop where
  columns : ∀ c, (row.get? c).isSome = (t.hasColumn c || (given.get? c).isSome)
  kept : ∀ c, ¬Draws t.fields given c → row.getD c = given.getD c
  drawn : ∀ c, Draws t.fields given c → ∃ k, row.get? c = some (.int k)

section

variable {given full full' : Record} {f : Field} {fs : List Field} {c d : String}
  {lastId lastId' k : Int64}

/-- A column for which no number is drawn gets what is given. -/
theorem get?_fillFields_of_not_draws
    (filled : fillFields given fs full lastId = .ok (full', lastId'))
    (keeps : ¬Draws fs given c) (member : ∃ f ∈ fs, f.column = c) :
    full'.get? c = some (given.getD c) := by
  induction fs generalizing full lastId with
  | nil =>
    obtain ⟨f, none, -⟩ := member
    cases none
  | cons f fs ih =>
    have rest := (fillFields_cons filled).2
    rw [draws_cons, not_or] at keeps
    by_cases later : ∃ g ∈ fs, g.column = c
    · exact ih rest keeps.1 later
    · -- the first field is the last one of the column
      have absent : ∀ g ∈ fs, g.column ≠ c := fun g inRest named => later ⟨g, inRest, named⟩
      have here : f.column = c := by
        obtain ⟨g, inFields, named⟩ := member
        rcases List.mem_cons.mp inFields with rfl | behind
        · exact named
        · exact absurd named (absent g behind)
      have set (auto : f.autoIncrement = true) : (given.getD c).isUnsetKey = false :=
        eq_false_of_ne_true fun unset => keeps.2 ⟨absent, here, auto, unset⟩
      rw [get?_fillFields_of_notMem rest absent, here, Record.get?_set, if_pos rfl, fill_of_set set]

end

section

variable {t : Table} {given row : Record} {givens rows : List Record} {c d : String}
  {lastId lastId' k : Int64}

theorem Table.Fills.of_newRow (made : t.newRow given lastId = .ok (row, lastId')) :
    t.Fills given row := by
  obtain ⟨filled, done, rfl⟩ := filled_of_newRow made
  constructor
  · intro c
    rw [get?_addMissing, Option.isSome_or, isSome_fillFields done c]
    rfl
  · intro c keeps
    rw [Record.getD, get?_addMissing]
    by_cases member : ∃ f ∈ t.fields, f.column = c
    · rw [get?_fillFields_of_not_draws done keeps member]
      rfl
    · have absent : ∀ f ∈ t.fields, f.column ≠ c := fun f inFields named =>
        member ⟨f, inFields, named⟩
      have empty : filled.get? c = none := get?_fillFields_of_notMem done absent
      rw [empty, Option.none_or, Record.getD]
  · intro c draws
    obtain ⟨k, held, -⟩ := fillFields_draws done draws
    refine ⟨k, ?_⟩
    rw [get?_addMissing, held, Option.some_or]

end

end EntityStore.Memory
