import EntityStore.Proofs.Memory.Counter
import EntityStore.Proofs.Memory.Select
import EntityStore.Proofs.Memory.Step

/-!
# What filters pick

A selection, a count, an update and a deletion by the same filters judge the rows of a table alike,
as they are before anything is written: they fail together, and otherwise the rows that are answered
are those that are counted, changed or deleted.
-/

namespace EntityStore.Memory

/-! ## Rows -/

section

variable {t : Table} {name : String} {filters : List Predicate} {changes : Record}
  {rows hit : List Record} {e : StoreError}

theorem marked_of_matching (matched : matching filters rows = .ok hit) :
    marked filters rows = .ok (rows.map fun row => (row, passes filters row)) := by
  have judged := (matching_eq_ok matched).1
  refine (mapM_congr fun row member => ?_).trans (List.mapM_pure ..)
  rw [judged row member]
  rfl

theorem marked_of_failed (failed : matching filters rows = .error e) :
    marked filters rows = .error e := by
  unfold matching at failed
  cases judged : marked filters rows with
  | error e' =>
    rw [judged] at failed
    exact congrArg _ (Except.error.inj failed)
  | ok ms =>
    rw [judged] at failed
    cases failed

theorem countMarked_of_matching (matched : matching filters rows = .ok hit) :
    countMarked (rows.map fun row => (row, passes filters row)) = hit.length.toUInt64 := by
  rw [countMarked, List.countP_map, (matching_eq_ok matched).2, ← List.countP_eq_length_filter]
  rfl

/-- None of the rows that are left behind satisfies the filters. -/
theorem matching_rest (matched : matching filters rows = .ok hit) :
    matching filters (rows.filter fun row => !passes filters row) = .ok [] := by
  have judged := (matching_eq_ok matched).1
  have rest : ∀ row ∈ rows.filter fun row => !passes filters row,
      (satisfiesAll row filters).map (fun b => (row, b)) = pure (row, false) := by
    intro row member
    obtain ⟨stored, fails⟩ := List.mem_filter.mp member
    rw [judged row stored, show passes filters row = false by simpa using fails]
    rfl
  rw [matching, marked, mapM_congr rest, List.mapM_pure]
  change Except.ok (((List.map _ _).filter _).map _) = _
  rw [List.filter_map]
  exact congrArg Except.ok (by simp)

/-! ## Tables -/

namespace Table

/-- The table without the rows that satisfy the filters. -/
def without (t : Table) (filters : List Predicate) : Table :=
  { t with rows := t.rows.filter fun row => !passes filters row }

/-- The table with the changes set on the rows that satisfy the filters. -/
def changing (t : Table) (changes : Record) (filters : List Predicate) : Table :=
  { t with rows := t.rows.map fun row =>
      if passes filters row then row.setAll changes.entries else row }

theorem delete_of_matching (matched : matching filters t.rows = .ok hit) :
    t.delete filters = .ok (t.without filters, hit.length.toUInt64) := by
  rw [delete, marked_of_matching matched]
  change Except.ok (_, countMarked _) = _
  rw [countMarked_of_matching matched, List.filter_map, List.map_map]
  exact congrArg (fun rows => Except.ok ({ t with rows := rows }, _)) (List.map_id _)

theorem delete_of_failed (failed : matching filters t.rows = .error e) :
    t.delete filters = .error e := by
  rw [delete, marked_of_failed failed]
  rfl

theorem update_of_matching (matched : matching filters t.rows = .ok hit)
    (known : t.checkColumns changes.columns = .ok ()) :
    t.update name changes filters =
      (checkKeys name (t.changing changes filters).rows t.keys).map fun _ =>
        (t.changing changes filters, hit.length.toUInt64) := by
  rw [update, known, marked_of_matching matched, ← countMarked_of_matching matched]
  change (checkKeys name ((t.rows.map _).map _) t.keys >>= fun _ => _) = _
  rw [List.map_map]
  rfl

theorem update_of_failed (failed : matching filters t.rows = .error e)
    (known : t.checkColumns changes.columns = .ok ()) :
    t.update name changes filters = .error e := by
  rw [update, known, marked_of_failed failed]
  rfl

end Table

end

/-! ## Stores -/

section

variable {s : Store} {scope : Scope} {table : String} {filters : List Predicate}
  {changes : Record} {ts : Tables} {t : Table} {hit : List Record} {e : StoreError}

/-- The rows of a table that satisfy the filters. -/
def Store.matchingIn (s : Store) (scope : Scope) (table : String) (filters : List Predicate) :
    Except StoreError (List Record) := do
  let ts ← s.tablesOf scope
  let t ← ts.get table
  matching filters t.rows

theorem perform_select_filtered (s : Store) (scope : Scope) (table : String)
    (filters : List Predicate) :
    s.perform scope (.select table (.filtered filters)) =
      (s.matchingIn scope table filters, s) := by
  rw [Store.perform_select, Store.matchingIn]
  simp only [← runQuery_filtered]
  rfl

theorem perform_count_filtered (s : Store) (scope : Scope) (table : String)
    (filters : List Predicate) :
    (s.perform scope (.count table (.filtered filters))).1 =
      (s.matchingIn scope table filters).map fun hit => hit.length.toUInt64 := by
  have selected : (s.perform scope (.select table (.filtered filters))).1 =
      s.matchingIn scope table filters := congrArg Prod.fst (perform_select_filtered ..)
  rw [← selected, Store.perform_select]
  change (s.answer scope (.count table (.filtered filters))).1 = _
  cases tables : s.tablesOf scope with
  | error e =>
    rw [Store.answer_of_closed tables]
    rfl
  | ok ts =>
    change _ = ts.count table (.filtered filters)
    cases counted : ts.count table (.filtered filters) with
    | error e =>
      have refused : ts.answer (.count table (.filtered filters)) = .error e := by
        rw [Tables.answer, counted]
        rfl
      rw [Store.answer_of_error tables refused]
    | ok n =>
      have answered : ts.answer (.count table (.filtered filters)) = .ok (n, ts) := by
        rw [Tables.answer, counted]
        rfl
      rw [Store.answer_of_ok tables answered]

theorem matchingIn_eq_ok :
    s.matchingIn scope table filters = .ok hit ↔
      ∃ ts t, s.tablesOf scope = .ok ts ∧ ts.get? table = some t ∧
        matching filters t.rows = .ok hit := by
  constructor
  · intro matched
    obtain ⟨ts, tables, matched⟩ := exists_of_bind matched
    obtain ⟨t, found, matched⟩ := exists_of_bind matched
    exact ⟨ts, t, tables, Tables.get_eq_ok.mp found, matched⟩
  · rintro ⟨ts, t, tables, found, matched⟩
    rw [Store.matchingIn, tables]
    change (ts.get table >>= fun t => matching filters t.rows) = _
    rw [Tables.get_eq_ok.mpr found]
    exact matched

/-- The request is answered by a write of one table. -/
def Writes (table : String) (r : Request UInt64)
    (write : Table → Except StoreError (Table × UInt64)) : Prop :=
  ∀ ts : Tables, ts.answer r =
    ts.get table >>= fun t => (write t).map fun p => (p.2, ts.set table p.1)

theorem writes_delete (table : String) (filters : List Predicate) :
    Writes table (.delete table filters) (·.delete filters) := by
  intro ts
  rw [Tables.answer]
  refine bind_congr fun t => ?_
  dsimp only
  cases t.delete filters <;> rfl

theorem writes_update (table : String) (changes : Record) (filters : List Predicate) :
    Writes table (.update table changes filters) (·.update table changes filters) := by
  intro ts
  rw [Tables.answer]
  refine bind_congr fun t => ?_
  dsimp only
  cases t.update table changes filters <;> rfl

section

variable {r : Request UInt64} {write : Table → Except StoreError (Table × UInt64)}
  (writes : Writes table r write)

include writes

theorem Writes.answer_ok {t' : Table} {n : UInt64} (tables : s.tablesOf scope = .ok ts)
    (found : ts.get? table = some t) (done : write t = .ok (t', n)) :
    s.answer scope r = (.ok n, s.setTables scope (ts.set table t')) := by
  refine Store.answer_of_ok tables ?_
  rw [writes, Tables.get_eq_ok.mpr found]
  exact congrArg (Except.map _) done

theorem Writes.answer_error (tables : s.tablesOf scope = .ok ts)
    (found : ts.get? table = some t) (refused : write t = .error e) :
    s.answer scope r = (.error e, s) := by
  refine Store.answer_of_error tables ?_
  rw [writes, Tables.get_eq_ok.mpr found]
  exact congrArg (Except.map _) refused

/-- Where there are no rows that the filters can be evaluated on, a write fails as they do if it
does so on the table. -/
theorem Writes.answer_of_failed (failed : s.matchingIn scope table filters = .error e)
    (fails : ∀ ts t, s.tablesOf scope = .ok ts → ts.get? table = some t →
      matching filters t.rows = .error e → write t = .error e) :
    s.answer scope r = (.error e, s) := by
  rcases error_of_bind failed with closed | ⟨ts, tables, failed⟩
  · exact Store.answer_of_closed closed
  · rcases error_of_bind failed with missing | ⟨t, found, failed⟩
    · refine Store.answer_of_error tables ?_
      rw [writes, missing]
      rfl
    · have found := Tables.get_eq_ok.mp found
      exact writes.answer_error tables found (fails ts t tables found failed)

end

/-- A deletion fails where the filters fail on the rows. -/
theorem perform_delete_eq_error :
    s.perform scope (.delete table filters) = (.error e, s) ↔
      s.matchingIn scope table filters = .error e := by
  have failing {e : StoreError} (failed : s.matchingIn scope table filters = .error e) :
      s.perform scope (.delete table filters) = (.error e, s) :=
    (writes_delete table filters).answer_of_failed failed fun _ _ _ _ => Table.delete_of_failed
  refine ⟨fun refused => ?_, failing⟩
  cases matched : s.matchingIn scope table filters with
  | error e' =>
    exact congrArg _ (Except.error.inj (Prod.mk.inj ((failing matched).symm.trans refused)).1)
  | ok hit =>
    obtain ⟨ts, t, tables, found, picked⟩ := matchingIn_eq_ok.mp matched
    have done := (writes_delete table filters).answer_ok tables found
      (Table.delete_of_matching picked)
    cases (Prod.mk.inj (done.symm.trans refused)).1

/-- An update of columns that the table has violates a key or sets the changes on the rows that
satisfied the filters. -/
theorem perform_update_of_matching (tables : s.tablesOf scope = .ok ts)
    (found : ts.get? table = some t) (picked : matching filters t.rows = .ok hit)
    (known : t.checkColumns changes.columns = .ok ()) :
    (∃ key ∈ t.keys,
      s.perform scope (.update table changes filters) = (.error (keyViolation table key), s)) ∨
    s.perform scope (.update table changes filters) =
      (.ok hit.length.toUInt64, s.setTables scope (ts.set table (t.changing changes filters))) := by
  have update : t.update table changes filters = _ := Table.update_of_matching picked known
  cases checked : checkKeys table (t.changing changes filters).rows t.keys with
  | error e =>
    rw [checked] at update
    obtain ⟨key, member, rfl, -⟩ := Table.checkKeys_eq_error checked
    exact .inl ⟨key, member, (writes_update table changes filters).answer_error tables found update⟩
  | ok _ =>
    rw [checked] at update
    exact .inr ((writes_update table changes filters).answer_ok tables found update)

/-- Row by row, what changing a table comes to. -/
theorem Table.forall₂_changing (t : Table) (changes : Record) (filters : List Predicate) :
    List.Forall₂ (fun row row' => (passes filters row = false → row' = row) ∧
      (passes filters row = true → ∀ c,
        row'.get? c = ((Record.ofPairs changes.entries).get? c).or (row.get? c)))
      t.rows (t.changing changes filters).rows := by
  rw [changing, List.forall₂_map_right_iff]
  refine List.forall₂_same.mpr fun row _ => ⟨?_, ?_⟩
  · intro fails
    rw [fails]
    rfl
  · intro holds c
    rw [holds]
    exact Record.get?_setAll_eq_or row changes.entries c

/-- By the same filters rows are selected, counted, deleted and updated alike, in whatever scope
and state of the store. Selecting fails if deleting fails or counting fails, with the same error,
and then updating columns that the table has fails so too. Otherwise the rows that are selected are
those of the table that satisfy the filters, and their number is what is counted. Deleting answers
their number and leaves the other rows in their order, of which a selection then answers none.
Updating columns that the table has either violates a key and changes nothing, or answers the
number as well: every change is set on the rows that satisfied the filters before, and all other
rows and cells are left as they were. Nothing is written but the rows of the table. -/
theorem filters_pick_alike (s : Store) (scope : Scope) (table : String)
    (filters : List Predicate) :
    let selecting : Request (List Record) := .select table (.filtered filters)
    let counting : Request UInt64 := .count table (.filtered filters)
    let deleting : Request UInt64 := .delete table filters
    let updating (changes : Record) : Request UInt64 := .update table changes filters
    (∀ e,
      ((s.perform scope selecting).1 = .error e ↔ s.perform scope deleting = (.error e, s)) ∧
      ((s.perform scope selecting).1 = .error e ↔ (s.perform scope counting).1 = .error e) ∧
      ((s.perform scope selecting).1 = .error e → ∀ changes,
        (∀ ts t, s.tablesOf scope = .ok ts → ts.get? table = some t →
          t.checkColumns changes.columns = .ok ()) →
        s.perform scope (updating changes) = (.error e, s))) ∧
    ∀ hit, (s.perform scope selecting).1 = .ok hit →
      ∃ ts t, s.tablesOf scope = .ok ts ∧ ts.get? table = some t ∧
        hit = t.rows.filter (passes filters) ∧
        (s.perform scope counting).1 = .ok hit.length.toUInt64 ∧
        (∃ after, s.perform scope deleting = (.ok hit.length.toUInt64, after) ∧
          after = s.setTables scope (ts.set table { t with
            rows := t.rows.filter fun row => !passes filters row }) ∧
          (after.perform scope selecting).1 = .ok []) ∧
        ∀ changes, t.checkColumns changes.columns = .ok () →
          (∃ key ∈ t.keys,
            s.perform scope (updating changes) = (.error (keyViolation table key), s)) ∨
          ∃ rows, s.perform scope (updating changes) = (.ok hit.length.toUInt64,
              s.setTables scope (ts.set table { t with rows := rows })) ∧
            List.Forall₂ (fun row row' => (passes filters row = false → row' = row) ∧
              (passes filters row = true → ∀ c,
                row'.get? c = ((Record.ofPairs changes.entries).get? c).or (row.get? c)))
              t.rows rows := by
  intro selecting counting deleting updating
  have selected (s : Store) : (s.perform scope selecting).1 = s.matchingIn scope table filters :=
    congrArg Prod.fst (perform_select_filtered ..)
  have counted : (s.perform scope counting).1 = _ := perform_count_filtered s scope table filters
  simp only [selected, counted]
  constructor
  · intro e
    refine ⟨perform_delete_eq_error.symm, map_eq_error.symm, ?_⟩
    intro failed changes known
    exact (writes_update table changes filters).answer_of_failed failed
      fun ts t tables found failed => Table.update_of_failed failed (known ts t tables found)
  · intro hit matched
    obtain ⟨ts, t, tables, found, picked⟩ := matchingIn_eq_ok.mp matched
    have deleted := (writes_delete table filters).answer_ok tables found
      (Table.delete_of_matching picked)
    refine ⟨ts, t, tables, found, (matching_eq_ok picked).2, congrArg _ matched,
      ⟨_, deleted, rfl, ?_⟩, ?_⟩
    · have left : (ts.set table (t.without filters)).get? table = some (t.without filters) := by
        rw [Tables.get?_set, if_pos rfl]
      exact matchingIn_eq_ok.mpr
        ⟨_, _, Store.tablesOf_setTables tables, left, matching_rest picked⟩
    · intro changes known
      refine (perform_update_of_matching tables found picked known).imp_right fun updated => ?_
      exact ⟨_, updated, t.forall₂_changing changes filters⟩

end

/-- A shop with three goods, of which two are short. -/
def shop : Store :=
  Step.after ∅ [.ask .direct (.createTable ⟨"goods",
      [Field.ofType "name" .text, Field.ofType "left" .bigInt]⟩),
    .ask .direct (.insert "goods"
      [.ofPairs [("name", .text "tea"), ("left", .int 1)],
        .ofPairs [("name", .text "rice"), ("left", .int 9)],
        .ofPairs [("name", .text "salt"), ("left", .int 0)]] [])]

/-- The goods that are short are answered, and behind their deletion none is short. -/
theorem short_goods_picked_alike :
    let short : List Predicate := [.compare (.column ⟨[.plain "left"]⟩) .lt (.int 2)]
    (shop.perform .direct (.select "goods" (.filtered short))).1 =
        .ok [.ofPairs [("name", .text "tea"), ("left", .int 1)],
          .ofPairs [("name", .text "salt"), ("left", .int 0)]] ∧
      ∃ after, shop.perform .direct (.delete "goods" short) = (.ok 2, after) ∧
        (after.perform .direct (.select "goods" (.filtered short))).1 = .ok [] := by
  intro short
  have selected : (shop.perform .direct (.select "goods" (.filtered short))).1 = .ok _ := rfl
  obtain ⟨-, pick⟩ := filters_pick_alike shop .direct "goods" short
  obtain ⟨-, -, -, -, -, -, ⟨after, deleted, -, none⟩, -⟩ := pick _ selected
  exact ⟨selected, after, deleted, none⟩

end EntityStore.Memory
