import EntityStore.Proofs.Memory.Uniqueness

/-!
# Generated keys

A table counts the keys that it generates, and an insert moves the counter past the keys that it
is given. An update sets such a column too and leaves the counter alone. As long as no update
sets it beyond the counter, and the counter does not run over, every number in such a column is at
most the counter, in whatever state the store is, and generated keys are fresh.
-/

namespace EntityStore.Memory

/-! ## Counting -/

/-- The counter behind one field of a new row, on numbers without bound. -/
def counted (f : Field) (given : Value) (n : Int) : Int :=
  if f.autoIncrement then
    if given.isUnsetKey then n + 1
    else
      match given with
      | .int i => max n i.toInt
      | _ => n
  else n

def countRow (row : Record) (fields : List Field) (n : Int) : Int :=
  fields.foldl (fun n f => counted f (row.getD f.column) n) n

def Table.countRows (t : Table) (rows : List Record) (n : Int) : Int :=
  rows.foldl (fun n row => countRow row t.fields n) n

/-- The counter does not run over when the rows are inserted. -/
def Table.Fits (t : Table) (rows : List Record) : Prop :=
  t.countRows rows t.lastId.toInt ≤ Int64.maxValue.toInt

section

variable {f : Field} {given : Value} {n : Int} {lastId : Int64}

theorem le_counted (f : Field) (given : Value) (n : Int) : n ≤ counted f given n := by
  unfold counted
  split
  · split
    · exact Int.le_add_one (Int.le_refl n)
    · split
      · exact Int.le_max_left _ _
      · exact Int.le_refl n
  · exact Int.le_refl n

theorem countRow_cons (row : Record) (f : Field) (fs : List Field) (n : Int) :
    countRow row (f :: fs) n = countRow row fs (counted f (row.getD f.column) n) := rfl

theorem le_countRow (row : Record) (fields : List Field) (n : Int) : n ≤ countRow row fields n := by
  induction fields generalizing n with
  | nil => exact Int.le_refl n
  | cons f fs ih => exact Int.le_trans (le_counted f _ n) (ih _)

theorem le_countRows (t : Table) (rows : List Record) (n : Int) : n ≤ t.countRows rows n := by
  induction rows generalizing n with
  | nil => exact Int.le_refl n
  | cons row rows ih => exact Int.le_trans (le_countRow row t.fields n) (ih _)

theorem le_counted_of_given {i : Int64} (auto : f.autoIncrement = true) (start : 0 ≤ n) :
    i.toInt ≤ counted f (.int i) n := by
  unfold counted
  rw [if_pos auto]
  by_cases unset : (Value.int i).isUnsetKey = true
  · have zero : i = 0 := by simpa [Value.isUnsetKey] using unset
    rw [if_pos unset, zero, Int64.toInt_zero]
    omega
  · rw [if_neg unset]
    exact Int.le_max_right n i.toInt

/-- A number that is given for a generated key is counted. -/
theorem le_countRow_of_given {row : Record} {fields : List Field} {i : Int64}
    (member : f ∈ fields) (auto : f.autoIncrement = true) (value : row.getD f.column = .int i)
    (start : 0 ≤ n) : i.toInt ≤ countRow row fields n := by
  induction fields generalizing n with
  | nil => cases member
  | cons g gs ih =>
    rcases List.mem_cons.mp member with rfl | later
    · rw [countRow_cons, value]
      refine Int.le_trans ?_ (le_countRow row gs _)
      exact le_counted_of_given auto start
    · exact ih later (Int.le_trans start (le_counted g _ n))

theorem toInt_succ {a : Int64} (fits : a.toInt + 1 ≤ Int64.maxValue.toInt) :
    (a + 1).toInt = a.toInt + 1 := by
  have low := Int64.le_toInt a
  rw [Int64.toInt_maxValue] at fits
  rw [Int64.toInt_add, Int64.toInt_one, Int.bmod_eq_of_le] <;> omega

theorem toInt_max (a b : Int64) : (max a b).toInt = max a.toInt b.toInt := by
  simp only [max, Int64.le_iff_toInt_le]
  split <;> omega

theorem toInt_fill (fits : counted f given lastId.toInt ≤ Int64.maxValue.toInt) :
    (fill f given lastId).2.toInt = counted f given lastId.toInt := by
  unfold counted at fits ⊢
  unfold fill
  by_cases auto : f.autoIncrement = true
  · rw [if_pos auto] at fits ⊢
    rw [if_pos auto]
    by_cases unset : given.isUnsetKey = true
    · rw [if_pos unset] at fits ⊢
      rw [if_pos unset]
      exact toInt_succ fits
    · rw [if_neg unset, if_neg unset]
      cases given with
      | int i => exact toInt_max lastId i
      | _ => rfl
  · rw [if_neg auto, if_neg auto]

/-- A number in a new row was given or is the counter. -/
theorem int_of_fill {i : Int64} (value : (fill f given lastId).1 = .int i) :
    given = .int i ∨ (fill f given lastId).2 = i := by
  unfold fill at value ⊢
  by_cases generated : f.autoIncrement = true ∧ given.isUnsetKey = true
  · rw [if_pos generated.1, if_pos generated.2] at value ⊢
    cases value
    exact .inr rfl
  · left
    by_cases auto : f.autoIncrement = true
    · rw [if_pos auto, if_neg fun unset => generated ⟨auto, unset⟩] at value
      cases given with
      | int j => exact value
      | _ => cases value
    · rw [if_neg auto] at value
      exact value

theorem counted_of_unset (auto : f.autoIncrement = true) (unset : given.isUnsetKey = true) :
    counted f given n = n + 1 := by
  unfold counted
  rw [if_pos auto, if_pos unset]

theorem fill_of_unset (auto : f.autoIncrement = true) (unset : given.isUnsetKey = true) :
    fill f given lastId = (.int (lastId + 1), lastId + 1) := by
  unfold fill
  rw [if_pos auto, if_pos unset]

end

/-! ## New rows -/

section

variable {t : Table} {row full full' : Record} {rows fulls : List Record} {fs : List Field}
  {lastId lastId' : Int64}

theorem fits_of_countRow_cons {f : Field}
    (fits : countRow row (f :: fs) lastId.toInt ≤ Int64.maxValue.toInt) :
    counted f (row.getD f.column) lastId.toInt ≤ Int64.maxValue.toInt :=
  Int.le_trans (le_countRow row fs _) fits

/-- While the counter does not run over it goes on as it is counted. A number in the new row was
there, was given, or is at most the counter. -/
theorem fillFields_counted (filled : fillFields row fs full lastId = .ok (full', lastId'))
    (fits : countRow row fs lastId.toInt ≤ Int64.maxValue.toInt) :
    lastId'.toInt = countRow row fs lastId.toInt ∧ ∀ c i, full'.getD c = .int i →
      full.getD c = .int i ∨ row.getD c = .int i ∨ i.toInt ≤ lastId'.toInt := by
  induction fs generalizing full lastId with
  | nil =>
    cases filled
    exact ⟨rfl, fun c i held => .inl held⟩
  | cons f fs ih =>
    have counter := toInt_fill (fits_of_countRow_cons fits)
    rw [countRow_cons, ← counter] at fits ⊢
    obtain ⟨count, origins⟩ := ih (fillFields_cons filled).2 fits
    refine ⟨count, ?_⟩
    intro c i held
    rcases origins c i held with before | rest
    · by_cases here : f.column = c
      · subst here
        rw [Record.getD_set_self] at before
        rcases int_of_fill before with given | rfl
        · exact .inr (.inl given)
        · right
          right
          rw [count]
          exact le_countRow row fs _
      · rw [Record.getD_set_of_ne here] at before
        exact .inl before
    · exact .inr rest

theorem newRow_counted (made : t.newRow row lastId = .ok (full, lastId'))
    (fits : countRow row t.fields lastId.toInt ≤ Int64.maxValue.toInt) (start : 0 ≤ lastId.toInt) :
    lastId'.toInt = countRow row t.fields lastId.toInt ∧ ∀ f ∈ t.fields, f.autoIncrement = true →
      ∀ i, full.getD f.column = .int i → i.toInt ≤ lastId'.toInt := by
  obtain ⟨filled, done, rfl⟩ := filled_of_newRow made
  obtain ⟨count, origins⟩ := fillFields_counted done fits
  refine ⟨count, ?_⟩
  intro f member auto i value
  have given (held : row.getD f.column = .int i) : i.toInt ≤ lastId'.toInt := by
    rw [count]
    exact le_countRow_of_given member auto held start
  rw [Record.getD, get?_addMissing] at value
  cases held : filled.get? f.column with
  | none =>
    rw [held, Option.none_or] at value
    exact given value
  | some v =>
    rw [held, Option.some_or] at value
    have there : filled.getD f.column = .int i := by
      rw [Record.getD, held]
      exact value
    rcases origins f.column i there with empty | known | below
    · cases empty
    · exact given known
    · exact below

theorem newRows_counted (made : t.newRows rows lastId = .ok (fulls, lastId'))
    (fits : t.countRows rows lastId.toInt ≤ Int64.maxValue.toInt) (start : 0 ≤ lastId.toInt) :
    lastId'.toInt = t.countRows rows lastId.toInt ∧ ∀ full ∈ fulls, ∀ f ∈ t.fields,
      f.autoIncrement = true → ∀ i, full.getD f.column = .int i → i.toInt ≤ lastId'.toInt := by
  induction rows generalizing fulls lastId with
  | nil =>
    cases made
    exact ⟨rfl, nofun⟩
  | cons row rows ih =>
    obtain ⟨first, next, others, one, done, rfl⟩ := newRows_cons made
    have whole : t.countRows (row :: rows) lastId.toInt =
        t.countRows rows (countRow row t.fields lastId.toInt) := rfl
    rw [whole] at fits ⊢
    obtain ⟨count, ints⟩ := newRow_counted one (Int.le_trans (le_countRows t rows _) fits) start
    rw [← count] at fits ⊢
    have up : lastId.toInt ≤ next.toInt := by
      rw [count]
      exact le_countRow row t.fields _
    obtain ⟨counts, others⟩ := ih done fits (Int.le_trans start up)
    refine ⟨counts, ?_⟩
    intro full member f inFields auto i value
    rcases List.mem_cons.mp member with rfl | later
    · refine Int.le_trans (ints f inFields auto i value) ?_
      rw [counts]
      exact le_countRows t rows _
    · exact others full later f inFields auto i value

/-! ### Keys that are drawn -/

variable {c : String}

/-- The number of a column is drawn for a row: the row leaves the column open, and the last field of
the column is generated. -/
def Draws (fields : List Field) (row : Record) (column : String) : Prop :=
  ∃ f, fields.findRev? (·.column = column) = some f ∧ f.autoIncrement = true ∧
    (row.getD column).isUnsetKey = true

/-- Behind the first field a number is drawn for a column, or else for the first field. -/
theorem draws_cons {f : Field} : Draws (f :: fs) row c ↔ Draws fs row c ∨
    (∀ g ∈ fs, g.column ≠ c) ∧ f.column = c ∧ f.autoIncrement = true ∧
      (row.getD c).isUnsetKey = true := by
  rw [← findRev?_eq_none]
  unfold Draws
  rw [List.findRev?]
  cases fs.findRev? (·.column = c) with
  | some g => simp
  | none => by_cases here : f.column = c <;> simp [here]

theorem Draws.mem (draws : Draws fs row c) : ∃ f ∈ fs, f.column = c := by
  obtain ⟨f, found, -⟩ := draws
  exact ⟨f, of_findRev?_eq_some found⟩

/-- What a field does to the counter leaves room for the other fields. -/
theorem fits_behind {f : Field}
    (fits : countRow row (f :: fs) lastId.toInt ≤ Int64.maxValue.toInt) :
    countRow row fs (fill f (row.getD f.column) lastId).2.toInt ≤ Int64.maxValue.toInt ∧
      lastId.toInt ≤ (fill f (row.getD f.column) lastId).2.toInt := by
  rw [toInt_fill (fits_of_countRow_cons fits)]
  exact ⟨fits, le_counted f _ _⟩

/-- A number that is drawn is above the counter before and at most the counter afterwards. -/
theorem fillFields_draws (filled : fillFields row fs full lastId = .ok (full', lastId'))
    (draws : Draws fs row c) :
    ∃ k, full'.get? c = some (.int k) ∧
      (countRow row fs lastId.toInt ≤ Int64.maxValue.toInt →
        lastId.toInt < k.toInt ∧ k.toInt ≤ lastId'.toInt) := by
  induction fs generalizing full lastId with
  | nil =>
    obtain ⟨f, none, -⟩ := draws.mem
    cases none
  | cons f fs ih =>
    have rest := (fillFields_cons filled).2
    rcases draws_cons.mp draws with later | ⟨absent, rfl, auto, unset⟩
    · obtain ⟨k, held, between⟩ := ih rest later
      refine ⟨k, held, fun fits => ?_⟩
      obtain ⟨fitsBehind, up⟩ := fits_behind fits
      exact ⟨Int.lt_of_le_of_lt up (between fitsBehind).1, (between fitsBehind).2⟩
    · -- no later field of the column replaces the number
      refine ⟨lastId + 1, ?_, fun fits => ?_⟩
      · rw [get?_fillFields_of_notMem rest absent, fill_of_unset auto unset, Record.get?_set,
          if_pos rfl]
      · have counter := toInt_fill (fits_of_countRow_cons fits)
        have last := (fillFields_counted rest (fits_behind fits).1).1
        rw [fill_of_unset auto unset] at counter last
        rw [counted_of_unset auto unset] at counter
        have up := le_countRow row fs (lastId + 1).toInt
        dsimp only at counter last
        omega

theorem newRow_fresh (made : t.newRow row lastId = .ok (full, lastId'))
    (fits : countRow row t.fields lastId.toInt ≤ Int64.maxValue.toInt) {f : Field}
    (member : f ∈ t.fields)
    (auto : ∀ g ∈ t.fields, g.column = f.column → g.autoIncrement = true)
    (unset : (row.getD f.column).isUnsetKey = true) :
    ∃ k, full.getD f.column = .int k ∧ lastId < k ∧ k ≤ lastId' := by
  obtain ⟨filled, done, rfl⟩ := filled_of_newRow made
  have draws : Draws t.fields row f.column := by
    cases found : t.fields.findRev? (·.column = f.column) with
    | none => exact absurd rfl (findRev?_eq_none.mp found f member)
    | some g =>
      obtain ⟨inFields, named⟩ := of_findRev?_eq_some found
      exact ⟨g, found, auto g inFields named, unset⟩
  obtain ⟨k, drawn, between⟩ := fillFields_draws done draws
  obtain ⟨above, below⟩ := between fits
  refine ⟨k, ?_, Int64.lt_iff_toInt_lt.mpr above, Int64.le_iff_toInt_le.mpr below⟩
  rw [Record.getD, get?_addMissing, drawn]
  rfl

/-- Rows that leave a generated key open get numbers that go up from the counter. -/
theorem newRows_fresh (made : t.newRows rows lastId = .ok (fulls, lastId'))
    (fits : t.countRows rows lastId.toInt ≤ Int64.maxValue.toInt) {f : Field}
    (member : f ∈ t.fields)
    (auto : ∀ g ∈ t.fields, g.column = f.column → g.autoIncrement = true)
    (unset : ∀ row ∈ rows, (row.getD f.column).isUnsetKey = true) (start : 0 ≤ lastId.toInt) :
    ∃ ks : List Int64, fulls.map (·.getD f.column) = ks.map .int ∧ ks.Pairwise (· < ·) ∧
      ∀ k ∈ ks, lastId < k := by
  induction rows generalizing fulls lastId with
  | nil =>
    cases made
    exact ⟨[], rfl, .nil, nofun⟩
  | cons row rows ih =>
    obtain ⟨first, next, others, one, done, rfl⟩ := newRows_cons made
    have whole : t.countRows (row :: rows) lastId.toInt =
        t.countRows rows (countRow row t.fields lastId.toInt) := rfl
    rw [whole] at fits
    have fitsOne := Int.le_trans (le_countRows t rows _) fits
    obtain ⟨k, drawn, above, below⟩ :=
      newRow_fresh one fitsOne member auto (unset row List.mem_cons_self)
    have count := (newRow_counted one fitsOne start).1
    rw [← count] at fits
    rw [Int64.lt_iff_toInt_lt] at above
    rw [Int64.le_iff_toInt_le] at below
    obtain ⟨ks, keys, rising, behind⟩ :=
      ih done fits (fun row member => unset row (List.mem_cons_of_mem _ member)) (by omega)
    refine ⟨k :: ks, ?_, ?_, ?_⟩
    · rw [List.map_cons, List.map_cons, drawn, keys]
    · refine List.pairwise_cons.mpr ⟨?_, rising⟩
      intro k' later
      have beyond := Int64.lt_iff_toInt_lt.mp (behind k' later)
      exact Int64.lt_iff_toInt_lt.mpr (Int.lt_of_le_of_lt below beyond)
    · intro k' inKeys
      rw [Int64.lt_iff_toInt_lt]
      rcases List.mem_cons.mp inKeys with rfl | later
      · exact above
      · have beyond := Int64.lt_iff_toInt_lt.mp (behind k' later)
        omega

end

/-! ## Tables -/

/-- The counter of a table is at least every number in a column whose keys are generated. -/
structure Table.Ahead (t : Table) : Prop where
  nonneg : 0 ≤ t.lastId
  ahead : ∀ f ∈ t.fields, f.autoIncrement = true → ∀ row ∈ t.rows, ∀ i,
    row.getD f.column = .int i → i ≤ t.lastId

/-- An update sets a generated key beyond the counter in some row. -/
def Table.Overtaken (t : Table) (changes : Record) (filters : List Predicate) : Prop :=
  (∃ f ∈ t.fields, f.autoIncrement = true ∧ ∃ i,
      (Record.ofPairs changes.entries).get? f.column = some (.int i) ∧ t.lastId < i) ∧
    ∃ row ∈ t.rows, satisfiesAll row filters = .ok true

/-- An insert does not make the counter run over, and an update does not set a generated key
beyond it. -/
def Tables.Counts (ts : Tables) {α : Type} : Request α → Prop
  | .insert name rows _ => ∀ t, ts.get? name = some t → t.Fits rows
  | .update name changes filters => ∀ t, ts.get? name = some t → ¬t.Overtaken changes filters
  | _ => True

def Store.Counts (s : Store) : Step → Prop
  | .ask scope r => ∀ ts ts' x, s.tablesOf scope = .ok ts → ts.answer r = .ok (x, ts') → ts.Counts r
  | _ => True

namespace Table

variable {t t' : Table} {name : String}

theorem ahead_ofFields (fields : List Field) : (ofFields fields).Ahead where
  nonneg := Int64.le_iff_toInt_le.mpr (Int.le_refl _)
  ahead := fun _ _ _ _ member => nomatch member

theorem Ahead.insert (h : t.Ahead) {rows answers : List Record} {returning : List String}
    (fits : t.Fits rows) (done : t.insert name rows returning = .ok (t', answers)) : t'.Ahead := by
  obtain ⟨fulls, lastId, made, rfl⟩ := rows_of_insert done
  have start : 0 ≤ t.lastId.toInt := Int64.le_iff_toInt_le.mp h.nonneg
  obtain ⟨count, ints⟩ := newRows_counted made fits start
  have up : t.lastId.toInt ≤ lastId.toInt := by
    rw [count]
    exact le_countRows t rows _
  refine ⟨Int64.le_iff_toInt_le.mpr (Int.le_trans start up), ?_⟩
  intro f inFields auto row member i value
  rw [Int64.le_iff_toInt_le]
  rcases List.mem_append.mp member with before | added
  · exact Int.le_trans (Int64.le_iff_toInt_le.mp (h.ahead f inFields auto row before i value)) up
  · exact ints row added f inFields auto i value

theorem Ahead.delete (h : t.Ahead) {filters : List Predicate} {n : UInt64}
    (done : t.delete filters = .ok (t', n)) : t'.Ahead := by
  obtain ⟨ms, -, -, rfl⟩ := rows_of_delete done
  refine ⟨h.nonneg, ?_⟩
  intro f inFields auto row member
  exact h.ahead f inFields auto row (mem_rows_of_delete done member)

theorem Ahead.update_iff (h : t.Ahead) {changes : Record} {filters : List Predicate} {n : UInt64}
    (done : t.update name changes filters = .ok (t', n)) :
    t'.Ahead ↔ ¬t.Overtaken changes filters := by
  obtain ⟨ms, -, -, rfl⟩ := rows_of_update done
  constructor
  · rintro after ⟨⟨f, inFields, auto, i, given, beyond⟩, row, inRows, hit⟩
    have value : (row.setAll changes.entries).getD f.column = .int i := by
      rw [Record.getD_setAll, given]
      rfl
    have member := (mem_rows_update done).mpr ⟨row, inRows, .inl ⟨hit, rfl⟩⟩
    have bound := after.ahead f inFields auto _ member i value
    rw [Int64.le_iff_toInt_le] at bound
    rw [Int64.lt_iff_toInt_lt] at beyond
    exact absurd bound (Int.not_le.mpr beyond)
  · intro within
    refine ⟨h.nonneg, ?_⟩
    intro f inFields auto row' member i value
    obtain ⟨row, inRows, ⟨hit, rfl⟩ | ⟨-, rfl⟩⟩ := (mem_rows_update done).mp member
    · rw [Record.getD_setAll] at value
      cases given : (Record.ofPairs changes.entries).get? f.column with
      | none =>
        rw [given] at value
        exact h.ahead f inFields auto row inRows i value
      | some v =>
        rw [given] at value
        cases value
        refine Classical.byContradiction fun above => within ?_
        rw [Int64.le_iff_toInt_le, Int.not_le, ← Int64.lt_iff_toInt_lt] at above
        exact ⟨⟨f, inFields, auto, i, given, above⟩, row, inRows, hit⟩
    · exact h.ahead f inFields auto row' inRows i value

theorem Ahead.addFields (h : t.Ahead) (fields : List Field) : (t.addFields fields).Ahead := by
  refine ⟨lastId_addFields (t := t) ▸ h.nonneg, ?_⟩
  rw [lastId_addFields]
  intro f inAll auto row' member i value
  obtain ⟨row, inRows, held⟩ := getD_of_addFields member
  rw [held] at value
  rcases mem_fields_addFields inAll with old | ⟨new, fresh⟩
  · rw [hasColumn_of_mem old] at value
    exact h.ahead f old auto row inRows i value
  · have named : fields.any (·.column = f.column) = true :=
      List.any_eq_true.mpr ⟨f, new, decide_eq_true rfl⟩
    rw [fresh, named] at value
    cases value

/-! ### Fresh keys -/

theorem checkKey_eq_error {table : String} {rows : List Record} {key : List String}
    {e : StoreError} (failed : checkKey table rows key = .error e) :
    e = keyViolation table key ∧ ¬rows.Pairwise fun a b => ¬Agree key a b := by
  constructor
  · unfold checkKey at failed
    split at failed
    · cases failed
      rfl
    · cases failed
  · intro apart
    rw [checkKey_eq_ok.mpr apart] at failed
    cases failed

theorem checkKeys_eq_error {table : String} {rows : List Record} {keys : List (List String)}
    {e : StoreError} (failed : checkKeys table rows keys = .error e) :
    ∃ key ∈ keys, e = keyViolation table key ∧ ¬rows.Pairwise fun a b => ¬Agree key a b := by
  induction keys with
  | nil => cases failed
  | cons key keys ih =>
    have step : checkKeys table rows (key :: keys) =
        checkKey table rows key >>= fun _ => checkKeys table rows keys := rfl
    rw [step] at failed
    rcases error_of_bind failed with first | ⟨_, -, later⟩
    · exact ⟨key, List.mem_cons_self, checkKey_eq_error first⟩
    · obtain ⟨other, member, rest⟩ := ih later
      exact ⟨other, List.mem_cons_of_mem key member, rest⟩

theorem other_of_fillFields {row full : Record} {fs : List Field} {lastId : Int64} {e : StoreError}
    (failed : fillFields row fs full lastId = .error e) : ∃ text, e = .other text := by
  induction fs generalizing full lastId with
  | nil => cases failed
  | cons f fs ih =>
    rw [fillFields] at failed
    dsimp only at failed
    split at failed
    · cases failed
      exact ⟨_, rfl⟩
    · exact ih failed

theorem other_of_newRow {row : Record} {lastId : Int64} {e : StoreError}
    (failed : t.newRow row lastId = .error e) : ∃ text, e = .other text := by
  rcases error_of_bind failed with unknown | ⟨_, -, rest⟩
  · unfold checkColumns at unknown
    split at unknown
    · cases unknown
    · split at unknown
      · cases unknown
        exact ⟨_, rfl⟩
      · cases unknown
  · rcases error_of_bind rest with null | ⟨_, -, done⟩
    · exact other_of_fillFields null
    · cases done

/-- Where a row cannot be made, the error is no key's and no refusal, but one of the store's own. -/
theorem other_of_newRows {rows : List Record} {lastId : Int64} {e : StoreError}
    (failed : t.newRows rows lastId = .error e) : ∃ text, e = .other text := by
  induction rows generalizing lastId with
  | nil => cases failed
  | cons row rows ih =>
    rcases error_of_bind failed with first | ⟨_, -, rest⟩
    · exact other_of_newRow first
    · rcases error_of_bind rest with later | ⟨_, -, done⟩
      · exact ih later
      · cases done

/-- An insert gives its rows numbers in a column that go up from the counter and that no row of the
table has there, and it does not fail for a key with that column. -/
def DrawsFresh (t : Table) (name : String) (rows : List Record) (returning : List String)
    (column : String) : Prop :=
  match t.insert name rows returning with
  | .ok (t', _) => ∃ (fulls : List Record) (ks : List Int64),
    t'.rows = t.rows ++ fulls ∧ fulls.length = rows.length ∧
      fulls.map (·.getD column) = ks.map .int ∧ ks.Pairwise (· < ·) ∧
      ∀ k ∈ ks, t.lastId < k ∧ ∀ row ∈ t.rows, row.getD column ≠ .int k
  | .error e => ∀ m, e = .uniqueViolation m → ∃ key ∈ t.keys, column ∉ key ∧ e = keyViolation name key

variable {f : Field} {fulls : List Record} {ks : List Int64}

theorem Ahead.ne_of_lt (h : t.Ahead) (member : f ∈ t.fields) (auto : f.autoIncrement = true)
    {k : Int64} (above : t.lastId < k) : ∀ row ∈ t.rows, row.getD f.column ≠ .int k := by
  intro row inRows held
  have below := Int64.le_iff_toInt_le.mp (h.ahead f member auto row inRows k held)
  exact absurd (Int64.lt_iff_toInt_lt.mp above) (Int.not_lt.mpr below)

/-- No two rows agree on a key with a column in which the new rows have fresh numbers. -/
theorem Ahead.pairwise_of_fresh (h : t.Ahead) (unique : t.Unique) (member : f ∈ t.fields)
    (auto : f.autoIncrement = true) (keys : fulls.map (·.getD f.column) = ks.map Value.int)
    (rising : ks.Pairwise (· < ·)) (above : ∀ k ∈ ks, t.lastId < k) {key : List String}
    (inKeys : key ∈ t.keys) (inKey : f.column ∈ key) :
    (t.rows ++ fulls).Pairwise fun a b => ¬Agree key a b := by
  rw [List.pairwise_append]
  refine ⟨unique_iff_pairwise.mp unique key inKeys, ?_, ?_⟩
  · have distinct : (fulls.map (·.getD f.column)).Pairwise fun v w => ¬(v == w) = true := by
      rw [keys, List.pairwise_map]
      refine rising.imp ?_
      intro k k' less same
      cases Value.eq_int_of_beq same
      exact absurd (Int64.lt_iff_toInt_lt.mp less) (Int.lt_irrefl _)
    rw [List.pairwise_map] at distinct
    exact distinct.imp fun apart agree => apart (agree f.column inKey).1
  · intro a inRows b inFulls agree
    have drawn : b.getD f.column ∈ ks.map Value.int := by
      rw [← keys]
      exact List.mem_map_of_mem inFulls
    obtain ⟨k, inKs, value⟩ := List.mem_map.mp drawn
    have equal := (agree f.column inKey).1
    rw [← value] at equal
    exact h.ne_of_lt member auto (above k inKs) a inRows (Value.eq_int_of_beq equal)

theorem Ahead.drawsFresh (h : t.Ahead) (unique : t.Unique) {rows : List Record}
    (fits : t.Fits rows) (member : f ∈ t.fields)
    (auto : ∀ g ∈ t.fields, g.column = f.column → g.autoIncrement = true)
    (unset : ∀ row ∈ rows, (row.getD f.column).isUnsetKey = true) (name : String)
    (returning : List String) : t.DrawsFresh name rows returning f.column := by
  have start : 0 ≤ t.lastId.toInt := Int64.le_iff_toInt_le.mp h.nonneg
  have generated : f.autoIncrement = true := auto f member rfl
  unfold DrawsFresh
  cases result : t.insert name rows returning with
  | ok found =>
    obtain ⟨t', answers⟩ := found
    obtain ⟨fulls, lastId, made, rfl⟩ := rows_of_insert result
    obtain ⟨ks, keys, rising, above⟩ := newRows_fresh made fits member auto unset start
    refine ⟨fulls, ks, rfl, length_newRows made, keys, rising, ?_⟩
    intro k inKs
    exact ⟨above k inKs, h.ne_of_lt member generated (above k inKs)⟩
  | error e =>
    rintro m rfl
    rcases error_of_bind result with unmade | ⟨⟨fulls, lastId⟩, made, rest⟩
    · obtain ⟨text, other⟩ := other_of_newRows unmade
      cases other
    · rcases error_of_bind rest with clash | ⟨_, -, done⟩
      · obtain ⟨ks, keys, rising, above⟩ := newRows_fresh made fits member auto unset start
        obtain ⟨key, inKeys, violated, agree⟩ := checkKeys_eq_error clash
        refine ⟨key, inKeys, ?_, violated⟩
        intro inKey
        exact agree (h.pairwise_of_fresh unique member generated keys rising above inKeys inKey)
      · cases done

end Table

/-! ## Stores -/

theorem Tables.Each.ahead_of_counts {ts ts' : Tables} {α : Type} {r : Request α} {x : α}
    (h : ts.Each Table.Ahead) (answered : ts.answer r = .ok (x, ts')) (counts : ts.Counts r) :
    ts'.Each Table.Ahead := by
  have change := change_answer answered
  cases change with
  | read => exact h
  | inserted found done => exact h.set_iff.mpr ((h _ _ found).insert (counts _ found) done)
  | updated found done => exact h.set_iff.mpr (((h _ _ found).update_iff done).mpr (counts _ found))
  | deleted found done => exact h.set_iff.mpr ((h _ _ found).delete done)
  | created absent | laid absent => exact h.set_iff.mpr (Table.ahead_ofFields _)
  | dropped => exact h.erase _
  | extended found => exact h.set_iff.mpr ((h _ _ found).addFields _)
  | indexed found done =>
    obtain ⟨rfl, -⟩ := Table.addIndex_eq_ok done
    obtain ⟨nonneg, ahead⟩ := h _ _ found
    exact h.set_iff.mpr ⟨nonneg, ahead⟩
  | unindexed found =>
    obtain ⟨nonneg, ahead⟩ := h _ _ found
    exact h.set_iff.mpr ⟨nonneg, ahead⟩

/-- An update keeps the counters ahead exactly if it counts. -/
theorem Tables.Each.ahead_iff {ts ts' : Tables} {name : String} {changes : Record}
    {filters : List Predicate} {n : UInt64} (h : ts.Each Table.Ahead)
    (answered : ts.answer (.update name changes filters) = .ok (n, ts')) :
    ts'.Each Table.Ahead ↔ ts.Counts (.update name changes filters) := by
  refine ⟨?_, h.ahead_of_counts answered⟩
  intro after t found
  obtain ⟨u, t', there, done, rfl⟩ := Tables.update_of_answer answered
  rw [found] at there
  cases there
  exact ((h _ _ found).update_iff done).mp (h.set_iff.mp after)

theorem Store.Holds.ahead_along {s : Store} (h : s.Holds (Tables.Each Table.Ahead))
    {steps : List Step} (along : Step.Along Store.Counts s steps) :
    (Step.after s steps).Holds (Tables.Each Table.Ahead) := by
  refine along.induction ?_ h
  intro s st counts ahead
  refine ahead.next_of_scope Tables.each_empty ?_
  rintro α scope r ts ts' x rfl tables before answered
  exact before.ahead_of_counts answered (counts ts ts' x tables answered)

/-- In a state that steps lead to which make no counter run over and set no generated key beyond
its counter, each counter is at least every number in the columns with generated keys: in the
committed tables, in the working tables of every transaction and in those of every savepoint. An
insert that leaves such a column open then draws fresh keys for it. An update that is answered
keeps the counters ahead exactly if it sets no generated key beyond its counter. -/
theorem generated_keys_fresh {steps : List Step}
    (along : Step.Along Store.Counts (∅ : Store) steps) :
    let s : Store := Step.after ∅ steps
    s.Holds (Tables.Each Table.Ahead) ∧
      (∀ (scope : Scope) (ts : Tables) (name : String) (t : Table) (f : Field) (rows : List Record)
        (returning : List String), s.tablesOf scope = .ok ts → ts.get? name = some t →
        f ∈ t.fields → (∀ g ∈ t.fields, g.column = f.column → g.autoIncrement = true) →
        (∀ row ∈ rows, (row.getD f.column).isUnsetKey = true) → t.Fits rows →
          t.DrawsFresh name rows returning f.column) ∧
      ∀ (scope : Scope) (ts ts' : Tables) (name : String) (changes : Record)
        (filters : List Predicate) (n : UInt64), s.tablesOf scope = .ok ts →
        ts.answer (.update name changes filters) = .ok (n, ts') →
          ((Step.next s (.ask scope (.update name changes filters))).Holds (Tables.Each Table.Ahead) ↔
            ts.Counts (.update name changes filters)) := by
  intro s
  have ahead : s.Holds (Tables.Each Table.Ahead) :=
    (Store.holds_empty Tables.each_empty).ahead_along along
  refine ⟨ahead, ?_, ?_⟩
  · intro scope ts name t f rows returning tables found member auto unset fits
    have unique := ((Store.holds_empty Tables.unique_empty).unique_after steps).tablesOf tables
    exact (ahead.tablesOf tables name t found).drawsFresh (unique name t found) fits member auto
      unset name returning
  · intro scope ts ts' name changes filters n tables answered
    rw [ahead.next_iff Tables.each_empty tables answered]
    exact (ahead.tablesOf tables).ahead_iff answered

def signUp (name : String) : Request (List Record) :=
  .insert "authors" [.ofPairs [("name", .text name)]] ["id"]

def setNumber (i : Int64) : Request UInt64 := .update "authors" (.ofPairs [("id", .int i)]) []

/-- Authors that keep to the numbers below the counter leave the next one fresh. Setting a number
to the one that comes next does not. -/
theorem next_author_fresh :
    let s : Store := Step.after ∅ [.ask .direct (.createTable (Entity.info Sample.Author).schema),
      .ask .direct (signUp "Ann"), .ask .direct (setNumber 1)]
    (∃ t, s.tables.get? "authors" = some t ∧
      t.DrawsFresh "authors" [.ofPairs [("name", .text "Bob")]] ["id"] "id") ∧
    ¬(Step.next s (.ask .direct (setNumber 2))).Holds (Tables.Each Table.Ahead) := by
  intro s
  have along : Step.Along Store.Counts (∅ : Store)
      [.ask .direct (.createTable (Entity.info Sample.Author).schema),
        .ask .direct (signUp "Ann"), .ask .direct (setNumber 1)] := by
    refine ⟨fun _ _ _ _ _ => trivial, ?_, ?_, trivial⟩
    · rintro ts ts' x tables - t found
      cases tables
      cases found
      unfold Table.Fits
      decide
    · rintro ts ts' x tables - t found ⟨⟨f, inFields, auto, i, given, beyond⟩, -⟩
      cases tables
      cases found
      rcases List.mem_cons.mp inFields with rfl | inFields
      · cases given
        exact absurd beyond (by decide)
      · cases List.mem_singleton.mp inFields
        cases auto
  obtain ⟨-, fresh, kept⟩ := generated_keys_fresh along
  constructor
  · refine ⟨_, rfl, fresh .direct s.tables "authors" _ _ _ _ rfl rfl List.mem_cons_self ?_ ?_ ?_⟩
    · intro g inFields column
      rcases List.mem_cons.mp inFields with rfl | inFields
      · rfl
      · cases List.mem_singleton.mp inFields
        exact absurd column (by decide)
    · intro row member
      rw [List.mem_singleton.mp member]
      rfl
    · unfold Table.Fits
      decide
  · obtain ⟨ts, answered⟩ : ∃ ts, s.tables.answer (setNumber 2) = .ok (1, ts) := ⟨_, rfl⟩
    refine (kept .direct s.tables ts "authors" _ [] 1 rfl answered).not.mpr ?_
    intro within
    refine within _ rfl ⟨⟨_, List.mem_cons_self, rfl, 2, rfl, ?_⟩, _, List.mem_cons_self, rfl⟩
    decide

/-- The number that was set on the first author is drawn for the second one, which is refused. -/
theorem drawn_key_taken :
    let s : Store := Step.after ∅ [.ask .direct (.createTable (Entity.info Sample.Author).schema),
      .ask .direct (signUp "Ann"), .ask .direct (setNumber 2)]
    (∃ t, s.tables.get? "authors" = some t ∧ t.lastId = 1 ∧
      t.rows.map (·.getD "id") = [.int 2]) ∧
      s.tables.answer (signUp "Bob") = .error (.uniqueViolation "authors.id") := by
  exact ⟨⟨_, rfl, rfl, rfl⟩, rfl⟩

end EntityStore.Memory
