import EntityStore.Proofs.Column
import EntityStore.Proofs.Entity
import EntityStore.Proofs.Record

/-!
# Reading what was written to a row

The cells of an entity are written to the columns of a row and read from them. Which cells are
read depends on what the row holds in these columns alone.
-/

namespace EntityStore

namespace Cells

variable {cs : List ColumnSpec} {xs ys : Cells cs} {row answer : Record}

theorem toPairs_columns (cs : List ColumnSpec) (xs : Cells cs) :
    (toPairs cs xs).map (·.1) = cs.map (·.column) := by
  induction cs with
  | nil => rfl
  | cons c cs ih => exact congrArg (c.column :: ·) (ih xs.2)

theorem get?_toPairs_cons (c : ColumnSpec) (x : c.type.Carrier) (rest : Cells cs) (column : String) :
    (Record.ofPairs (toPairs (c :: cs) (x, rest))).get? column =
      ((Record.ofPairs (toPairs cs rest)).get? column).or
        (if c.column = column then some (Column.toValue x) else none) :=
  Record.get?_ofPairs_cons (c.column, Column.toValue x) (toPairs cs rest) column

/-- What is written back to the first cell, and then to the others. -/
theorem exists_of_apply_cons {c : ColumnSpec} {xs ys : Cells (c :: cs)}
    (applied : apply answer (c :: cs) xs = (.ok (), ys)) : ∃ (x : c.type.Carrier) (rest : Cells cs),
      (if answer.contains c.column then answer.decodeD c.column c.type.default else .ok xs.1) = .ok x ∧
      apply answer cs xs.2 = (.ok (), rest) ∧ ys = (x, rest) := by
  rw [apply] at applied
  split at applied
  · cases applied
  · rename_i x read
    obtain ⟨done, rfl⟩ := Prod.mk.inj applied
    exact ⟨x, _, read, Prod.ext done rfl, rfl⟩

/-- No cell is an option that holds an empty one. -/
def Settled (cs : List ColumnSpec) (xs : Cells cs) : Prop :=
  Each (fun c x => c.type.Settled x) cs xs

theorem settled_of_flat (flat : ∀ c ∈ cs, ∀ u, c.type ≠ .option (.option u)) (xs : Cells cs) :
    Settled cs xs := by
  induction cs with
  | nil => trivial
  | cons c cs ih =>
    have rest := ih (fun d member => flat d (List.mem_cons_of_mem c member)) xs.2
    exact ⟨ColumnType.settled_of_flat (flat c List.mem_cons_self) xs.1, rest⟩

/-- What was decoded from a column that the row carries. -/
theorem decode_of_decodeD {t : ColumnType} {column : String} {v : Value} {x default : t.Carrier}
    (held : row.get? column = some v) (read : row.decodeD column default = .ok x) :
    decode v = .ok x := by
  rw [Record.decodeD, held] at read
  exact ok_of_mapError read

theorem decodeD_of_toValue {t : ColumnType} {column : String} {x : t.Carrier}
    (settled : t.Settled x) (held : row.get? column = some (Column.toValue x))
    (default : t.Carrier) : row.decodeD column default = .ok x := by
  rw [Record.decodeD, held]
  change (decode (Column.toValue x)).mapError _ = _
  rw [ColumnType.decode_toValue settled]
  rfl

/-- Cells are written back as a row holds them, if the row holds what was written back, and the
other cells as they are. -/
theorem ofRecord_of_apply (settled : Settled cs xs)
    (given : ∀ column v, answer.get? column = some v → row.get? column = some v)
    (kept : ∀ p ∈ toPairs cs xs, answer.get? p.1 = none → row.get? p.1 = some p.2)
    (applied : apply answer cs xs = (.ok (), ys)) : ofRecord row cs = .ok ys := by
  induction cs with
  | nil => rfl
  | cons c cs ih =>
    have here : ∀ x, (if answer.contains c.column then answer.decodeD c.column c.type.default
        else .ok xs.1) = .ok x → row.decodeD c.column c.type.default = .ok x := by
      intro x read
      rw [Record.contains_eq_isSome] at read
      cases held : answer.get? c.column with
      | some v =>
        rw [held, Option.isSome_some, if_pos rfl, Record.decodeD, held] at read
        rw [Record.decodeD, given _ v held]
        exact read
      | none =>
        rw [held, Option.isSome_none, if_neg Bool.false_ne_true] at read
        cases read
        exact decodeD_of_toValue settled.1 (kept _ List.mem_cons_self held) _
    obtain ⟨x, rest, read, later, rfl⟩ := exists_of_apply_cons applied
    have same := ih settled.2 (fun p member => kept p (List.mem_cons_of_mem _ member)) later
    rw [ofRecord, here x read, same]
    rfl

/-- Of cells that a row holds the same are read. -/
theorem ofRecord_of_holds (settled : Settled cs xs)
    (held : ∀ p ∈ toPairs cs xs, row.get? p.1 = some p.2) : ofRecord row cs = .ok xs := by
  induction cs with
  | nil => rfl
  | cons c cs ih =>
    have here := decodeD_of_toValue settled.1 (held _ List.mem_cons_self) c.type.default
    have rest := ih settled.2 fun p member => held p (List.mem_cons_of_mem _ member)
    rw [ofRecord, here, rest]
    rfl

/-- Cells are read from what the row holds in their columns. -/
theorem ofRecord_congr (same : ∀ c, row.get? c = answer.get? c) : ofRecord row cs = ofRecord answer cs := by
  induction cs with
  | nil => rfl
  | cons c cs ih => rw [ofRecord, ofRecord, Record.decodeD, Record.decodeD, same, ih]

/-- Where rows tell all cells apart, no two columns have one name. -/
theorem nodup_of_injective
    (injective : ∀ xs ys : Cells cs, (∀ d, (Record.ofPairs (toPairs cs xs)).get? d =
      (Record.ofPairs (toPairs cs ys)).get? d) → xs = ys) : (cs.map (·.column)).Nodup := by
  induction cs with
  | nil => exact List.nodup_nil
  | cons c cs ih =>
    refine List.nodup_cons.mpr ⟨?_, ih ?_⟩
    · -- a later column of the same name hides this cell, so any two values of it are the same
      intro later
      obtain ⟨x, y, apart⟩ := c.type.exists_ne
      refine apart (congrArg Prod.fst (injective (x, default cs) (y, default cs) fun d => ?_))
      rw [get?_toPairs_cons, get?_toPairs_cons]
      by_cases here : c.column = d
      · subst here
        rw [← toPairs_columns cs (default cs)] at later
        obtain ⟨v, held⟩ := Record.exists_get?_ofPairs later
        rw [held, Option.some_or, Option.some_or]
      · rw [if_neg here, if_neg here]
    · intro xs ys same
      refine congrArg Prod.snd (injective (c.type.default, xs) (c.type.default, ys) fun d => ?_)
      rw [get?_toPairs_cons, get?_toPairs_cons, same]

/-- Cells that were read and cells that the row holds are the same in a column. -/
theorem get?_of_ofRecord (settled : Settled cs xs) (read : ofRecord row cs = .ok ys)
    {column : String} (held : ∀ p ∈ toPairs cs xs, p.1 = column → row.get? p.1 = some p.2) :
    (Record.ofPairs (toPairs cs ys)).get? column = (Record.ofPairs (toPairs cs xs)).get? column := by
  induction cs with
  | nil => rfl
  | cons c cs ih =>
    obtain ⟨x, here, read⟩ := exists_of_bind read
    obtain ⟨rest, later, read⟩ := exists_of_bind read
    cases read
    have same := ih settled.2 later fun p member => held p (List.mem_cons_of_mem _ member)
    obtain ⟨before, others⟩ := xs
    rw [get?_toPairs_cons, get?_toPairs_cons, same]
    by_cases named : c.column = column
    · have written := decodeD_of_toValue settled.1 (held _ List.mem_cons_self named) c.type.default
      rw [written] at here
      cases here
      rfl
    · rw [if_neg named, if_neg named]

/-- In a column the cells that were read from a row hold what the last column of its name read. -/
theorem get?_toPairs_of_ofRecord (read : ofRecord row cs = .ok xs) (column : String) :
    match cs.findRev? (·.column = column) with
    | none => (Record.ofPairs (toPairs cs xs)).get? column = none
    | some c => ∃ x : c.type.Carrier, row.decodeD column c.type.default = .ok x ∧
        (Record.ofPairs (toPairs cs xs)).get? column = some (Column.toValue x) := by
  induction cs with
  | nil => rfl
  | cons c cs ih =>
    obtain ⟨x, here, read⟩ := exists_of_bind read
    obtain ⟨rest, later, read⟩ := exists_of_bind read
    cases read
    have behind := ih later
    rw [List.findRev?, get?_toPairs_cons]
    cases found : cs.findRev? (·.column = column) with
    | some d =>
      rw [found] at behind
      obtain ⟨y, decoded, held⟩ := behind
      exact ⟨y, decoded, by rw [held, Option.some_or]⟩
    | none =>
      rw [found] at behind
      rw [behind, Option.none_or]
      by_cases named : c.column = column
      · subst named
        rw [if_pos rfl, decide_eq_true rfl]
        exact ⟨x, here, rfl⟩
      · rw [if_neg named, decide_eq_false named]
        rfl

/-- The key of cells is written to the key column. -/
theorem mem_key {key : Field} (first : (cs.map (·.field)).find? (·.primaryKey) = some key)
    (xs : Cells cs) : (key.column, Cells.key cs xs) ∈ toPairs cs xs := by
  obtain ⟨c, x, rfl, member, value⟩ := (each_mem_toPairs cs xs).key first
  rw [value]
  exact member

/-- The key of cells that were read is what the row holds in the key column. -/
theorem key_of_ofRecord {key : Field} (first : (cs.map (·.field)).find? (·.primaryKey) = some key)
    (keyed : key.type.IsKey) {v : Value} (held : row.get? key.column = some v)
    (admitted : key.type.Admits v) (some : v ≠ .null) (read : ofRecord row cs = .ok ys) :
    Cells.key cs ys = v := by
  obtain ⟨c, x, rfl, decoded, value⟩ := (each_of_ofRecord read).key first
  rw [value]
  exact c.type.toValue_of_decode keyed admitted some (decode_of_decodeD held decoded)

end Cells

namespace Layout.Item

variable {l : Layout} {Extra : Type}

/-- In columns that differ an entity's row holds each of its cells. -/
theorem get?_toRecord
    (distinct : (l.columns.map (·.column)).Nodup) (e : l.Item Extra) {p : String × Value}
    (member : p ∈ Cells.toPairs l.columns e.cells) : e.toRecord.get? p.1 = some p.2 := by
  apply Record.get?_ofPairs_of_mem ?_ member
  rwa [Cells.toPairs_columns]

/-- An entity's row has a column for each cell if no two columns have one name. -/
theorem columns_toRecord_iff (e : l.Item Extra) :
    e.toRecord.columns = l.columns.map (·.column) ↔ (l.columns.map (·.column)).Nodup := by
  constructor
  · intro same
    rw [← same]
    exact Record.nodup_columns_ofPairs _
  · intro distinct
    rw [← Cells.toPairs_columns l.columns e.cells] at distinct ⊢
    exact Record.columns_ofPairs distinct

/-- Every entity is read from its own row if no two columns have one name. -/
theorem fromRecord_toRecord_iff [Inhabited Extra]
    (flat : ∀ c ∈ l.columns, ∀ u, c.type ≠ .option (.option u)) :
    (∀ e : l.Item Extra, fromRecord e.toRecord = .ok (ofCells e.cells : l.Item Extra)) ↔
      (l.columns.map (·.column)).Nodup := by
  constructor
  · intro returns
    refine Cells.nodup_of_injective fun xs ys same => ?_
    have left : fromRecord (ofCells xs : l.Item Extra).toRecord = .ok (ofCells xs : l.Item Extra) :=
      returns _
    have right : fromRecord (ofCells ys : l.Item Extra).toRecord = .ok (ofCells ys : l.Item Extra) :=
      returns _
    have rows : ∀ d, (ofCells xs : l.Item Extra).toRecord.get? d =
        (ofCells ys : l.Item Extra).toRecord.get? d := same
    rw [fromRecord, Cells.ofRecord_congr rows] at left
    exact congrArg cells (Except.ok.inj (left.symm.trans right))
  · intro distinct e
    have read : Cells.ofRecord e.toRecord l.columns = .ok e.cells :=
      Cells.ofRecord_of_holds (Cells.settled_of_flat flat e.cells) fun _ => get?_toRecord distinct e
    rw [fromRecord, read]
    rfl

end Layout.Item

end EntityStore
