import EntityStore.Column
import EntityStore.Proofs.Number.Width
import EntityStore.Proofs.Repository.KeyColumn

/-!
# Reading what was written to a column

A column's value is decoded to what was encoded, unless it is an option that holds an empty one:
both of them are written as null. Of a key the converse holds as well, that what was decoded is
encoded to the value that was there.
-/

namespace EntityStore

/-- No option holds what is written as null, which an empty option is. -/
def ColumnType.Settled : (t : ColumnType) → t.Carrier → Prop
  | .option _, some x => Column.toValue x ≠ .null
  | _, _ => True

section

variable {α : Type} {type : String} {low high : Int} {ofInt : Int → α} {toInt64 : α → Int64}

theorem decodeInt_of_mem {i : Int64} (above : low ≤ i.toInt) (below : i.toInt ≤ high) :
    decodeInt type low high ofInt (.int i) = .ok (ofInt i.toInt) := by
  rw [decodeInt, if_neg (by omega), if_neg (by omega)]

theorem mem_of_decodeInt {v : Value} {x : α} (read : decodeInt type low high ofInt v = .ok x) :
    ∃ i, v = .int i ∧ low ≤ i.toInt ∧ i.toInt ≤ high ∧ x = ofInt i.toInt := by
  cases v with
  | int i =>
    rw [decodeInt] at read
    split at read
    · cases read
    · split at read
      · cases read
      · cases read
        refine ⟨i, rfl, by omega, by omega, rfl⟩
  | _ => cases read

/-- The integers of a type are those of a range. -/
structure Spans (low high : Int) (ofInt : Int → α) (toInt64 : α → Int64) : Prop where
  above : ∀ x, low ≤ (toInt64 x).toInt
  below : ∀ x, (toInt64 x).toInt ≤ high
  ofInt_toInt : ∀ x, ofInt (toInt64 x).toInt = x
  toInt_ofInt : ∀ n, low ≤ n → n ≤ high → (toInt64 (ofInt n)).toInt = n

theorem Spans.of_toInt (toInt : α → Int) (widened : ∀ x, (toInt64 x).toInt = toInt x)
    (above : ∀ x, low ≤ toInt x) (below : ∀ x, toInt x ≤ high) (back : ∀ x, ofInt (toInt x) = x)
    (there : ∀ n, low ≤ n → n ≤ high → toInt (ofInt n) = n) : Spans low high ofInt toInt64 := by
  constructor
  · simpa [widened] using above
  · simpa [widened] using below
  · simpa [widened] using back
  · simpa [widened] using there

/-- Unsigned integers wrap around at the size of their type. -/
theorem Spans.of_toNat {size : Nat} (toNat : α → Nat) (ofNat : Nat → α) (small : size < 2 ^ 63)
    (bounded : ∀ x, toNat x < size) (wraps : ∀ n, ofInt n = ofNat (n % size).toNat)
    (back : ∀ x, ofNat (toNat x) = x) (there : ∀ k, k < size → toNat (ofNat k) = k) :
    Spans 0 (size - 1) ofInt fun x => Int64.ofNat (toNat x) := by
  refine .of_toInt (fun x => (toNat x : Int)) ?_ ?_ ?_ ?_ ?_
  · intro x
    exact Int64.toInt_ofNat_of_lt ((bounded x).trans small)
  · intro x
    exact Int.natCast_nonneg _
  · intro x
    have within := bounded x
    omega
  · intro x
    have same : ((toNat x : Int) % size).toNat = toNat x := by
      rw [← Int.natCast_emod, Int.toNat_natCast, Nat.mod_eq_of_lt (bounded x)]
    rw [wraps, same, back]
  · intro n above below
    have same : n % size = n := Int.emod_eq_of_lt above (by omega)
    rw [wraps, same, there _ (by omega), Int.toNat_of_nonneg above]

theorem Spans.decode (spans : Spans low high ofInt toInt64) (x : α) :
    decodeInt type low high ofInt (.int (toInt64 x)) = .ok x := by
  rw [decodeInt_of_mem (spans.above x) (spans.below x), spans.ofInt_toInt]

theorem Spans.encode (spans : Spans low high ofInt toInt64) {v : Value} {x : α}
    (read : decodeInt type low high ofInt v = .ok x) : .int (toInt64 x) = v := by
  obtain ⟨i, rfl, above, below, rfl⟩ := mem_of_decodeInt read
  exact congrArg Value.int (Int64.toInt.inj (spans.toInt_ofInt i.toInt above below))

end

theorem spans_int8 : Spans Int8.minValue.toInt Int8.maxValue.toInt Int8.ofInt Int8.toInt64 :=
  .of_toInt Int8.toInt Int8.toInt_toInt64 Int8.minValue_le_toInt Int8.toInt_le (fun x => x.ofInt_toInt)
    fun _ above below => Int8.toInt_ofInt_of_le above (Int.lt_add_one_of_le below)

theorem spans_int16 : Spans Int16.minValue.toInt Int16.maxValue.toInt Int16.ofInt Int16.toInt64 :=
  .of_toInt Int16.toInt Int16.toInt_toInt64 Int16.minValue_le_toInt Int16.toInt_le (fun x => x.ofInt_toInt)
    fun _ above below => Int16.toInt_ofInt_of_le above (Int.lt_add_one_of_le below)

theorem spans_int32 : Spans Int32.minValue.toInt Int32.maxValue.toInt Int32.ofInt Int32.toInt64 :=
  .of_toInt Int32.toInt Int32.toInt_toInt64 Int32.minValue_le_toInt Int32.toInt_le (fun x => x.ofInt_toInt)
    fun _ above below => Int32.toInt_ofInt_of_le above (Int.lt_add_one_of_le below)

theorem spans_int64 : Spans Int64.minValue.toInt Int64.maxValue.toInt Int64.ofInt id :=
  .of_toInt Int64.toInt (fun _ => rfl) Int64.minValue_le_toInt Int64.toInt_le (fun x => x.ofInt_toInt)
    fun _ above below => Int64.toInt_ofInt_of_le above (Int.lt_add_one_of_le below)

theorem spans_uint8 : Spans 0 (UInt8.size - 1) UInt8.ofInt fun x => Int64.ofNat x.toNat :=
  .of_toNat UInt8.toNat UInt8.ofNat (by decide) UInt8.toNat_lt (fun _ => rfl)
    (fun _ => UInt8.ofNat_toNat) fun _ => UInt8.toNat_ofNat_of_lt'

theorem spans_uint16 : Spans 0 (UInt16.size - 1) UInt16.ofInt fun x => Int64.ofNat x.toNat :=
  .of_toNat UInt16.toNat UInt16.ofNat (by decide) UInt16.toNat_lt (fun _ => rfl)
    (fun _ => UInt16.ofNat_toNat) fun _ => UInt16.toNat_ofNat_of_lt'

theorem spans_uint32 : Spans 0 (UInt32.size - 1) UInt32.ofInt fun x => Int64.ofNat x.toNat :=
  .of_toNat UInt32.toNat UInt32.ofNat (by decide) UInt32.toNat_lt (fun _ => rfl)
    (fun _ => UInt32.ofNat_toNat) fun _ => UInt32.toNat_ofNat_of_lt'

namespace ColumnType

/-- An option of anything but another option is settled. -/
theorem settled_some {t : ColumnType} (plain : ∀ u, t ≠ .option u) (x : t.Carrier) :
    (option t).Settled (some x) := by
  intro none
  cases t with
  | option u => exact plain u rfl
  | _ => cases none

/-- Only an option of an option may hold an empty one. -/
theorem settled_of_flat {t : ColumnType} (flat : ∀ u, t ≠ .option (.option u)) (x : t.Carrier) :
    t.Settled x := by
  cases t with
  | option t =>
    cases x with
    | none => trivial
    | some y => exact settled_some (fun u same => flat u (congrArg option same)) y
  | _ => trivial

/-- Every type has values that differ. -/
theorem exists_ne (t : ColumnType) : ∃ x y : t.Carrier, x ≠ y := by
  cases t with
  | bool => exact ⟨true, false, by decide⟩
  | int8 => exact ⟨(0 : Int8), (1 : Int8), by decide⟩
  | int16 => exact ⟨(0 : Int16), (1 : Int16), by decide⟩
  | uint8 => exact ⟨(0 : UInt8), (1 : UInt8), by decide⟩
  | int32 => exact ⟨(0 : Int32), (1 : Int32), by decide⟩
  | uint16 => exact ⟨(0 : UInt16), (1 : UInt16), by decide⟩
  | int64 => exact ⟨(0 : Int64), (1 : Int64), by decide⟩
  | uint32 => exact ⟨(0 : UInt32), (1 : UInt32), by decide⟩
  | float32 => exact ⟨(0 : Float32), (1 : Float32), by decide⟩
  | float64 => exact ⟨(0 : Float), (1 : Float), by decide⟩
  | text => exact ⟨"", "a", by decide⟩
  | json => exact ⟨Json.null, Json.bool true, nofun⟩
  | timestamp => exact ⟨Timestamp.epoch, (⟨1, 0⟩ : Timestamp), by decide⟩
  | localTimestamp => exact ⟨Timestamp.epoch, (⟨1, 0⟩ : Timestamp), by decide⟩
  | uuid => exact ⟨Uuid.nil, (⟨1⟩ : Uuid), by decide⟩
  | bytes => exact ⟨([] : List UInt8), ([0] : List UInt8), nofun⟩
  | option u => exact ⟨none, some u.default, nofun⟩

theorem settled_of_ne_null {t : ColumnType} {x : t.Carrier} (held : Column.toValue x ≠ .null) :
    t.Settled x := by
  cases t with
  | option u =>
    cases x with
    | none => trivial
    | some y => exact held
  | _ => trivial

theorem decode_option {t : ColumnType} {v : Value} (held : v ≠ .null) :
    (decode v : Except Mismatch (Option t.Carrier)) = (decode v).map some := by
  cases v with
  | null => exact absurd rfl held
  | _ => rfl

/-- What was encoded for a column is decoded to what it was. -/
theorem decode_toValue {t : ColumnType} {x : t.Carrier} (settled : t.Settled x) :
    decode (Column.toValue x) = .ok x := by
  induction t with
  | option t ih =>
    cases x with
    | none => rfl
    | some x =>
      have inner : decode (Column.toValue x) = .ok x := ih (settled_of_ne_null settled)
      change (decode (Column.toValue x) : Except Mismatch (Option t.Carrier)) = _
      rw [decode_option settled, inner]
      rfl
  | int8 => exact spans_int8.decode x
  | int16 => exact spans_int16.decode x
  | int32 => exact spans_int32.decode x
  | int64 => exact spans_int64.decode x
  | uint8 => exact spans_uint8.decode x
  | uint16 => exact spans_uint16.decode x
  | uint32 => exact spans_uint32.decode x
  | float32 => exact congrArg Except.ok (Number.narrow_widen x)
  | _ => rfl

/-- What was decoded from a key column is encoded to what was there. -/
theorem toValue_of_decode {t : ColumnType} (keyed : (Column.type t.Carrier).IsKey) {v : Value}
    (admitted : (Column.type t.Carrier).Admits v) (held : v ≠ .null) {x : t.Carrier}
    (read : decode v = .ok x) : Column.toValue x = v := by
  induction t with
  | option t ih =>
    change (decode v : Except Mismatch (Option t.Carrier)) = .ok x at read
    rw [decode_option held] at read
    obtain ⟨y, inner, rfl⟩ := exists_of_map read
    exact ih keyed admitted inner
  | int8 => exact spans_int8.encode read
  | int16 => exact spans_int16.encode read
  | int32 => exact spans_int32.encode read
  | int64 => exact spans_int64.encode read
  | uint8 => exact spans_uint8.encode read
  | uint16 => exact spans_uint16.encode read
  | uint32 => exact spans_uint32.encode read
  | text =>
    rcases FieldType.of_admits admitted with rfl | ⟨i, rfl⟩ | ⟨-, s, rfl⟩ | ⟨other, -⟩
    · exact absurd rfl held
    · cases read
    · cases read
      rfl
    · cases other
  | uuid =>
    rcases FieldType.of_admits admitted with rfl | ⟨i, rfl⟩ | ⟨other, -⟩ | ⟨-, u, rfl⟩
    · exact absurd rfl held
    · cases read
    · cases other
    · cases read
      rfl
  | _ =>
    rcases keyed with integer | text | uuid
    · cases integer
    · cases text
    · cases uuid

end ColumnType

end EntityStore
