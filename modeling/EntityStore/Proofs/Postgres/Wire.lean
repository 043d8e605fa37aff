import EntityStore.Postgres.Exchange
import EntityStore.Proofs.Json.RoundTrip
import EntityStore.Proofs.Uuid
import Mathlib.Algebra.Order.Ring.Int
import Mathlib.Tactic.Ring

/-!
# Values there and back

A value that was read from a column is sent, as a parameter of the column's type, in bytes from
which it is read again. The floating-point types and the decimals are left out, which round, and
`oid` is the exception: its integers are read from four bytes and sent in eight.
-/

namespace EntityStore.Postgres

/-- The bytes of the integers of a type that has signed ones. -/
def ServerType.intWidth? : ServerType → Option Nat
  | .int2 => some 2
  | .int4 => some 4
  | .int8 => some 8
  | _ => none

namespace Wire

/-! ## Numbers, most significant byte first -/

theorem length_ofNat (width n : Nat) : (ofNat width n).length = width := by
  induction width generalizing n with
  | zero => rfl
  | succ width ih => rw [ofNat, List.length_append, ih, List.length_singleton]

theorem toNat_concat (bs : Bytes) (b : UInt8) : toNat (bs ++ [b]) = toNat bs * 256 + b.toNat := by
  rw [toNat, List.foldl_append]
  rfl

theorem toNat_ofNat (width n : Nat) : toNat (ofNat width n) = n % 256 ^ width := by
  induction width generalizing n with
  | zero =>
    rw [Nat.pow_zero, Nat.mod_one]
    rfl
  | succ width ih =>
    have last : (UInt8.ofNat n).toNat = n % 256 := UInt8.toNat_ofNat'
    rw [ofNat, toNat_concat, ih, last, Nat.pow_succ', Nat.mod_mul, Nat.add_comm, Nat.mul_comm]

theorem length_ofInt (width : Nat) (i : Int) : (ofInt width i).length = width :=
  length_ofNat width _

theorem toInt_ofInt (width : Nat) (i : Int) : toInt (ofInt width i) = i.bmod (256 ^ width) := by
  have positive : (256 ^ width : Nat) ≠ (0 : Int) :=
    Int.ofNat_ne_zero.mpr (Nat.pow_pos (by decide)).ne'
  rw [toInt, length_ofInt, ofInt, toNat_ofNat]
  change (((i % (256 ^ width : Nat)).toNat % 256 ^ width : Nat) : Int).bmod (256 ^ width) = _
  rw [Int.natCast_mod, Int.toNat_of_nonneg (Int.emod_nonneg i positive), Int.emod_emod,
    Int.emod_bmod]

/-- An integer that was read from bytes is written in as many. -/
theorem toInt_ofInt_toInt (bs : Bytes) : toInt (ofInt bs.length (toInt bs)) = toInt bs := by
  rw [toInt_ofInt, toInt]
  exact Int.bmod_bmod

/-- Whether an integer has a two's complement of this many bytes. -/
def Fits (width : Nat) (i : Int) : Prop := -(256 ^ width / 2) ≤ i ∧ i < 256 ^ width / 2

instance (width : Nat) (i : Int) : Decidable (Fits width i) :=
  inferInstanceAs (Decidable (_ ∧ _))

theorem toInt_ofInt_eq_iff {width : Nat} (positive : 0 < width) (i : Int) :
    toInt (ofInt width i) = i ↔ Fits width i := by
  obtain ⟨width, rfl⟩ := Nat.exists_eq_add_one.mpr positive
  have even : (256 : Int) ^ (width + 1) = 2 * (128 * 256 ^ width) := by ring
  have low : -((256 ^ (width + 1) : Nat) / 2 : Int) ≤ i.bmod (256 ^ (width + 1)) :=
    Int.le_bmod (Nat.pow_pos (by decide))
  have high : i.bmod (256 ^ (width + 1)) < ((256 ^ (width + 1) : Nat) + 1 : Int) / 2 :=
    Int.bmod_lt (Nat.pow_pos (by decide))
  rw [toInt_ofInt, Fits]
  push_cast at low high
  constructor
  · intro same
    omega
  · intro fits
    apply Int.bmod_eq_of_le <;> push_cast <;> omega

theorem fits_toInt {bs : Bytes} (positive : 0 < bs.length) : Fits bs.length (toInt bs) :=
  (toInt_ofInt_eq_iff positive _).mp (toInt_ofInt_toInt bs)

theorem ofInt?_eq {width : Nat} (positive : 0 < width) (i : Int) :
    ofInt? width i = if Fits width i then some (ofInt width i) else none :=
  if_congr (toInt_ofInt_eq_iff positive i) rfl rfl

/-! ## Bytes of a fixed number -/

theorem length_eq_of_exactly {width : Nat} {bs taken : Bytes} (h : exactly width bs = some taken) :
    bs.length = width ∧ bs = taken := by
  obtain ⟨whole, same⟩ := Option.ite_none_right_eq_some.mp h
  exact ⟨whole, Option.some.inj same⟩

theorem exactly_of_length {width : Nat} {bs : Bytes} (h : bs.length = width) :
    exactly width bs = some bs := if_pos h

theorem exactly_of_length_ne {width : Nat} {bs : Bytes} (h : bs.length ≠ width) :
    exactly width bs = none := if_neg h

/-! ## Integers -/

theorem decode?_int {type : ServerType} {width : Nat} (h : type.intWidth? = some width)
    (bs : Bytes) :
    decode? type bs = (exactly width bs).map fun bs => .int (Int64.ofInt (toInt bs)) := by
  cases type <;> cases h <;> rfl

theorem width_bounds {type : ServerType} {width : Nat} (h : type.intWidth? = some width) :
    0 < width ∧ width ≤ 8 := by
  cases type <;> cases h <;> decide

theorem fits_eight (i : Int64) : Fits 8 i.toInt := ⟨i.le_toInt, i.toInt_lt⟩

theorem Fits.eight {width : Nat} (bound : width ≤ 8) {i : Int} (h : Fits width i) : Fits 8 i := by
  have power : (256 : Int) ^ width ≤ 256 ^ 8 := pow_le_pow_right₀ (by decide) bound
  have half : (256 : Int) ^ width / 2 ≤ 256 ^ 8 / 2 := Int.ediv_le_ediv (by decide) power
  exact ⟨le_trans (neg_le_neg half) h.1, lt_of_lt_of_le h.2 half⟩

/-- An integer is sent for an integer type in the bytes of its two's complement, if it has one. -/
theorem encode_int {type : ServerType} {width : Nat} (h : type.intWidth? = some width) (i : Int64) :
    encode type (.int i) =
      if Fits width i.toInt then some (some (ofInt width i.toInt)) else none := by
  have sent : encodeInt type i = ofInt? width i.toInt := by
    cases type <;> cases h
    case int8 => rw [ofInt?_eq (by decide), if_pos (fits_eight i)]; rfl
    all_goals rfl
  rw [encode, sent, ofInt?_eq (width_bounds h).1]
  split <;> rfl

/-- Whether a value is sent for a type in bytes from which it is read. -/
def Returns (type : ServerType) (v : Value) : Prop :=
  ∃ bs, encode type v = some (some bs) ∧ decode? type bs = some v

theorem returns_int {type : ServerType} {width : Nat} (h : type.intWidth? = some width) {i : Int64}
    (fits : Fits width i.toInt) : Returns type (.int i) := by
  refine ⟨ofInt width i.toInt, by rw [encode_int h, if_pos fits], ?_⟩
  rw [decode?_int h, exactly_of_length (length_ofInt width _), Option.map_some,
    (toInt_ofInt_eq_iff (width_bounds h).1 _).mpr fits, Int64.ofInt_toInt]

theorem returns_of_decode?_int {type : ServerType} {width : Nat} (h : type.intWidth? = some width)
    {bs : Bytes} {v : Value} (read : decode? type bs = some v) : Returns type v := by
  rw [decode?_int h] at read
  obtain ⟨taken, whole, rfl⟩ := Option.map_eq_some_iff.mp read
  obtain ⟨rfl, rfl⟩ := length_eq_of_exactly whole
  obtain ⟨positive, bound⟩ := width_bounds h
  have fits := fits_toInt positive
  have wide := fits.eight bound
  refine returns_int h ?_
  rwa [Int64.toInt_ofInt_of_le wide.1 wide.2]

/-- The bytes that are sent for `oid` are those of the integer itself, twice as many as are
read. -/
theorem encode_oid (i : Int64) :
    encode .oid (.int i) = some (some (ofInt 8 i.toInt)) ∧
      decode? .oid (ofInt 8 i.toInt) = none := by
  refine ⟨rfl, ?_⟩
  have long : (ofInt 8 i.toInt).length ≠ 4 := by
    rw [length_ofInt]
    decide
  rw [decode?, exactly_of_length_ne long]
  rfl

/-! ## Instants -/

theorem microseconds_of_instant? {m : Int} {t : Timestamp} (h : instant? m = some t) :
    microseconds t = m := by
  simp only [instant?] at h
  split at h
  · injection h with h
    have rest : 0 ≤ m.fmod 1000000 := Int.fmod_nonneg_of_pos m (by decide)
    have whole : 1000000 * m.fdiv 1000000 + m.fmod 1000000 = m := Int.mul_fdiv_add_fmod m 1000000
    have nanos : (origin + m.fdiv 1000000 - origin) * 1000000000 +
        ((m.fmod 1000000).toNat * 1000 : Nat) = m * 1000 := by omega
    rw [← h, microseconds, nanos, Int.mul_tdiv_cancel _ (by decide)]
  · contradiction

theorem returns_of_decode?_instant {type : ServerType}
    (h : type = .timestamptz ∨ type = .timestamp) {bs : Bytes} {v : Value}
    (read : decode? type bs = some v) : Returns type v := by
  have decoded (bs : Bytes) : decode? type bs =
      ((exactly 8 bs).bind fun bs => instant? (toInt bs)).map .timestamp := by
    obtain rfl | rfl := h <;> rfl
  rw [decoded] at read
  obtain ⟨t, instant, rfl⟩ := Option.map_eq_some_iff.mp read
  obtain ⟨taken, whole, instant⟩ := Option.bind_eq_some_iff.mp instant
  obtain ⟨length, rfl⟩ := length_eq_of_exactly whole
  have same : toInt (ofInt 8 (toInt bs)) = toInt bs := length ▸ toInt_ofInt_toInt bs
  refine ⟨ofInt 8 (toInt bs), by rw [encode, microseconds_of_instant? instant], ?_⟩
  rw [decoded, exactly_of_length (length_ofInt 8 _), Option.bind_some, same, instant, Option.map_some]

/-! ## Texts and documents -/

theorem toList_loop (bs : ByteArray) (i : Nat) (acc : List UInt8) :
    ByteArray.toList.loop bs i acc = acc.reverse ++ bs.data.toList.drop i := by
  fun_induction ByteArray.toList.loop bs i acc with
  | case1 i acc below ih =>
    have head : bs.data.toList.drop i = bs.get! i :: bs.data.toList.drop (i + 1) := by
      rw [List.drop_eq_getElem_cons (by simpa using below)]
      congr 1
      simp [ByteArray.get!]
      exact (getElem!_pos bs.data i below).symm
    rw [ih, List.reverse_cons, List.append_assoc, head, List.singleton_append]
  | case2 i acc past =>
    rw [List.drop_eq_nil_of_le, List.append_nil]
    simpa using past

theorem toText?_ofText (s : String) : toText? (ofText s) = some s := by
  have bytes : (⟨(ofText s).toArray⟩ : ByteArray) = s.toUTF8 := by
    rw [ofText, ByteArray.toList, toList_loop]
    rfl
  rw [toText?, bytes, String.fromUTF8?, String.toUTF8_eq_toByteArray, dif_pos s.isValidUTF8]
  rfl

theorem returns_of_decode?_text {type : ServerType} (h : type.isText) {bs : Bytes} {v : Value}
    (read : decode? type bs = some v) : Returns type v := by
  have decoded (bs : Bytes) : decode? type bs = (toText? bs).map .text := by
    cases type <;> first | contradiction | rfl
  rw [decoded] at read
  obtain ⟨s, -, rfl⟩ := Option.map_eq_some_iff.mp read
  refine ⟨ofText s, ?_, by rw [decoded, toText?_ofText, Option.map_some]⟩
  cases type <;> first | contradiction | rfl

/-- Whether every double in a value that is a document is read from its own text. -/
def IsLegible (v : Value) : Prop := ∀ j, v = .json j → ∀ x ∈ j.doubles, Json.IsLegible x

theorem decodeJson?_print {bs : Bytes} {v : Value} (read : decodeJson? bs = some v)
    (legible : IsLegible v) :
    ∃ j, v = .json j ∧ decodeJson? (ofText j.print) = some v := by
  obtain ⟨s, -, read⟩ := Option.bind_eq_some_iff.mp read
  obtain ⟨j, document, same⟩ := Option.bind_eq_some_iff.mp read
  injection same with same
  refine ⟨j, same.symm, ?_⟩
  have again := Json.read?_print_of_read? document (legible j same.symm)
  rw [decodeJson?, toText?_ofText, Option.bind_eq_bind, Option.bind_some, again, ← same]
  rfl

theorem returns_of_decode?_json {type : ServerType} (h : type = .json ∨ type = .jsonb) {bs : Bytes}
    {v : Value} (read : decode? type bs = some v) (legible : IsLegible v) : Returns type v := by
  obtain rfl | rfl := h
  · obtain ⟨j, rfl, again⟩ := decodeJson?_print read legible
    exact ⟨_, rfl, again⟩
  · rw [decode?.eq_def] at read
    simp only at read
    split at read
    · split at read
      · obtain ⟨j, rfl, again⟩ := decodeJson?_print read legible
        exact ⟨_, rfl, again⟩
      · contradiction
    · contradiction

/-! ## The other types -/

theorem returns_of_decode?_bool {bs : Bytes} {v : Value} (read : decode? .bool bs = some v) :
    Returns .bool v := by
  obtain ⟨taken, -, rfl⟩ := Option.map_eq_some_iff.mp read
  refine ⟨_, rfl, ?_⟩
  generalize decide (toNat taken ≠ 0) = b
  cases b <;> rfl

theorem returns_of_decode?_uuid {bs : Bytes} {v : Value} (read : decode? .uuid bs = some v) :
    Returns .uuid v := by
  obtain ⟨taken, -, rfl⟩ := Option.map_eq_some_iff.mp read
  have length : (Uuid.ofBytes taken).toBytes.length = 16 := by
    rw [Uuid.toBytes, List.length_map, List.length_range]
  refine ⟨_, rfl, ?_⟩
  rw [decode?, exactly_of_length length, Option.map_some, Uuid.ofBytes_toBytes]

/-! ## Cells -/

/-- The types of values that are rounded when they are read or sent. -/
def rounding : List ServerType := [.float4, .float8, .numeric]

theorem returns_of_decode? {type : ServerType} (precise : type ∉ rounding) (signed : type ≠ .oid)
    {bs : Bytes} {v : Value} (read : decode? type bs = some v) (legible : IsLegible v) :
    Returns type v := by
  cases type with
  | bool => exact returns_of_decode?_bool read
  | int2 | int4 | int8 => exact returns_of_decode?_int rfl read
  | oid => contradiction
  | float4 | float8 | numeric => exact absurd (by decide) precise
  | text | varchar | bpchar | name | unknown => exact returns_of_decode?_text rfl read
  | bytea =>
    injection read with same
    exact ⟨bs, by rw [← same]; rfl, by rw [← same]; rfl⟩
  | json => exact returns_of_decode?_json (.inl rfl) read legible
  | jsonb => exact returns_of_decode?_json (.inr rfl) read legible
  | timestamptz => exact returns_of_decode?_instant (.inl rfl) read
  | timestamp => exact returns_of_decode?_instant (.inr rfl) read
  | uuid => exact returns_of_decode?_uuid read
  | other name => contradiction

theorem decodeCell_none_iff {index : Nat} {column : String} {type : ServerType} {v : Value} :
    Exchange.decodeCell index column type none = .ok v ↔
      (∀ name, type ≠ .other name) ∧ v = .null := by
  cases type <;> simp [Exchange.decodeCell, eq_comm]

theorem decodeCell_some_iff {index : Nat} {column : String} {type : ServerType} {bs : Bytes}
    {v : Value} :
    Exchange.decodeCell index column type (some bs) = .ok v ↔ decode? type bs = some v := by
  cases type with
  | other name => exact ⟨nofun, nofun⟩
  | _ =>
    simp only [Exchange.decodeCell]
    cases decode? _ bs <;> simp

/-- A value that was read from a cell is bound, as a parameter of the cell's type, to a cell from
which it is read again, null to null; only an integer of type `oid` is not. The integers of the
other integer types are bound in the type's width if they fit, and not at all otherwise; those
of type `oid` always are, in eight bytes that are no value of the type. -/
theorem read_value_binds (type : ServerType) (precise : type ∉ rounding) :
    (∀ index column cell v, Exchange.decodeCell index column type cell = .ok v → IsLegible v →
      ∃ bound, encode type v = some bound ∧ ∀ index column,
        Exchange.decodeCell index column type bound = .ok v ↔ type ≠ .oid ∨ v = .null) ∧
    (∀ width, type.intWidth? = some width → ∀ i : Int64,
      (encode type (.int i) = none ↔ ¬Fits width i.toInt) ∧
      ∀ bound, encode type (.int i) = some bound →
        bound = some (ofInt width i.toInt) ∧ toInt (ofInt width i.toInt) = i.toInt ∧
          decode? type (ofInt width i.toInt) = some (.int i)) ∧
    (type = .oid → ∀ i : Int64,
      encode type (.int i) = some (some (ofInt 8 i.toInt)) ∧
        decode? type (ofInt 8 i.toInt) = none) := by
  refine ⟨fun index column cell v read legible => ?cells, fun width h i => ?integers, ?oid⟩
  case cells =>
    cases cell with
    | none =>
      obtain ⟨known, rfl⟩ := decodeCell_none_iff.mp read
      exact ⟨none, rfl, fun _ _ => iff_of_true (decodeCell_none_iff.mpr ⟨known, rfl⟩) (.inr rfl)⟩
    | some bs =>
      have value := decodeCell_some_iff.mp read
      by_cases signed : type = .oid
      · subst signed
        obtain ⟨taken, -, rfl⟩ := Option.map_eq_some_iff.mp value
        obtain ⟨sent, refused⟩ := encode_oid (Int64.ofNat (toNat taken))
        refine ⟨_, sent, fun _ _ => ?_⟩
        rw [decodeCell_some_iff, refused]
        simp
      · obtain ⟨sent, encoded, again⟩ := returns_of_decode? precise signed value legible
        exact ⟨some sent, encoded, fun _ _ =>
          iff_of_true (decodeCell_some_iff.mpr again) (.inl signed)⟩
  case integers =>
    rw [encode_int h]
    by_cases fits : Fits width i.toInt
    · obtain ⟨sent, encoded, again⟩ := returns_int h fits
      rw [encode_int h, if_pos fits] at encoded
      injection encoded with encoded
      injection encoded with encoded
      subst encoded
      rw [if_pos fits]
      refine ⟨by simp [fits], fun bound same => ?_⟩
      injection same with same
      exact ⟨same.symm, (toInt_ofInt_eq_iff (width_bounds h).1 _).mpr fits, again⟩
    · rw [if_neg fits]
      exact ⟨iff_of_true rfl fits, nofun⟩
  case oid =>
    rintro rfl
    exact encode_oid

theorem array_binds :
    Exchange.decodeCell 0 "ids" .jsonb (some [1, 91, 49, 93]) = .ok (.json (.array [.int 1])) ∧
      ∃ bound, encode .jsonb (.json (.array [.int 1])) = some bound ∧ ∀ index column,
        Exchange.decodeCell index column .jsonb bound = .ok (.json (.array [.int 1])) ↔
          ServerType.jsonb ≠ .oid ∨ Value.json (.array [.int 1]) = .null := by
  have read : Exchange.decodeCell 0 "ids" .jsonb (some [1, 91, 49, 93]) =
      .ok (.json (.array [.int 1])) := rfl
  refine ⟨read, (read_value_binds .jsonb (by decide)).1 0 "ids" _ _ read ?_⟩
  rintro j ⟨⟩
  simp [Json.doubles, Json.itemDoubles]

/-- The number 42 of type `oid` is read from four bytes and sent in eight. -/
theorem oid_not_read_again :
    decode? .oid [0, 0, 0, 42] = some (.int 42) ∧
      encode .oid (.int 42) = some (some [0, 0, 0, 0, 0, 0, 0, 42]) ∧
      decode? .oid [0, 0, 0, 0, 0, 0, 0, 42] = none := ⟨rfl, rfl, rfl⟩

end Wire

end EntityStore.Postgres
