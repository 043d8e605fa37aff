import EntityStore.Proofs.Column

/-!
# Values that enter and leave

A typed value enters a database value by `encode`, from a column by `Column.toValue`, and leaves by
`decode`. It leaves as it entered, alone or as an option, unless it is bytes: a list enters as the
list of its items, bytes as a list of integers, and from such a list no bytes are decoded.
-/

namespace EntityStore

@[reducible] def ColumnType.encoder : (t : ColumnType) → Encode t.Carrier
  | .bool => inferInstanceAs (Encode Bool)
  | .int8 => inferInstanceAs (Encode Int8)
  | .int16 => inferInstanceAs (Encode Int16)
  | .uint8 => inferInstanceAs (Encode UInt8)
  | .int32 => inferInstanceAs (Encode Int32)
  | .uint16 => inferInstanceAs (Encode UInt16)
  | .int64 => inferInstanceAs (Encode Int64)
  | .uint32 => inferInstanceAs (Encode UInt32)
  | .float32 => inferInstanceAs (Encode Float32)
  | .float64 => inferInstanceAs (Encode Float)
  | .text => inferInstanceAs (Encode String)
  | .json => inferInstanceAs (Encode Json)
  | .timestamp => inferInstanceAs (Encode Timestamp)
  | .localTimestamp => inferInstanceAs (Encode Timestamp)
  | .uuid => inferInstanceAs (Encode Uuid)
  | .bytes => inferInstanceAs (Encode (List UInt8))
  | .option t =>
    have := t.encoder
    inferInstanceAs (Encode (Option t.Carrier))

instance (t : ColumnType) : Encode t.Carrier := t.encoder

namespace ColumnType

variable {t : ColumnType}

/-- No list is taken for bytes. -/
theorem decode_list_bytes (items : List Value) :
    decode (.list items) = (.error (.expected "bytes" "list") : Except Mismatch (List UInt8)) := rfl

/-- A column writes what enters, apart from bytes, which it writes as bytes. -/
theorem toValue_eq_encode (scalar : ∀ u, t ≠ .option u) (x : t.Carrier) :
    Column.toValue x = encode x ↔ t ≠ .bytes := by
  cases t with
  | option u => exact absurd rfl (scalar u)
  | bytes =>
    constructor
    · intro same
      cases same
    · intro other
      exact absurd rfl other
  | _ => exact ⟨fun _ => nofun, fun _ => rfl⟩

theorem decode_encode (scalar : ∀ u, t ≠ .option u) (x : t.Carrier) :
    decode (encode x) = .ok x ↔ t ≠ .bytes := by
  constructor
  · rintro back rfl
    cases back
  · intro other
    rw [← (toValue_eq_encode scalar x).mpr other]
    exact decode_toValue (settled_of_flat (fun u => scalar (.option u)) x)

/-- A scalar does not enter as null. -/
theorem encode_ne_null (scalar : ∀ u, t ≠ .option u) (x : t.Carrier) : encode x ≠ .null := by
  cases t with
  | option u => exact absurd rfl (scalar u)
  | _ => exact nofun

theorem decode_encode_some (scalar : ∀ u, t ≠ .option u) (x : t.Carrier) :
    decode (encode (some x)) = .ok (some x) ↔ decode (encode x) = .ok x := by
  change (decode (encode x) : Except Mismatch (Option t.Carrier)) = _ ↔ _
  rw [decode_option (encode_ne_null scalar x)]
  cases (decode (encode x) : Except Mismatch t.Carrier) with
  | error e => exact ⟨nofun, nofun⟩
  | ok y => simp [Except.map]

/-- Values of a column's type leave as they entered, as scalars and as options, and the column writes
them as they enter, with the exception of bytes and of no other type. -/
theorem values_leave_as_entered (scalar : ∀ u, t ≠ .option u) (x : t.Carrier) (o : Option t.Carrier) :
    (decode (encode x) = .ok x ↔ t ≠ .bytes) ∧
      (decode (encode o) = .ok o ↔ t ≠ .bytes ∨ o = none) ∧
      (Column.toValue x = encode x ↔ t ≠ .bytes) ∧
      (Column.toValue o = encode o ↔ t ≠ .bytes ∨ o = none) ∧
      decode (Column.toValue x) = .ok x ∧ decode (Column.toValue o) = .ok o := by
  have alone : t.Settled x := settled_of_flat (fun u => scalar (.option u)) x
  have optional : (option t).Settled o :=
    settled_of_flat (fun u same => scalar u (option.inj same)) o
  refine ⟨decode_encode scalar x, ?_, toValue_eq_encode scalar x, ?_,
    decode_toValue alone, decode_toValue (t := option t) optional⟩
  · cases o with
    | none => exact ⟨fun _ => .inr rfl, fun _ => rfl⟩
    | some y =>
      rw [decode_encode_some scalar, decode_encode scalar]
      exact ⟨.inl, fun other => other.resolve_right nofun⟩
  · cases o with
    | none => exact ⟨fun _ => .inr rfl, fun _ => rfl⟩
    | some y =>
      change Column.toValue y = encode y ↔ _
      rw [toValue_eq_encode scalar]
      exact ⟨.inl, fun other => other.resolve_right nofun⟩

/-- An optional document that is `null` is not taken for a missing one. -/
theorem null_document_leaves : (∀ u, ColumnType.json ≠ .option u) ∧
    decode (encode (some Json.null)) = .ok (some Json.null) ∧
    Column.toValue (some Json.null) = encode (some Json.null) :=
  have leaves := values_leave_as_entered (t := .json) nofun Json.null (some Json.null)
  ⟨nofun, leaves.2.1.mpr (.inl nofun), leaves.2.2.2.1.mpr (.inl nofun)⟩

/-- Two bytes enter as two integers, which are not decoded, and a column writes something else. -/
theorem bytes_enter_as_integers :
    encode ([255, 255] : List UInt8) = .list [.int 255, .int 255] ∧
      decode (encode ([255, 255] : List UInt8)) =
        (.error (.expected "bytes" "list") : Except Mismatch (List UInt8)) ∧
      Column.toValue ([255, 255] : List UInt8) = .bytes [255, 255] :=
  ⟨rfl, decode_list_bytes _, rfl⟩

end ColumnType

end EntityStore
