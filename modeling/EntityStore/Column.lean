import EntityStore.Schema

/-!
# Column types

The Lean types that a column can hold, with the field type, the nullability and the value
that each stands for. `ColumnType` names them, so that a table can be described by data;
`ColumnType.Carrier` is the type named.
-/

namespace EntityStore

/-- A Lean type whose values are stored in one column. -/
class Column (α : Type) where
  type : FieldType
  nullable : Bool
  toValue : α → Value

instance : Column Bool := ⟨.bool, false, encode⟩
instance : Column Int8 := ⟨.smallInt, false, encode⟩
instance : Column Int16 := ⟨.smallInt, false, encode⟩
instance : Column UInt8 := ⟨.smallInt, false, encode⟩
instance : Column Int32 := ⟨.int, false, encode⟩
instance : Column UInt16 := ⟨.int, false, encode⟩
instance : Column Int64 := ⟨.bigInt, false, encode⟩
instance : Column UInt32 := ⟨.bigInt, false, encode⟩
instance : Column Float32 := ⟨.float, false, encode⟩
instance : Column Float := ⟨.double, false, encode⟩
instance : Column String := ⟨.text, false, encode⟩
instance : Column Json := ⟨.json, false, encode⟩
instance : Column Timestamp := ⟨.timestamp, false, encode⟩
instance : Column Uuid := ⟨.uuid, false, encode⟩
instance : Column (List UInt8) := ⟨.bytes, false, .bytes⟩

instance {α : Type} [Column α] : Column (Option α) where
  type := Column.type α
  nullable := true
  toValue
    | none => .null
    | some x => Column.toValue x

def Field.of (α : Type) [Column α] (name : String) : Field :=
  { Field.ofType name (Column.type α) with nullable := Column.nullable α }

inductive ColumnType where
  | bool | int8 | int16 | uint8 | int32 | uint16 | int64 | uint32 | float32 | float64
  | text | json | timestamp | localTimestamp | uuid | bytes
  | option (type : ColumnType)
deriving DecidableEq, Repr

namespace ColumnType

abbrev Carrier : ColumnType → Type
  | .bool => Bool
  | .int8 => Int8
  | .int16 => Int16
  | .uint8 => UInt8
  | .int32 => Int32
  | .uint16 => UInt16
  | .int64 => Int64
  | .uint32 => UInt32
  | .float32 => Float32
  | .float64 => Float
  | .text => String
  | .json => Json
  | .timestamp => Timestamp
  | .localTimestamp => Timestamp
  | .uuid => Uuid
  | .bytes => List UInt8
  | .option t => Option t.Carrier

@[reducible] def column : (t : ColumnType) → Column t.Carrier
  | .bool => inferInstanceAs (Column Bool)
  | .int8 => inferInstanceAs (Column Int8)
  | .int16 => inferInstanceAs (Column Int16)
  | .uint8 => inferInstanceAs (Column UInt8)
  | .int32 => inferInstanceAs (Column Int32)
  | .uint16 => inferInstanceAs (Column UInt16)
  | .int64 => inferInstanceAs (Column Int64)
  | .uint32 => inferInstanceAs (Column UInt32)
  | .float32 => inferInstanceAs (Column Float32)
  | .float64 => inferInstanceAs (Column Float)
  | .text => inferInstanceAs (Column String)
  | .json => inferInstanceAs (Column Json)
  | .timestamp => inferInstanceAs (Column Timestamp)
  | .localTimestamp => inferInstanceAs (Column Timestamp)
  | .uuid => inferInstanceAs (Column Uuid)
  | .bytes => inferInstanceAs (Column (List UInt8))
  | .option t =>
    have := t.column
    inferInstanceAs (Column (Option t.Carrier))

instance (t : ColumnType) : Column t.Carrier := t.column

@[reducible] def decoder : (t : ColumnType) → Decode t.Carrier
  | .bool => inferInstanceAs (Decode Bool)
  | .int8 => inferInstanceAs (Decode Int8)
  | .int16 => inferInstanceAs (Decode Int16)
  | .uint8 => inferInstanceAs (Decode UInt8)
  | .int32 => inferInstanceAs (Decode Int32)
  | .uint16 => inferInstanceAs (Decode UInt16)
  | .int64 => inferInstanceAs (Decode Int64)
  | .uint32 => inferInstanceAs (Decode UInt32)
  | .float32 => inferInstanceAs (Decode Float32)
  | .float64 => inferInstanceAs (Decode Float)
  | .text => inferInstanceAs (Decode String)
  | .json => inferInstanceAs (Decode Json)
  | .timestamp => inferInstanceAs (Decode Timestamp)
  | .localTimestamp => inferInstanceAs (Decode Timestamp)
  | .uuid => inferInstanceAs (Decode Uuid)
  | .bytes => inferInstanceAs (Decode (List UInt8))
  | .option t =>
    have := t.decoder
    inferInstanceAs (Decode (Option t.Carrier))

instance (t : ColumnType) : Decode t.Carrier := t.decoder

/-- The value that a column has in an entity nobody has filled in. -/
def default : (t : ColumnType) → t.Carrier
  | .bool => false
  | .int8 => (0 : Int8)
  | .int16 => (0 : Int16)
  | .uint8 => (0 : UInt8)
  | .int32 => (0 : Int32)
  | .uint16 => (0 : UInt16)
  | .int64 => (0 : Int64)
  | .uint32 => (0 : UInt32)
  | .float32 => (0 : Float32)
  | .float64 => (0 : Float)
  | .text => ""
  | .json => Json.null
  | .timestamp => Timestamp.epoch
  | .localTimestamp => Timestamp.epoch
  | .uuid => Uuid.nil
  | .bytes => ([] : List UInt8)
  | .option _ => none

def field (name : String) (t : ColumnType) : Field := Field.of t.Carrier name

end ColumnType

end EntityStore
