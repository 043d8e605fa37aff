import EntityStore.Value
import EntityStore.Json.Reader
import EntityStore.Number.Width

/-!
# Conversion between values and Lean types

`Encode` turns a typed value into a database value and `Decode` takes it back, or says why it
does not fit. An absent optional value is null, and a list becomes a list of values.
-/

namespace EntityStore

/-- Why a value was not decoded. -/
inductive Mismatch where
  | expected (type got : String)
  /-- The integer is beyond the range of the named type, below it or above. -/
  | outOfRange (value : Int64) (type : String) (below : Bool)
  /-- The row does not carry the column. -/
  | absent
  /-- The text is not a written form of the expected type. -/
  | malformed (type : String)
  /-- The server sent a column type that has no value. -/
  | unsupportedType (type : String)
  /-- The server's bytes do not decode at the column's type. -/
  | wire (index : Nat)
  | given (text : String)
deriving DecidableEq, Repr

def Mismatch.message : Mismatch → String
  | .expected type got => "expected " ++ type ++ ", got " ++ got
  | .outOfRange i type below =>
    toString i ++ " out of range for " ++ type ++ ": number too " ++
      (if below then "small" else "large") ++ " to fit in target type"
  | .absent => "column not present in row"
  | .malformed type => "malformed " ++ type
  | .unsupportedType type => "unsupported column type " ++ type ++ "; cast it in SQL"
  | .wire index => "error deserializing column " ++ toString index
  | .given text => text

class Encode (α : Type) where
  encode : α → Value

class Decode (α : Type) where
  decode : Value → Except Mismatch α

export Encode (encode)
export Decode (decode)

def mismatch {α : Type} (type : String) (v : Value) : Except Mismatch α :=
  .error (.expected type v.typeName)

/-! ## Encoding -/

instance : Encode Bool := ⟨.bool⟩
instance : Encode Int8 := ⟨fun i => .int i.toInt64⟩
instance : Encode Int16 := ⟨fun i => .int i.toInt64⟩
instance : Encode Int32 := ⟨fun i => .int i.toInt64⟩
instance : Encode Int64 := ⟨.int⟩
instance : Encode UInt8 := ⟨fun n => .int (Int64.ofNat n.toNat)⟩
instance : Encode UInt16 := ⟨fun n => .int (Int64.ofNat n.toNat)⟩
instance : Encode UInt32 := ⟨fun n => .int (Int64.ofNat n.toNat)⟩
instance : Encode Float32 := ⟨fun x => .float (Number.widen x)⟩
instance : Encode Float := ⟨.float⟩
instance : Encode String := ⟨.text⟩
instance : Encode Json := ⟨.json⟩
instance : Encode Timestamp := ⟨.timestamp⟩
instance : Encode Uuid := ⟨.uuid⟩
instance : Encode Value := ⟨id⟩

instance {α : Type} [Encode α] : Encode (Option α) :=
  ⟨fun | none => .null | some x => encode x⟩

instance {α : Type} [Encode α] : Encode (List α) := ⟨fun xs => .list (xs.map encode)⟩

/-! ## Decoding -/

/-- Decodes an integer between `low` and `high`, the ends of the named type. -/
def decodeInt {α : Type} (type : String) (low high : Int) (ofInt : Int → α) :
    Value → Except Mismatch α
  | .int i =>
    if i.toInt < low then .error (.outOfRange i type true)
    else if high < i.toInt then .error (.outOfRange i type false)
    else .ok (ofInt i.toInt)
  | v => mismatch type v

instance : Decode Value := ⟨.ok⟩

instance : Decode Bool := ⟨fun
  | .bool b => .ok b
  | .int i => .ok (i != 0)
  | v => mismatch "bool" v⟩

instance : Decode Int8 := ⟨decodeInt "i8" Int8.minValue.toInt Int8.maxValue.toInt Int8.ofInt⟩
instance : Decode Int16 := ⟨decodeInt "i16" Int16.minValue.toInt Int16.maxValue.toInt Int16.ofInt⟩
instance : Decode Int32 := ⟨decodeInt "i32" Int32.minValue.toInt Int32.maxValue.toInt Int32.ofInt⟩
instance : Decode Int64 := ⟨decodeInt "i64" Int64.minValue.toInt Int64.maxValue.toInt Int64.ofInt⟩
instance : Decode UInt8 := ⟨decodeInt "u8" 0 (UInt8.size - 1) UInt8.ofInt⟩
instance : Decode UInt16 := ⟨decodeInt "u16" 0 (UInt16.size - 1) UInt16.ofInt⟩
instance : Decode UInt32 := ⟨decodeInt "u32" 0 (UInt32.size - 1) UInt32.ofInt⟩
instance : Decode UInt64 := ⟨decodeInt "u64" 0 (UInt64.size - 1) UInt64.ofInt⟩

instance : Decode Float := ⟨fun
  | .float x => .ok x
  | .int i => .ok (Number.ofInt64 i)
  | v => mismatch "f64" v⟩

instance : Decode Float32 := ⟨fun v => (decode v : Except Mismatch Float).map Number.narrow⟩

instance : Decode String := ⟨fun
  | .text s => .ok s
  | .uuid u => .ok u.text
  | v => mismatch "text" v⟩

instance : Decode (List UInt8) := ⟨fun
  | .bytes b => .ok b
  | v => mismatch "bytes" v⟩

/-- A text is read as a document, and null is the document `null`. -/
instance : Decode Json := ⟨fun
  | .json j => .ok j
  | .null => .ok .null
  | .text s =>
    match Json.read? s with
    | some j => .ok j
    | none => .error (.malformed "json")
  | v => mismatch "json" v⟩

instance : Decode Timestamp := ⟨fun
  | .timestamp t => .ok t
  | .text s =>
    match Timestamp.parse? s with
    | some t => .ok t
    | none => .error (.malformed "timestamp")
  | v => mismatch "timestamp" v⟩

instance : Decode Uuid := ⟨fun
  | .uuid u => .ok u
  | .text s =>
    match Uuid.parse? s with
    | some u => .ok u
    | none => .error (.malformed "uuid")
  | v => mismatch "uuid" v⟩

instance {α : Type} [Decode α] : Decode (Option α) := ⟨fun
  | .null => .ok none
  | v => (decode v).map some⟩

end EntityStore
