import EntityStore.Json.Reader
import EntityStore.Number.Width
import EntityStore.Postgres.Numeric
import EntityStore.Value

/-!
# The binary format of values

The server sends a column's value, and takes a parameter's, in the binary format of its type.
A parameter whose value is of another kind than its type is sent in the value's own format,
for the server to refuse.
-/

namespace EntityStore.Postgres

/-- A type of the server. -/
inductive ServerType where
  | bool | int2 | int4 | int8 | oid | float4 | float8 | numeric
  | text | varchar | bpchar | name | unknown
  | bytea | json | jsonb | timestamptz | timestamp | uuid
  | other (name : String)
deriving DecidableEq, Repr

namespace ServerType

def named : List (String × ServerType) :=
  [("bool", .bool), ("int2", .int2), ("int4", .int4), ("int8", .int8), ("oid", .oid),
    ("float4", .float4), ("float8", .float8), ("numeric", .numeric), ("text", .text),
    ("varchar", .varchar), ("bpchar", .bpchar), ("name", .name), ("unknown", .unknown),
    ("bytea", .bytea), ("json", .json), ("jsonb", .jsonb), ("timestamptz", .timestamptz),
    ("timestamp", .timestamp), ("uuid", .uuid)]

def ofName (s : String) : ServerType := (named.lookup s).getD (.other s)

def isText : ServerType → Bool
  | .text | .varchar | .bpchar | .name | .unknown => true
  | _ => false

end ServerType

namespace Wire

abbrev Bytes := List UInt8

/-! ## Numbers, most significant byte first -/

def ofNat : Nat → Nat → Bytes
  | 0, _ => []
  | width + 1, n => ofNat width (n / 256) ++ [UInt8.ofNat n]

def toNat (bs : Bytes) : Nat := bs.foldl (fun n b => n * 256 + b.toNat) 0

def ofInt (width : Nat) (i : Int) : Bytes := ofNat width (i % (Nat.pow 256 width : Nat)).toNat

def toInt (bs : Bytes) : Int := (toNat bs : Int).bmod (Nat.pow 256 bs.length)

/-- The integer, if it fits the width. -/
def ofInt? (width : Nat) (i : Int) : Option Bytes :=
  let bs := ofInt width i
  if toInt bs = i then some bs else none

/-! ## Instants -/

/-- The first second of the year 2000, from which the server counts. -/
def origin : Int := (Date.toDays ⟨2000, 1, 1⟩) * Timestamp.secondsPerDay

/-- The years that an instant may lie in. -/
def firstYear : Int := -262143

def lastYear : Int := 262142

/-- Microseconds since the origin; a part of a microsecond is dropped toward it. -/
def microseconds (t : Timestamp) : Int :=
  ((t.seconds - origin) * 1000000000 + t.nanos).tdiv 1000

def instant? (micros : Int) : Option Timestamp :=
  let t : Timestamp := ⟨origin + micros.fdiv 1000000, (micros.fmod 1000000).toNat * 1000⟩
  if firstYear ≤ t.date.year ∧ t.date.year ≤ lastYear then some t else none

/-! ## Decimals -/

/-- The sign of a negative number. -/
def negativeSign : Nat := 0x4000

/-- Signs from here on stand for what is no number. -/
def specialSign : Nat := 0xC000

/-- A number as it is sent; zero has no groups and no places. -/
def ofNumeric (n : Numeric) : Bytes :=
  let header (count : Nat) (weight : Int) (sign scale : Nat) : Bytes :=
    ofNat 2 count ++ ofInt 2 weight ++ ofNat 2 sign ++ ofNat 2 scale
  if n.digits = 0 then header 0 0 0 0
  else
    header n.sentGroups.length n.weight (if n.negative then negativeSign else 0) n.scale ++
      n.sentGroups.flatMap (ofNat 2)

/-- The first `n` numbers of two bytes each. -/
def takeWords : Nat → Bytes → Option (List Nat)
  | 0, _ => some []
  | n + 1, a :: b :: bs => (takeWords n bs).map (toNat [a, b] :: ·)
  | _ + 1, _ => none

def toNumeric? (bs : Bytes) : Option Numeric := do
  let header ← takeWords 4 bs
  let sign := header.getD 2 0
  if sign < specialSign then
    let groups ← takeWords (header.getD 0 0) (bs.drop 8)
    Numeric.ofGroups? (sign = negativeSign) (toInt ((bs.drop 2).take 2)) (header.getD 3 0) groups
  else none

/-! ## Values -/

def ofText (s : String) : Bytes := s.toUTF8.toList

def toText? (bs : Bytes) : Option String := String.fromUTF8? ⟨bs.toArray⟩

/-- The version of the format of `jsonb`, which stands before the document. -/
def jsonbVersion : UInt8 := 1

/-- The bytes of an integer that is sent for a type. -/
def encodeInt (type : ServerType) (i : Int64) : Option Bytes :=
  match type with
  | .int2 => ofInt? 2 i.toInt
  | .int4 => ofInt? 4 i.toInt
  | .float4 => some (ofNat 4 i.toFloat32.toBits.toNat)
  | .float8 => some (ofNat 8 (Number.ofInt64 i).toBits.toNat)
  | .numeric => some (ofNumeric (.ofInt i.toInt))
  | _ => some (ofInt 8 i.toInt)

def encodeFloat (type : ServerType) (x : Float) : Option Bytes :=
  match type with
  | .float4 => some (ofNat 4 (Number.narrow x).toBits.toNat)
  | .numeric => (Numeric.ofFloat? x).map ofNumeric
  | _ => some (ofNat 8 x.toBits.toNat)

def encodeText (type : ServerType) (s : String) : Option Bytes :=
  match type with
  | .uuid => (Uuid.parse? s).map Uuid.toBytes
  | .numeric => (Numeric.parse? s).map ofNumeric
  | _ => some (ofText s)

/-- A parameter as it is sent; null has no bytes. None if the value does not fit. -/
def encode (type : ServerType) : Value → Option (Option Bytes)
  | .null => some none
  | .bool b => some (some [if b then 1 else 0])
  | .int i => (encodeInt type i).map some
  | .float x => (encodeFloat type x).map some
  | .text s => (encodeText type s).map some
  | .bytes bs => some (some bs)
  | .json j => some (some ((if type = .jsonb then [jsonbVersion] else []) ++ ofText j.print))
  | .timestamp t => some (some (ofInt 8 (microseconds t)))
  | .uuid u => some (some u.toBytes)
  | .list _ => none

/-- The bytes, if there are as many as a value of the type takes. -/
def exactly (width : Nat) (bs : Bytes) : Option Bytes := if bs.length = width then some bs else none

def decodeJson? (bs : Bytes) : Option Value := do
  let j ← Json.read? (← toText? bs)
  return .json j

/-- The value that bytes denote at a type; none for bytes that are no value of the type, and
for the types that have no values here. -/
def decode? (type : ServerType) (bs : Bytes) : Option Value :=
  let int (width : Nat) := (exactly width bs).map fun bs => Value.int (Int64.ofInt (toInt bs))
  match type with
  | .bool => (exactly 1 bs).map fun bs => .bool (toNat bs ≠ 0)
  | .int2 => int 2
  | .int4 => int 4
  | .int8 => int 8
  | .oid => (exactly 4 bs).map fun bs => .int (Int64.ofNat (toNat bs))
  | .float4 =>
    (exactly 4 bs).map fun bs => .float (Number.widen (Float32.ofBits (toNat bs).toUInt32))
  | .float8 => (exactly 8 bs).map fun bs => .float (Float.ofBits (toNat bs).toUInt64)
  | .numeric => (toNumeric? bs).map fun n => .float n.toFloat
  | .text | .varchar | .bpchar | .name | .unknown => (toText? bs).map .text
  | .bytea => some (.bytes bs)
  | .json => decodeJson? bs
  | .jsonb =>
    match bs with
    | v :: bs => if v = jsonbVersion then decodeJson? bs else none
    | [] => none
  | .timestamptz | .timestamp =>
    ((exactly 8 bs).bind fun bs => instant? (toInt bs)).map .timestamp
  | .uuid => (exactly 16 bs).map fun bs => .uuid (.ofBytes bs)
  | .other _ => none

end Wire

end EntityStore.Postgres
