import EntityStore.Json

/-!
# Tables of a TOML document

A document is a tree of tables that grows line by line. A header opens a table once; a dotted
key adds to a table that dotted keys have made; a value is never extended. The finished tree is
a value, and a value whose numbers have room is read as a JSON document.
-/

namespace EntityStore.Toml

/-! ## Values -/

inductive Value where
  | bool (b : Bool)
  | int (i : Int)
  | float (x : Float)
  /-- A number that no double is near to. -/
  | excess
  | string (s : String)
  | array (items : List Value)
  | table (members : List (String × Value))

namespace Value

/-- Integers have 128 bits, signed or unsigned. -/
def hasRoom (i : Int) : Bool :=
  -((Nat.pow 2 127 : Nat) : Int) ≤ i && i < ((Nat.pow 2 128 : Nat) : Int)

mutual

/-- The JSON document of a value; none if a number in it has no room. -/
def toJson? : Value → Option Json
  | .bool b => some (.bool b)
  | .int i => if hasRoom i then some (.int i) else none
  | .float x => some (.float x)
  | .excess => none
  | .string s => some (.string s)
  | .array items => (itemsToJson? items).map .array
  | .table members => (membersToJson? members).map .ofMembers

def itemsToJson? : List Value → Option (List Json)
  | [] => some []
  | v :: vs => do return (← toJson? v) :: (← itemsToJson? vs)

def membersToJson? : List (String × Value) → Option (List (String × Json))
  | [] => some []
  | (name, v) :: ms => do return (name, ← toJson? v) :: (← membersToJson? ms)

end

end Value

/-! ## Tables -/

inductive Origin where
  | passed
  | header
  | dotted
deriving DecidableEq, Repr

inductive Item where
  | value (v : Value)
  | table (origin : Origin) (entries : List (String × Item))
  | tables (all : List (List (String × Item)))

/-- The items of a table by key, in the order of the document. -/
abbrev Entries := List (String × Item)

namespace Entries

def get? (es : Entries) (key : String) : Option Item := (es.find? (·.1 = key)).map (·.2)

/-- Replaces the item of a key in its place, or appends it. -/
def put (es : Entries) (key : String) (item : Item) : Entries :=
  if es.any (·.1 = key) then es.map fun e => if e.1 = key then (key, item) else e
  else es ++ [(key, item)]

/-- Sets a new key, which may be dotted. Its tables may be new or made by dotted keys; those
before the last may also lie on the way to a header or be the newest of a repeated one. -/
def insert (v : Value) : List String → Entries → Option Entries
  | [], _ => none
  | [key], es => if (get? es key).isSome then none else some (put es key (.value v))
  | key :: next :: keys, es =>
    match get? es key with
    | none => (insert v (next :: keys) []).map fun inner => put es key (.table .dotted inner)
    | some (.table .dotted inner) =>
      (insert v (next :: keys) inner).map fun inner => put es key (.table .dotted inner)
    | some (.table .passed inner) =>
      if keys.isEmpty then none
      else (insert v (next :: keys) inner).map fun inner => put es key (.table .passed inner)
    | some (.tables all) =>
      if keys.isEmpty then none
      else
        (insert v (next :: keys) (all.getLastD [])).map fun inner =>
          put es key (.tables (all.dropLast ++ [inner]))
    | some _ => none

/-- What a header does with the item that its last key names. -/
abbrev Opening := Option Item → Option Item

/-- `[header]` -/
def openTable : Opening
  | none => some (.table .header [])
  | some (.table .passed es) => some (.table .header es)
  | some _ => none

/-- `[[header]]` -/
def openNext : Opening
  | none => some (.tables [[]])
  | some (.tables all) => some (.tables (all ++ [[]]))
  | some _ => none

/-- Follows the keys of a header; of a repeated header the newest table is meant. -/
def follow (opening : Opening) : List String → Entries → Option Entries
  | [], _ => none
  | [key], es => (opening (get? es key)).map (put es key)
  | key :: keys, es =>
    match get? es key with
    | none => (follow opening keys []).map fun inner => put es key (.table .passed inner)
    | some (.table origin inner) =>
      (follow opening keys inner).map fun inner => put es key (.table origin inner)
    | some (.tables all) =>
      (follow opening keys (all.getLastD [])).map fun inner =>
        put es key (.tables (all.dropLast ++ [inner]))
    | some (.value _) => none

def update (f : Entries → Option Entries) : List String → Entries → Option Entries
  | [], es => f es
  | key :: keys, es =>
    match get? es key with
    | some (.table origin inner) =>
      (update f keys inner).map fun inner => put es key (.table origin inner)
    | some (.tables all) =>
      (update f keys (all.getLastD [])).map fun inner =>
        put es key (.tables (all.dropLast ++ [inner]))
    | _ => none

end Entries

mutual

def Item.toValue : Item → Value
  | .value v => v
  | .table _ es => .table (membersOf es)
  | .tables all => .array (tablesOf all)

def membersOf : List (String × Item) → List (String × Value)
  | [] => []
  | (key, item) :: es => (key, item.toValue) :: membersOf es

def tablesOf : List (List (String × Item)) → List Value
  | [] => []
  | es :: all => .table (membersOf es) :: tablesOf all

end

end EntityStore.Toml
