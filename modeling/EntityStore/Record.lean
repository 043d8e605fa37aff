import EntityStore.Error

/-!
# Records

A record is a row: columns in the order in which they were first set, each with its value.
No column occurs twice.
-/

namespace EntityStore

structure Record where
  entries : List (String × Value)

namespace Record

def empty : Record := ⟨[]⟩

instance : Inhabited Record := ⟨empty⟩

instance : EmptyCollection Record := ⟨empty⟩

def columns (r : Record) : List String := r.entries.map (·.1)

def values (r : Record) : List Value := r.entries.map (·.2)

def size (r : Record) : Nat := r.entries.length

def isEmpty (r : Record) : Bool := r.entries.isEmpty

instance : BEq Record := ⟨fun a b => a.columns == b.columns && a.values == b.values⟩

def get? (r : Record) (column : String) : Option Value :=
  (r.entries.find? (·.1 = column)).map (·.2)

/-- The value of a column, null when the row does not carry it. -/
def getD (r : Record) (column : String) : Value := (r.get? column).getD .null

def contains (r : Record) (column : String) : Bool := r.entries.any (·.1 = column)

/-- Replaces the value of a column in its place, or appends the column. -/
def set (r : Record) (column : String) (value : Value) : Record :=
  if r.contains column then
    ⟨r.entries.map fun e => if e.1 = column then (column, value) else e⟩
  else ⟨r.entries ++ [(column, value)]⟩

def remove (r : Record) (column : String) : Record :=
  ⟨r.entries.filter (·.1 ≠ column)⟩

def setAll (r : Record) (pairs : List (String × Value)) : Record :=
  pairs.foldl (fun r p => r.set p.1 p.2) r

def ofPairs (pairs : List (String × Value)) : Record := empty.setAll pairs

/-- The named columns that are present, in the order in which they are named first. -/
def project (r : Record) (columns : List String) : Record :=
  ofPairs (columns.filterMap fun c => (r.get? c).map (c, ·))

/-- Decodes a value, naming the column in the error. -/
def decodeAt {α : Type} [Decode α] (column : String) (v : Value) : Except StoreError α :=
  (decode v).mapError (.decode column)

def decode? (α : Type) [Decode α] (r : Record) (column : String) : Except StoreError α :=
  match r.get? column with
  | some v => decodeAt column v
  | none => .error (.decode column .absent)

/-- Decodes a column, or yields the default when the row does not carry it, as rows of a
restricted projection do. -/
def decodeD {α : Type} [Decode α] (r : Record) (column : String) (default : α) :
    Except StoreError α :=
  match r.get? column with
  | some v => decodeAt column v
  | none => .ok default

end Record

end EntityStore
