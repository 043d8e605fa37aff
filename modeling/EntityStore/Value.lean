import EntityStore.Json.Printer
import EntityStore.Number.Nearest
import EntityStore.Timestamp.Rfc3339
import EntityStore.Uuid

/-!
# Database values

A value is what a column holds or what a statement binds. Comparison is SQL's: it is
undefined when a side is null, when the types do not compare, and for NaN. Integers and
doubles compare as doubles, and a UUID compares with a text by its written form.
-/

namespace EntityStore

inductive Value where
  | null
  | bool (b : Bool)
  | int (i : Int64)
  | float (x : Float)
  | text (s : String)
  | bytes (b : List UInt8)
  | json (j : Json)
  | timestamp (t : Timestamp)
  | uuid (u : Uuid)
  /-- A sequence, bound for `IN` and `NOT IN`. -/
  | list (items : List Value)

namespace Value

instance : Inhabited Value := ⟨.null⟩

/-! Equality; doubles are compared as numbers, so NaN differs from itself. -/

mutual

def beq : Value → Value → Bool
  | .null, .null => true
  | .bool a, .bool b => a == b
  | .int a, .int b => a == b
  | .float a, .float b => a == b
  | .text a, .text b => a == b
  | .bytes a, .bytes b => a == b
  | .json a, .json b => a == b
  | .timestamp a, .timestamp b => a == b
  | .uuid a, .uuid b => a == b
  | .list a, .list b => beqItems a b
  | _, _ => false

def beqItems : List Value → List Value → Bool
  | [], [] => true
  | a :: as, b :: bs => beq a b && beqItems as bs
  | _, _ => false

end

instance : BEq Value := ⟨beq⟩

def isNull : Value → Bool
  | .null => true
  | _ => false

def typeName : Value → String
  | .null => "null"
  | .bool _ => "bool"
  | .int _ => "int"
  | .float _ => "float"
  | .text _ => "text"
  | .bytes _ => "bytes"
  | .json _ => "json"
  | .timestamp _ => "timestamp"
  | .uuid _ => "uuid"
  | .list _ => "list"

/-- Whether a generated key that holds this value is still to be generated. -/
def isUnsetKey : Value → Bool
  | .null => true
  | .int i => i == 0
  | .text s => s == ""
  | .uuid u => u == Uuid.nil
  | _ => false

def compareFloat? (a b : Float) : Option Ordering :=
  if a < b then some .lt
  else if a == b then some .eq
  else if b < a then some .gt
  else none

def compare? : Value → Value → Option Ordering
  | .bool a, .bool b => some (compare a b)
  | .int a, .int b => some (compare a b)
  | .float a, .float b => compareFloat? a b
  | .int a, .float b => compareFloat? (Number.ofInt64 a) b
  | .float a, .int b => compareFloat? a (Number.ofInt64 b)
  | .text a, .text b => some (compare a b)
  | .bytes a, .bytes b => some (compare a b)
  | .timestamp a, .timestamp b => some (compare a b)
  | .uuid a, .uuid b => some (compare a b)
  | .uuid a, .text b => some (compare a.text b)
  | .text a, .uuid b => some (compare a b.text)
  | .json a, .json b => if a == b then some .eq else none
  | _, _ => none

/-! Text of values as shown to people; a list stands in parentheses. -/

mutual

def display : Value → String
  | .null => "NULL"
  | .bool b => if b then "true" else "false"
  | .int i => toString i
  | .float x => Number.display x
  | .text s => "'" ++ s ++ "'"
  | .bytes b => "<" ++ toString b.length ++ " bytes>"
  | .json j => j.print
  | .timestamp t => t.toRfc3339
  | .uuid u => u.text
  | .list items => "(" ++ ", ".intercalate (displayItems items) ++ ")"

def displayItems : List Value → List String
  | [] => []
  | v :: vs => display v :: displayItems vs

end

end Value

end EntityStore
