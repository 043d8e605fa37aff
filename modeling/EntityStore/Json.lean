import EntityStore.Number.Layout

/-!
# JSON documents

A number is an integer or a double, and the two stay apart: `1` and `1.0` are different
documents. An object lists its members by ascending name, each name once.
-/

namespace EntityStore

inductive Json where
  | null
  | bool (b : Bool)
  | int (i : Int)
  | float (x : Float)
  | string (s : String)
  | array (items : List Json)
  | object (members : List (String × Json))

namespace Json

instance : Inhabited Json := ⟨.null⟩

/-! Equality of documents; doubles are compared as numbers, so `0.0` and `-0.0` agree. -/

mutual

def beq : Json → Json → Bool
  | .null, .null => true
  | .bool a, .bool b => a == b
  | .int a, .int b => a == b
  | .float a, .float b => a == b
  | .string a, .string b => a == b
  | .array a, .array b => beqItems a b
  | .object a, .object b => beqMembers a b
  | _, _ => false

def beqItems : List Json → List Json → Bool
  | [], [] => true
  | a :: as, b :: bs => beq a b && beqItems as bs
  | _, _ => false

def beqMembers : List (String × Json) → List (String × Json) → Bool
  | [], [] => true
  | (m, a) :: as, (n, b) :: bs => m == n && beq a b && beqMembers as bs
  | _, _ => false

end

instance : BEq Json := ⟨beq⟩

/-- Adds a member at its place in the order of names; a member of that name is replaced. -/
def insertMember (name : String) (value : Json) : List (String × Json) → List (String × Json)
  | [] => [(name, value)]
  | (n, v) :: ms =>
    if name < n then (name, value) :: (n, v) :: ms
    else if name = n then (name, value) :: ms
    else (n, v) :: insertMember name value ms

/-- The object with the given members; of several with one name the last counts. -/
def ofMembers (members : List (String × Json)) : Json :=
  .object (members.foldl (fun ms m => insertMember m.1 m.2 ms) [])

def member? (name : String) : Json → Option Json
  | .object ms => (ms.find? (·.1 = name)).map (·.2)
  | _ => none

end Json

end EntityStore
