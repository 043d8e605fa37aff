import EntityStore.Text.Blank

/-!
# Comparison operators

The twelve operators of a condition, with their SQL spelling and what they take on the right.
-/

namespace EntityStore

inductive Operator where
  | eq | ne | gt | ge | lt | le | like | notLike | isIn | notIn | isNull | isNotNull
deriving DecidableEq, Repr

namespace Operator

def all : List Operator :=
  [.eq, .ne, .gt, .ge, .lt, .le, .like, .notLike, .isIn, .notIn, .isNull, .isNotNull]

def sql : Operator → String
  | .eq => "="
  | .ne => "!="
  | .gt => ">"
  | .ge => ">="
  | .lt => "<"
  | .le => "<="
  | .like => "LIKE"
  | .notLike => "NOT LIKE"
  | .isIn => "IN"
  | .notIn => "NOT IN"
  | .isNull => "IS NULL"
  | .isNotNull => "IS NOT NULL"

instance : ToString Operator := ⟨sql⟩

/-- Null tests have no right side. -/
def takesValue : Operator → Bool
  | .isNull | .isNotNull => false
  | _ => true

def takesList : Operator → Bool
  | .isIn | .notIn => true
  | _ => false

/-- The operators that a HAVING clause accepts. -/
def isComparison : Operator → Bool
  | .eq | .ne | .gt | .ge | .lt | .le => true
  | _ => false

/-- Spellings that are read besides the one that is written. -/
def synonyms : List (String × Operator) := [("==", .eq), ("<>", .ne)]

/-- Upper-case words with one blank between neighbours. -/
def normalize (s : String) : String :=
  " ".intercalate ((Text.words s.toList).map fun w => String.ofList (w.map Char.toUpper))

/-- Reads an operator in any case and with any blanks between its words. -/
def parse? (s : String) : Option Operator :=
  let spelling := normalize s
  match all.find? (·.sql = spelling) with
  | some op => some op
  | none => (synonyms.find? (·.1 = spelling)).map (·.2)

end Operator

end EntityStore
