import EntityStore.Predicate
import EntityStore.Record

/-!
# Matching rows

Whether a row satisfies a predicate. A comparison is three-valued as in SQL; here "unknown"
counts as "does not match".
-/

namespace EntityStore.Memory

/-! ## LIKE -/

/-- One element of a LIKE pattern. -/
inductive Wildcard where
  /-- Any run of characters, none included. -/
  | anyRun
  | anyOne
  | literal (c : Char)
deriving DecidableEq, Repr

/-- The elements of a pattern. A backslash takes the next character literally; at the end it
stands for itself. -/
def wildcards : List Char → List Wildcard
  | [] => []
  | ['\\'] => [.literal '\\']
  | '\\' :: c :: cs => .literal c :: wildcards cs
  | c :: cs =>
    (if c = '%' then .anyRun else if c = '_' then .anyOne else .literal c) :: wildcards cs

/-- For every prefix of the pattern, whether it matches the empty text; `reached` says so for
the elements before. -/
def initialRow (reached : Bool) : List Wildcard → List Bool
  | [] => [reached]
  | w :: ws => reached :: initialRow (reached && w = .anyRun) ws

/-- For every prefix of the pattern, whether it matches the text with `c` appended, given the
same for the text without it. `here` is the entry for the elements before. -/
def nextRow (c : Char) (here : Bool) : List Wildcard → List Bool → List Bool
  | w :: ws, before :: row =>
    let next := match w with
      | .anyRun => here || row.headD false
      | .anyOne => before
      | .literal l => before && l = c
    here :: nextRow c next ws row
  | _, _ => [here]

/-- Whether the whole text matches the pattern. -/
def like (text pattern : String) : Bool :=
  let ws := wildcards pattern.toList
  let row := text.toList.foldl (fun row c => nextRow c false ws row) (initialRow true ws)
  row.getLastD false

/-! ## Comparisons -/

/-- Whether one of the values equals `v`. -/
def isAmong (v : Value) (vs : List Value) : Bool := vs.any fun w => v.compare? w == some .eq

/-- Whether `actual op expected` is true. -/
def compares (actual : Value) (op : Operator) (expected : Value) : Bool :=
  let order := actual.compare? expected
  match op with
  | .eq => order == some .eq
  | .ne => order == some .lt || order == some .gt
  | .gt => order == some .gt
  | .ge => order == some .gt || order == some .eq
  | .lt => order == some .lt
  | .le => order == some .lt || order == some .eq
  | .like =>
    match actual, expected with
    | .text s, .text p => like s p
    | _, _ => false
  | .notLike =>
    match actual, expected with
    | .text s, .text p => !like s p
    | _, _ => false
  | .isIn => !actual.isNull && isAmong actual (Predicate.items expected)
  | .notIn => !actual.isNull && !isAmong actual (Predicate.items expected)
  | .isNull => actual.isNull
  | .isNotNull => !actual.isNull

/-! ## Predicates -/

def unknownColumn (name : String) : StoreError :=
  .other ("column \"" ++ name ++ "\" does not exist")

/-- The value of the column that a row has under the expression's bare name. -/
def columnValue (row : Record) (c : ColumnExpr) : Except StoreError Value :=
  match c.asColumn? with
  | some i =>
    match row.get? i.name with
    | some v => .ok v
    | none => .error (unknownColumn i.name)
  | none => .error (.unsupported ("expression " ++ c.toSql ++ " outside an aggregate query"))

mutual

/-- Whether a row satisfies a predicate. Children are looked at only until the answer is
known, so an unknown column behind that point is not an error. -/
def satisfies (row : Record) : Predicate → Except StoreError Bool
  | .compare column op value => (columnValue row column).map fun v => compares v op value
  | .all ps => satisfiesAll row ps
  | .any ps => satisfiesAny row ps

def satisfiesAll (row : Record) : List Predicate → Except StoreError Bool
  | [] => .ok true
  | p :: ps => do
    let b ← satisfies row p
    if b then satisfiesAll row ps else return false

def satisfiesAny (row : Record) : List Predicate → Except StoreError Bool
  | [] => .ok false
  | p :: ps => do
    let b ← satisfies row p
    if b then return true else satisfiesAny row ps

end

end EntityStore.Memory
