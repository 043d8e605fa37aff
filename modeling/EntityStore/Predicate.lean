import EntityStore.Condition
import EntityStore.Sql

/-!
# Predicates

A predicate is a condition whose names have been checked. `Predicate.lower` makes it from a
condition: a WHERE condition compares plain columns, a HAVING condition any column expression
but only by comparison. `Predicate.write` renders it with every value bound as a parameter.
-/

namespace EntityStore

inductive Predicate where
  | compare (column : ColumnExpr) (op : Operator) (value : Value)
  /-- Conjunction; true when empty. -/
  | all (children : List Predicate)
  /-- Disjunction; false when empty. -/
  | any (children : List Predicate)

namespace Predicate

instance : Inhabited Predicate := ⟨.all []⟩

/-! ## Checking conditions -/

/-- Why a condition is not a predicate. -/
inductive Fault where
  | emptyField
  | ident (shown : String) (fault : Ident.Fault)
  | column (fault : ColumnExpr.Fault)
  | operator (op : Operator)
deriving DecidableEq, Repr

def Fault.message : Fault → String
  | .emptyField => "condition field cannot be empty"
  | .ident shown fault => fault.message shown
  | .column fault => fault.message
  | .operator op => "operator " ++ op.sql ++ " is not supported in HAVING"

/-- The clause that a condition is meant for. -/
inductive Place where
  | «where»
  | having
deriving DecidableEq, Repr

def Place.column (field : String) : Place → Except Fault ColumnExpr
  | .where => ((Ident.parse field).map .column).mapError (.ident field)
  | .having => (ColumnExpr.parse field).mapError .column

def Place.allows (op : Operator) : Place → Bool
  | .where => true
  | .having => op.isComparison

def lowerCompare (place : Place) (field : String) (op : Operator) (value : Value) :
    Except Fault Predicate :=
  if field = "" then .error .emptyField
  else if !place.allows op then .error (.operator op)
  else (place.column field).map fun c => .compare c op value

mutual

def lower (place : Place) : Condition → Except Fault Predicate
  | .compare field op value => lowerCompare place field op value
  | .and cs => (lowerAll place cs).map .all
  | .or cs => (lowerAll place cs).map .any

/-- The predicates of a list, or the fault of the first that has one. -/
def lowerAll (place : Place) : List Condition → Except Fault (List Predicate)
  | [] => .ok []
  | c :: cs => do
    let p ← lower place c
    let ps ← lowerAll place cs
    return p :: ps

end

/-! ## Shape -/

mutual

/-- Whether the predicate holds of every row without a look at one. -/
def isUnconditional : Predicate → Bool
  | .compare .. => false
  | .all ps => allUnconditional ps
  | .any ps => anyUnconditional ps

def allUnconditional : List Predicate → Bool
  | [] => true
  | p :: ps => isUnconditional p && allUnconditional ps

def anyUnconditional : List Predicate → Bool
  | [] => false
  | p :: ps => isUnconditional p || anyUnconditional ps

end

mutual

def params : Predicate → List Value
  | .compare _ op value => if op.takesValue then [value] else []
  | .all ps | .any ps => paramsAll ps

def paramsAll : List Predicate → List Value
  | [] => []
  | p :: ps => params p ++ paramsAll ps

end

/-- The values of a membership test; a single value stands for a list of one. -/
def items : Value → List Value
  | .list vs => vs
  | v => [v]

/-- What a conjunction without children is written as. -/
def trueText : String := "1=1"

/-- What a disjunction without children is written as. -/
def falseText : String := "1=0"

/-! ## Template

The text with one `?` per compared value, before lists are expanded. -/

def templateCompare (column : ColumnExpr) (op : Operator) : String :=
  column.toSql ++ " " ++ op.sql ++ (if op.takesValue then " ?" else "")

def joinTemplates (separator empty : String) (parts : List String) : String :=
  if parts.isEmpty then empty else separator.intercalate (parts.map fun p => "(" ++ p ++ ")")

mutual

def template : Predicate → String
  | .compare column op _ => templateCompare column op
  | .all ps => joinTemplates " AND " trueText (templates ps)
  | .any ps => joinTemplates " OR " falseText (templates ps)

def templates : List Predicate → List String
  | [] => []
  | p :: ps => template p :: templates ps

end

/-! ## Statement text -/

def writeCompare (q : Sql) (column : ColumnExpr) (op : Operator) (value : Value) : Sql :=
  if op.takesList then
    match items value with
    | [] => q.push (if op = .isIn then falseText else trueText)
    | vs => ((q.pushColumn column |>.push " " |>.push op.sql |>.push " (").bindList vs).push ")"
  else
    let q := q.pushColumn column |>.push " " |>.push op.sql
    if op.takesValue then (q.push " ").bind value else q

mutual

/-- Appends the predicate; members of a group stand in parentheses. -/
def write (q : Sql) : Predicate → Sql
  | .compare column op value => writeCompare q column op value
  | .all [] => q.push trueText
  | .all (p :: ps) => writeRest " AND " ((write (q.push "(") p).push ")") ps
  | .any [] => q.push falseText
  | .any (p :: ps) => writeRest " OR " ((write (q.push "(") p).push ")") ps

/-- Appends further members of a group, each behind the separator. -/
def writeRest (separator : String) (q : Sql) : List Predicate → Sql
  | [] => q
  | p :: ps => writeRest separator ((write ((q.push separator).push "(") p).push ")") ps

end

/-- Appends predicates that all have to hold, behind the keyword of their clause. -/
def writeClause (keyword : String) (q : Sql) : List Predicate → Sql
  | [] => q
  | p :: ps => ps.foldl (fun q p => write (q.push " AND ") p) (write (q.push keyword) p)

end Predicate

end EntityStore
