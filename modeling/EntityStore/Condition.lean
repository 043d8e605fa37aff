import EntityStore.Operator
import EntityStore.Error

/-!
# Conditions

A condition says what to compare, over names that are not checked yet: `field op value`, a
conjunction, or a disjunction. An empty conjunction is true and an empty disjunction false.
-/

namespace EntityStore

inductive Condition where
  | compare (field : String) (op : Operator) (value : Value)
  | and (conditions : List Condition)
  | or (conditions : List Condition)

namespace Condition

instance : Inhabited Condition := ⟨.and []⟩

/-- A comparison; a null test carries no value. -/
def ofOperator (field : String) (op : Operator) (value : Value) : Condition :=
  .compare field op (if op.takesValue then value else .null)

def unknownOperator (spelling : String) : Error :=
  .validation ("unknown operator: " ++ spelling)

def parse (field spelling : String) (value : Value) : Except Error Condition :=
  match Operator.parse? spelling with
  | some op => .ok (ofOperator field op value)
  | none => .error (unknownOperator spelling)

def isIn (field : String) (values : List Value) : Condition :=
  ofOperator field .isIn (.list values)

def notIn (field : String) (values : List Value) : Condition :=
  ofOperator field .notIn (.list values)

/-- The parts of a plain comparison. -/
def asCompare? : Condition → Option (String × Operator × Value)
  | .compare field op value => some (field, op, value)
  | _ => none

end Condition

end EntityStore
