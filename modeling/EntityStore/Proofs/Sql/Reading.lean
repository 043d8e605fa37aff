import EntityStore.Operator
import EntityStore.Proofs.Sql.Token
import Mathlib.Order.BoundedOrder.Lattice

/-!
# Reading a condition

How a statement's condition is read: what stands in parentheses first, and AND before OR. The
reader goes once through the tokens. At each depth of parentheses it keeps the disjuncts that
have come to their end apart from the conjunction that it is in.
-/

namespace EntityStore.Sql

/-- A comparison as it stands in a text. -/
structure Comparison where
  column : String
  op : Operator
  values : List Value

namespace Token

/-! ## Comparisons -/

/-- A name, or a function of one. -/
def readColumn : List Token → Option (String × List Token)
  | .word func :: .opening :: .word "DISTINCT" :: .word arg :: .closing :: ts =>
    some (func ++ "(" ++ "DISTINCT " ++ arg ++ ")", ts)
  | .word func :: .opening :: .word arg :: .closing :: ts =>
    some (func ++ "(" ++ arg ++ ")", ts)
  | .word name :: ts => some (name, ts)
  | _ => none

def readOperator : List Token → Option (Operator × List Token)
  | .word "IS" :: .word "NOT" :: .word "NULL" :: ts => some (.isNotNull, ts)
  | .word "IS" :: .word "NULL" :: ts => some (.isNull, ts)
  | .word "NOT" :: .word "LIKE" :: ts => some (.notLike, ts)
  | .word "NOT" :: .word "IN" :: ts => some (.notIn, ts)
  | .word "LIKE" :: ts => some (.like, ts)
  | .word "IN" :: ts => some (.isIn, ts)
  | .word "=" :: ts => some (.eq, ts)
  | .word "!=" :: ts => some (.ne, ts)
  | .word ">" :: ts => some (.gt, ts)
  | .word ">=" :: ts => some (.ge, ts)
  | .word "<" :: ts => some (.lt, ts)
  | .word "<=" :: ts => some (.le, ts)
  | _ => none

/-- Values with commas between them, up to the closing parenthesis. -/
def readItems : List Token → Option (List Value × List Token)
  | .value v :: .comma :: ts => (readItems ts).map fun (vs, rest) => (v :: vs, rest)
  | .value v :: .closing :: ts => some ([v], ts)
  | _ => none

/-- What stands on the right of an operator. -/
def readRight (op : Operator) (ts : List Token) : Option (List Value × List Token) :=
  match op, ts with
  | .isNull, ts | .isNotNull, ts => some ([], ts)
  | .isIn, .opening :: ts | .notIn, .opening :: ts => readItems ts
  | .isIn, _ | .notIn, _ => none
  | _, .value v :: ts => some ([v], ts)
  | _, _ => none

def readComparison (ts : List Token) : Option (Comparison × List Token) := do
  let (column, ts) ← readColumn ts
  let (op, ts) ← readOperator ts
  let (values, ts) ← readRight op ts
  return (⟨column, op, values⟩, ts)

theorem length_of_readColumn {ts rest : List Token} {c : String}
    (h : readColumn ts = some (c, rest)) : rest.length < ts.length := by
  unfold readColumn at h
  split at h <;> grind

theorem length_of_readOperator {ts rest : List Token} {op : Operator}
    (h : readOperator ts = some (op, rest)) : rest.length < ts.length := by
  unfold readOperator at h
  split at h <;> grind

theorem length_of_readItems {ts rest : List Token} {vs : List Value}
    (h : readItems ts = some (vs, rest)) : rest.length < ts.length := by
  fun_induction readItems ts generalizing vs rest with
  | case1 v ts ih =>
    obtain ⟨⟨ws, r⟩, read, eq⟩ := Option.map_eq_some_iff.mp h
    cases eq
    have := ih read
    grind
  | case2 => grind
  | case3 => cases h

theorem length_of_readRight {op : Operator} {ts rest : List Token} {vs : List Value}
    (h : readRight op ts = some (vs, rest)) : rest.length ≤ ts.length := by
  unfold readRight at h
  split at h
  case h_3 | h_4 =>
    have := length_of_readItems h
    grind
  all_goals grind

theorem length_of_readComparison {ts rest : List Token} {c : Comparison}
    (h : readComparison ts = some (c, rest)) : rest.length < ts.length := by
  simp only [readComparison, Option.bind_eq_bind, Option.bind_eq_some_iff, Prod.exists] at h
  obtain ⟨column, afterColumn, read, op, afterOp, readOp, values, afterValues, right, h⟩ := h
  cases h
  have := length_of_readColumn read
  have := length_of_readOperator readOp
  have := length_of_readRight right
  omega

end Token

/-! ## Conditions -/

/-- A condition at one depth of parentheses, as far as it is read: the disjunction of the
conjunctions that have come to their end, and the conjunction that has not. -/
structure Level (T : Type) where
  closed : T
  run : T

section

variable {T : Type} [Lattice T]

/-- One more member of the conjunction. -/
def Level.take (l : Level T) (v : T) : Level T := ⟨l.closed, l.run ⊓ v⟩

theorem Level.take_take (l : Level T) (v w : T) : (l.take v).take w = l.take (v ⊓ w) := by
  simp only [take, inf_assoc]

variable [BoundedOrder T]

namespace Level

/-- Nothing is read yet. -/
def start : Level T := ⟨⊥, ⊤⟩

/-- The conjunction has come to its end. -/
def next (l : Level T) : Level T := ⟨l.closed ⊔ l.run, ⊤⟩

def value (l : Level T) : T := l.closed ⊔ l.run

end Level

namespace Token

/-- The words that can follow a condition in a statement. -/
def endWords : List String := ["GROUP", "HAVING", "ORDER", "LIMIT", "OFFSET"]

/-- Whether a condition that is in no parentheses is at its end. -/
def atEnd : List Token → Bool
  | [] | .closing :: _ => true
  | .word w :: _ => endWords.contains w
  | _ => false

mutual

/-- Reads on where a comparison, a constant or an opening parenthesis has to stand; `outer` are
the depths around the current one, the innermost first. -/
def readOperand (truth : Comparison → T) (outer : List (Level T)) (l : Level T) :
    List Token → Option T
  | .opening :: ts => readOperand truth (l :: outer) .start ts
  | .word "1=1" :: ts => readConnective truth outer (l.take ⊤) ts
  | .word "1=0" :: ts => readConnective truth outer (l.take ⊥) ts
  | ts =>
    match _h : readComparison ts with
    | some (c, rest) => readConnective truth outer (l.take (truth c)) rest
    | none => none
termination_by ts => ts.length
decreasing_by
  all_goals first
    | exact length_of_readComparison _h
    | exact Nat.lt_succ_self _

/-- Reads on behind a comparison, a constant or a closing parenthesis. -/
def readConnective (truth : Comparison → T) (outer : List (Level T)) (l : Level T) :
    List Token → Option T
  | .word "AND" :: ts => readOperand truth outer l ts
  | .word "OR" :: ts => readOperand truth outer l.next ts
  | ts =>
    match outer with
    | [] => if atEnd ts then some l.value else none
    | around :: outer =>
      match ts with
      | .closing :: ts => readConnective truth outer (around.take l.value) ts
      | _ => none
termination_by ts => ts.length

end

/-- The truth value of a condition. -/
def readCondition (truth : Comparison → T) (ts : List Token) : Option T :=
  readOperand truth [] .start ts

variable (truth : Comparison → T) (outer : List (Level T)) (l : Level T) (ts : List Token)

theorem readOperand_opening :
    readOperand truth outer l (.opening :: ts) = readOperand truth (l :: outer) .start ts := by
  rw [readOperand]

theorem readOperand_true :
    readOperand truth outer l (.word "1=1" :: ts) = readConnective truth outer (l.take ⊤) ts := by
  rw [readOperand]

theorem readOperand_false :
    readOperand truth outer l (.word "1=0" :: ts) = readConnective truth outer (l.take ⊥) ts := by
  rw [readOperand]

theorem readOperand_comparison {w : String} {rest : List Token} {c : Comparison}
    (hw : w ≠ "1=1" ∧ w ≠ "1=0") (h : readComparison (.word w :: ts) = some (c, rest)) :
    readOperand truth outer l (.word w :: ts) =
      readConnective truth outer (l.take (truth c)) rest := by
  unfold readOperand
  split
  · cases ‹_›
  · simp_all
  · simp_all
  · split
    · simp_all
    · simp_all

theorem readConnective_and :
    readConnective truth outer l (.word "AND" :: ts) = readOperand truth outer l ts := by
  rw [readConnective]

theorem readConnective_or :
    readConnective truth outer l (.word "OR" :: ts) = readOperand truth outer l.next ts := by
  rw [readConnective]

theorem readConnective_closing (around : Level T) :
    readConnective truth (around :: outer) l (.closing :: ts) =
      readConnective truth outer (around.take l.value) ts := by
  rw [readConnective]

theorem readConnective_end (h : atEnd ts = true) :
    readConnective truth [] l ts = some l.value := by
  unfold readConnective
  split
  · cases h
  · cases h
  · simp [h]

end Token

/-! ## Clauses -/

/-- What follows a beginning of a text, if the text starts with it. -/
def dropHead? (head cs : List Char) : Option (List Char) :=
  if head <+: cs then some (cs.drop head.length) else none

theorem dropHead?_append (head cs : List Char) : dropHead? head (head ++ cs) = some cs := by
  rw [dropHead?, if_pos (List.prefix_append head cs), List.drop_left]

/-- The truth value of the clause behind a keyword, in a statement that starts with the items
`before`. A statement without the clause leaves everything in; there is no truth value when the
statement starts otherwise or goes on with what is no condition. -/
def readClause (style : Placeholder) (truth : Comparison → T) (before : List Item)
    (keyword : String) (q : Sql) : Option T := do
  let text ← dropHead? (Item.print style 0 before).toList (q.render style).toList
  match dropHead? keyword.toList text with
  | some condition =>
    Token.readCondition truth
      (Token.ofText style q.params (Item.values before).length condition)
  | none => some ⊤

end

end EntityStore.Sql
