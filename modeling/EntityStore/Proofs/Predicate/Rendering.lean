import EntityStore.Proofs.Predicate.Meaning
import EntityStore.Proofs.Sql.Reading

/-!
# Written predicates are read as what they mean

A predicate that is written into a statement and read back has the truth value of its meaning,
where a comparison counts for what it is written as: a membership test of no items is a
constant. Members of a group stand in parentheses, but the group does not, so a disjunction
that is written where a conjunction is being read takes the conjunction apart.
-/

namespace EntityStore

open Sql (Item separate Comparison Level Token)
open Sql.Token

variable {style : Placeholder} {params : List Value} {n : Nat}

/-! ## Operators -/

namespace Operator

def words : Operator → List String
  | .eq => ["="]
  | .ne => ["!="]
  | .gt => [">"]
  | .ge => [">="]
  | .lt => ["<"]
  | .le => ["<="]
  | .like => ["LIKE"]
  | .notLike => ["NOT", "LIKE"]
  | .isIn => ["IN"]
  | .notIn => ["NOT", "IN"]
  | .isNull => ["IS", "NULL"]
  | .isNotNull => ["IS", "NOT", "NULL"]

/-- Words with a blank between neighbours. -/
def joinWords : List String → List Char
  | [] => []
  | [w] => w.toList
  | w :: v :: ws => w.toList ++ ' ' :: joinWords (v :: ws)

theorem toList_sql (op : Operator) : op.sql.toList = joinWords op.words := by
  cases op <;> decide

theorem isText_words (op : Operator) : ∀ w ∈ op.words, IsText w.toList := by
  cases op <;> decide

theorem ofText_joinWords {ws : List String} {rest : List Char}
    (h : ∀ w ∈ ws, IsText w.toList) (hr : Boundary rest) :
    ofText style params n (joinWords ws ++ rest) =
      ws.map Token.word ++ ofText style params n rest := by
  fun_induction joinWords ws with
  | case1 => rfl
  | case2 w =>
    rw [ofText_word style params n (h w (by simp)) hr, String.ofList_toList]
    rfl
  | case3 w v ws ih =>
    rw [List.append_assoc, List.cons_append,
      ofText_word style params n (h w (by simp)) (boundary_cons (by decide) _), ofText_blank,
      ih fun u hu => h u (List.mem_cons_of_mem _ hu), String.ofList_toList]
    rfl

theorem ofItems_sql (op : Operator) {is : List Item} (hb : Breaks is) :
    ofItems style params n (.text op.sql :: is) =
      op.words.map Token.word ++ ofItems style params n is := by
  rw [ofItems_text, toList_sql]
  exact ofText_joinWords op.isText_words (hb style n)

theorem readOperator_words (op : Operator) (ts : List Token) :
    readOperator (op.words.map Token.word ++ ts) = some (op, ts) := by
  cases op <;> rfl

end Operator

/-! ## Columns -/

namespace ColumnExpr

def tokens : ColumnExpr → List Token
  | .term t => [.word t.toSql]
  | .aggregate func false arg => [.word func, .opening, .word arg.toSql, .closing]
  | .aggregate func true arg =>
    [.word func, .opening, .word "DISTINCT", .word arg.toSql, .closing]

theorem ofItems_toSql {c : ColumnExpr} (h : c.WellFormed) {is : List Item} (hb : Breaks is) :
    ofItems style params n (.text c.toSql :: is) = c.tokens ++ ofItems style params n is := by
  cases c with
  | term t =>
    have name : IsName t.toSql.toList := isName_term h
    exact ofItems_word name.toIsText hb
  | aggregate func distinct arg =>
    obtain ⟨ne, letters, wf⟩ := h
    have name : IsName func.toList := isName_function ne letters
    have argName : IsName arg.toSql.toList := isName_term wf
    have argument : ofText style params n
        (arg.toSql.toList ++ ')' :: (Item.print style n is).toList) =
          .word arg.toSql :: .closing :: ofItems style params n is := by
      rw [ofText_word style params n argName.toIsText (boundary_cons (by decide) _),
        ofText_closing, String.ofList_toList]
      rfl
    rw [ofItems_text, toSql]
    simp only [String.toList_append, List.append_assoc]
    rw [show "(".toList = ['('] from rfl, show ")".toList = [')'] from rfl,
      List.singleton_append, List.singleton_append,
      ofText_word style params n name.toIsText (boundary_cons (by decide) _), ofText_opening,
      String.ofList_toList]
    cases distinct with
    | false =>
      rw [if_neg Bool.false_ne_true, show "".toList = [] from rfl, List.nil_append, argument]
      rfl
    | true =>
      rw [if_pos rfl, show "DISTINCT ".toList = "DISTINCT".toList ++ [' '] from rfl,
        List.append_assoc, List.singleton_append,
        ofText_word style params n (by decide) (boundary_cons (by decide) _), ofText_blank,
        argument]
      rfl

/-- A column in front of a word is read as it is written. -/
theorem readColumn_tokens (c : ColumnExpr) (v : String) (ts : List Token) :
    readColumn (c.tokens ++ .word v :: ts) = some (c.toSql, .word v :: ts) := by
  cases c with
  | term t => rfl
  | aggregate func distinct arg =>
    cases distinct with
    | false => simp [tokens, readColumn, toSql]
    | true => simp [tokens, readColumn, toSql, String.append_assoc]

theorem tokens_eq_cons {c : ColumnExpr} (h : c.WellFormed) :
    ∃ w ts, c.tokens = .word w :: ts ∧ w ≠ "1=1" ∧ w ≠ "1=0" := by
  have notConstant {w : String} (hw : IsName w.toList) : w ≠ "1=1" ∧ w ≠ "1=0" := by
    constructor
    · rintro rfl
      exact hw.one rfl
    · rintro rfl
      exact hw.one rfl
  cases c with
  | term t => exact ⟨t.toSql, [], rfl, notConstant (isName_term h)⟩
  | aggregate func distinct arg =>
    obtain ⟨ne, letters, -⟩ := h
    cases distinct with
    | false => exact ⟨func, _, rfl, notConstant (isName_function ne letters)⟩
    | true => exact ⟨func, _, rfl, notConstant (isName_function ne letters)⟩

end ColumnExpr

/-! ## Comparisons -/

namespace Predicate

/-- The values that a comparison binds. -/
def Leaf.values (l : Leaf) : List Value := boundValues l.op l.value

/-- A membership test of no items is written without its column. -/
def Leaf.isConstant (l : Leaf) : Bool := l.op.takesList && (items l.value).isEmpty

/-- What a comparison is written as, if it is not a constant. -/
def Leaf.comparison (l : Leaf) : Comparison := ⟨l.column.toSql, l.op, l.values⟩

theorem breaks_items (vs : List Value) (is : List Item) :
    Breaks ((vs.flatMap fun v => [Item.text ", ", .value v]) ++ .text ")" :: is) := by
  cases vs with
  | nil => exact breaks_text (s := ")") rfl (by decide) is
  | cons v vs => exact breaks_text (s := ", ") rfl (by decide) _

theorem readItems_separate {v : Value} {vs : List Value} {is : List Item}
    (h : Bound params n (v :: vs)) :
    readItems (ofItems style params n
        (separate ", " (fun v => [.value v]) (v :: vs) ++ .text ")" :: is)) =
      some (v :: vs, ofItems style params (n + (v :: vs).length) is) := by
  rw [separate]
  induction vs generalizing v n with
  | nil =>
    obtain ⟨first, -⟩ := bound_cons h
    rw [List.singleton_append, List.cons_append, ofItems_value first (breaks_items [] is)]
    rw [List.flatMap_nil, List.nil_append, ofItems_closing, readItems]
    rfl
  | cons w vs ih =>
    obtain ⟨first, others⟩ := bound_cons h
    rw [List.singleton_append, List.cons_append, ofItems_value first (breaks_items (w :: vs) is),
      List.flatMap_cons, List.cons_append, List.cons_append, ofItems_comma, readItems]
    have rest := ih others
    rw [List.singleton_append, List.cons_append] at rest
    rw [List.singleton_append, List.cons_append, rest, Option.map_some]
    simp [Nat.add_assoc, Nat.add_comm 1]

theorem exists_words (op : Operator) : ∃ w ws, op.words = w :: ws := by
  cases op <;> exact ⟨_, _, rfl⟩

section

variable {T : Type} [Lattice T] [BoundedOrder T] (truth : Comparison → T)
  (outer : List (Level T)) (l : Level T)

/-- A column, an operator and what it has on the right are read as one comparison. -/
theorem readOperand_sides {column : ColumnExpr} (wf : column.WellFormed) {op : Operator}
    {right : List Item} (hb : Breaks right) {values : List Value} {ts : List Token}
    (h : readRight op (ofItems style params n right) = some (values, ts)) :
    readOperand truth outer l
        (ofItems style params n (.text column.toSql :: .text " " :: .text op.sql :: right)) =
      readConnective truth outer (l.take (truth ⟨column.toSql, op, values⟩)) ts := by
  rw [ColumnExpr.ofItems_toSql wf (breaks_text (s := " ") rfl (by decide) _), ofItems_blank,
    Operator.ofItems_sql op hb]
  obtain ⟨w, rest, tokens, notConstant⟩ := ColumnExpr.tokens_eq_cons wf
  have read : readComparison (column.tokens ++ (op.words.map Token.word ++
      ofItems style params n right)) = some (⟨column.toSql, op, values⟩, ts) := by
    obtain ⟨v, vs, words⟩ := exists_words op
    rw [readComparison, words, List.map_cons, List.cons_append, ColumnExpr.readColumn_tokens,
      ← List.cons_append, ← List.map_cons, ← words]
    simp [Operator.readOperator_words, h]
  rw [tokens, List.cons_append] at read ⊢
  exact readOperand_comparison truth outer l _ notConstant read

/-- The truth value of a comparison as it is written. -/
def Leaf.read (truth : Comparison → T) (l : Leaf) : T :=
  if l.isConstant then if l.op = .isIn then ⊥ else ⊤ else truth l.comparison

theorem readRight_items {op : Operator} (list : op.takesList = true) {v : Value}
    {vs : List Value} {is : List Item} (h : Bound params n (v :: vs)) :
    readRight op (ofItems style params n (.text " (" ::
        (separate ", " (fun v => [.value v]) (v :: vs) ++ .text ")" :: is))) =
      some (v :: vs, ofItems style params (n + (v :: vs).length) is) := by
  rw [ofItems_text]
  change readRight op (ofText style params n (' ' :: '(' :: _)) = _
  rw [ofText_blank, ofText_opening, ← readItems_separate h]
  cases op with
  | isIn | notIn => rfl
  | _ => cases list

theorem readRight_value {op : Operator} (single : op.takesList = false)
    (takes : op.takesValue = true) {v : Value} {is : List Item} (hv : params[n]? = some v)
    (hb : Breaks is) :
    readRight op (ofItems style params n (.text " " :: .value v :: is)) =
      some ([v], ofItems style params (n + 1) is) := by
  rw [ofItems_blank, ofItems_value hv hb]
  cases op with
  | isIn | notIn => cases single
  | isNull | isNotNull => cases takes
  | _ => rfl

theorem readRight_none {op : Operator} (takes : op.takesValue = false) (ts : List Token) :
    readRight op ts = some ([], ts) := by
  cases op with
  | isNull | isNotNull => rfl
  | _ => cases takes

theorem readOperand_compare (leaf : Leaf) (wf : leaf.column.WellFormed) {is : List Item}
    (hb : Breaks is) (hp : Bound params n leaf.values) :
    readOperand truth outer l
        (ofItems style params n (compareItems leaf.column leaf.op leaf.value ++ is)) =
      readConnective truth outer (l.take (leaf.read truth))
        (ofItems style params (n + leaf.values.length) is) := by
  obtain ⟨column, op, value⟩ := leaf
  simp only [Leaf.values, boundValues] at hp
  simp only [compareItems, Leaf.read, Leaf.isConstant, Leaf.comparison, Leaf.values, boundValues]
  by_cases list : op.takesList
  · rw [if_pos list] at hp ⊢
    simp only [list, Bool.true_and, if_true]
    cases vs_eq : items value with
    | nil =>
      simp only [List.isEmpty_nil, if_true, List.singleton_append, List.length_nil, Nat.add_zero]
      split
      · rw [ofItems_word (by decide) hb]
        exact readOperand_false truth outer l _
      · rw [ofItems_word (by decide) hb]
        exact readOperand_true truth outer l _
    | cons v vs =>
      rw [vs_eq] at hp
      rw [List.isEmpty_cons, if_neg Bool.false_ne_true]
      have right : readRight op (ofItems style params n
          (.text " (" :: (_ ++ .text ")" :: is))) = _ := readRight_items list hp
      have read := readOperand_sides truth outer l wf (breaks_text rfl (by decide) _) right
      simpa using read
  · have single : op.takesList = false := Bool.eq_false_iff.mpr list
    rw [if_neg list] at hp ⊢
    simp only [single, Bool.false_and, Bool.false_eq_true, if_false]
    cases takes : op.takesValue with
    | true =>
      rw [takes, if_pos rfl] at hp
      exact readOperand_sides truth outer l wf (breaks_text rfl (by decide) _)
        (readRight_value single takes (bound_cons hp).1 hb)
    | false => exact readOperand_sides truth outer l wf hb (readRight_none takes _)

end

/-! ## Predicates -/

section

variable {T : Type} [Lattice T] [BoundedOrder T]

/-- What is read when a predicate is written where a conjunction is being read: the conjunction
takes it in, except that each further member of a disjunction starts a conjunction of its own. -/
def extend (truth : Leaf → T) (l : Level T) : Predicate → Level T
  | .any (p :: ps) => ps.foldl (fun l p => l.next.take (eval truth p)) (l.take (eval truth p))
  | p => l.take (eval truth p)

variable (truth : Leaf → T) (l : Level T)

theorem foldl_take (ps : List Predicate) (v : T) :
    ps.foldl (fun l p => l.take (eval truth p)) (l.take v) = l.take (v ⊓ evalAll truth ps) := by
  induction ps generalizing v with
  | nil => simp [evalAll]
  | cons p ps ih => rw [List.foldl_cons, Level.take_take, ih, evalAll, inf_assoc]

theorem value_foldl_next (ps : List Predicate) :
    (ps.foldl (fun l p => l.next.take (eval truth p)) l).value = l.value ⊔ evalAny truth ps := by
  induction ps generalizing l with
  | nil => simp [evalAny]
  | cons p ps ih =>
    have step : (l.next.take (eval truth p)).value = l.value ⊔ eval truth p := by
      simp [Level.next, Level.take, Level.value]
    rw [List.foldl_cons, ih, step, evalAny, sup_assoc]

/-- In parentheses of its own a predicate is read as what it means. -/
theorem value_extend_start (p : Predicate) :
    (extend truth .start p).value = eval truth p := by
  have taken (v : T) : (Level.start.take v).value = v := by
    simp [Level.start, Level.take, Level.value]
  unfold extend
  split
  case h_1 p ps =>
    rw [value_foldl_next, taken]
    rfl
  case h_2 => exact taken _

end

section

variable {T : Type} [Lattice T] [BoundedOrder T] {truth : Comparison → T}
  {outer : List (Level T)} {l : Level T} {is : List Item}

/-- Wherever an operand can stand, the predicate is read as `extend` says. -/
def ReadsOff (style : Placeholder) (params : List Value) (truth : Comparison → T)
    (p : Predicate) : Prop :=
  ∀ {n : Nat} {outer : List (Level T)} {l : Level T} {is : List Item},
    Breaks is → Bound params n (bound p) →
      readOperand truth outer l (ofItems style params n (written p ++ is)) =
        readConnective truth outer (extend (Leaf.read truth) l p)
          (ofItems style params (n + (bound p).length) is)

theorem readOperand_member {p : Predicate} (h : ReadsOff style params truth p)
    (hp : Bound params n (bound p)) :
    readOperand truth outer l
        (ofItems style params n (.text "(" :: (written p ++ .text ")" :: is))) =
      readConnective truth outer (l.take (eval (Leaf.read truth) p))
        (ofItems style params (n + (bound p).length) is) := by
  rw [ofItems_opening, readOperand_opening, h (breaks_text (s := ")") rfl (by decide) is) hp,
    ofItems_closing, readConnective_closing, value_extend_start]

theorem readConnective_rest {separator : String} (step : Level T → Level T)
    (hs : ∀ {n : Nat} {l : Level T} {is : List Item},
      readConnective truth outer l (ofItems style params n (.text separator :: is)) =
        readOperand truth outer (step l) (ofItems style params n is))
    {ps : List Predicate} (h : ∀ p ∈ ps, ReadsOff style params truth p)
    (hp : Bound params n (boundAll ps)) :
    readConnective truth outer l (ofItems style params n (writtenRest separator ps ++ is)) =
      readConnective truth outer
        (ps.foldl (fun l p => (step l).take (eval (Leaf.read truth) p)) l)
        (ofItems style params (n + (boundAll ps).length) is) := by
  induction ps generalizing n l with
  | nil => rfl
  | cons p ps ih =>
    obtain ⟨first, others⟩ := bound_append hp
    rw [writtenRest, List.cons_append, hs, List.cons_append, List.append_assoc, List.cons_append,
      readOperand_member (h p (by simp)) first,
      ih (fun q hq => h q (List.mem_cons_of_mem _ hq)) others]
    simp [boundAll, Nat.add_assoc]

theorem readOperand_group {separator : String} (step : Level T → Level T)
    (hs : ∀ {n : Nat} {l : Level T} {is : List Item},
      readConnective truth outer l (ofItems style params n (.text separator :: is)) =
        readOperand truth outer (step l) (ofItems style params n is))
    {p : Predicate} {ps : List Predicate} (h : ∀ q ∈ p :: ps, ReadsOff style params truth q)
    (hp : Bound params n (boundAll (p :: ps))) :
    readOperand truth outer l
        (ofItems style params n
          (.text "(" :: (written p ++ .text ")" :: writtenRest separator ps) ++ is)) =
      readConnective truth outer
        (ps.foldl (fun l p => (step l).take (eval (Leaf.read truth) p))
          (l.take (eval (Leaf.read truth) p)))
        (ofItems style params (n + (boundAll (p :: ps)).length) is) := by
  obtain ⟨first, others⟩ := bound_append hp
  rw [List.cons_append, List.append_assoc, List.cons_append,
    readOperand_member (h p (by simp)) first,
    readConnective_rest step hs (fun q hq => h q (List.mem_cons_of_mem _ hq)) others, boundAll,
    List.length_append, Nat.add_assoc]

theorem readConnective_and :
    readConnective truth outer l (ofItems style params n (.text " AND " :: is)) =
      readOperand truth outer l (ofItems style params n is) := by
  rw [ofItems_spaced (s := " AND ") (w := "AND") rfl (by decide)]
  exact Sql.Token.readConnective_and truth outer l _

theorem readConnective_or :
    readConnective truth outer l (ofItems style params n (.text " OR " :: is)) =
      readOperand truth outer l.next (ofItems style params n is) := by
  rw [ofItems_spaced (s := " OR ") (w := "OR") rfl (by decide)]
  exact Sql.Token.readConnective_or truth outer l _

theorem readsOff {p : Predicate} (wf : p.WellFormed) : ReadsOff style params truth p := by
  induction p using inductionOn with
  | compare column op value =>
    intro n outer l is hb hp
    exact readOperand_compare truth outer l ⟨column, op, value⟩ (wellFormed_compare.mp wf) hb hp
  | all ps ih =>
    intro n outer l is hb hp
    have each : ∀ q ∈ ps, ReadsOff style params truth q :=
      fun q hq => ih q hq (wellFormed_all.mp wf q hq)
    cases ps with
    | nil =>
      rw [written, List.singleton_append, ofItems_word (by decide) hb]
      exact readOperand_true truth outer l _
    | cons p ps =>
      rw [written, readOperand_group id readConnective_and each hp]
      -- a conjunction goes on in the one that is being read
      exact congrArg (readConnective truth outer · _) (foldl_take (Leaf.read truth) l ps _)
  | any ps ih =>
    intro n outer l is hb hp
    have each : ∀ q ∈ ps, ReadsOff style params truth q :=
      fun q hq => ih q hq (wellFormed_any.mp wf q hq)
    cases ps with
    | nil =>
      rw [written, List.singleton_append, ofItems_word (by decide) hb]
      exact readOperand_false truth outer l _
    | cons p ps =>
      rw [written, readOperand_group Level.next readConnective_or each hp]
      rfl

end

end Predicate

end EntityStore
