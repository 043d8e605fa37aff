import EntityStore.Proofs.Memory.Like
import EntityStore.Proofs.Sql.Clause
import EntityStore.Proofs.Value

/-!
# Matching rows and SQL's logic

SQL has three truth values: a comparison with NULL is unknown, and a row passes only where the
condition is true. Matching in memory has two and takes each comparison for false unless it is
true. That is right above the comparisons, because there is no negation there, so everything
depends on the comparisons alone.
-/

namespace EntityStore

/-! ## Three truth values -/

/-- A truth value of SQL. -/
inductive Truth where
  | false
  | unknown
  | true
deriving DecidableEq, Repr

namespace Truth

/-- False if a side is false, true if both are true. -/
def and : Truth → Truth → Truth
  | .false, _ | _, .false => .false
  | .true, .true => .true
  | _, _ => .unknown

/-- True if a side is true, false if both are false. -/
def or : Truth → Truth → Truth
  | .true, _ | _, .true => .true
  | .false, .false => .false
  | _, _ => .unknown

instance : Min Truth := ⟨and⟩

instance : Max Truth := ⟨or⟩

/-- Conjunction and disjunction as the meet and join of false, unknown and true in this order. -/
instance : Lattice Truth :=
  Lattice.mk' (by rintro ⟨⟩ ⟨⟩ <;> rfl) (by rintro ⟨⟩ ⟨⟩ ⟨⟩ <;> rfl) (by rintro ⟨⟩ ⟨⟩ <;> rfl)
    (by rintro ⟨⟩ ⟨⟩ ⟨⟩ <;> rfl) (by rintro ⟨⟩ ⟨⟩ <;> rfl) (by rintro ⟨⟩ ⟨⟩ <;> rfl)

instance : BoundedOrder Truth where
  top := true
  le_top := by rintro ⟨⟩ <;> rfl
  bot := false
  bot_le := by rintro ⟨⟩ <;> rfl

def ofBool (b : Bool) : Truth := if b then true else false

/-- Whether a row passes that has this truth value. -/
def passes : BoundedLatticeHom Truth Bool where
  toFun t := decide (t = true)
  map_sup' := by rintro ⟨⟩ ⟨⟩ <;> rfl
  map_inf' := by rintro ⟨⟩ ⟨⟩ <;> rfl
  map_top' := rfl
  map_bot' := rfl

theorem passes_eq_true {t : Truth} : passes t = Bool.true ↔ t = true := by
  cases t <;> decide

@[simp] theorem passes_ofBool (b : Bool) : passes (ofBool b) = b := by
  cases b <;> rfl

end Truth

/-! ## Comparisons of values -/

namespace Value

/-- The kinds of values that SQL and the stores order alike. -/
inductive Kind where
  | bool | int | text | bytes | timestamp | uuid
deriving DecidableEq, Repr

def kind? : Value → Option Kind
  | .bool _ => some .bool
  | .int _ => some .int
  | .text _ => some .text
  | .bytes _ => some .bytes
  | .timestamp _ => some .timestamp
  | .uuid _ => some .uuid
  | _ => none

/-- NULL, or a value of the kind. -/
def Fits (k : Kind) (v : Value) : Prop := v = .null ∨ v.kind? = some k

/-- Whether a value equals another one of its kind. -/
def same : Value → Value → Bool
  | .bool a, .bool b => a = b
  | .int a, .int b => a.toInt = b.toInt
  | .text a, .text b => a = b
  | .bytes a, .bytes b => a = b
  | .timestamp a, .timestamp b => a.seconds = b.seconds && a.nanos = b.nanos
  | .uuid a, .uuid b => a.bits = b.bits
  | _, _ => false

/-- Whether a value is less than another one of its kind; texts and bytes go by their first
difference. -/
def less : Value → Value → Bool
  | .bool a, .bool b => !a && b
  | .int a, .int b => a.toInt < b.toInt
  | .text a, .text b => a.toList < b.toList
  | .bytes a, .bytes b => a < b
  | .timestamp a, .timestamp b =>
    a.seconds < b.seconds || (a.seconds = b.seconds && a.nanos < b.nanos)
  | .uuid a, .uuid b => a.bits.toNat < b.bits.toNat
  | _, _ => false

/-- Two values of one kind are two Booleans, two integers, and so on. -/
theorem of_kind {k : Kind} {a b : Value} (ha : a.kind? = some k) (hb : b.kind? = some k)
    {p : Value → Value → Prop} (bool : ∀ x y, p (.bool x) (.bool y))
    (int : ∀ x y, p (.int x) (.int y)) (text : ∀ x y, p (.text x) (.text y))
    (bytes : ∀ x y, p (.bytes x) (.bytes y)) (timestamp : ∀ x y, p (.timestamp x) (.timestamp y))
    (uuid : ∀ x y, p (.uuid x) (.uuid y)) : p a b := by
  cases a <;> cases ha <;> cases b <;> cases hb
  · exact bool _ _
  · exact int _ _
  · exact text _ _
  · exact bytes _ _
  · exact timestamp _ _
  · exact uuid _ _

/-- The values compare, and by their order. -/
def Ordered (a b : Value) : Prop := ∃ o, a.compare? b = some o ∧
  (o = .lt ↔ a.less b = true) ∧ (o = .eq ↔ a.same b = true) ∧ (o = .gt ↔ b.less a = true)

theorem ordered_of_kind {k : Kind} {a b : Value} (ha : a.kind? = some k)
    (hb : b.kind? = some k) : Ordered a b := by
  apply of_kind ha hb
  · intro x y
    refine ⟨_, rfl, ?_⟩
    cases x <;> cases y <;> decide
  · intro x y
    refine ⟨_, rfl, ?_⟩
    rw [Std.OrientedCmp.gt_iff_lt, Std.compare_eq_lt, Std.compare_eq_lt,
      Std.LawfulEqCmp.compare_eq_iff_eq, Int64.lt_iff_toInt_lt, Int64.lt_iff_toInt_lt,
      ← Int64.toInt_inj]
    simp [less, same]
  · intro x y
    refine ⟨_, rfl, ?_⟩
    have lt (x y : String) : compare x y = .lt ↔ x.toList < y.toList := compareOfLessAndEq_eq_lt
    rw [Std.OrientedCmp.gt_iff_lt, Std.LawfulEqCmp.compare_eq_iff_eq, lt, lt]
    simp [less, same]
  · intro x y
    refine ⟨_, rfl, ?_⟩
    rw [Std.OrientedCmp.gt_iff_lt, Std.LawfulEqCmp.compare_eq_iff_eq, compare_bytes, compare_bytes]
    simp [less, same]
  · intro x y
    refine ⟨_, rfl, ?_⟩
    change ((compare x.seconds y.seconds).then (compare x.nanos y.nanos) = .lt ↔ _) ∧
      ((compare x.seconds y.seconds).then (compare x.nanos y.nanos) = .eq ↔ _) ∧
      ((compare x.seconds y.seconds).then (compare x.nanos y.nanos) = .gt ↔ _)
    simp [less, same, Ordering.then_eq_lt, Ordering.then_eq_eq, Ordering.then_eq_gt,
      Std.compare_eq_lt, Std.compare_eq_gt, Std.LawfulEqCmp.compare_eq_iff_eq]
    exact or_congr_right (and_congr_left fun _ => eq_comm)
  · intro x y
    refine ⟨_, rfl, ?_⟩
    change (compare x.bits.toNat y.bits.toNat = .lt ↔ _) ∧
      (compare x.bits.toNat y.bits.toNat = .eq ↔ _) ∧ (compare x.bits.toNat y.bits.toNat = .gt ↔ _)
    rw [Std.OrientedCmp.gt_iff_lt, Std.LawfulEqCmp.compare_eq_iff_eq, Std.compare_eq_lt,
      Std.compare_eq_lt, BitVec.toNat_inj]
    simp [less, same]

end Value

namespace Memory

open Predicate (Leaf items)

/-! ## Comparisons in SQL -/

instance (ws : List Wildcard) (t : List Char) : Decidable (Matches ws t) :=
  decidable_of_iff _ (matches_iff ws t)

/-- Whether a text matches the pattern that the other text is. -/
def likes : Value → Value → Bool
  | .text t, .text pattern => Matches (wildcards pattern.toList) t.toList
  | _, _ => false

/-- Whether a comparison holds of two values that are not NULL. -/
def holds (op : Operator) (a b : Value) : Bool :=
  match op with
  | .eq => a.same b
  | .ne => !a.same b
  | .gt => b.less a
  | .ge => b.less a || a.same b
  | .lt => a.less b
  | .le => a.less b || a.same b
  | .like => likes a b
  | .notLike => !likes a b
  | .isIn | .notIn | .isNull | .isNotNull => false

/-- A comparison with NULL is unknown. -/
def comparison (op : Operator) (a b : Value) : Truth :=
  if a.isNull || b.isNull then .unknown else .ofBool (holds op a b)

/-- The truth value of a comparison with a column's value; membership is a disjunction of
equalities and its denial a conjunction of inequalities. -/
def truthOf (actual : Value) (op : Operator) (expected : Value) : Truth :=
  match op with
  | .isIn => (items expected).foldr (fun v t => comparison .eq actual v ⊔ t) ⊥
  | .notIn => (items expected).foldr (fun v t => comparison .ne actual v ⊓ t) ⊤
  | .isNull => .ofBool actual.isNull
  | .isNotNull => .ofBool !actual.isNull
  | op => comparison op actual expected

/-- The value of a column that the row has. -/
def valueAt (row : Record) (c : ColumnExpr) : Value :=
  match columnValue row c with
  | .ok v => v
  | .error _ => .null

def leafTruth (row : Record) (l : Leaf) : Truth := truthOf (valueAt row l.column) l.op l.value

/-- The truth value of a predicate for a row. -/
def meaning (row : Record) (p : Predicate) : Truth := p.eval (leafTruth row)

/-- The value of a column and what it is compared with are NULL or of one kind, texts for
LIKE. -/
def Comparable (actual : Value) (op : Operator) (expected : Value) : Prop :=
  ∃ k : Value.Kind, actual.Fits k ∧ (∀ v ∈ Predicate.boundValues op expected, v.Fits k) ∧
    (op = .like ∨ op = .notLike → k = .text)

/-- Where NOT IN is evaluated as SQL has it: a NULL that the list has does not decide, and NULL
itself is not looked for in an empty list. -/
def Faithful (actual : Value) (op : Operator) (expected : Value) : Prop :=
  op = .notIn → (items expected = [] → actual ≠ .null) ∧
    (actual ≠ .null → .null ∈ items expected → ∃ v ∈ items expected, actual.same v = true)

/-! ## Comparisons in memory -/

section

variable {a b : Value} {k : Value.Kind}

theorem compare?_null_left (b : Value) : Value.compare? .null b = none := by
  cases b <;> rfl

theorem compare?_null_right (a : Value) : Value.compare? a .null = none := by
  cases a <;> rfl

theorem like_eq (t pattern : String) : like t pattern = likes (.text t) (.text pattern) := by
  rw [Bool.eq_iff_iff, like_iff, likes, decide_eq_true_eq]

/-- A comparison of two single values is taken for true where it is true. -/
theorem compares_eq {op : Operator} (single : op.takesList = false) (takes : op.takesValue = true)
    (ha : a.Fits k) (hb : b.Fits k) (text : op = .like ∨ op = .notLike → k = .text) :
    compares a op b = Truth.passes (comparison op a b) := by
  rcases ha with rfl | ha
  · -- NULL on the left
    have unknown : comparison op .null b = .unknown := rfl
    rw [unknown]
    simp only [compares, compare?_null_left]
    cases op with
    | isIn | notIn => cases single
    | isNull | isNotNull => cases takes
    | _ => rfl
  rcases hb with rfl | hb
  · -- NULL on the right
    have unknown : comparison op a .null = .unknown := by simp [comparison, Value.isNull]
    rw [unknown]
    simp only [compares, compare?_null_right]
    cases op with
    | isIn | notIn => cases single
    | isNull | isNotNull => cases takes
    | like | notLike => cases a <;> rfl
    | _ => rfl
  have present {v : Value} (h : v.kind? = some k) : v.isNull = false := by
    cases v <;> first | rfl | cases h
  rw [comparison, present ha, present hb, Bool.or_false, if_neg Bool.false_ne_true,
    Truth.passes_ofBool]
  obtain ⟨o, ho, lt, eq, gt⟩ := Value.ordered_of_kind ha hb
  cases op with
  | like | notLike =>
    obtain rfl := text (by simp)
    obtain ⟨t, rfl⟩ : ∃ t, a = .text t := by cases a <;> first | exact ⟨_, rfl⟩ | cases ha
    obtain ⟨p, rfl⟩ : ∃ p, b = .text p := by cases b <;> first | exact ⟨_, rfl⟩ | cases hb
    simp [compares, holds, like_eq]
  | isIn | notIn => cases single
  | isNull | isNotNull => cases takes
  | _ => cases o <;> simp_all [compares, holds]

theorem passes_or {vs : List Value} (f : Value → Truth) :
    Truth.passes (vs.foldr (fun v t => f v ⊔ t) ⊥) = vs.any fun v => Truth.passes (f v) := by
  induction vs with
  | nil => exact map_bot Truth.passes
  | cons v vs ih => rw [List.foldr_cons, map_sup, ih, List.any_cons, Bool.max_eq_or]

theorem passes_and {vs : List Value} (f : Value → Truth) :
    Truth.passes (vs.foldr (fun v t => f v ⊓ t) ⊤) = vs.all fun v => Truth.passes (f v) := by
  induction vs with
  | nil => exact map_top Truth.passes
  | cons v vs ih => rw [List.foldr_cons, map_inf, ih, List.all_cons, Bool.min_eq_and]

theorem passes_eq (a v : Value) : Truth.passes (comparison .eq a v) = a.same v := by
  unfold comparison
  split
  case isTrue null =>
    cases a <;> first | rfl | (cases v <;> first | rfl | cases null)
  case isFalse => exact Truth.passes_ofBool _

theorem isNull_iff {v : Value} : v.isNull = true ↔ v = .null := by
  cases v <;> simp [Value.isNull]

theorem passes_ne (a v : Value) : Truth.passes (comparison .ne a v) = true ↔
    a ≠ .null ∧ v ≠ .null ∧ a.same v = false := by
  have table : Truth.passes (comparison .ne a v) = (!a.isNull && (!v.isNull && !a.same v)) := by
    unfold comparison
    cases a.isNull <;> cases v.isNull <;> simp [holds] <;> rfl
  simp [table, ← isNull_iff]

theorem isAmong_eq {vs : List Value} (ha : a.Fits k) (hvs : ∀ v ∈ vs, v.Fits k) :
    isAmong a vs = vs.any a.same := by
  have each (v : Value) (hv : v ∈ vs) : (a.compare? v == some .eq) = a.same v := by
    have equal : compares a .eq v = Truth.passes (comparison .eq a v) :=
      compares_eq rfl rfl ha (hvs v hv) (by simp)
    rw [← passes_eq, ← equal]
    rfl
  unfold isAmong
  induction vs with
  | nil => rfl
  | cons v vs ih =>
    rw [List.any_cons, List.any_cons, each v (by simp),
      ih (fun w hw => hvs w (List.mem_cons_of_mem _ hw))
        fun w hw => each w (List.mem_cons_of_mem _ hw)]

theorem isIn_eq {e : Value} (ha : a.Fits k) (hvs : ∀ v ∈ items e, v.Fits k) :
    compares a .isIn e = Truth.passes (truthOf a .isIn e) := by
  change (!a.isNull && isAmong a (items e)) = _
  rw [isAmong_eq ha hvs, truthOf, passes_or]
  simp only [passes_eq]
  cases null : a.isNull with
  | false => rfl
  | true =>
    rw [isNull_iff.mp null]
    exact (List.any_eq_false.mpr fun v _ => Bool.false_ne_true).symm

/-- NOT IN is the one comparison that can differ from its truth value. -/
theorem notIn_iff {e : Value} (ha : a.Fits k) (hvs : ∀ v ∈ items e, v.Fits k) :
    compares a .notIn e = Truth.passes (truthOf a .notIn e) ↔ Faithful a .notIn e := by
  have memory : compares a .notIn e = true ↔ a ≠ .null ∧ ∀ v ∈ items e, a.same v = false := by
    change (!a.isNull && !isAmong a (items e)) = true ↔ _
    rw [isAmong_eq ha hvs]
    simp [← isNull_iff]
  have sql : Truth.passes (truthOf a .notIn e) = true ↔
      ∀ v ∈ items e, a ≠ .null ∧ v ≠ .null ∧ a.same v = false := by
    rw [truthOf, passes_and, List.all_eq_true]
    exact forall₂_congr fun v _ => passes_ne a v
  rw [Bool.eq_iff_iff, memory, sql]
  constructor
  · intro agree _
    refine ⟨fun empty => (agree.mpr (by simp [empty])).1, fun present null => ?_⟩
    by_contra none
    have different : ∀ v ∈ items e, a.same v = false := fun v hv =>
      Bool.eq_false_iff.mpr fun same => none ⟨v, hv, same⟩
    exact (agree.mp ⟨present, different⟩ .null null).2.1 rfl
  · intro faithful
    obtain ⟨empty, null⟩ := faithful rfl
    constructor
    · rintro ⟨present, different⟩ v hv
      refine ⟨present, ?_, different v hv⟩
      rintro rfl
      obtain ⟨w, hw, same⟩ := null present hv
      exact Bool.false_ne_true ((different w hw).symm.trans same)
    · intro all
      refine ⟨?_, fun v hv => (all v hv).2.2⟩
      cases vs : items e with
      | nil => exact empty vs
      | cons v vs' => exact (all v (by simp [vs])).1

theorem compares_iff {op : Operator} {e : Value} (h : Comparable a op e) :
    compares a op e = Truth.passes (truthOf a op e) ↔ Faithful a op e := by
  obtain ⟨k, ha, he, text⟩ := h
  by_cases denial : op = .notIn
  · subst denial
    exact notIn_iff ha he
  · refine iff_of_true ?_ fun h => absurd h denial
    cases op with
    | notIn => exact absurd rfl denial
    | isIn => exact isIn_eq ha he
    | isNull | isNotNull => exact (Truth.passes_ofBool _).symm
    | _ => exact compares_eq rfl rfl ha (he e (List.mem_singleton_self e)) text

end

/-! ## Predicates -/

section

variable {row : Record} {p : Predicate}

/-- The row has a value for the column. -/
def HasColumn (row : Record) (c : ColumnExpr) : Prop := ∃ v, columnValue row c = .ok v

theorem columnValue_eq {c : ColumnExpr} (h : HasColumn row c) :
    columnValue row c = .ok (valueAt row c) := by
  obtain ⟨v, h⟩ := h
  rw [valueAt, h]

/-- What matching makes of a comparison. -/
def matched (row : Record) (l : Leaf) : Bool := compares (valueAt row l.column) l.op l.value

theorem satisfiesAll_eq {ps : List Predicate}
    (h : ∀ p ∈ ps, satisfies row p = .ok (p.eval (matched row))) :
    satisfiesAll row ps = .ok (Predicate.evalAll (matched row) ps) := by
  induction ps with
  | nil => rfl
  | cons p ps ih =>
    rw [satisfiesAll, h p (by simp), Predicate.evalAll,
      ih fun q hq => h q (List.mem_cons_of_mem _ hq)]
    cases p.eval (matched row) <;> rfl

theorem satisfiesAny_eq {ps : List Predicate}
    (h : ∀ p ∈ ps, satisfies row p = .ok (p.eval (matched row))) :
    satisfiesAny row ps = .ok (Predicate.evalAny (matched row) ps) := by
  induction ps with
  | nil => rfl
  | cons p ps ih =>
    rw [satisfiesAny, h p (by simp), Predicate.evalAny,
      ih fun q hq => h q (List.mem_cons_of_mem _ hq)]
    cases p.eval (matched row) <;> rfl

theorem satisfies_eq (h : ∀ l ∈ p.leaves, HasColumn row l.column) :
    satisfies row p = .ok (p.eval (matched row)) := by
  induction p using Predicate.inductionOn with
  | compare column op value =>
    rw [satisfies, columnValue_eq (h ⟨column, op, value⟩ (List.mem_singleton_self _))]
    rfl
  | all ps ih =>
    exact satisfiesAll_eq fun q hq => ih q hq fun l hl => h l (Predicate.leaves_member hq hl)
  | any ps ih =>
    exact satisfiesAny_eq fun q hq => ih q hq fun l hl => h l (Predicate.leaves_member hq hl)

/-- Whether a row passes can be asked of the comparisons already. -/
theorem passes_meaning (row : Record) (p : Predicate) :
    Truth.passes (meaning row p) = p.eval (Truth.passes ∘ leafTruth row) :=
  Predicate.eval_hom Truth.passes p

theorem satisfies_iff (columns : ∀ l ∈ p.leaves, HasColumn row l.column)
    (comparable : ∀ l ∈ p.leaves, Comparable (valueAt row l.column) l.op l.value)
    (faithful : ∀ l ∈ p.leaves, Faithful (valueAt row l.column) l.op l.value) :
    satisfies row p = .ok true ↔ meaning row p = .true := by
  have agree : ∀ l ∈ p.leaves, matched row l = (Truth.passes ∘ leafTruth row) l :=
    fun l hl => (compares_iff (comparable l hl)).mpr (faithful l hl)
  rw [satisfies_eq columns, Predicate.eval_congr agree, ← passes_meaning, Except.ok.injEq,
    Truth.passes_eq_true]

theorem faithful_of_iff {l : Leaf} (column : HasColumn row l.column)
    (comparable : Comparable (valueAt row l.column) l.op l.value)
    (h : satisfies row (.compare l.column l.op l.value) = .ok true ↔
      meaning row (.compare l.column l.op l.value) = .true) :
    Faithful (valueAt row l.column) l.op l.value := by
  rw [satisfies_eq fun k hk => (List.mem_singleton.mp hk) ▸ column, Except.ok.injEq,
    ← Truth.passes_eq_true, ← Bool.eq_iff_iff] at h
  exact (compares_iff comparable).mp h

/-- A membership test of no items has the truth value of the constant it is written as. -/
theorem read_leafTruth {truth : Sql.Comparison → Truth} {l : Leaf}
    (h : l.isConstant = false → truth l.comparison = leafTruth row l) :
    l.read truth = leafTruth row l := by
  unfold Leaf.read
  split
  case isFalse written => exact h (Bool.eq_false_iff.mpr written)
  case isTrue constant =>
    obtain ⟨column, op, value⟩ := l
    obtain ⟨list, empty⟩ := Bool.and_eq_true_iff.mp constant
    have none : items value = [] := List.isEmpty_iff.mp empty
    cases op with
    | isIn | notIn => simp [leafTruth, truthOf, none]
    | _ => cases list

end

/-- Matching answers for every row that has the columns. Where the values can be compared, it
answers as SQL's logic does, for the predicate and all its parts, exactly if every NOT IN is a
faithful one; and SQL's truth value is the one that the written predicate is read as. -/
theorem satisfies_three_valued {row : Record} {p : Predicate}
    (columns : ∀ l ∈ p.leaves, HasColumn row l.column)
    (comparable : ∀ l ∈ p.leaves, Comparable (valueAt row l.column) l.op l.value) :
    (∃ b, satisfies row p = .ok b) ∧
      ((∀ l ∈ p.leaves, Faithful (valueAt row l.column) l.op l.value) →
        (satisfies row p = .ok true ↔ meaning row p = .true)) ∧
      ((∀ r ∈ p.parts, satisfies row r = .ok true ↔ meaning row r = .true) ↔
        ∀ l ∈ p.leaves, Faithful (valueAt row l.column) l.op l.value) ∧
      (p.WellFormed → ∀ (style : Placeholder) (before : List Sql.Item)
        (truth : Sql.Comparison → Truth),
        (∀ l ∈ p.leaves, l.isConstant = false → truth l.comparison = leafTruth row l) →
        Sql.readClause style truth before " WHERE "
            (Sql.ofItems (before ++ Predicate.clauseItems " WHERE " [p])) =
          some (meaning row p)) := by
  refine ⟨⟨_, satisfies_eq columns⟩, satisfies_iff columns comparable,
    ⟨fun agree l hl => ?_, fun faithful r hr => ?_⟩, ?_⟩
  · exact faithful_of_iff (columns l hl) (comparable l hl)
      (agree _ (Predicate.mem_parts_of_leaf hl))
  · have inside : ∀ l ∈ r.leaves, l ∈ p.leaves := fun l hl =>
      Predicate.mem_leaves_of_parts hr hl
    exact satisfies_iff (fun l hl => columns l (inside l hl))
      (fun l hl => comparable l (inside l hl)) fun l hl => faithful l (inside l hl)
  · intro wf style before truth agree
    have wfs : ∀ q ∈ [p], q.WellFormed := fun q hq => by rwa [List.mem_singleton.mp hq]
    have read := Predicate.readClause_ofItems style truth wfs (by decide)
      (Sql.stops_nil " WHERE ") before
    rw [List.append_nil, Predicate.clauseValue_singleton] at read
    rw [read, Predicate.eval_congr fun l hl => read_leafTruth (agree l hl)]
    rfl

def sampleRow : Record := ⟨[("a", .int 2), ("b", .null)]⟩

def samplePredicate : Predicate :=
  .all [.any [.compare (.column ⟨[.plain "b"]⟩) .eq (.int 1),
      .compare (.column ⟨[.plain "a"]⟩) .isIn (.list [.int 2, .null])],
    .compare (.column ⟨[.plain "a"]⟩) .notIn (.list [.int 3])]

/-- NULL in the row and in the list of an IN do no harm. -/
theorem sample_three_valued :
    satisfies sampleRow samplePredicate = .ok true ∧ meaning sampleRow samplePredicate = .true := by
  have columns : ∀ l ∈ samplePredicate.leaves, HasColumn sampleRow l.column := by
    simp only [samplePredicate, Predicate.leaves, Predicate.leavesAll, List.cons_append,
      List.nil_append, List.forall_mem_cons]
    exact ⟨⟨_, rfl⟩, ⟨_, rfl⟩, ⟨_, rfl⟩, fun _ h => by cases h⟩
  have comparable : ∀ l ∈ samplePredicate.leaves,
      Comparable (valueAt sampleRow l.column) l.op l.value := by
    simp only [samplePredicate, Predicate.leaves, Predicate.leavesAll, List.cons_append,
      List.nil_append, List.forall_mem_cons]
    refine ⟨⟨.int, .inl rfl, ?_, ?_⟩, ⟨.int, .inr rfl, ?_, ?_⟩, ⟨.int, .inr rfl, ?_, ?_⟩,
      fun _ h => by cases h⟩ <;> simp [Predicate.boundValues, items, Operator.takesList,
        Operator.takesValue, Value.Fits, Value.kind?]
  have faithful : ∀ l ∈ samplePredicate.leaves,
      Faithful (valueAt sampleRow l.column) l.op l.value := by
    simp only [samplePredicate, Predicate.leaves, Predicate.leavesAll, List.cons_append,
      List.nil_append, List.forall_mem_cons]
    refine ⟨?_, ?_, ?_, fun _ h => by cases h⟩ <;> simp [Faithful, items]
  have passes : satisfies sampleRow samplePredicate = .ok true := rfl
  exact ⟨passes, ((satisfies_three_valued columns comparable).2.1 faithful).mp passes⟩

/-- `2 NOT IN (1, NULL)` is unknown, and still the row is taken. -/
theorem notIn_null_differs : ∃ row p, (∀ l ∈ Predicate.leaves p, HasColumn row l.column) ∧
    (∀ l ∈ Predicate.leaves p, Comparable (valueAt row l.column) l.op l.value) ∧
    satisfies row p = .ok true ∧ meaning row p = .unknown := by
  refine ⟨sampleRow, .compare (.column ⟨[.plain "a"]⟩) .notIn (.list [.int 1, .null]), ?_, ?_,
    rfl, rfl⟩
  · intro l hl
    rw [List.mem_singleton.mp hl]
    exact ⟨_, rfl⟩
  · intro l hl
    rw [List.mem_singleton.mp hl]
    exact ⟨.int, .inr rfl, by simp [Predicate.boundValues, items, Operator.takesList, Value.Fits,
      Value.kind?], by simp⟩

end Memory

end EntityStore
