import EntityStore.Value
import Mathlib

/-!
# Equality of values

Equality is no equivalence, since NaN differs from itself, but it is symmetric and transitive, and
null equals nothing but null. Equal values are found equal to the same values in comparisons.
-/

namespace EntityStore

theorem Number.lt_iff {a b : Float} :
    a < b ↔ a.toModel.unpack.compare b.toModel.unpack = some .lt := by
  change (decide (a.toModel < b.toModel)) = true ↔ _
  rw [decide_eq_true_iff]
  change (a.toModel.unpack.compare b.toModel.unpack == some .lt) = true ↔ _
  exact beq_iff_eq

theorem Number.beq_iff {a b : Float} :
    (a == b) = true ↔ a.toModel.unpack.compare b.toModel.unpack = some .eq := by
  change (a.toModel.unpack.compare b.toModel.unpack == some .eq) = true ↔ _
  exact beq_iff_eq

theorem Number.beq_trans {a b c : Float} (first : (a == b) = true) (second : (b == c) = true) :
    (a == c) = true := by
  rw [Float.beq_iff_ne_nan_and_eq] at *
  grind

namespace Json

mutual

theorem beq_comm (a b : Json) : beq a b = beq b a := by
  cases a <;> cases b <;> try rfl
  · exact BEq.comm
  · exact BEq.comm
  · exact BEq.comm
  · exact BEq.comm
  · rw [beq, beq]
    exact beqItems_comm _ _
  · rw [beq, beq]
    exact beqMembers_comm _ _

theorem beqItems_comm (as bs : List Json) : beqItems as bs = beqItems bs as := by
  cases as <;> cases bs <;> try rfl
  rw [beqItems, beqItems, beq_comm, beqItems_comm]

theorem beqMembers_comm (as bs : List (String × Json)) : beqMembers as bs = beqMembers bs as := by
  cases as with
  | nil => cases bs <;> rfl
  | cons a as =>
    cases bs with
    | nil => rfl
    | cons b bs =>
      rw [beqMembers, beqMembers, BEq.comm (a := a.1), beq_comm a.2, beqMembers_comm as]

end

mutual

theorem beq_trans (a b c : Json) (first : beq a b = true) (second : beq b c = true) :
    beq a c = true := by
  cases a with
  | null => cases b <;> first | exact second | cases first
  | bool x =>
    cases b with
    | bool y => rwa [show x = y from eq_of_beq first]
    | _ => cases first
  | int x =>
    cases b with
    | int y => rwa [show x = y from eq_of_beq first]
    | _ => cases first
  | string x =>
    cases b with
    | string y => rwa [show x = y from eq_of_beq first]
    | _ => cases first
  | float x =>
    cases b with
    | float y =>
      cases c with
      | float z => exact Number.beq_trans first second
      | _ => cases second
    | _ => cases first
  | array xs =>
    cases b with
    | array ys =>
      cases c with
      | array zs =>
        rw [beq] at *
        exact beqItems_trans xs ys zs first second
      | _ => cases second
    | _ => cases first
  | object xs =>
    cases b with
    | object ys =>
      cases c with
      | object zs =>
        rw [beq] at *
        exact beqMembers_trans xs ys zs first second
      | _ => cases second
    | _ => cases first

theorem beqItems_trans (as bs cs : List Json) (first : beqItems as bs = true)
    (second : beqItems bs cs = true) : beqItems as cs = true := by
  cases as with
  | nil => cases bs <;> first | exact second | cases first
  | cons a as =>
    cases bs with
    | nil => cases first
    | cons b bs =>
      cases cs with
      | nil => cases second
      | cons c cs =>
        rw [beqItems, Bool.and_eq_true] at *
        exact ⟨beq_trans a b c first.1 second.1, beqItems_trans as bs cs first.2 second.2⟩

theorem beqMembers_trans (as bs cs : List (String × Json)) (first : beqMembers as bs = true)
    (second : beqMembers bs cs = true) : beqMembers as cs = true := by
  match as, bs, cs with
  | [], [], _ => exact second
  | (m, a) :: as, (n, b) :: bs, (o, c) :: cs =>
    rw [beqMembers, Bool.and_eq_true, Bool.and_eq_true] at first second ⊢
    obtain ⟨⟨name, value⟩, rest⟩ := first
    obtain ⟨⟨name', value'⟩, rest'⟩ := second
    refine ⟨⟨?_, beq_trans a b c value value'⟩, beqMembers_trans as bs cs rest rest'⟩
    rwa [eq_of_beq name]

end

end Json

namespace Value

mutual

theorem beq_comm (a b : Value) : beq a b = beq b a := by
  cases a <;> cases b <;> try rfl
  · exact BEq.comm
  · exact BEq.comm
  · exact BEq.comm
  · exact BEq.comm
  · exact BEq.comm
  · exact Json.beq_comm _ _
  · exact BEq.comm
  · exact BEq.comm
  · rw [beq, beq]
    exact beqItems_comm _ _

theorem beqItems_comm (as bs : List Value) : beqItems as bs = beqItems bs as := by
  cases as <;> cases bs <;> try rfl
  rw [beqItems, beqItems, beq_comm, beqItems_comm]

end

/-- The value is of a kind whose values equal themselves and nothing else. -/
def isExact : Value → Bool
  | .float _ | .json _ | .list _ => false
  | .null | .bool _ | .int _ | .text _ | .bytes _ | .timestamp _ | .uuid _ => true

theorem eq_of_beq_of_isExact {v w : Value} (exact : v.isExact = true) (same : beq v w = true) :
    v = w := by
  cases v with
  | float x | json x | list xs => cases exact
  | null =>
    cases w with
    | null => rfl
    | _ => cases same
  | bool x =>
    cases w with
    | bool y => exact congrArg Value.bool (eq_of_beq same)
    | _ => cases same
  | int x =>
    cases w with
    | int y => exact congrArg Value.int (eq_of_beq same)
    | _ => cases same
  | text x =>
    cases w with
    | text y => exact congrArg Value.text (eq_of_beq same)
    | _ => cases same
  | bytes x =>
    cases w with
    | bytes y => exact congrArg Value.bytes (eq_of_beq same)
    | _ => cases same
  | timestamp x =>
    cases w with
    | timestamp y => exact congrArg Value.timestamp (eq_of_beq same)
    | _ => cases same
  | uuid x =>
    cases w with
    | uuid y => exact congrArg Value.uuid (eq_of_beq same)
    | _ => cases same

mutual

theorem beq_trans (a b c : Value) (first : beq a b = true) (second : beq b c = true) :
    beq a c = true := by
  cases a with
  | float x =>
    cases b with
    | float y =>
      cases c with
      | float z => exact Number.beq_trans first second
      | _ => cases second
    | _ => cases first
  | json x =>
    cases b with
    | json y =>
      cases c with
      | json z => exact Json.beq_trans x y z first second
      | _ => cases second
    | _ => cases first
  | list xs =>
    cases b with
    | list ys =>
      cases c with
      | list zs =>
        rw [beq] at *
        exact beqItems_trans xs ys zs first second
      | _ => cases second
    | _ => cases first
  | _ => rwa [eq_of_beq_of_isExact rfl first]

theorem beqItems_trans (as bs cs : List Value) (first : beqItems as bs = true)
    (second : beqItems bs cs = true) : beqItems as cs = true := by
  cases as with
  | nil => cases bs <;> first | exact second | cases first
  | cons a as =>
    cases bs with
    | nil => cases first
    | cons b bs =>
      cases cs with
      | nil => cases second
      | cons c cs =>
        rw [beqItems, Bool.and_eq_true] at *
        exact ⟨beq_trans a b c first.1 second.1, beqItems_trans as bs cs first.2 second.2⟩

end

instance : PartialEquivBEq Value where
  symm {a b} h := (beq_comm b a).trans h
  trans := beq_trans _ _ _

theorem isNull_of_beq {a b : Value} (h : (a == b) = true) : a.isNull = b.isNull := by
  cases a <;> cases b <;> first | rfl | cases h

/-- Only the number itself equals a number. -/
theorem eq_int_of_beq {v : Value} {i : Int64} (h : (v == .int i) = true) : v = .int i :=
  (eq_of_beq_of_isExact rfl ((beq_comm (.int i) v).trans h)).symm

/-- Null compares with nothing. -/
theorem isNull_of_compare? {v w : Value} {o : Ordering} (compared : v.compare? w = some o) :
    v.isNull = false ∧ w.isNull = false := by
  cases v <;> cases w <;> first | exact ⟨rfl, rfl⟩ | cases compared

/-- Doubles compare as equal when they are equal. -/
theorem compareFloat?_eq {a b : Float} : compareFloat? a b = some .eq ↔ (a == b) = true := by
  unfold compareFloat?
  by_cases lt : a < b
  · rw [if_pos lt, Number.beq_iff, Number.lt_iff.mp lt]
  · rw [if_neg lt]
    split
    · simp [*]
    · split <;> simp [*]

/-- Equal values are equal to the same values in comparisons. -/
theorem compare?_eq_congr {w k : Value} (same : (w == k) = true) (v : Value) :
    v.compare? w = some .eq ↔ v.compare? k = some .eq := by
  have float {x y z : Float} (same : (y == z) = true) :
      compareFloat? x y = some .eq ↔ compareFloat? x z = some .eq := by
    rw [compareFloat?_eq, compareFloat?_eq]
    exact ⟨fun h => Number.beq_trans h same, fun h => Number.beq_trans h (BEq.symm same)⟩
  cases w with
  | float y =>
    cases k with
    | float z => cases v <;> first | exact float same | rfl
    | _ => cases same
  | json i =>
    cases k with
    | json j =>
      cases v with
      | json d =>
        have back : (j == i) = true := (Json.beq_comm j i).trans same
        simp only [compare?, ite_eq_left_iff, reduceCtorEq, imp_false, not_not]
        exact ⟨fun h => Json.beq_trans d i j h same, fun h => Json.beq_trans d j i h back⟩
      | _ => rfl
    | _ => cases same
  | list xs =>
    cases k with
    | list ys => cases v <;> rfl
    | _ => cases same
  | _ => rw [eq_of_beq_of_isExact rfl same]

/-! ## Order -/

/-- Bytes are compared by their first difference. -/
theorem compare_bytes {a b : List UInt8} : compare a b = .lt ↔ a < b := by
  induction a generalizing b with
  | nil => cases b <;> simp
  | cons x xs ih =>
    cases b with
    | nil => simp
    | cons y ys =>
      rw [List.compare_cons_cons, List.cons_lt_cons_iff, ← ih, Ordering.then_eq_lt,
        Std.compare_eq_iff_eq]
      exact or_congr_left compareOfLessAndEq_eq_lt

end Value

end EntityStore
