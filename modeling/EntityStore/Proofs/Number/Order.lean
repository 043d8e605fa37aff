import EntityStore.Proofs.Number.Rounding
import EntityStore.Proofs.Value

/-!
# Order of numbers

Two integers are compared as integers, and an integer and a double as doubles. Any two numbers
compare, and the other way round the answer is reversed. It is transitive unless an integer, a
double and another integer that is rounded to the same double are compared: both integers have more
than 53 bits then.
-/

namespace EntityStore

namespace Number

open Float.Model (UnpackedFloat)
open Float.Model.UnpackedFloat

/-! ## Doubles -/

/-- Where a double stands: on which side of zero, in which binade and where in it. -/
structure Place where
  side : Int
  binade : Int
  within : Int

instance : Ord Place :=
  ⟨compareLex (compareOn Place.side) (compareLex (compareOn Place.binade) (compareOn Place.within))⟩

instance : Std.TransOrd Place :=
  inferInstanceAs (Std.TransCmp (compareLex (compareOn Place.side)
    (compareLex (compareOn Place.binade) (compareOn Place.within))))

/-- The place of a double, of no meaning for NaN. -/
def Place.ofUnpacked : UnpackedFloat → Place
  | .infinity sign => ⟨sign.apply 2, 0, 0⟩
  | .notANumber => ⟨0, 0, 0⟩
  | .zero _ => ⟨0, 0, 0⟩
  | .finite sign m e _ => ⟨sign.apply 1, sign.apply e, sign.apply m⟩

def place (x : Float) : Place := .ofUnpacked x.toModel.unpack

theorem compare_natCast (m n : Nat) : compare (m : Int) n = compare m n := by
  change compareOfLessAndEq (m : Int) n = compareOfLessAndEq m n
  simp [compareOfLessAndEq]

theorem compare_neg (a b : Int) : compare (-a) (-b) = (compare a b).swap := by
  rcases lt_trichotomy a b with less | rfl | greater
  · rw [compare_lt_iff_lt.mpr less, compare_gt_iff_gt.mpr (neg_lt_neg less)]
    rfl
  · rw [compare_eq_iff_eq.mpr rfl, compare_eq_iff_eq.mpr rfl]
    rfl
  · rw [compare_gt_iff_gt.mpr greater, compare_lt_iff_lt.mpr (neg_lt_neg greater)]
    rfl

/-- Doubles other than NaN are compared by their places. -/
theorem compare_unpacked {x y : UnpackedFloat} (defined : x ≠ .notANumber)
    (defined' : y ≠ .notANumber) :
    x.compare y = some (compare (Place.ofUnpacked x) (Place.ofUnpacked y)) := by
  cases x with
  | notANumber => exact absurd rfl defined
  | infinity s =>
    cases y with
    | notANumber => exact absurd rfl defined'
    | infinity t => cases s <;> cases t <;> rfl
    | zero t => cases s <;> rfl
    | finite t => cases s <;> cases t <;> rfl
  | zero s =>
    cases y with
    | notANumber => exact absurd rfl defined'
    | infinity t => cases t <;> rfl
    | zero t => rfl
    | finite t => cases t <;> rfl
  | finite s m e positive =>
    cases y with
    | notANumber => exact absurd rfl defined'
    | infinity t => cases s <;> cases t <;> rfl
    | zero t => cases s <;> rfl
    | finite t n f positive' =>
      cases s with
      | positive =>
        cases t with
        | positive =>
          change _ = some ((compare e f).then (compare (m : Int) n))
          rw [compare_natCast]
          rfl
        | negative => rfl
      | negative =>
        cases t with
        | positive => rfl
        | negative =>
          change _ = some ((compare (-e) (-f)).then (compare (-(m : Int)) (-n)))
          rw [compare_neg, compare_neg, compare_natCast, ← Ordering.swap_then]
          rfl

theorem unpack_of_defined {x : Float} (defined : x.isNaN = false) :
    x.toModel.unpack ≠ .notANumber := by
  intro nan
  have undefined : x.toModel.unpack.isNaN = true := isNaN_iff.mpr nan
  exact Bool.false_ne_true (defined.symm.trans undefined)

/-- Doubles other than NaN are compared by their places. -/
theorem compareFloat?_eq_place {x y : Float} (defined : x.isNaN = false)
    (defined' : y.isNaN = false) :
    Value.compareFloat? x y = some (compare (place x) (place y)) := by
  have forward : x.toModel.unpack.compare y.toModel.unpack = some (compare (place x) (place y)) :=
    compare_unpacked (unpack_of_defined defined) (unpack_of_defined defined')
  have back : y.toModel.unpack.compare x.toModel.unpack = some (compare (place y) (place x)) :=
    compare_unpacked (unpack_of_defined defined') (unpack_of_defined defined)
  rw [Std.OrientedOrd.eq_swap (a := place y)] at back
  simp only [Value.compareFloat?, lt_iff, beq_iff, forward, back]
  cases compare (place x) (place y) <;> rfl

theorem beq_iff_place {x y : Float} (defined : x.isNaN = false) (defined' : y.isNaN = false) :
    (x == y) = true ↔ compare (place x) (place y) = .eq := by
  rw [← Value.compareFloat?_eq, compareFloat?_eq_place defined defined', Option.some_inj]

/-! ## Integers as doubles -/

variable {i j : Int64} {m n : Nat} {sign : Sign}

theorem place_ofInt64 (positive : 0 < n) (value : i.toInt = sign.apply n) :
    place (ofInt64 i) = ⟨sign.apply 1, sign.apply (exponent n), sign.apply (significand n)⟩ := by
  obtain ⟨some, unpacked⟩ := unpack_ofInt64 positive value
  rw [place, unpacked]
  rfl

theorem exists_sign {z : Int} (some : z ≠ 0) :
    ∃ (sign : Sign) (n : Nat), 0 < n ∧ z = sign.apply n := by
  rcases lt_or_gt_of_ne some with below | above
  · refine ⟨.negative, z.natAbs, Int.natAbs_pos.mpr some, ?_⟩
    change z = -(z.natAbs : Int)
    omega
  · refine ⟨.positive, z.natAbs, Int.natAbs_pos.mpr some, ?_⟩
    change z = (z.natAbs : Int)
    omega

theorem eq_zero_of_toInt (none : i.toInt = 0) : i = 0 := Int64.toInt_inj.mp none

theorem isNaN_ofInt64 (i : Int64) : (ofInt64 i).isNaN = false := by
  by_cases none : i.toInt = 0
  · rw [eq_zero_of_toInt none]
    rfl
  · obtain ⟨sign, n, positive, value⟩ := exists_sign none
    obtain ⟨some, unpacked⟩ := unpack_ofInt64 positive value
    change (ofInt64 i).toModel.unpack.isNaN = false
    rw [unpacked]
    rfl

/-- An integer and its double are on the same side of zero. -/
theorem side_ofInt64 (i : Int64) : (place (ofInt64 i)).side = i.toInt.sign := by
  by_cases none : i.toInt = 0
  · rw [eq_zero_of_toInt none]
    rfl
  · obtain ⟨sign, n, positive, value⟩ := exists_sign none
    rw [place_ofInt64 positive value, value]
    cases sign with
    | positive => exact (Int.sign_eq_one_of_pos (Int.natCast_pos.mpr positive)).symm
    | negative =>
      exact (Int.sign_eq_neg_one_of_neg (Int.neg_neg_of_pos (Int.natCast_pos.mpr positive))).symm

theorem compare_of_side {p q : Place} (less : p.side < q.side) : compare p q = .lt := by
  change (compare p.side q.side).then _ = .lt
  rw [compare_lt_iff_lt.mpr less]
  rfl

theorem compare_within {p q : Place} (same : p.side = q.side) : compare p q = .lt ↔
    p.binade < q.binade ∨ p.binade = q.binade ∧ p.within < q.within := by
  change (compare p.side q.side).then ((compare p.binade q.binade).then _) = .lt ↔ _
  rw [compare_eq_iff_eq.mpr same, Ordering.eq_then, Ordering.then_eq_lt, compare_lt_iff_lt,
    compare_eq_iff_eq]
  exact or_congr_right (and_congr_right fun _ => compare_lt_iff_lt)

theorem compare_same_side (positive : 0 < m) (positive' : 0 < n) (value : i.toInt = sign.apply m)
    (value' : j.toInt = sign.apply n) : compare (place (ofInt64 i)) (place (ofInt64 j)) = .lt ↔
      sign.apply (position m) < sign.apply (position n) := by
  have forward := smaller_iff positive positive'
  have back := smaller_iff positive' positive
  unfold Smaller at forward back
  rw [place_ofInt64 positive value, place_ofInt64 positive' value']
  refine Iff.trans (compare_within ?_) ?_
  · rfl
  · cases sign with
    | positive =>
      simp only [Sign.apply]
      omega
    | negative =>
      simp only [Sign.apply]
      omega

/-- Two integers in order are equal, or on different sides of zero, or both on one side of it. -/
theorem sides_of_le (le : i.toInt ≤ j.toInt) :
    i = j ∨ i.toInt.sign < j.toInt.sign ∨ ∃ (sign : Sign) (m n : Nat),
      0 < m ∧ 0 < n ∧ i.toInt = sign.apply m ∧ j.toInt = sign.apply n := by
  rcases lt_trichotomy i.toInt 0 with below | zero | above
  · rcases lt_or_ge j.toInt 0 with below' | rest
    · refine .inr (.inr ⟨.negative, i.toInt.natAbs, j.toInt.natAbs, ?_⟩)
      simp only [Sign.apply]
      omega
    · have side := Int.sign_nonneg_iff.mpr rest
      rw [Int.sign_eq_neg_one_of_neg below]
      omega
  · rcases le.lt_or_eq with less | same
    · have positive : 0 < j.toInt := by omega
      rw [zero, Int.sign_zero, Int.sign_eq_one_of_pos positive]
      exact .inr (.inl Int.zero_lt_one)
    · exact .inl (Int64.toInt_inj.mp same)
  · refine .inr (.inr ⟨.positive, i.toInt.natAbs, j.toInt.natAbs, ?_⟩)
    simp only [Sign.apply]
    omega

/-- The double of an integer does not come before that of a smaller one. -/
theorem not_before (le : i.toInt ≤ j.toInt) :
    compare (place (ofInt64 j)) (place (ofInt64 i)) ≠ .lt := by
  rcases sides_of_le le with rfl | less | ⟨sign, m, n, positive, positive', value, value'⟩
  · rw [Std.ReflOrd.compare_self]
    decide
  · rw [← side_ofInt64, ← side_ofInt64] at less
    rw [Std.OrientedOrd.eq_swap, compare_of_side less]
    decide
  · rw [ne_eq, compare_same_side positive' positive value' value, not_lt]
    rw [value, value'] at le
    cases sign with
    | positive => exact position_mono positive (Int.ofNat_le.mp le)
    | negative =>
      exact Int.neg_le_neg (position_mono positive' (Int.ofNat_le.mp (Int.le_of_neg_le_neg le)))

/-- The doubles of different integers differ if one of the integers is small enough. -/
theorem before (less : i.toInt < j.toInt)
    (short : i.toInt.natAbs < 2 ^ 53 ∨ j.toInt.natAbs < 2 ^ 53) :
    compare (place (ofInt64 i)) (place (ofInt64 j)) = .lt := by
  rcases sides_of_le less.le with rfl | side | ⟨sign, m, n, positive, positive', value, value'⟩
  · exact absurd less (lt_irrefl _)
  · rw [← side_ofInt64, ← side_ofInt64] at side
    exact compare_of_side side
  · rw [compare_same_side positive positive' value value']
    rw [value, value'] at less short
    cases sign with
    | positive =>
      have less : m < n := Int.ofNat_lt.mp less
      exact position_lt positive (by simp only [Sign.apply] at short; omega) less
    | negative =>
      have less : n < m := Int.ofNat_lt.mp (Int.lt_of_neg_lt_neg less)
      exact Int.neg_lt_neg (position_lt positive' (by simp only [Sign.apply] at short; omega) less)

end Number

/-! ## Numbers -/

namespace Value

open Number

/-- An integer, or a double other than NaN. -/
inductive IsNumber : Value → Prop where
  | int (i : Int64) : IsNumber (.int i)
  | float {x : Float} (defined : x.isNaN = false) : IsNumber (.float x)

/-- Less or equal in comparisons. -/
def AtMost (a b : Value) : Prop := (a.compare? b).any (·.isLE) = true

/-- Equal in comparisons. -/
def Ties (a b : Value) : Prop := a.compare? b = some .eq

instance (a b : Value) : Decidable (a.AtMost b) :=
  inferInstanceAs (Decidable ((a.compare? b).any (·.isLE) = true))

instance (a b : Value) : Decidable (a.Ties b) :=
  inferInstanceAs (Decidable (a.compare? b = some .eq))

/-- Two different integers and between them a double to which both are rounded. -/
inductive Merges : Value → Value → Value → Prop where
  | intro {i k : Int64} {x : Float} (differ : i ≠ k) (left : (ofInt64 i == x) = true)
      (right : (x == ofInt64 k) = true) : Merges (.int i) (.float x) (.int k)

/-- Where a number stands as a double. -/
def place : Value → Place
  | .int i => Number.place (ofInt64 i)
  | .float x => Number.place x
  | _ => ⟨0, 0, 0⟩

variable {a b c : Value} {i k : Int64}

theorem atMost_int : (Value.int i).AtMost (.int k) ↔ i.toInt ≤ k.toInt := by
  change (some (compare i k)).any (·.isLE) = true ↔ _
  rw [Option.any_some, Std.isLE_compare, Int64.le_iff_toInt_le]

/-- Numbers are compared as doubles unless both are integers. -/
theorem integers_or_places (number : a.IsNumber) (number' : b.IsNumber) :
    (∃ i k, a = .int i ∧ b = .int k) ∨ a.compare? b = some (compare a.place b.place) ∧
      b.compare? a = some (compare b.place a.place) := by
  cases number with
  | int i =>
    have defined := isNaN_ofInt64 i
    cases number' with
    | int k => exact .inl ⟨i, k, rfl, rfl⟩
    | float defined' =>
      exact .inr ⟨compareFloat?_eq_place defined defined', compareFloat?_eq_place defined' defined⟩
  | float defined =>
    cases number' with
    | int k =>
      have defined' := isNaN_ofInt64 k
      exact .inr ⟨compareFloat?_eq_place defined defined', compareFloat?_eq_place defined' defined⟩
    | float defined' =>
      exact .inr ⟨compareFloat?_eq_place defined defined', compareFloat?_eq_place defined' defined⟩

/-- Any two numbers compare, and the other way round the answer is reversed. -/
theorem exists_compare? (number : a.IsNumber) (number' : b.IsNumber) :
    ∃ o, a.compare? b = some o ∧ b.compare? a = some o.swap := by
  rcases integers_or_places number number' with ⟨i, k, rfl, rfl⟩ | ⟨forward, back⟩
  · exact ⟨compare i k, rfl, congrArg some Std.OrientedOrd.eq_swap⟩
  · exact ⟨_, forward, back.trans (congrArg some Std.OrientedOrd.eq_swap)⟩

theorem ties_iff (number : a.IsNumber) (number' : b.IsNumber) :
    a.Ties b ↔ a.AtMost b ∧ b.AtMost a := by
  obtain ⟨o, forward, back⟩ := exists_compare? number number'
  rw [Ties, AtMost, AtMost, forward, back]
  cases o <;> decide

/-- Rounding keeps the order of numbers. -/
theorem place_of_atMost (number : a.IsNumber) (number' : b.IsNumber) (le : a.AtMost b) :
    (compare a.place b.place).isLE = true := by
  rcases integers_or_places number number' with ⟨i, k, rfl, rfl⟩ | ⟨forward, -⟩
  · have kept := not_before (atMost_int.mp le)
    rw [Std.OrientedOrd.eq_swap] at kept
    change (compare (Number.place (ofInt64 i)) (Number.place (ofInt64 k))).isLE = true
    generalize compare (Number.place (ofInt64 i)) (Number.place (ofInt64 k)) = o at kept
    cases o <;> simp_all
  · rwa [AtMost, forward] at le

/-- Back from doubles, only two integers may stand in the other order. -/
theorem atMost_of_place (number : a.IsNumber) (number' : b.IsNumber)
    (le : (compare a.place b.place).isLE = true) :
    a.AtMost b ∨ ∃ i k, a = .int i ∧ b = .int k ∧ k.toInt < i.toInt := by
  rcases integers_or_places number number' with ⟨i, k, rfl, rfl⟩ | ⟨forward, -⟩
  · rw [atMost_int]
    exact (le_or_gt i.toInt k.toInt).imp_right fun less => ⟨i, k, rfl, rfl, less⟩
  · rw [AtMost, forward]
    exact .inl le

/-! ## Merged integers -/

theorem Merges.symm (merged : Merges a b c) : Merges c b a := by
  obtain ⟨differ, left, right⟩ := merged
  exact .intro differ.symm (BEq.symm right) (BEq.symm left)

theorem Merges.ties (merged : Merges a b c) : a.Ties b ∧ b.Ties c := by
  obtain ⟨-, left, right⟩ := merged
  exact ⟨compareFloat?_eq.mpr left, compareFloat?_eq.mpr right⟩

/-- Only one of two integers that are merged is at most the other. -/
theorem Merges.apart (merged : Merges a b c) : a.AtMost c ↔ ¬ c.AtMost a := by
  obtain ⟨differ, -, -⟩ := merged
  have differ' := mt Int64.toInt_inj.mp differ
  rw [atMost_int, atMost_int]
  omega

/-- Integers of at most 53 bits are merged with no other. -/
theorem Merges.large (merged : Merges (.int i) b (.int k)) : 2 ^ 53 ≤ i.toInt.natAbs := by
  cases merged with
  | intro differ left right =>
    have same : compare (Number.place (ofInt64 i)) (Number.place (ofInt64 k)) = .eq :=
      (beq_iff_place (isNaN_ofInt64 i) (isNaN_ofInt64 k)).mp (Number.beq_trans left right)
    by_contra small
    have short : i.toInt.natAbs < 2 ^ 53 := not_le.mp small
    rcases lt_or_gt_of_ne (mt Int64.toInt_inj.mp differ) with less | greater
    · cases same.symm.trans (before less (.inl short))
    · rw [Std.OrientedOrd.eq_swap, before greater (.inr short)] at same
      cases same

/-- Comparing is transitive but for integers that are merged. -/
theorem atMost_trans (number : a.IsNumber) (number' : b.IsNumber) (number'' : c.IsNumber)
    (first : a.AtMost b) (second : b.AtMost c) : a.AtMost c ∨ Merges a b c := by
  have before := place_of_atMost number number' first
  have behind := place_of_atMost number' number'' second
  rcases atMost_of_place number number'' (Std.TransCmp.isLE_trans before behind) with
    le | ⟨i, k, rfl, rfl, less⟩
  · exact .inl le
  · right
    cases number' with
    | int j =>
      rw [atMost_int] at first second
      omega
    | float defined =>
      have still := not_before less.le
      refine .intro (ne_of_apply_ne Int64.toInt less.ne') ?_ ?_
      · rw [beq_iff_place (isNaN_ofInt64 i) defined]
        refine (Ordering.isLE_iff_eq_lt_or_eq_eq.mp before).resolve_left fun low => still ?_
        exact Std.TransCmp.lt_of_lt_of_isLE low behind
      · rw [beq_iff_place defined (isNaN_ofInt64 k)]
        refine (Ordering.isLE_iff_eq_lt_or_eq_eq.mp behind).resolve_left fun low => still ?_
        exact Std.TransCmp.lt_of_isLE_of_lt before low

/-- Numbers compare, and the other way round the answer is reversed. Less or equal and equal are
transitive, unless two different integers are compared through a double to which both are rounded.
There equal is not transitive, and less or equal is not in one of the two directions. It takes
integers of more than 53 bits for that. -/
theorem numbers_ordered_unless_merged (number : a.IsNumber) (number' : b.IsNumber)
    (number'' : c.IsNumber) :
    (∃ o, a.compare? b = some o ∧ b.compare? a = some o.swap) ∧
      (a.AtMost b → b.AtMost c → a.AtMost c ∨ Merges a b c) ∧
      (a.Ties b → b.Ties c → a.Ties c ∨ Merges a b c) ∧
      (Merges a b c → a.Ties b ∧ b.Ties c ∧ ¬ a.Ties c ∧ (a.AtMost c ↔ ¬ c.AtMost a)) ∧
      ∀ i k, a = .int i → c = .int k → Merges a b c →
        2 ^ 53 ≤ i.toInt.natAbs ∧ 2 ^ 53 ≤ k.toInt.natAbs := by
  have upward := atMost_trans number number' number''
  have downward := atMost_trans number'' number' number
  refine ⟨exists_compare? number number', upward, ?_, ?_, ?_⟩
  · rw [ties_iff number number', ties_iff number' number'', ties_iff number number'']
    rintro ⟨ab, ba⟩ ⟨bc, cb⟩
    rcases upward ab bc with ac | merged
    · rcases downward cb ba with ca | merged
      · exact .inl ⟨ac, ca⟩
      · exact .inr merged.symm
    · exact .inr merged
  · intro merged
    obtain ⟨first, second⟩ := merged.ties
    refine ⟨first, second, ?_, merged.apart⟩
    rw [ties_iff number number'', merged.apart]
    exact fun both => both.1 both.2
  · rintro i k rfl rfl merged
    exact ⟨merged.large, merged.symm.large⟩

/-- Odd integers of 54 bits and the double between them, which both are rounded away from. -/
theorem long_integers_ordered :
    let a : Value := .int 9007199254740993
    let b : Value := .float (ofInt64 9007199254740994)
    let c : Value := .int 9007199254740995
    a.IsNumber ∧ b.IsNumber ∧ c.IsNumber ∧ a.AtMost b ∧ b.AtMost c ∧
      (a.AtMost c ∨ Merges a b c) := by
  intro a b c
  have number : a.IsNumber := .int _
  have number' : b.IsNumber := .float (isNaN_ofInt64 _)
  have number'' : c.IsNumber := .int _
  have first : a.AtMost b := by decide +kernel
  have second : b.AtMost c := by decide +kernel
  have upward := (numbers_ordered_unless_merged number number' number'').2.1
  exact ⟨number, number', number'', first, second, upward first second⟩

/-- Two to the power of 53 and the next integer are rounded to one double: they both equal it, but
they differ, and the larger one is not at most the smaller one although the double is between. -/
theorem merged_integers_differ :
    let a : Value := .int 9007199254740993
    let b : Value := .float (ofInt64 9007199254740992)
    let c : Value := .int 9007199254740992
    a.IsNumber ∧ b.IsNumber ∧ c.IsNumber ∧ (a.Ties b ∧ b.Ties c ∧ ¬ a.Ties c) ∧
      a.AtMost b ∧ b.AtMost c ∧ ¬ a.AtMost c :=
  ⟨.int _, .float (isNaN_ofInt64 _), .int _, by decide +kernel⟩

end Value

end EntityStore
