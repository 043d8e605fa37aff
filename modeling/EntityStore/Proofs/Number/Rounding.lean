import EntityStore.Number.Nearest
import EntityStore.Proofs.Number.Width

/-!
# Integers as doubles

A double has 53 bits of significand. An integer of so many bits is a double itself; of a longer one
the bits behind them are rounded off, to the nearest and in a tie to the even significand. Rounding
keeps the order of integers, and it gives different doubles to different integers unless both have
more than 53 bits.
-/

namespace EntityStore.Number

open Float.Model (UnpackedFloat totalExponent)
open Float.Model.UnpackedFloat

variable {sign : Sign} {m n d k : Nat} {e : Int}

/-! ## Rounded quotients -/

theorem roundRatio_mono (positive : 0 < d) (le : m ≤ n) : roundRatio m d ≤ roundRatio n d := by
  have quotients : m / d ≤ n / d := Nat.div_le_div_right le
  have parts := Nat.div_add_mod m d
  have parts' := Nat.div_add_mod n d
  have small := Nat.mod_lt n positive
  unfold roundRatio
  dsimp only
  generalize n % d = r' at *
  generalize m % d = r at *
  rcases quotients.lt_or_eq with less | same
  · split
    · split <;> omega
    · split <;> omega
  · rw [same] at parts ⊢
    have rests : r ≤ r' := by omega
    split
    · split <;> omega
    · rename_i up
      have up' : ¬ (decide (2 * r' < d) ||
          (decide (2 * r' = d) && decide (n / d % 2 = 0))) = true := by
        simp only [Bool.or_eq_true, Bool.and_eq_true, decide_eq_true_iff] at up ⊢
        omega
      rw [if_neg up']

theorem roundRatio_mul (positive : 0 < d) (q : Nat) : roundRatio (q * d) d = q := by
  unfold roundRatio
  rw [Nat.mul_div_cancel _ positive, Nat.mul_mod_left]
  simp [positive]

/-- The bits that are shifted out leave behind how the rest compares with half a unit. -/
theorem shiftRight_eq (m k : Nat) : (⟨m, false, false⟩ : ExtendedMantissa) >>> k =
    ⟨m / 2 ^ k, decide (2 ^ k ≤ 2 * (m % 2 ^ k)), decide (2 * (m % 2 ^ k) % 2 ^ k ≠ 0)⟩ := by
  induction k with
  | zero => simp [HShiftRight.hShiftRight, Nat.repeat, Nat.mod_one]
  | succ k ih =>
    have step : (⟨m, false, false⟩ : ExtendedMantissa) >>> (k + 1) =
        ((⟨m, false, false⟩ : ExtendedMantissa) >>> k).shiftRightOne := rfl
    have rest : m % 2 ^ (k + 1) = m % 2 ^ k + 2 ^ k * (m / 2 ^ k % 2) := Nat.mod_pow_succ
    have small : m % 2 ^ k < 2 ^ k := Nat.mod_lt m (Nat.two_pow_pos k)
    have bit := Nat.mod_two_eq_zero_or_one (m / 2 ^ k)
    rw [step, ih, ExtendedMantissa.shiftRightOne, Nat.div_div_eq_div_mul, ← Nat.pow_succ, rest,
      Nat.pow_succ']
    generalize m % 2 ^ k = r at small
    generalize m / 2 ^ k % 2 = b at bit
    generalize 2 ^ k = d at small
    have behind : (r + d * b) % d = r := by rw [Nat.add_mul_mod_self_left, Nat.mod_eq_of_lt small]
    have next : (b != 0) = decide (2 * d ≤ 2 * (r + d * b)) := by
      rcases bit with rfl | rfl
      · simp
        omega
      · simp
    have last : (decide (d ≤ 2 * r) || decide (2 * r % d ≠ 0)) =
        decide (2 * (r + d * b) % (2 * d) ≠ 0) := by
      rw [Nat.mul_mod_mul_left, behind, ← Bool.decide_or, decide_eq_decide]
      by_cases low : 2 * r < d
      · rw [Nat.mod_eq_of_lt low]
        omega
      · omega
    rw [next, last]

/-- What is left of a significand is rounded to the nearest, ties to even. -/
theorem roundedMantissa_shiftRight (m k : Nat) :
    ((⟨m, false, false⟩ : ExtendedMantissa) >>> k).roundedMantissa = roundRatio m (2 ^ k) := by
  have small : m % 2 ^ k < 2 ^ k := Nat.mod_lt m (Nat.two_pow_pos k)
  rw [shiftRight_eq, roundRatio]
  generalize m % 2 ^ k = r at small
  generalize m / 2 ^ k = q
  generalize 2 ^ k = d at small
  rw [ExtendedMantissa.roundedMantissa]
  rcases Nat.lt_trichotomy (2 * r) d with low | tie | high
  · have below : decide (d ≤ 2 * r) = false := by simpa using low
    rw [below, if_pos (by simp [low])]
    cases decide (2 * r % d ≠ 0) <;> rfl
  · have half : decide (d ≤ 2 * r) = true := by simp [tie]
    have nothing : decide (2 * r % d ≠ 0) = false := by simp [tie]
    rw [half, nothing]
    change q + q % 2 = _
    rcases Nat.mod_two_eq_zero_or_one q with even | odd
    · simp [tie, even]
    · simp [tie, odd]
  · have above : decide (d ≤ 2 * r) = true := by simpa using high.le
    have more : decide (2 * r % d ≠ 0) = true := by
      rw [Nat.mod_eq_sub_mod high.le, Nat.mod_eq_of_lt (by omega)]
      simp
      omega
    rw [above, more, if_neg (by simp; omega)]
    rfl

/-! ## Natural numbers -/

/-- A positive number in units of its 53rd bit, which may be behind the point. -/
def scaled (n : Nat) : Nat := roundRatio (n * 2 ^ (52 - n.log2)) (2 ^ (n.log2 - 52))

/-- The significand of the double nearest to a positive number. A carry makes it one bit longer. -/
def significand (n : Nat) : Nat := if scaled n = 2 ^ 53 then 2 ^ 52 else scaled n

def exponent (n : Nat) : Int := n.log2 - if scaled n = 2 ^ 53 then 51 else 52

theorem first_bit (n : Nat) : 2 ^ n.log2 * 2 ^ (52 - n.log2) = 2 ^ 52 * 2 ^ (n.log2 - 52) := by
  rw [← Nat.pow_add, ← Nat.pow_add]
  congr 1
  omega

theorem le_scaled (positive : 0 < n) : 2 ^ 52 ≤ scaled n := by
  have unit : 0 < 2 ^ (n.log2 - 52) := Nat.two_pow_pos _
  have le : 2 ^ n.log2 ≤ n := Nat.log2_self_le positive.ne'
  calc 2 ^ 52 = roundRatio (2 ^ n.log2 * 2 ^ (52 - n.log2)) (2 ^ (n.log2 - 52)) := by
        rw [first_bit, roundRatio_mul unit]
    _ ≤ scaled n := roundRatio_mono unit (Nat.mul_le_mul_right _ le)

theorem scaled_le (n : Nat) : scaled n ≤ 2 ^ 53 := by
  have unit : 0 < 2 ^ (n.log2 - 52) := Nat.two_pow_pos _
  have le : n ≤ 2 * 2 ^ n.log2 := by
    rw [← Nat.pow_succ']
    exact Nat.lt_log2_self.le
  calc scaled n ≤ roundRatio (2 * 2 ^ n.log2 * 2 ^ (52 - n.log2)) (2 ^ (n.log2 - 52)) :=
        roundRatio_mono unit (Nat.mul_le_mul_right _ le)
    _ = 2 ^ 53 := by
      rw [Nat.mul_assoc, first_bit, ← Nat.mul_assoc, roundRatio_mul unit, ← Nat.pow_succ']

theorem significand_bounds (positive : 0 < n) :
    2 ^ 52 ≤ significand n ∧ significand n < 2 ^ 53 := by
  have low := le_scaled positive
  have high := scaled_le n
  unfold significand
  split <;> omega

theorem log2_of_bounds (low : 2 ^ 52 ≤ m) (high : m < 2 ^ 53) : m.log2 = 52 :=
  (Nat.log2_eq_iff (by omega)).mpr ⟨low, high⟩

/-- A significand that carried is shifted once more. -/
theorem shiftToTargetExponent_scaled (positive : 0 < n) :
    shiftToTargetExponent .binary64 (scaled n) (n.log2 - 52) .exact =
      (⟨significand n, false, false⟩, exponent n) := by
  have low := le_scaled positive
  have high := scaled_le n
  unfold shiftToTargetExponent significand exponent
  by_cases carried : scaled n = 2 ^ 53
  · have target : Float.Model.Format.binary64.targetExponent
        (totalExponent (scaled n) (n.log2 - 52)) = n.log2 - 51 := by
      rw [carried, totalExponent, Nat.log2_two_pow]
      change max ((53 : Nat) + 1 + ((n.log2 : Int) - 52) - 53) (-1074) = _
      omega
    have before : (n.log2 : Int) - 52 = n.log2 - 51 - (1 : Nat) := by omega
    rw [target, if_pos carried, if_pos carried, carried, before]
    exact shiftToExponent_exact (2 ^ 52) 1 _
  · have target : Float.Model.Format.binary64.targetExponent
        (totalExponent (scaled n) (n.log2 - 52)) = n.log2 - 52 := by
      rw [totalExponent, log2_of_bounds low (by omega)]
      change max ((52 : Nat) + 1 + ((n.log2 : Int) - 52) - 53) (-1074) = _
      omega
    rw [target, if_neg carried, if_neg carried]
    simpa using shiftToExponent_exact (scaled n) 0 (n.log2 - 52)

/-- The double nearest to a natural number. -/
theorem round_eq (sign : Sign) (positive : 0 < n) :
    ∃ some, UnpackedFloat.round .binary64 sign n 0 =
      .finite sign (significand n) (exponent n) some := by
  have some : 0 < significand n :=
    Nat.lt_of_lt_of_le (Nat.two_pow_pos 52) (significand_bounds positive).1
  have target : Float.Model.Format.binary64.targetExponent (totalExponent n 0) = n.log2 - 52 := by
    change max ((n.log2 : Int) + 1 + 0 - 53) (-1074) = _
    omega
  have zeros : (0 - ((n.log2 : Int) - 52)).toNat = 52 - n.log2 := by omega
  have dropped : ((n.log2 : Int) - 52 - (0 - (52 - n.log2 : Nat))).toNat = n.log2 - 52 := by omega
  have reached : (0 : Int) - (52 - n.log2 : Nat) + (n.log2 - 52 : Nat) = n.log2 - 52 := by omega
  have first : shiftToTargetExponent .binary64 (n <<< (52 - n.log2)) (0 - (52 - n.log2 : Nat))
        .exact =
      ((⟨n <<< (52 - n.log2), false, false⟩ : ExtendedMantissa) >>> (n.log2 - 52),
        (n.log2 : Int) - 52) := by
    unfold shiftToTargetExponent shiftToExponent
    rw [totalExponent_shift positive, target]
    dsimp only [ExtendedMantissa.ofMantissaAndAccuracy]
    rw [dropped, reached]
  refine ⟨some, ?_⟩
  unfold UnpackedFloat.round decreaseExponent
  rw [target]
  dsimp only
  rw [zeros]
  unfold roundWithAccuracy
  rw [first]
  dsimp only
  rw [roundedMantissa_shiftRight, Nat.shiftLeft_eq]
  rw [← scaled, shiftToTargetExponent_scaled positive]
  exact dif_neg some.ne'

/-! ## Order -/

/-- One double comes before another: the exponents decide first. -/
def Smaller (m n : Nat) : Prop :=
  exponent m < exponent n ∨ exponent m = exponent n ∧ significand m < significand n

/-- The position among the positive doubles, which a carry does not change. -/
def position (n : Nat) : Int := ((n.log2 : Int) - 52) * 2 ^ 52 + scaled n

theorem smaller_iff (positive : 0 < m) (positive' : 0 < n) :
    Smaller m n ↔ position m < position n := by
  have positions {k : Nat} : position k = exponent k * 2 ^ 52 + significand k := by
    unfold position exponent significand
    split <;> omega
  have bounds := significand_bounds positive
  have bounds' := significand_bounds positive'
  rw [positions, positions, Smaller]
  omega

theorem log2_mono (positive : 0 < m) (le : m ≤ n) : m.log2 ≤ n.log2 :=
  (Nat.le_log2 (positive.trans_le le).ne').mpr ((Nat.log2_self_le positive.ne').trans le)

theorem position_mono (positive : 0 < m) (le : m ≤ n) : position m ≤ position n := by
  have low := le_scaled (positive.trans_le le)
  have high := scaled_le m
  unfold position
  rcases (log2_mono positive le).lt_or_eq with less | same
  · omega
  · have ordered : scaled m ≤ scaled n := by
      rw [scaled, scaled, same]
      exact roundRatio_mono (Nat.two_pow_pos _) (Nat.mul_le_mul_right _ le)
    omega

/-- A number of at most 53 bits is not rounded. -/
theorem scaled_of_short (short : n.log2 ≤ 52) : scaled n = n * 2 ^ (52 - n.log2) := by
  have whole : 2 ^ (n.log2 - 52) = 1 := by rw [Nat.sub_eq_zero_of_le short, Nat.pow_zero]
  have same := roundRatio_mul Nat.one_pos (n * 2 ^ (52 - n.log2))
  rwa [Nat.mul_one, ← whole] at same

theorem position_lt (positive : 0 < m) (short : m < 2 ^ 53) (less : m < n) :
    position m < position n := by
  have low := le_scaled (positive.trans less)
  have bits : m.log2 < 53 := (Nat.log2_lt positive.ne').mpr short
  have exact : scaled m = m * 2 ^ (52 - m.log2) := scaled_of_short (by omega)
  unfold position
  rcases (log2_mono positive less.le).lt_or_eq with shorter | same
  · have room : m * 2 ^ (52 - m.log2) < 2 ^ 53 := by
      calc m * 2 ^ (52 - m.log2) < 2 ^ (m.log2 + 1) * 2 ^ (52 - m.log2) :=
            Nat.mul_lt_mul_of_pos_right Nat.lt_log2_self (Nat.two_pow_pos _)
        _ = 2 ^ 53 := by
            rw [← Nat.pow_add]
            congr 1
            omega
    omega
  · have exact' : scaled n = n * 2 ^ (52 - m.log2) := by
      rw [same]
      exact scaled_of_short (by omega)
    have ordered := Nat.mul_lt_mul_of_pos_right less (Nat.two_pow_pos (52 - m.log2))
    omega

/-! ## Integers -/

/-- The double of an integer other than zero, as far as a double holds it. -/
theorem unpack_ofInt64 {i : Int64} (positive : 0 < n) (value : i.toInt = sign.apply n) :
    ∃ some, (ofInt64 i).toModel.unpack = .finite sign (significand n) (exponent n) some := by
  obtain ⟨some, rounded⟩ := round_eq sign positive
  have bounds := significand_bounds positive
  have most : n ≤ 2 ^ 63 := by
    have low := i.le_toInt
    have high := i.toInt_lt
    cases sign <;> simp only [Sign.apply] at value <;> omega
  have bits : n.log2 < 64 := (Nat.log2_lt positive.ne').mpr (by omega)
  have least : -52 ≤ exponent n := by
    unfold exponent
    split <;> omega
  have most : exponent n ≤ 12 := by
    unfold exponent
    split <;> omega
  have made : UnpackedFloat.ofInt .binary64 i.toInt =
      .finite sign (significand n) (exponent n) some := by
    rw [← rounded, UnpackedFloat.ofInt, UnpackedFloat.normalize, value]
    cases sign with
    | negative =>
      have below : compare (Sign.negative.apply n) 0 = .lt :=
        compare_lt_iff_lt.mpr (Int.neg_neg_of_pos (Int.natCast_pos.mpr positive))
      rw [below]
      simp [Sign.apply]
    | positive =>
      have above : compare (Sign.positive.apply n) 0 = .gt :=
        compare_gt_iff_gt.mpr (Int.natCast_pos.mpr positive)
      rw [above]
      simp [Sign.apply]
  refine ⟨some, ?_⟩
  change unpack .binary64 (pack .binary64 (UnpackedFloat.ofInt .binary64 i.toInt)) = _
  rw [made]
  refine unpack_pack some (log2_of_bounds bounds.1 bounds.2) ?_ ?_
  · change 0 < exponent n + (1023 : Nat) + (52 : Nat)
    omega
  · change (exponent n + (1023 : Nat) + (52 : Nat)).toNat + 1 < 2 ^ 11
    omega

end EntityStore.Number
