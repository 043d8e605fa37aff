import EntityStore.Number.Width
import Mathlib

/-!
# Single precision within double precision

Every single-precision number is a double, so that widening it and narrowing the outcome gives
it back.
-/

namespace EntityStore.Number

open Float.Model (UnpackedFloat totalExponent)
open Float.Model.UnpackedFloat

variable {format : Float.Model.Format} {sign : Sign} {m k : Nat} {e : Int}

/-! ## Packed numbers -/

theorem toNat_of_ne_zero {w : Nat} {b : BitVec w} (some : b ≠ 0#w) : b.toNat ≠ 0 :=
  fun none => some (BitVec.eq_of_toNat_eq none)

/-- An exponent of ones only, the largest one, is that of infinities. -/
theorem toNat_of_ne_ones {w : Nat} {b : BitVec w} (finite : b ≠ -1#w) : b.toNat + 1 < 2 ^ w := by
  refine lt_of_le_of_ne b.isLt fun full => finite (BitVec.eq_of_toNat_eq ?_)
  rw [BitVec.neg_one_eq_allOnes, BitVec.toNat_allOnes]
  omega

theorem toNat_one_append {w : Nat} (b : BitVec w) : (1#1 ++ b).toNat = 2 ^ w + b.toNat := by
  rw [BitVec.toNat_append, ← Nat.shiftLeft_add_eq_or_of_lt b.isLt]
  simp [Nat.shiftLeft_eq]

theorem log2_one_append {w : Nat} (b : BitVec w) : (1#1 ++ b).toNat.log2 = w := by
  have small : b.toNat < 2 ^ w := b.isLt
  rw [toNat_one_append, Nat.log2_eq_iff (by omega), Nat.pow_succ]
  omega

/-- The leading one of a significand, which is not packed, is put back. -/
theorem one_append_ofNat {w : Nat} (full : m.log2 = w) (positive : 0 < m) :
    (1#1 ++ BitVec.ofNat w m).toNat = m := by
  obtain ⟨least, most⟩ := (Nat.log2_eq_iff positive.ne').mp full
  rw [toNat_one_append, BitVec.toNat_ofNat, Nat.mod_eq_sub_mod least, Nat.mod_eq_of_lt]
  · omega
  · omega

/-- A number that is not denormal survives packing. -/
theorem unpack_pack (positive : 0 < m) (full : m.log2 = format.mantissaBitsWithoutImplicit)
    (low : 0 < e + format.exponentBias + format.mantissaBitsWithoutImplicit)
    (high : (e + format.exponentBias + format.mantissaBitsWithoutImplicit).toNat + 1 <
      2 ^ format.exponentBits) :
    unpack format (pack format (.finite sign m e positive)) = .finite sign m e positive := by
  have bits : m.log2 + 1 = format.mantissaBits := by
    rw [full, Float.Model.Format.mantissaBits, Nat.add_comm]
  unfold pack
  dsimp only
  generalize biased : (e + format.exponentBias + format.mantissaBitsWithoutImplicit).toNat = b at high
  have small : b < 2 ^ format.exponentBits := by omega
  have value : (BitVec.ofNat format.exponentBits b).toNat = b := by
    rw [BitVec.toNat_ofNat, Nat.mod_eq_of_lt small]
  have notLargest : BitVec.ofNat format.exponentBits b ≠ -1#_ := by
    intro same
    rw [same, BitVec.neg_one_eq_allOnes, BitVec.toNat_allOnes] at value
    omega
  have notLeast : BitVec.ofNat format.exponentBits b ≠ 0#_ := by
    intro same
    rw [same, BitVec.toNat_zero] at value
    omega
  rw [if_neg (by omega), if_pos bits]
  unfold unpack
  simp only [unpackMantissa_packComponents, unpackExponent_packComponents,
    unpackSign_packComponents, Sign.ofBitVec_toBitVec, if_neg notLargest, if_neg notLeast,
    one_append_ofNat full positive, value]
  congr 1
  omega

/-! ## Rounding -/

/-- Nothing is lost where only zeros are shifted out. -/
theorem shiftRight_shiftLeft (m k : Nat) :
    (⟨m <<< k, false, false⟩ : ExtendedMantissa) >>> k = ⟨m, false, false⟩ := by
  induction k generalizing m with
  | zero => rfl
  | succ k ih =>
    have step (em : ExtendedMantissa) : em >>> (k + 1) = (em >>> k).shiftRightOne := rfl
    have doubled : m <<< (k + 1) = (2 * m) <<< k := by
      rw [Nat.shiftLeft_eq, Nat.shiftLeft_eq, Nat.pow_succ]
      ring
    rw [step, doubled, ih]
    simp [ExtendedMantissa.shiftRightOne]

theorem shiftLeft_pos (positive : 0 < m) (k : Nat) : 0 < m <<< k := by
  rw [Nat.shiftLeft_eq]
  exact Nat.mul_pos positive (Nat.two_pow_pos k)

theorem log2_shiftLeft (positive : 0 < m) (k : Nat) : (m <<< k).log2 = m.log2 + k := by
  induction k with
  | zero => rfl
  | succ k ih =>
    rw [Nat.shiftLeft_succ, Nat.log2_two_mul (shiftLeft_pos positive k).ne', ih, Nat.add_assoc]

theorem totalExponent_shift (positive : 0 < m) (k : Nat) (e : Int) :
    totalExponent (m <<< k) (e - k) = totalExponent m e := by
  unfold totalExponent
  rw [log2_shiftLeft positive]
  omega

theorem shiftToExponent_exact (m k : Nat) (e : Int) :
    shiftToExponent (m <<< k) (e - k) .exact e = (⟨m, false, false⟩, e) := by
  have amount : (e - (e - k)).toNat = k := by omega
  unfold shiftToExponent
  dsimp only [ExtendedMantissa.ofMantissaAndAccuracy]
  rw [amount, shiftRight_shiftLeft, Int.sub_add_cancel]

theorem roundWithAccuracy_exact (positive : 0 < m)
    (target : format.targetExponent (totalExponent m e) = e) (k : Nat) :
    roundWithAccuracy format sign (m <<< k) (e - k) .exact = .finite sign m e positive := by
  have again : shiftToExponent m e .exact e = (⟨m, false, false⟩, e) := by
    simpa using shiftToExponent_exact m 0 e
  unfold roundWithAccuracy shiftToTargetExponent
  rw [totalExponent_shift positive, target, shiftToExponent_exact]
  dsimp only [ExtendedMantissa.roundedMantissa, ExtendedMantissa.accuracy,
    Accuracy.roundToNearestEven]
  rw [target, again]
  exact dif_neg positive.ne'

/-- A number of the format is rounded to itself, whatever zeros were put behind it. -/
theorem round_shifted (positive : 0 < m)
    (target : format.targetExponent (totalExponent m e) = e) (k : Nat) :
    UnpackedFloat.round format sign (m <<< k) (e - k) = .finite sign m e positive := by
  have none : (e - k - e).toNat = 0 := by omega
  unfold UnpackedFloat.round decreaseExponent
  rw [totalExponent_shift positive, target]
  dsimp only
  rw [none]
  simpa using roundWithAccuracy_exact positive target k

/-- A number is given the zeros that the format has room for. -/
theorem round_shift (positive : 0 < m)
    (target : format.targetExponent (totalExponent m e) = e - k) :
    UnpackedFloat.round format sign m e = .finite sign (m <<< k) (e - k) (shiftLeft_pos positive k) := by
  have amount : (e - (e - k)).toNat = k := by omega
  have there : format.targetExponent (totalExponent (m <<< k) (e - k)) = e - k := by
    rw [totalExponent_shift positive, target]
  unfold UnpackedFloat.round decreaseExponent
  rw [target]
  dsimp only
  rw [amount]
  simpa using roundWithAccuracy_exact (shiftLeft_pos positive k) there 0

/-! ## Singles -/

/-- The significand and the exponent of a single-precision number. -/
structure Single (m : Nat) (e : Int) : Prop where
  bits : m.log2 ≤ 23
  low : -149 ≤ e
  high : e ≤ 104
  full : m.log2 = 23 ∨ e = -149

theorem single_of_unpack {b : BitVec Float.Model.Format.binary32.numBits} {positive : 0 < m}
    (h : unpack .binary32 b = .finite sign m e positive) : Single m e := by
  have small : (unpackMantissa b).toNat < 2 ^ 23 := (unpackMantissa b).isLt
  have bias : Float.Model.Format.binary32.exponentBias = 127 := rfl
  have width : Float.Model.Format.binary32.mantissaBitsWithoutImplicit = 23 := rfl
  unfold unpack at h
  dsimp only at h
  rw [bias] at h
  split at h
  · split at h
    · cases h
    · cases h
  · rename_i notLargest
    split at h
    · split at h
      · cases h
      · rename_i least _
        have none : (unpackExponent b).toNat = 0 := congrArg BitVec.toNat least
        obtain ⟨-, rfl, rfl⟩ := UnpackedFloat.finite.inj h
        have bits := (Nat.log2_lt positive.ne').mpr small
        constructor <;> omega
    · rename_i notLeast
      have some : (unpackExponent b).toNat ≠ 0 := toNat_of_ne_zero notLeast
      have bounded : (unpackExponent b).toNat + 1 < 2 ^ 8 := toNat_of_ne_ones notLargest
      obtain ⟨-, significand, rfl⟩ := UnpackedFloat.finite.inj h
      have bits : m.log2 = 23 := by
        rw [← significand]
        exact log2_one_append _
      constructor <;> omega

theorem target_single (single : Single m e) :
    Float.Model.Format.binary32.targetExponent (totalExponent m e) = e := by
  obtain ⟨bits, low, high, full⟩ := single
  change max (m.log2 + 1 + e - 24) (-149) = e
  omega

theorem target_double (single : Single m e) :
    Float.Model.Format.binary64.targetExponent (totalExponent m e) = e - (52 - m.log2 : Nat) := by
  obtain ⟨bits, low, high, full⟩ := single
  change max (m.log2 + 1 + e - 53) (-1074) = _
  omega

theorem unpack_wide (positive : 0 < m) (single : Single m e) :
    Float.Model.unpack (.pack (rounded .binary64 (.finite sign m e positive))) =
      .finite sign (m <<< (52 - m.log2)) (e - (52 - m.log2 : Nat)) (shiftLeft_pos positive _) := by
  have bias : Float.Model.Format.binary64.exponentBias = 1023 := rfl
  have width : Float.Model.Format.binary64.mantissaBitsWithoutImplicit = 52 := rfl
  rw [rounded, round_shift positive (target_double single)]
  obtain ⟨bits, low, high, full⟩ := single
  refine unpack_pack _ ?_ ?_ ?_
  · rw [log2_shiftLeft positive]
    omega
  · rw [bias, width]
    omega
  · rw [bias, width]
    change _ < 2048
    omega

/-- A single-precision number that was widened is what it was. -/
theorem narrow_widen (x : Float32) : narrow (widen x) = x := by
  have packed : Float32.Model.pack x.toModel.unpack = x.toModel := by
    have bits := congrArg UInt32.ofBitVec (pack_unpack_of_valid x.toModel.valid)
    rcases x with ⟨⟨bits, valid⟩⟩
    simp only [Float32.Model.pack, Float32.Model.unpack] at *
    congr 1
  have within : rounded .binary32 (Float.Model.unpack (.pack (rounded .binary64 x.toModel.unpack))) =
      x.toModel.unpack := by
    cases number : x.toModel.unpack with
    | notANumber => rfl
    | infinity sign => cases sign <;> rfl
    | zero sign => cases sign <;> rfl
    | finite sign m e positive =>
      have single : Single m e := single_of_unpack number
      rw [unpack_wide positive single]
      exact round_shifted positive (target_single single) _
  rw [narrow, widen, within, packed]

end EntityStore.Number
