import EntityStore.Text.Hex
import Mathlib.Algebra.Group.Nat.Defs

/-!
# Reading hexadecimal digits back

Of the digits that are written of a number, as many as asked for, all are read again. So they
determine the number up to their count, and they are in the order of the numbers.
-/

namespace EntityStore.Text

theorem length_hexDigits (width n : Nat) : (hexDigits width n).length = width := by
  induction width generalizing n with
  | zero => rfl
  | succ width ih => rw [hexDigits, List.length_append, ih, List.length_singleton]

theorem hexValue?_hexDigit (n : Nat) : hexValue? (hexDigit n) = some (n % 16) := by
  have small : ∀ d : Fin 16, hexValue? (hexDigit d) = some d.val := by decide
  have last : hexDigit n = hexDigit (n % 16) := by rw [hexDigit, hexDigit, Nat.mod_mod]
  rw [last]
  exact small ⟨n % 16, Nat.mod_lt n (by decide)⟩

theorem hexNumber?_hexDigits (width n : Nat) :
    hexNumber? (hexDigits width n) = some (n % 16 ^ width) := by
  induction width generalizing n with
  | zero => rw [Nat.pow_zero, Nat.mod_one]; rfl
  | succ width ih =>
    have high : (hexDigits width (n / 16)).foldlM (fun n c => (hexValue? c).map (n * 16 + ·)) 0 =
        some (n / 16 % 16 ^ width) := ih (n / 16)
    rw [hexNumber?, hexDigits, List.foldlM_append, high, Option.bind_eq_bind, Option.bind_some,
      List.foldlM_cons, hexValue?_hexDigit, Nat.pow_succ', Nat.mod_mul, Nat.add_comm, Nat.mul_comm]
    rfl

/-- The digits determine the number up to their count. -/
theorem hexDigits_inj {width m n : Nat} (h : hexDigits width m = hexDigits width n) :
    m % 16 ^ width = n % 16 ^ width := by
  have read := congrArg hexNumber? h
  rw [hexNumber?_hexDigits, hexNumber?_hexDigits] at read
  exact Option.some.inj read

/-! ## Order -/

/-- Behind texts of one length the order is decided by these texts first. -/
theorem append_lt_append {as bs : List Char} (same : as.length = bs.length) (cs ds : List Char) :
    as ++ cs < bs ++ ds ↔ as < bs ∨ as = bs ∧ cs < ds := by
  induction as generalizing bs with
  | nil =>
    obtain rfl := List.eq_nil_of_length_eq_zero same.symm
    simp
  | cons a as ih =>
    cases bs with
    | nil => cases same
    | cons b bs =>
      rw [List.cons_append, List.cons_append, List.cons_lt_cons_iff, List.cons_lt_cons_iff,
        ih (Nat.succ.inj same), List.cons.injEq, and_or_left, or_assoc, and_assoc]

theorem compare_eq_lt {s t : String} : compare s t = .lt ↔ s < t := compareOfLessAndEq_eq_lt

theorem hexDigit_lt_iff (m n : Nat) : hexDigit m < hexDigit n ↔ m % 16 < n % 16 := by
  have small : ∀ c d : Fin 16, hexDigit c < hexDigit d ↔ c.val < d.val := by decide
  have last (k : Nat) : hexDigit k = hexDigit (k % 16) := by rw [hexDigit, hexDigit, Nat.mod_mod]
  rw [last m, last n]
  exact small ⟨m % 16, Nat.mod_lt m (by decide)⟩ ⟨n % 16, Nat.mod_lt n (by decide)⟩

/-- Digits of one count are in the order of the numbers that they write. -/
theorem hexDigits_lt_iff {width m n : Nat} (left : m < 16 ^ width) (right : n < 16 ^ width) :
    hexDigits width m < hexDigits width n ↔ m < n := by
  induction width generalizing m n with
  | zero =>
    rw [Nat.pow_zero, Nat.lt_one_iff] at left right
    rw [left, right]
    exact iff_of_false (List.lt_irrefl _) (Nat.lt_irrefl 0)
  | succ width ih =>
    have high {k : Nat} (below : k < 16 ^ (width + 1)) : k / 16 < 16 ^ width := by
      rw [Nat.pow_succ] at below
      exact Nat.div_lt_of_lt_mul (Nat.mul_comm (16 ^ width) 16 ▸ below)
    have equal : hexDigits width (m / 16) = hexDigits width (n / 16) ↔ m / 16 = n / 16 := by
      refine ⟨?_, congrArg _⟩
      intro same
      have numbers := hexDigits_inj same
      rwa [Nat.mod_eq_of_lt (high left), Nat.mod_eq_of_lt (high right)] at numbers
    rw [hexDigits, hexDigits,
      append_lt_append (by rw [length_hexDigits, length_hexDigits]), ih (high left) (high right),
      equal, List.cons_lt_cons_iff, hexDigit_lt_iff]
    have never : ¬ ([] : List Char) < [] := List.lt_irrefl _
    simp only [never, and_false, or_false]
    omega

end EntityStore.Text
