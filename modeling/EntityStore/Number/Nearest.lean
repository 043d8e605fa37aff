/-!
# The nearest floating-point number

A binary format holds the numbers `m * 2 ^ e` whose significand `m` has at most `precision`
bits and whose exponent `e` is at least `minExponent`, up to `infinity`. A positive fraction is
rounded to the nearest of them, ties to the even significand. The bits of a number follow from
its significand and exponent by addition: a significand that is rounded up to the next power
of two carries into the exponent, and beyond the largest number into infinity.
-/

namespace EntityStore.Number

structure Format where
  /-- Bits of a significand, its leading one included. -/
  precision : Nat
  minExponent : Int
  infinity : Nat
deriving DecidableEq, Repr

namespace Format

def double : Format := ⟨53, -1074, 0x7FF0000000000000⟩

def single : Format := ⟨24, -149, 0x7F800000⟩

end Format

/-- The largest `e` with `2 ^ e ≤ n / d`, for positive `n` and `d`. -/
def log2Ratio (n d : Nat) : Int :=
  let e : Int := (n.log2 : Int) - d.log2
  if d * Nat.pow 2 e.toNat ≤ n * Nat.pow 2 (-e).toNat then e else e - 1

/-- The integer nearest to `n / d`, ties to even. -/
def roundRatio (n d : Nat) : Nat :=
  let q := n / d
  let twice := 2 * (n % d)
  if twice < d || (twice = d && q % 2 = 0) then q else q + 1

/-- The bits of the number of the format that is nearest to `n / d`. -/
def nearestBits (f : Format) (n d : Nat) : Nat :=
  if n = 0 then 0
  else
    let e := max f.minExponent (log2Ratio n d - f.precision + 1)
    let significand := roundRatio (n * Nat.pow 2 (-e).toNat) (d * Nat.pow 2 e.toNat)
    min ((e - f.minExponent).toNat * Nat.pow 2 (f.precision - 1) + significand) f.infinity

/-- The double nearest to `n / d`. -/
def ofRatio (n d : Nat) : Float := Float.ofBits (nearestBits .double n d).toUInt64

/-- The single-precision number nearest to `n / d`. -/
def ofRatio32 (n d : Nat) : Float32 := Float32.ofBits (nearestBits .single n d).toUInt32

def ofNat (n : Nat) : Float := ofRatio n 1

/-- The double nearest to an integer. -/
def ofInt64 (i : Int64) : Float := .ofModel (.ofInt64 i)

end EntityStore.Number
