/-!
# The shortest decimal of a double

A finite double other than zero is `m * 2 ^ q` for natural `m`. The reals that round to it
form an interval; `shortest` finds the decimal with the fewest digits inside that interval
and, of several, the one nearest to the double. The coarsest decimal grid with a point in
the interval is tried first, and on each grid only the two neighbours of the double matter:
if any point of the grid lies inside, one of them does. A double half way between two points
goes as the caller's `Tie` says.
-/

namespace EntityStore.Number

/-- A positive decimal `digits * 10 ^ exponent`. -/
structure Decimal where
  digits : Nat
  exponent : Int
deriving DecidableEq, Repr

/-- A positive dyadic number `mantissa * 2 ^ exponent`. -/
structure Dyadic where
  mantissa : Nat
  exponent : Int
deriving DecidableEq, Repr

/-- Which of two equally near decimals is taken. -/
inductive Tie where
  | up
  | toEven
deriving DecidableEq, Repr

def Tie.roundsUp : Tie → Nat → Bool
  | .up, _ => true
  | .toEven, below => below % 2 = 1

/-- The leading bit of a significand, which is not stored. -/
def hiddenBit : Nat := 0x10000000000000

/-- Bits of a double without its sign. -/
def magnitudeBits (x : Float) : Nat := x.toBits.toNat % 0x8000000000000000

def isNegative (x : Float) : Bool := x.toBits.toNat ≥ 0x8000000000000000

def dyadic (x : Float) : Dyadic :=
  let e : Nat := magnitudeBits x / hiddenBit
  let m := magnitudeBits x % hiddenBit
  if e = 0 then ⟨m, -1074⟩ else ⟨hiddenBit + m, (e : Int) - 1075⟩

/-- `n * 2 ^ e * 10 ^ k` as a fraction of natural numbers. -/
def fraction (n : Nat) (e k : Int) : Nat × Nat :=
  (n * Nat.pow 2 e.toNat * Nat.pow 10 k.toNat, Nat.pow 2 (-e).toNat * Nat.pow 10 (-k).toNat)

def fractionLt (a b : Nat × Nat) : Bool := a.1 * b.2 < b.1 * a.2

def fractionLe (a b : Nat × Nat) : Bool := a.1 * b.2 ≤ b.1 * a.2

/-- Whether the natural number `n` lies between the ends of the rounding interval, which
belong to it exactly when the mantissa is even. -/
def inside (even : Bool) (low high : Nat × Nat) (n : Nat) : Bool :=
  if even then fractionLe low (n, 1) && fractionLe (n, 1) high
  else fractionLt low (n, 1) && fractionLt (n, 1) high

/-- The point of the grid of step `10 ^ k` that is in the rounding interval of `d` and
nearest to it, if there is one. -/
def onGrid (tie : Tie) (d : Dyadic) (k : Int) : Option Nat :=
  let even := d.mantissa % 2 = 0
  -- Below a power of two the doubles stand twice as close.
  let tight := d.mantissa = hiddenBit && d.exponent > -1074
  let low := if tight then fraction (4 * d.mantissa - 1) (d.exponent - 2) (-k)
    else fraction (2 * d.mantissa - 1) (d.exponent - 1) (-k)
  let high := fraction (2 * d.mantissa + 1) (d.exponent - 1) (-k)
  let value := fraction d.mantissa d.exponent (-k)
  let below := value.1 / value.2
  match inside even low high below && below ≠ 0, inside even low high (below + 1) with
  | true, true =>
    let twice := 2 * (value.1 - below * value.2)
    if twice < value.2 || (twice = value.2 && !tie.roundsUp below) then some below
    else some (below + 1)
  | true, false => some below
  | false, true => some (below + 1)
  | false, false => none

/-- Tries ever finer grids, from step `10 ^ k` downward. -/
def searchGrids (tie : Tie) (d : Dyadic) : Nat → Int → Option Decimal
  | 0, _ => none
  | fuel + 1, k =>
    match onGrid tie d k with
    | some n => some ⟨n, k⟩
    | none => searchGrids tie d fuel (k - 1)

def Decimal.normalize (d : Decimal) : Decimal :=
  go (d.digits.log2 + 1) d
where
  go : Nat → Decimal → Decimal
    | 0, d => d
    | fuel + 1, d =>
      if d.digits ≠ 0 && d.digits % 10 = 0 then go fuel ⟨d.digits / 10, d.exponent + 1⟩ else d

/-- An exponent of ten at least as large as that of the leading digit. -/
def leadingBound (d : Dyadic) : Int :=
  let bits : Int := (d.mantissa.log2 : Int) + 1 + d.exponent
  (bits * 30103).fdiv 100000 + 1

/-- The shortest decimal that rounds to the magnitude of the finite, nonzero double `x`. -/
def shortest (tie : Tie) (x : Float) : Decimal :=
  let d := dyadic x
  ((searchGrids tie d 25 (leadingBound d)).getD ⟨0, 0⟩).normalize

/-- The decimal point sits `point` places after the first digit's left edge: the number is
`0.d₁d₂… * 10 ^ point`. -/
def Decimal.point (d : Decimal) : Int := (Nat.toDigits 10 d.digits).length + d.exponent

end EntityStore.Number
