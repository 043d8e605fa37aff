import EntityStore.Number.Nearest

/-!
# Reading numbers

Integers are decimal digits behind an optional sign. Doubles are written positionally or with
an exponent; at least one digit stands before or behind the point. The nearest double is
taken, infinity included.
-/

namespace EntityStore.Number

def natOfDigits (ds : List Char) : Nat :=
  ds.foldl (fun n c => n * 10 + (c.toNat - '0'.toNat)) 0

def readNat? (cs : List Char) : Option Nat :=
  if cs.isEmpty || !cs.all Char.isDigit then none else some (natOfDigits cs)

/-- Reads an integer between `low` and `high`. A minus sign is read only if negative numbers
are in that range. -/
def readInt? (low high : Int) (s : String) : Option Int := do
  let n : Int ← match s.toList with
    | '+' :: cs => (readNat? cs).map Int.ofNat
    | '-' :: cs => if low < 0 then (readNat? cs).map fun n => -Int.ofNat n else none
    | cs => (readNat? cs).map Int.ofNat
  if low ≤ n ∧ n ≤ high then some n else none

/-- A decimal number `mantissa * 10 ^ exponent`, infinity, or no number. -/
inductive Magnitude where
  | finite (mantissa : Nat) (exponent : Int)
  | infinite
  | notANumber
deriving DecidableEq, Repr

/-- The exponent behind `e`, if there is nothing else. -/
def readExponent? : List Char → Option Int
  | [] => some 0
  | c :: cs =>
    if c = 'e' ∨ c = 'E' then
      match cs with
      | '+' :: ds => (readNat? ds).map Int.ofNat
      | '-' :: ds => (readNat? ds).map fun n => -Int.ofNat n
      | ds => (readNat? ds).map Int.ofNat
    else none

def readDecimal? (cs : List Char) : Option Magnitude := do
  let whole := cs.takeWhile Char.isDigit
  let rest := cs.dropWhile Char.isDigit
  let (fraction, rest) := match rest with
    | '.' :: r => (r.takeWhile Char.isDigit, r.dropWhile Char.isDigit)
    | r => ([], r)
  if whole.isEmpty && fraction.isEmpty then none
  let e ← readExponent? rest
  some (.finite (natOfDigits (whole ++ fraction)) (e - fraction.length))

def readMagnitude? (cs : List Char) : Option Magnitude :=
  let word := String.ofList (cs.map Char.toLower)
  if word = "inf" ∨ word = "infinity" then some .infinite
  else if word = "nan" then some .notANumber
  else readDecimal? cs

def readSigned? (s : String) : Option (Bool × Magnitude) :=
  match s.toList with
  | '+' :: cs => (readMagnitude? cs).map (false, ·)
  | '-' :: cs => (readMagnitude? cs).map (true, ·)
  | cs => (readMagnitude? cs).map (false, ·)

/-- No double is as large as `10 ^ 400` or, zero apart, as small as `10 ^ (-400)`. -/
def isHuge (mantissa : Nat) (exponent : Int) : Bool :=
  mantissa ≠ 0 && exponent + (Nat.toDigits 10 mantissa).length > 400

def isTiny (mantissa : Nat) (exponent : Int) : Bool :=
  mantissa = 0 || exponent + (Nat.toDigits 10 mantissa).length < -400

def toFloat : Bool × Magnitude → Float
  | (negative, m) =>
    let x : Float := match m with
      | .infinite => 1.0 / 0.0
      | .notANumber => 0.0 / 0.0
      | .finite n e =>
        if isTiny n e then 0
        else if isHuge n e then 1.0 / 0.0
        else ofRatio (n * Nat.pow 10 e.toNat) (Nat.pow 10 (-e).toNat)
    if negative then -x else x

def toFloat32 : Bool × Magnitude → Float32
  | (negative, m) =>
    let x : Float32 := match m with
      | .infinite => 1.0 / 0.0
      | .notANumber => 0.0 / 0.0
      | .finite n e =>
        if isTiny n e then 0
        else if isHuge n e then 1.0 / 0.0
        else ofRatio32 (n * Nat.pow 10 e.toNat) (Nat.pow 10 (-e).toNat)
    if negative then -x else x

def readFloat? (s : String) : Option Float := (readSigned? s).map toFloat

def readFloat32? (s : String) : Option Float32 := (readSigned? s).map toFloat32

end EntityStore.Number
