import EntityStore.Number.Shortest

/-!
# Writing doubles as text

A layout fixes what the digits alone leave open: where the positional notation ends, whether
a whole number keeps a `.0`, and how ties between two shortest decimals go.
-/

namespace EntityStore.Number

/-- How a finite double is written. Positional notation is used when the decimal point falls
at `low < point ≤ high`; otherwise the exponent is written behind an `e`. -/
structure Layout where
  tie : Tie
  wholeSuffix : String
  positional : Option (Int × Int)

/-- Values shown to people are written out in full, without an exponent or a `.0`. -/
def Layout.plain : Layout := ⟨.up, "", none⟩

/-- Documents write `1.0` for a whole number and use an exponent from `10 ^ 16` upward and
below `10 ^ (-5)`. -/
def Layout.document : Layout := ⟨.toEven, ".0", some (-5, 16)⟩

def zeros (n : Nat) : String := String.ofList (List.replicate n '0')

/-- The digits with a decimal point behind the first `point` of them. -/
def Layout.place (l : Layout) (digits : String) (point : Int) : String :=
  if point ≤ 0 then "0." ++ zeros (-point).toNat ++ digits
  else if digits.length ≤ point then
    digits ++ zeros (point.toNat - digits.length) ++ l.wholeSuffix
  else (digits.take point.toNat).toString ++ "." ++ (digits.drop point.toNat).toString

/-- The digits with a decimal point behind the first and the exponent of ten, with its sign,
behind an `e`. -/
def scientific (digits : String) (point : Int) : String :=
  let tail := if digits.length = 1 then "" else "." ++ (digits.drop 1).toString
  let mark := if point - 1 < 0 then "e" else "e+"
  (digits.take 1).toString ++ tail ++ mark ++ toString (point - 1)

def Layout.isPositional (l : Layout) (point : Int) : Bool :=
  match l.positional with
  | none => true
  | some (low, high) => low < point && point ≤ high

def Layout.finite (l : Layout) (x : Float) : String :=
  let sign := if isNegative x then "-" else ""
  if magnitudeBits x = 0 then sign ++ "0" ++ l.wholeSuffix
  else
    let d := shortest l.tie x
    let digits := String.ofList (Nat.toDigits 10 d.digits)
    sign ++ if l.isPositional d.point then l.place digits d.point else scientific digits d.point

def display (x : Float) : String :=
  if x.isNaN then "NaN"
  else if x.isInf then if isNegative x then "-inf" else "inf"
  else Layout.plain.finite x

end EntityStore.Number
