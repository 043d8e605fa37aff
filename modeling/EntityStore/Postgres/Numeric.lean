import EntityStore.Number.Nearest
import EntityStore.Number.Reader
import EntityStore.Number.Shortest

/-!
# Decimal numbers with a fixed point

A number is `digits / 10 ^ scale` with a sign: at most 96 bits of digits and at most 28 places.
A double is turned into the decimal that its guaranteed digits spell, a text into the number
that it denotes, with places beyond the room rounded.
-/

namespace EntityStore.Postgres

structure Numeric where
  negative : Bool
  digits : Nat
  scale : Nat
deriving DecidableEq, Repr

namespace Numeric

/-- The largest number without a point. -/
def maxDigits : Nat := Nat.pow 2 96 - 1

def maxScale : Nat := 28

/-- A number; zero has no sign. -/
def ofDigits (negative : Bool) (digits scale : Nat) : Numeric :=
  ⟨negative && digits ≠ 0, digits, scale⟩

def ofInt (i : Int) : Numeric := ofDigits (i < 0) i.natAbs 0

/-! ## From a double -/

/-- A number `digits * 10 ^ exponent` on the way from a double. -/
structure Draft where
  digits : Nat
  exponent : Int
deriving DecidableEq, Repr

namespace Draft

/-- Divides by two `n` times, as a multiplication by five and a division by ten. A digit is
lost where the multiplication has no room. -/
def halve : Nat → Draft → Draft
  | 0, d => d
  | n + 1, d =>
    halve n <|
      if d.digits % 2 ≠ 0 && d.digits * 5 ≤ maxDigits then { d with digits := d.digits * 5 }
      else ⟨d.digits / 2, d.exponent + 1⟩

/-- Drops the last digit, rounding up from five. -/
def dropDigit (d : Draft) : Draft :=
  ⟨d.digits / 10 + (if d.digits % 10 ≥ 5 then 1 else 0), d.exponent + 1⟩

/-- Drops `n` digits, and all of them once nothing is left. -/
def shorten : Nat → Draft → Draft
  | 0, d => d
  | n + 1, d => if d.digits < 10 then ⟨0, 0⟩ else shorten n d.dropDigit

/-- Drops places, at most `n`, until the digits are no more than a double guarantees. -/
def trim : Nat → Draft → Draft
  | 0, d => d
  | n + 1, d => if d.digits < Number.hiddenBit then d else trim n d.dropDigit

/-- Drops zeros at the end of the places, of which there are `n`. -/
def strip : Nat → Draft → Draft
  | 0, d => d
  | n + 1, d => if d.digits % 10 = 0 then strip n ⟨d.digits / 10, d.exponent + 1⟩ else d

/-- `m * 2 ^ e` with a power of ten that is not positive, or none when a whole number has no
room. -/
def ofDyadic? (m : Nat) (e : Int) : Option Draft :=
  if e < 0 then some (halve (-e).toNat ⟨m, e⟩)
  else
    let digits := m * Nat.pow 2 e.toNat
    if digits ≤ maxDigits then some ⟨digits, 0⟩ else none

/-- The draft with at most 28 places and no more digits than are known. -/
def settle (d : Draft) : Draft :=
  let d := shorten (-d.exponent - maxScale).toNat d
  let d := trim (-d.exponent).toNat d
  strip (-d.exponent).toNat d

end Draft

/-- The decimal of a double, unless it is infinite or not a number or has no room. -/
def ofFloat? (x : Float) : Option Numeric :=
  if x.isFinite then
    let m := Number.dyadic x
    (Draft.ofDyadic? m.mantissa m.exponent).map fun d =>
      ofDigits (Number.isNegative x) d.settle.digits (-d.settle.exponent).toNat
  else none

/-! ## From a text -/

structure Reading where
  digits : Nat
  scale : Nat
  /-- Whether the point has been read. -/
  point : Bool
  /-- Whether a digit has been read. -/
  started : Bool

/-- Rounds on the first digit that has no room. -/
def Reading.round (r : Reading) (digit : Nat) : Option Reading :=
  if digit < 5 then some r
  else if r.digits < maxDigits then some { r with digits := r.digits + 1 }
  else if r.scale = 0 then none
  else some { r with digits := (r.digits + 5) / 10, scale := r.scale - 1 }

/-- Digits up to this number are taken in as a machine word. -/
def wordLimit : Nat := UInt64.size / 10 - 255

/-- Whether the digits before the last one still made a word. -/
def Reading.isNarrow (r : Reading) : Bool := r.digits / 10 < wordLimit

/-- The digit that decides the rounding, the first of the rest. An underscore in its place is
passed over, but stands for a zero behind a narrow number. -/
def Reading.nextDigit (r : Reading) (rest : List Char) : Nat :=
  match if r.isNarrow then rest else rest.filter (· ≠ '_') with
  | c :: _ => if c.isDigit then c.toNat - '0'.toNat else 0
  | [] => 0

/-- Reads the rest of a number that has no room left: the first digit decides the rounding,
and the digits behind it are dropped. -/
def Reading.close (r : Reading) (rest : List Char) : Option Reading :=
  if rest.all fun c => c.isDigit || c = '_' then r.round (r.nextDigit rest) else none

/-- The reading with one digit more. -/
def Reading.push (r : Reading) (digit : Nat) : Reading :=
  ⟨r.digits * 10 + digit, if r.point then r.scale + 1 else 0, r.point, true⟩

/-- Reads digits with at most one point among them and underscores behind the first digit. -/
def read (r : Reading) : List Char → Option Reading
  | [] => if r.started then some r else none
  | c :: cs =>
    if r.point && r.scale ≥ maxScale then r.close (c :: cs)
    else if c.isDigit then
      let next := r.push (c.toNat - '0'.toNat)
      if next.digits ≤ maxDigits then read next cs
      else if r.point then r.close (c :: cs)
      else none
    else if c = '.' && !r.point then read { r with point := true } cs
    else if c = '_' && r.started then read r cs
    else none

def parsePlain? (cs : List Char) : Option Numeric :=
  let (negative, cs) := match cs with
    | '-' :: cs => (true, cs)
    | '+' :: cs => (false, cs)
    | cs => (false, cs)
  (read ⟨0, 0, false, false⟩ cs).map fun r => ofDigits negative r.digits r.scale

/-- Appends places, at most `n`, while there is room. -/
def extend : Nat → Numeric → Numeric
  | 0, x => x
  | n + 1, x =>
    if x.digits * 10 ≤ maxDigits then extend n { x with digits := x.digits * 10, scale := x.scale + 1 }
    else x

/-- The number with the given places, as far as there is room. -/
def rescale (n : Numeric) (scale : Nat) : Numeric :=
  let scale := min scale maxScale
  if n.scale ≤ scale then n.extend (scale - n.scale)
  else
    let last := n.digits / Nat.pow 10 (n.scale - scale - 1)
    { n with digits := last / 10 + (if last % 10 ≥ 5 then 1 else 0), scale := scale }

/-- Divides by `10 ^ k`, rounding to the places that there are. -/
def shiftDown (n : Numeric) (k : Nat) : Option Numeric :=
  if k > maxScale then none
  else if n.scale + k ≤ maxScale then some { n with scale := n.scale + k }
  else some { n.rescale (maxScale - k) with scale := maxScale }

/-- Multiplies by `10 ^ k`, unless there is no room for the product. -/
def shiftUp (n : Numeric) (k : Nat) : Option Numeric :=
  if k ≤ n.scale then some { n with scale := n.scale - k }
  else if k > maxScale then none
  else
    let digits := n.digits * Nat.pow 10 (k - n.scale)
    if digits ≤ maxDigits then some { n with digits := digits, scale := 0 } else none

/-- The number that digits denote, with a plus in front of them or not. -/
def readExponent (cs : List Char) : Option Nat :=
  let digits := match cs with
    | '+' :: cs => cs
    | cs => cs
  if digits ≠ [] && digits.all Char.isDigit then
    some (digits.foldl (fun n c => n * 10 + (c.toNat - '0'.toNat)) 0)
  else none

/-- Reads a number that may have a power of ten behind it. -/
def parse? (s : String) : Option Numeric := do
  let isMark (c : Char) : Bool := c = 'e' || c = 'E'
  let n ← parsePlain? (s.toList.takeWhile (!isMark ·))
  match s.toList.dropWhile (!isMark ·) with
  | [] => some n
  | _ :: '-' :: cs => n.shiftDown (← readExponent cs)
  | _ :: cs => n.shiftUp (← readExponent cs)

/-! ## To a double -/

/-- The double of the number: the sum of its whole and its fractional part, rounded to the
places that the number has. -/
def toFloat (n : Numeric) : Float :=
  let unit := Nat.pow 10 n.scale
  let whole := Number.ofNat (n.digits / unit)
  let part := Number.ofNat (n.digits % unit) / Number.ofNat unit
  let x :=
    if part == 0 then whole
    else ((whole + part) * Number.ofNat unit).round / Number.ofNat unit
  if n.negative && !(n.digits = 0 && n.scale = 0) then -x else x

/-! ## Groups of four digits -/

/-- `m / 10 ^ k` as an integer, ties to even. -/
def shrink (m k : Nat) : Nat := Number.roundRatio m (Nat.pow 10 k)

/-- The number of digits to drop for the rest to have room, up to `n`. -/
def excess (m : Nat) : Nat → Nat → Nat
  | 0, k => k
  | n + 1, k => if shrink m k ≤ maxDigits then k else excess m n (k + 1)

/-- Adds `group / 10 ^ places`, rounding where there is no room. -/
def addPlaces (n : Numeric) (group places : Nat) : Numeric :=
  let scale := max n.scale places
  let m := n.digits * Nat.pow 10 (scale - n.scale) + group * Nat.pow 10 (scale - places)
  let k := excess m scale 0
  ⟨n.negative, shrink m k, scale - k⟩

/-- Adds a group of digits whose last digit is `places` behind the point. -/
def addGroup (n : Numeric) (group places : Nat) : Numeric :=
  if places ≤ maxScale then n.addPlaces group places
  else if places = maxScale + 4 && group ≥ 5000 then n.addPlaces 1 maxScale
  else n

/-- Adds the groups behind the point, the first of which ends `places` behind it. -/
def addGroups (n : Numeric) (places : Nat) : List Nat → Numeric
  | [] => n
  | g :: gs => addGroups (if g = 0 then n else n.addGroup g places) (places + 4) gs

def joinGroups : Nat → List Nat → Option Nat
  | m, [] => some m
  | m, g :: gs => if m * 10000 + g ≤ maxDigits then joinGroups (m * 10000 + g) gs else none

/-- The number that groups of four decimal digits denote, the first of weight
`10000 ^ weight`, with the given places; none when it has no room. -/
def ofGroups? (negative : Bool) (weight : Int) (scale : Nat) (groups : List Nat) : Option Numeric := do
  let before := (weight + 1).toNat
  let m ← joinGroups 0 (groups.take before)
  let tens := Nat.pow 10000 (before - groups.length)
  if tens ≤ maxDigits && m * tens ≤ maxDigits then
    let whole : Numeric := ⟨negative, m * tens, 0⟩
    some ((whole.addGroups (4 * ((-weight - 1).toNat + 1)) (groups.drop before)).rescale scale)
  else none

def groupsOf : Nat → Nat → List Nat
  | 0, _ => []
  | n + 1, m => if m = 0 then [] else m % 10000 :: groupsOf n (m / 10000)

/-- The groups of the digits, the fraction filled up to whole groups. No number has more than
eight. -/
def groups (n : Numeric) : List Nat :=
  let pad := if n.scale % 4 = 0 then 0 else 4 - n.scale % 4
  (groupsOf 9 (n.digits * Nat.pow 10 pad)).reverse

/-- The weight of the first group. -/
def weight (n : Numeric) : Int := (n.groups.length : Int) - ((n.scale + 3) / 4 : Nat) - 1

/-- The groups that are sent: zeros at the end of the fraction are left out of numbers that
are not less than one. -/
def sentGroups (n : Numeric) : List Nat :=
  if n.weight < 0 then n.groups
  else
    let whole := (n.weight + 1).toNat
    n.groups.take whole ++ ((n.groups.drop whole).reverse.dropWhile (· = 0)).reverse

end Numeric

end EntityStore.Postgres
