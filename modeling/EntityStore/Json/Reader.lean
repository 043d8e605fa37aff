import EntityStore.Json
import EntityStore.Number.Nearest
import EntityStore.Text.Hex

/-!
# Reading JSON documents

The strict grammar: no comments, no trailing commas, no control characters in strings, no
surrogate without its partner, and at most 127 nested arrays and objects. An integer that
fits 64 bits, signed or unsigned, stays an integer; every other number becomes a double.
A number too large for a double is refused.
-/

namespace EntityStore.Json

/-- A reader takes the front of a text and leaves the rest, or refuses the text. -/
abbrev Reader (α : Type) := List Char → Option (α × List Char)

def skipBlanks (cs : List Char) : List Char :=
  cs.dropWhile fun c => c = ' ' || c = '\n' || c = '\t' || c = '\r'

def skipDigits (cs : List Char) : List Char := cs.dropWhile Char.isDigit

/-! ## Numbers -/

/-- The largest significand that is kept exactly. -/
def maxSignificand : Nat := UInt64.size - 1

/-- Appends digits to a significand while the result fits 64 bits. Yields the significand,
the number of digits taken, and the rest. -/
def takeDigits (significand taken : Nat) : List Char → Nat × Nat × List Char
  | [] => (significand, taken, [])
  | c :: cs =>
    if c.isDigit then
      let next := significand * 10 + (c.toNat - '0'.toNat)
      if next ≤ maxSignificand then takeDigits next (taken + 1) cs else (significand, taken, c :: cs)
    else (significand, taken, c :: cs)

/-- `10 ^ k` as a double, for `k ≤ 308`. -/
def powerOfTen (k : Nat) : Float := Number.ofNat (Nat.pow 10 k)

/-- Divides by `10 ^ k`, in steps that a double can hold. -/
def scaleDown : Nat → Float → Nat → Float
  | 0, x, _ => x
  | fuel + 1, x, k =>
    if k ≤ 308 then x / powerOfTen k
    else if x == 0 then x
    else scaleDown fuel (x / powerOfTen 308) (k - 308)

/-- `significand * 10 ^ exponent` in double arithmetic; none when it overflows. -/
def scale (significand : Nat) (exponent : Int) : Option Float :=
  let x := significand.toUInt64.toFloat
  if exponent < 0 then some (scaleDown 8 x (-exponent).toNat)
  else if exponent ≤ 308 then
    let y := x * powerOfTen exponent.toNat
    if y.isInf then none else some y
  else if x == 0 then some x
  else none

def withSign (negative : Bool) (x : Float) : Float := if negative then -x else x

/-- The largest exponent whose digits are still added up. -/
def maxExponent : Nat := 0x7FFFFFFF

/-- What follows the `e` of a number. -/
def readExponent (significand : Nat) (start : Int) (cs : List Char) : Option (Float × List Char) := do
  let (down, cs) := match cs with
    | '+' :: r => (false, r)
    | '-' :: r => (true, r)
    | r => (false, r)
  let digits := cs.takeWhile Char.isDigit
  if digits = [] then none
  let n := digits.foldl (fun n c => n * 10 + (c.toNat - '0'.toNat)) 0
  let rest := skipDigits cs
  if n > maxExponent then
    if significand ≠ 0 && !down then none else some (0, rest)
  else
    let x ← scale significand (if down then start - n else start + n)
    some (x, rest)

/-- What follows the digits of a number that is not an integer. -/
def readScale (significand : Nat) (exponent : Int) : List Char → Option (Float × List Char)
  | c :: cs =>
    if c = 'e' || c = 'E' then readExponent significand exponent cs
    else (scale significand exponent).map (·, c :: cs)
  | [] => (scale significand exponent).map (·, [])

/-- What follows the decimal point. Digits beyond the significand's 64 bits are dropped. -/
def readFraction (significand : Nat) (exponent : Int) (cs : List Char) : Option (Float × List Char) :=
  let (s, taken, rest) := takeDigits significand 0 cs
  if (cs.headD ' ').isDigit then readScale s (exponent - taken) (skipDigits rest) else none

/-- The integer, when it fits; zero with a minus sign is a double. -/
def integer (negative : Bool) (n : Nat) : Json :=
  if !negative then .int n
  else if 0 < n && n ≤ 0x8000000000000000 then .int (-n)
  else .float (-(n.toUInt64.toFloat))

/-- What follows the integer digits `n`. -/
def afterDigits (negative : Bool) (n : Nat) : Reader Json
  | '.' :: cs => (readFraction n 0 cs).map fun (x, r) => (.float (withSign negative x), r)
  | c :: cs =>
    if c = 'e' || c = 'E' then
      (readExponent n 0 cs).map fun (x, r) => (.float (withSign negative x), r)
    else some (integer negative n, c :: cs)
  | [] => some (integer negative n, [])

/-- Integer digits beyond 64 bits only raise the exponent. -/
def afterLongDigits (negative : Bool) (n : Nat) (cs : List Char) : Option (Json × List Char) :=
  let extra : Int := (cs.takeWhile Char.isDigit).length
  let result := match skipDigits cs with
    | '.' :: r => readFraction n extra r
    | r => readScale n extra r
  result.map fun (x, r) => (.float (withSign negative x), r)

def readNumber (negative : Bool) : Reader Json
  | [] => none
  | c :: cs =>
    if c = '0' then
      if (cs.headD ' ').isDigit then none else afterDigits negative 0 cs
    else if c.isDigit then
      let (n, _, rest) := takeDigits 0 0 (c :: cs)
      if (rest.headD ' ').isDigit then afterLongDigits negative n rest
      else afterDigits negative n rest
    else none

/-! ## Strings -/

def readHex4 : Reader Nat
  | a :: b :: c :: d :: cs => (Text.hexNumber? [a, b, c, d]).map (·, cs)
  | _ => none

/-- The character of an escape, given what follows the `u`. A leading surrogate needs a
trailing one behind it. -/
def readUnicode (cs : List Char) : Option (Char × List Char) := do
  let (n, rest) ← readHex4 cs
  if 0xDC00 ≤ n && n ≤ 0xDFFF then none
  else if 0xD800 ≤ n && n ≤ 0xDBFF then
    match rest with
    | '\\' :: 'u' :: rest =>
      let (m, rest) ← readHex4 rest
      if 0xDC00 ≤ m && m ≤ 0xDFFF then
        some (Char.ofNat (0x10000 + (n - 0xD800) * 0x400 + (m - 0xDC00)), rest)
      else none
    | _ => none
  else some (Char.ofNat n, rest)

def simpleEscape? (c : Char) : Option Char :=
  match c with
  | '"' => some '"'
  | '\\' => some '\\'
  | '/' => some '/'
  | 'b' => some '\x08'
  | 'f' => some '\x0c'
  | 'n' => some '\n'
  | 'r' => some '\r'
  | 't' => some '\t'
  | _ => none

/-- The text up to the closing quote, given what follows the opening one. -/
def readChars : Nat → List Char → List Char → Option (List Char × List Char)
  | 0, _, _ => none
  | _, _, [] => none
  | fuel + 1, acc, c :: cs =>
    if c = '"' then some (acc.reverse, cs)
    else if c = '\\' then
      match cs with
      | 'u' :: r => do
        let (d, rest) ← readUnicode r
        readChars fuel (d :: acc) rest
      | e :: r => do
        let d ← simpleEscape? e
        readChars fuel (d :: acc) r
      | [] => none
    else if c.toNat < 0x20 then none
    else readChars fuel (c :: acc) cs

def readString (cs : List Char) : Option (String × List Char) :=
  (readChars (cs.length + 1) [] cs).map fun (s, r) => (String.ofList s, r)

/-! ## Documents -/

def expect (word : List Char) (j : Json) (cs : List Char) : Option (Json × List Char) :=
  (word.isPrefixOf? cs).map (j, ·)

mutual

/-- A value; `depth` more levels of arrays and objects may open. -/
def readValue (fuel depth : Nat) (cs : List Char) : Option (Json × List Char) :=
  match fuel with
  | 0 => none
  | fuel + 1 =>
    match skipBlanks cs with
    | 'n' :: r => expect "ull".toList .null r
    | 't' :: r => expect "rue".toList (.bool true) r
    | 'f' :: r => expect "alse".toList (.bool false) r
    | '"' :: r => (readString r).map fun (s, r) => (.string s, r)
    | '-' :: r => readNumber true r
    | '[' :: r =>
      if depth ≤ 1 then none
      else match skipBlanks r with
        | ']' :: r => some (.array [], r)
        | r => readItems fuel (depth - 1) [] r
    | '{' :: r =>
      if depth ≤ 1 then none
      else match skipBlanks r with
        | '}' :: r => some (.object [], r)
        | r => readMembers fuel (depth - 1) [] r
    | r => readNumber false r

/-- The items of an array up to its end; `acc` holds those read, reversed. -/
def readItems (fuel depth : Nat) (acc : List Json) (cs : List Char) : Option (Json × List Char) :=
  match fuel with
  | 0 => none
  | fuel + 1 => do
    let (j, r) ← readValue fuel depth cs
    match skipBlanks r with
    | ',' :: r => readItems fuel depth (j :: acc) r
    | ']' :: r => some (.array (j :: acc).reverse, r)
    | _ => none

def readMembers (fuel depth : Nat) (acc : List (String × Json)) (cs : List Char) :
    Option (Json × List Char) :=
  match fuel with
  | 0 => none
  | fuel + 1 =>
    match skipBlanks cs with
    | '"' :: r => do
      let (name, r) ← readString r
      match skipBlanks r with
      | ':' :: r =>
        let (j, r) ← readValue fuel depth r
        let acc := insertMember name j acc
        match skipBlanks r with
        | ',' :: r => readMembers fuel depth acc r
        | '}' :: r => some (.object acc, r)
        | _ => none
      | _ => none
    | _ => none

end

/-- Levels of nesting that a document may not reach. -/
def maxDepth : Nat := 128

def read? (s : String) : Option Json :=
  let cs := s.toList
  match readValue (2 * cs.length + 2) maxDepth cs with
  | some (j, rest) => if skipBlanks rest = [] then some j else none
  | none => none

end EntityStore.Json
