import EntityStore.Timestamp.Rfc3339

/-!
# Dates and times of documents

A moment is a date, a time of day, or both, and both may have an offset. It is written in one
form only: a `T` before the time, seconds in any case, a fraction without zeros at its end.
-/

namespace EntityStore.Toml

structure TimeOfDay where
  hour : Nat
  minute : Nat
  second : Nat
  nanos : Nat
deriving DecidableEq, Repr

inductive Offset where
  /-- The letter `Z`. -/
  | zulu
  | minutes (n : Int)
deriving DecidableEq, Repr

inductive Moment where
  | date (d : Date)
  | time (t : TimeOfDay)
  | both (d : Date) (t : TimeOfDay) (offset : Option Offset)
deriving DecidableEq, Repr

namespace TimeOfDay

/-- Any minute may have a sixtieth second. -/
def isValid (t : TimeOfDay) : Bool := t.hour ≤ 23 && t.minute ≤ 59 && t.second ≤ 60

def fractionText (nanos : Nat) : String :=
  if nanos = 0 then ""
  else
    let digits := (Timestamp.padded 9 nanos).toList.reverse
    "." ++ String.ofList (digits.dropWhile (· = '0')).reverse

def text (t : TimeOfDay) : String :=
  Timestamp.padded 2 t.hour ++ ":" ++ Timestamp.padded 2 t.minute ++ ":" ++
    Timestamp.padded 2 t.second ++ fractionText t.nanos

/-- Reads a time; the seconds and their fraction may be missing. -/
def read (cs : List Char) : Option (TimeOfDay × List Char) := do
  let (hour, cs) ← Timestamp.readDigits 2 cs
  let (minute, cs) ← Timestamp.readDigits 2 (← Timestamp.readMark ':' cs)
  let (second, nanos, cs) ← match cs with
    | ':' :: cs => do
      let (second, cs) ← Timestamp.readDigits 2 cs
      match cs with
      | '.' :: cs => (Timestamp.readFraction cs).map fun (nanos, cs) => (second, nanos, cs)
      | cs => some (second, 0, cs)
    | cs => some (0, 0, cs)
  let t : TimeOfDay := ⟨hour, minute, second, nanos⟩
  if t.isValid then some (t, cs) else none

end TimeOfDay

namespace Offset

def text : Offset → String
  | .zulu => "Z"
  | .minutes n =>
    (if n < 0 then "-" else "+") ++ Timestamp.padded 2 (n.natAbs / 60) ++ ":" ++
      Timestamp.padded 2 (n.natAbs % 60)

/-- Reads an offset with nothing behind it; there need not be one. -/
def read? : List Char → Option (Option Offset)
  | [] => some none
  | [c] => if c = 'Z' || c = 'z' then some (some .zulu) else none
  | c :: cs =>
    if c = '+' || c = '-' then
      match Timestamp.readOffset (c :: cs) with
      | some (seconds, []) => some (some (.minutes (seconds / 60)))
      | _ => none
    else none

end Offset

namespace Moment

def dateText (d : Date) : String :=
  Timestamp.padded 4 d.year.toNat ++ "-" ++ Timestamp.padded 2 d.month ++ "-" ++
    Timestamp.padded 2 d.day

def text : Moment → String
  | .date d => dateText d
  | .time t => t.text
  | .both d t offset => dateText d ++ "T" ++ t.text ++ (offset.map Offset.text).getD ""

def readDate (cs : List Char) : Option (Date × List Char) := do
  let (year, cs) ← Timestamp.readDigits 4 cs
  let (month, cs) ← Timestamp.readDigits 2 (← Timestamp.readMark '-' cs)
  let (day, cs) ← Timestamp.readDigits 2 (← Timestamp.readMark '-' cs)
  let d : Date := ⟨year, month, day⟩
  if d.isValid then some (d, cs) else none

/-- Reads a date, a time, or a date and a time with a letter or a blank between them. -/
def read? (cs : List Char) : Option Moment :=
  match readDate cs with
  | some (d, []) => some (.date d)
  | some (d, c :: cs) =>
    if c = 'T' || c = 't' || c = ' ' then do
      let (t, cs) ← TimeOfDay.read cs
      return .both d t (← Offset.read? cs)
    else none
  | none =>
    match TimeOfDay.read cs with
    | some (t, []) => some (.time t)
    | _ => none

end Moment

end EntityStore.Toml
