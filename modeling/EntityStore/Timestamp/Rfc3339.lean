import EntityStore.Timestamp

/-!
# RFC 3339 text of instants

Written with the offset `+00:00`, with as many groups of three fraction digits as needed,
and with a sign on years outside 0 to 9999. Read with any offset of less than a day; a
sixtieth second is a leap second.
-/

namespace EntityStore.Timestamp

/-- The decimal digits of `n`, with zeros in front up to `width`. -/
def padded (width n : Nat) : String :=
  let s := toString n
  String.ofList (List.replicate (width - s.length) '0') ++ s

def yearText (y : Int) : String :=
  if 0 ≤ y ∧ y ≤ 9999 then padded 4 y.toNat
  else (if y < 0 then "-" else "+") ++ padded 4 y.natAbs

def fractionText (nanos : Nat) : String :=
  if nanos = 0 then ""
  else if nanos % 1000000 = 0 then "." ++ padded 3 (nanos / 1000000)
  else if nanos % 1000 = 0 then "." ++ padded 6 (nanos / 1000)
  else "." ++ padded 9 nanos

def toRfc3339 (t : Timestamp) : String :=
  let d := t.date
  let s := t.secondOfDay
  -- A leap second shows as second 60.
  let second := s % 60 + t.nanos / 1000000000
  yearText d.year ++ "-" ++ padded 2 d.month ++ "-" ++ padded 2 d.day ++ "T" ++
    padded 2 (s / 3600) ++ ":" ++ padded 2 (s / 60 % 60) ++ ":" ++ padded 2 second ++
    fractionText (t.nanos % 1000000000) ++ "+00:00"

instance : ToString Timestamp := ⟨toRfc3339⟩

/-! ## Reading -/

/-- Exactly `n` decimal digits from the front. -/
def readDigits (n : Nat) (cs : List Char) : Option (Nat × List Char) :=
  let ds := cs.take n
  if ds.length = n ∧ ds.all Char.isDigit then
    some (ds.foldl (fun v c => v * 10 + (c.toNat - '0'.toNat)) 0, cs.drop n)
  else none

def readMark (c : Char) : List Char → Option (List Char)
  | d :: cs => if d = c then some cs else none
  | [] => none

/-- The fraction of a second behind its point, cut to nanoseconds. -/
def readFraction (cs : List Char) : Option (Nat × List Char) :=
  let ds := (cs.takeWhile Char.isDigit).take 9
  if ds = [] then none
  else
    let n := ds.foldl (fun v c => v * 10 + (c.toNat - '0'.toNat)) 0
    some (n * Nat.pow 10 (9 - ds.length), cs.dropWhile Char.isDigit)

/-- An offset from UTC in seconds. -/
def readOffset : List Char → Option (Int × List Char)
  | [] => none
  | c :: cs =>
    if c = 'Z' ∨ c = 'z' then some (0, cs)
    else if c = '+' ∨ c = '-' ∨ c = '−' then do
      let (h, cs) ← readDigits 2 cs
      let cs ← readMark ':' cs
      let (m, cs) ← readDigits 2 cs
      if h ≤ 23 ∧ m ≤ 59 then
        let s : Int := h * 3600 + m * 60
        some (if c = '+' then s else -s, cs)
      else none
    else none

def parse? (s : String) : Option Timestamp := do
  let (year, cs) ← readDigits 4 s.toList
  let (month, cs) ← readDigits 2 (← readMark '-' cs)
  let (day, cs) ← readDigits 2 (← readMark '-' cs)
  let cs ← match cs with
    | c :: cs => if c = 'T' ∨ c = 't' ∨ c = ' ' then some cs else none
    | [] => none
  let (hour, cs) ← readDigits 2 cs
  let (minute, cs) ← readDigits 2 (← readMark ':' cs)
  let (second, cs) ← readDigits 2 (← readMark ':' cs)
  let (nanos, cs) ← match cs with
    | '.' :: cs => readFraction cs
    | cs => some (0, cs)
  let (offset, cs) ← readOffset cs
  let d : Date := ⟨year, month, day⟩
  if cs = [] ∧ d.isValid ∧ hour ≤ 23 ∧ minute ≤ 59 ∧ second ≤ 60 then
    let leap := second = 60
    let t := ofDate d (hour * 3600 + minute * 60 + (if leap then 59 else second))
      (if leap then nanos + 1000000000 else nanos)
    some ⟨t.seconds - offset, t.nanos⟩
  else none

end EntityStore.Timestamp
