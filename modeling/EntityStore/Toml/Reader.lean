import EntityStore.Json.Reader
import EntityStore.Number.Reader
import EntityStore.Toml
import EntityStore.Toml.Moment

/-!
# Reading TOML documents

Comments, keys, the four kinds of strings, numbers in four bases, dates, arrays and inline
tables. Lines may end inside arrays and inline tables, which nest to a limited depth. A date
is read as a table that holds its text.
-/

namespace EntityStore.Toml

/-- A reader takes the front of a text and leaves the rest, or refuses the text. -/
abbrev Reader (α : Type) := List Char → Option (α × List Char)

/-! ## Blanks and comments -/

def isSpace (c : Char) : Bool := c = ' ' || c = '\t'

def skipSpaces (cs : List Char) : List Char := cs.dropWhile isSpace

/-- A control character, which no comment and no string holds as it is. -/
def isControl (c : Char) : Bool := (c.toNat < 0x20 && c ≠ '\t') || c.toNat = 0x7f

/-- Skips a comment, if there is one, up to the end of the line. -/
def skipComment : List Char → Option (List Char)
  | '#' :: cs =>
    match cs.dropWhile fun c => !isControl c with
    | [] => some []
    | '\n' :: r => some ('\n' :: r)
    | '\r' :: '\n' :: r => some ('\n' :: r)
    | _ => none
  | cs => some cs

def endLine (cs : List Char) : Option (List Char) := do
  match ← skipComment (skipSpaces cs) with
  | [] => some []
  | '\n' :: r => some r
  | '\r' :: '\n' :: r => some r
  | _ => none

/-- Skips blanks, comments and ends of lines, at most so many. -/
def skipLines : Nat → List Char → Option (List Char)
  | 0, _ => none
  | fuel + 1, cs =>
    match skipSpaces cs with
    | '#' :: r => (skipComment ('#' :: r)).bind (skipLines fuel)
    | '\n' :: r => skipLines fuel r
    | '\r' :: '\n' :: r => skipLines fuel r
    | r => some r

/-! ## Strings -/

def scalar? (digits : List Char) : Option Char :=
  (Text.hexNumber? digits).bind fun n => if n.isValidChar then some (Char.ofNat n) else none

def finished (done : List Char) (rest : List Char) : Option (String × List Char) :=
  some (String.ofList done.reverse, rest)

def escaped? (c : Char) : Option Char :=
  match c with
  | 'b' => some '\x08'
  | 't' => some '\t'
  | 'n' => some '\n'
  | 'f' => some '\x0c'
  | 'r' => some '\r'
  | 'e' => some '\x1b'
  | '"' => some '"'
  | '\\' => some '\\'
  | _ => none

/-- Reads a string on one line, behind its first quote; `done` is what was read, in reverse. -/
def readBasic (done : List Char) : Reader String
  | [] => none
  | '"' :: r => finished done r
  | '\\' :: 'x' :: a :: b :: r => (scalar? [a, b]).bind fun x => readBasic (x :: done) r
  | '\\' :: 'u' :: a :: b :: c :: d :: r =>
    (scalar? [a, b, c, d]).bind fun x => readBasic (x :: done) r
  | '\\' :: 'U' :: a :: b :: c :: d :: e :: f :: g :: h :: r =>
    (scalar? [a, b, c, d, e, f, g, h]).bind fun x => readBasic (x :: done) r
  | '\\' :: c :: r => (escaped? c).bind fun x => readBasic (x :: done) r
  | c :: r => if isControl c then none else readBasic (c :: done) r

/-- Whether only blanks stand before the end of the line. -/
def endsLine (cs : List Char) : Bool :=
  match skipSpaces cs with
  | '\n' :: _ | '\r' :: '\n' :: _ => true
  | _ => false

/-- Reads a string of several lines. A backslash at the end of a line skips all blanks that
follow; `skipping` says that this is under way. -/
def readLongBasic (skipping : Bool) (done : List Char) : Reader String
  | [] => none
  | '"' :: '"' :: '"' :: '"' :: '"' :: r => finished ('"' :: '"' :: done) r
  | '"' :: '"' :: '"' :: '"' :: r => finished ('"' :: done) r
  | '"' :: '"' :: '"' :: r => finished done r
  | '\\' :: 'x' :: a :: b :: r =>
    (scalar? [a, b]).bind fun x => readLongBasic false (x :: done) r
  | '\\' :: 'u' :: a :: b :: c :: d :: r =>
    (scalar? [a, b, c, d]).bind fun x => readLongBasic false (x :: done) r
  | '\\' :: 'U' :: a :: b :: c :: d :: e :: f :: g :: h :: r =>
    (scalar? [a, b, c, d, e, f, g, h]).bind fun x => readLongBasic false (x :: done) r
  | '\\' :: c :: r =>
    if endsLine (c :: r) then readLongBasic true done (c :: r)
    else (escaped? c).bind fun x => readLongBasic false (x :: done) r
  | '\r' :: '\n' :: r =>
    readLongBasic skipping (if skipping then done else '\n' :: '\r' :: done) r
  | c :: r =>
    if skipping && (isSpace c || c = '\n') then readLongBasic true done r
    else if isControl c && c ≠ '\n' then none
    else readLongBasic false (c :: done) r

/-- Reads a string without escapes on one line. -/
def readLiteral (done : List Char) : Reader String
  | [] => none
  | '\x27' :: r => finished done r
  | c :: r => if isControl c then none else readLiteral (c :: done) r

def readLongLiteral (done : List Char) : Reader String
  | [] => none
  | '\x27' :: '\x27' :: '\x27' :: '\x27' :: '\x27' :: r => finished ('\x27' :: '\x27' :: done) r
  | '\x27' :: '\x27' :: '\x27' :: '\x27' :: r => finished ('\x27' :: done) r
  | '\x27' :: '\x27' :: '\x27' :: r => finished done r
  | '\r' :: '\n' :: r => readLongLiteral ('\n' :: '\r' :: done) r
  | c :: r => if isControl c && c ≠ '\n' then none else readLongLiteral (c :: done) r

/-- A line end right behind the opening quotes does not belong to the string. -/
def dropFirstLine : List Char → List Char
  | '\n' :: r => r
  | '\r' :: '\n' :: r => r
  | cs => cs

/-! ## Keys -/

def isBareChar (c : Char) : Bool := c.isAlphanum || c = '_' || c = '-'

def readKeyPart : Reader String
  | '"' :: r => readBasic [] r
  | '\x27' :: r => readLiteral [] r
  | cs =>
    match cs.takeWhile isBareChar with
    | [] => none
    | part => some (String.ofList part, cs.dropWhile isBareChar)

/-- How many parts a key may have, and how deep arrays and inline tables may nest. -/
def depthLimit : Nat := 80

/-- A key of at most so many parts, with the blanks around it. -/
def readKeyWithin : Nat → Reader (List String)
  | 0, _ => none
  | parts + 1, cs => do
    let (part, r) ← readKeyPart (skipSpaces cs)
    match skipSpaces r with
    | '.' :: r => do
      let (rest, r) ← readKeyWithin parts r
      return (part :: rest, r)
    | r => return ([part], r)

def readKey : Reader (List String) := readKeyWithin depthLimit

/-! ## Numbers, dates and words -/

/-- Digits with single underscores between them; the class of digits is given. -/
def plainDigits? (isDigit : Char → Bool) (cs : List Char) : Option (List Char) :=
  let groups := cs.splitOn '_'
  if groups.all fun g => !g.isEmpty && g.all isDigit then some groups.flatten else none

def inBase? (base : Nat) (cs : List Char) : Option Value := do
  let digits ← plainDigits? (fun c => (Text.hexValue? c).any (· < base)) cs
  return .int (digits.foldl (fun n c => n * base + (Text.hexValue? c).getD 0) 0 : Nat)

def noLeadingZero : List Char → Bool
  | '0' :: _ :: _ => false
  | _ => true

def decimal? (negative : Bool) (cs : List Char) : Option Value := do
  let digits ← plainDigits? Char.isDigit cs
  if !noLeadingZero digits then none
  else
    let n : Int := Number.natOfDigits digits
    return .int (if negative then -n else n)

def isDigitPart (c : Char) : Bool := c.isDigit || c = '_'

/-- The fraction with its point, if there is one. -/
def readFraction : Reader (List Char)
  | '.' :: r =>
    (plainDigits? Char.isDigit (r.takeWhile isDigitPart)).map fun digits =>
      ('.' :: digits, r.dropWhile isDigitPart)
  | r => some ([], r)

def splitSign : List Char → List Char × List Char
  | '-' :: r => (['-'], r)
  | '+' :: r => ([], r)
  | r => ([], r)

/-- The exponent with its letter, if there is one and nothing else. -/
def exponent? : List Char → Option (List Char)
  | [] => some []
  | c :: r =>
    if c = 'e' || c = 'E' then
      let (sign, r) := splitSign r
      (plainDigits? Char.isDigit r).map fun digits => 'e' :: (sign ++ digits)
    else none

/-- A number with a fraction, an exponent or both. -/
def float? (negative : Bool) (cs : List Char) : Option Value := do
  let whole ← plainDigits? Char.isDigit (cs.takeWhile isDigitPart)
  let (fraction, rest) ← readFraction (cs.dropWhile isDigitPart)
  let exponent ← exponent? rest
  if !noLeadingZero whole || (fraction.isEmpty && exponent.isEmpty) then none
  else
    let x ← Number.readFloat? (String.ofList (whole ++ fraction ++ exponent))
    return if x.isInf then .excess else .float (if negative then -x else x)

def special? (negative : Bool) (word : String) : Option Value :=
  let x? : Option Float := match word with
    | "inf" => some (1.0 / 0.0)
    | "nan" => some (0.0 / 0.0)
    | _ => none
  x?.map fun x => .float (if negative then -x else x)

def number? (negative : Bool) (cs : List Char) : Option Value :=
  special? negative (String.ofList cs) <|> decimal? negative cs <|> float? negative cs

/-- The name under which a table holds the text of a date. -/
def dateName : String := "$__toml_private_datetime"

def date? (cs : List Char) : Option Value :=
  (Moment.read? cs).map fun m => .table [(dateName, .string m.text)]

/-- The value of a word that is not quoted. -/
def word? (cs : List Char) : Option Value :=
  match cs with
  | ['t', 'r', 'u', 'e'] => some (.bool true)
  | ['f', 'a', 'l', 's', 'e'] => some (.bool false)
  | '0' :: 'x' :: r => inBase? 16 r
  | '0' :: 'o' :: r => inBase? 8 r
  | '0' :: 'b' :: r => inBase? 2 r
  | '+' :: r => number? false r
  | '-' :: r => number? true r
  | cs => number? false cs <|> date? cs

def isWordChar (c : Char) : Bool := c.isAlphanum || c ∈ ['+', '-', '.', '_', ':']

/-- Reads a word. A blank may stand between a date and its time. -/
def readWord : Reader Value := fun cs =>
  let word := cs.takeWhile isWordChar
  match cs.dropWhile isWordChar with
  | ' ' :: d :: r =>
    if d.isDigit && word.length = 10 && (date? word).isSome then
      let time := (d :: r).takeWhile isWordChar
      (date? (word ++ ' ' :: time)).map (·, (d :: r).dropWhile isWordChar)
    else (word? word).map (·, ' ' :: d :: r)
  | rest => (word? word).map (·, rest)

/-! ## Values -/

mutual

/-- A value in which arrays and inline tables nest at most `depth` deep. -/
def readValue (fuel depth : Nat) : Reader Value := fun cs =>
  match fuel with
  | 0 => none
  | fuel + 1 =>
    match cs with
    | '"' :: '"' :: '"' :: r =>
      (readLongBasic false [] (dropFirstLine r)).map fun (s, r) => (.string s, r)
    | '"' :: r => (readBasic [] r).map fun (s, r) => (.string s, r)
    | '\x27' :: '\x27' :: '\x27' :: r =>
      (readLongLiteral [] (dropFirstLine r)).map fun (s, r) => (.string s, r)
    | '\x27' :: r => (readLiteral [] r).map fun (s, r) => (.string s, r)
    | '[' :: r =>
      if depth = 0 then none
      else do
        let r ← skipLines (r.length + 1) r
        match r with
        | ']' :: r => return (.array [], r)
        | r => readItems fuel (depth - 1) [] r
    | '\x7b' :: r =>
      if depth = 0 then none
      else do
        let r ← skipLines (r.length + 1) r
        match r with
        | '\x7d' :: r => return (.table [], r)
        | r => readPairs fuel (depth - 1) [] r
    | cs => readWord cs

def readItems (fuel depth : Nat) (done : List Value) : Reader Value := fun cs =>
  match fuel with
  | 0 => none
  | fuel + 1 => do
    let (v, r) ← readValue fuel depth cs
    let r ← skipLines (r.length + 1) r
    match r with
    | ']' :: r => return (.array (done ++ [v]), r)
    | ',' :: r =>
      let r ← skipLines (r.length + 1) r
      match r with
      | ']' :: r => return (.array (done ++ [v]), r)
      | r => readItems fuel depth (done ++ [v]) r
    | _ => none

/-- The pairs of an inline table from the next one on. -/
def readPairs (fuel depth : Nat) (done : Entries) : Reader Value := fun cs =>
  match fuel with
  | 0 => none
  | fuel + 1 => do
    let (key, r) ← readKey cs
    let r ← skipLines (r.length + 1) r
    match r with
    | '=' :: r =>
      let r ← skipLines (r.length + 1) r
      let (v, r) ← readValue fuel depth r
      let done ← Entries.insert v key done
      let r ← skipLines (r.length + 1) r
      match r with
      | '\x7d' :: r => return (.table (membersOf done), r)
      | ',' :: r =>
        let r ← skipLines (r.length + 1) r
        match r with
        | '\x7d' :: r => return (.table (membersOf done), r)
        | r => readPairs fuel depth done r
      | _ => none
    | _ => none

end

/-! ## Documents -/

/-- The tables so far and the header under which the lines stand. -/
structure Draft where
  root : Entries
  current : List String

def readHeader (opening : Entries.Opening) (close : List Char) (draft : Draft) (cs : List Char) :
    Option (Draft × List Char) := do
  let (key, r) ← readKey cs
  let root ← Entries.follow opening key draft.root
  let rest ← if close.isPrefixOf r then endLine (r.drop close.length) else none
  return (⟨root, key⟩, rest)

def readAssignment (draft : Draft) (cs : List Char) : Option (Draft × List Char) := do
  let (key, r) ← readKey cs
  match r with
  | '=' :: r =>
    let (v, r) ← readValue (r.length + 1) depthLimit (skipSpaces r)
    let root ← Entries.update (Entries.insert v key) draft.current draft.root
    return ({ draft with root := root }, ← endLine r)
  | _ => none

/-- Reads the lines of a document, at most so many. -/
def readLines : Nat → Draft → List Char → Option Entries
  | 0, _, _ => none
  | fuel + 1, draft, cs => do
    match ← skipLines (cs.length + 1) cs with
    | [] => some draft.root
    | '[' :: '[' :: r =>
      let (draft, r) ← readHeader Entries.openNext [']', ']'] draft r
      readLines fuel draft r
    | '[' :: r =>
      let (draft, r) ← readHeader Entries.openTable [']'] draft r
      readLines fuel draft r
    | r =>
      let (draft, r) ← readAssignment draft r
      readLines fuel draft r

def read? (s : String) : Option (List (String × Value)) :=
  let cs := match s.toList with
    | '\ufeff' :: cs => cs
    | cs => cs
  (readLines (cs.length + 1) ⟨[], []⟩ cs).map membersOf

end EntityStore.Toml
