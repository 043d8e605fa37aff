import EntityStore.Text.Blank

/-!
# SQL identifiers

An identifier is a sequence of parts joined by dots. A plain part starts with a letter or
an underscore and goes on with letters, digits, underscores and dollar signs; a quoted part
stands between double quotes, holds any text but NUL, and doubles the quotes inside it.
`Ident.parse` reads this grammar and `Ident.toSql` writes it.
-/

namespace EntityStore

/-- One part of an identifier. The name is what the part denotes: the quotes around a quoted
part and the doubling inside it belong to the written form only. -/
inductive Ident.Part where
  | plain (name : String)
  | quoted (name : String)
deriving DecidableEq, Repr

structure Ident where
  parts : List Ident.Part
deriving DecidableEq, Repr

namespace Ident

/-- Why a text is not an identifier. -/
inductive Fault where
  | empty
  | containsNul
  | trailingDot
  | expectedDot (found : Char)
  | unclosedQuote
  | emptyQuoted
  | unexpected (found : Char)
  | emptySegment
deriving DecidableEq, Repr

/-- What is wrong with the identifier written `shown`. -/
def Fault.message (shown : String) : Fault → String
  | .empty => "identifier cannot be empty"
  | .containsNul => "identifier cannot contain NUL character"
  | .trailingDot => invalid "trailing '.'"
  | .expectedDot c => invalid ("expected '.', got '" ++ c.toString ++ "'")
  | .unclosedQuote => invalid "unclosed quoted identifier"
  | .emptyQuoted => invalid "empty quoted identifier"
  | .unexpected c => invalid ("unexpected character '" ++ c.toString ++ "'")
  | .emptySegment => invalid "empty identifier segment"
where
  invalid (reason : String) : String := "invalid identifier '" ++ shown ++ "': " ++ reason

def Part.name : Part → String
  | .plain s | .quoted s => s

/-- May start a plain part. -/
def isStart (c : Char) : Bool := c = '_' || c.isAlpha

/-- May follow the first character of a plain part. -/
def isContinue (c : Char) : Bool := c = '_' || c = '$' || c.isAlphanum

/-! ## Writing -/

def doubleQuotes : List Char → List Char
  | [] => []
  | c :: cs => if c = '"' then '"' :: '"' :: doubleQuotes cs else c :: doubleQuotes cs

def Part.toChars : Part → List Char
  | .plain s => s.toList
  | .quoted s => '"' :: doubleQuotes s.toList ++ ['"']

def joinParts : List Part → List Char
  | [] => []
  | [p] => p.toChars
  | p :: q :: ps => p.toChars ++ '.' :: joinParts (q :: ps)

def toSql (i : Ident) : String := String.ofList (joinParts i.parts)

instance : ToString Ident := ⟨toSql⟩

/-- The last part: the bare column or table name. -/
def name (i : Ident) : String := (i.parts.getLast?.map Part.name).getD ""

/-- Everything before the last part, `users` for `users.age`. -/
def qualifier? (i : Ident) : Option String :=
  if i.parts.length < 2 then none else some (toSql ⟨i.parts.dropLast⟩)

/-! ## Reading -/

/-- The text of a quoted part up to its closing quote, and what follows that quote. -/
def readQuoted : List Char → Option (List Char × List Char)
  | [] => none
  | '"' :: '"' :: cs => (readQuoted cs).map fun (n, rest) => ('"' :: n, rest)
  | c :: cs =>
    if c = '"' then some ([], cs)
    else (readQuoted cs).map fun (n, rest) => (c :: n, rest)

/-- What keeps a dot-free text from being a plain part, if anything. -/
def plainFault? : List Char → Option Fault
  | [] => some .emptySegment
  | c :: cs =>
    if isStart c then (cs.find? fun d => !isContinue d).map .unexpected else some (.unexpected c)

def readPlain (cs : List Char) : Except Fault (Part × List Char) :=
  let segment := cs.takeWhile (· ≠ '.')
  match plainFault? segment with
  | some f => .error f
  | none => .ok (.plain (String.ofList segment), cs.dropWhile (· ≠ '.'))

/-- The first part of a text, and the text after it. -/
def readPart : List Char → Except Fault (Part × List Char)
  | '"' :: cs =>
    match readQuoted cs with
    | none => .error .unclosedQuote
    | some ([], _) => .error .emptyQuoted
    | some (n, rest) => .ok (.quoted (String.ofList n), rest)
  | cs => readPlain cs

theorem length_of_readQuoted {cs n rest : List Char} (h : readQuoted cs = some (n, rest)) :
    rest.length < cs.length := by
  fun_induction readQuoted cs generalizing n rest with
  | case1 => simp at h
  | case2 cs ih =>
    obtain ⟨⟨n', r⟩, hr, he⟩ := Option.map_eq_some_iff.mp h
    cases he
    have := ih hr
    simp only [List.length_cons]
    omega
  | case3 => simp_all
  | case4 c cs _ _ ih =>
    obtain ⟨⟨n', r⟩, hr, he⟩ := Option.map_eq_some_iff.mp h
    cases he
    have := ih hr
    simp only [List.length_cons]
    omega

theorem length_of_readPlain {cs rest : List Char} {p : Part} (h : readPlain cs = .ok (p, rest)) :
    rest.length < cs.length := by
  unfold readPlain at h
  cases cs with
  | nil => simp [plainFault?] at h
  | cons c cs =>
    by_cases hc : c = '.'
    · simp [hc, plainFault?] at h
    · have hd : (c :: cs).dropWhile (· ≠ '.') = cs.dropWhile (· ≠ '.') := by
        simp [hc]
      simp only [hd] at h
      split at h
      · cases h
      · cases h
        exact Nat.lt_succ_of_le (List.dropWhile_suffix _).length_le

theorem length_of_readPart {cs rest : List Char} {p : Part} (h : readPart cs = .ok (p, rest)) :
    rest.length < cs.length := by
  unfold readPart at h
  split at h
  · split at h
    · cases h
    · cases h
    · rename_i hq
      cases h
      exact Nat.lt_trans (length_of_readQuoted hq) (by simp)
  · exact length_of_readPlain h

/-- A part, and as long as a dot follows, further parts. -/
def readParts (cs : List Char) : Except Fault (List Part) :=
  match _h : readPart cs with
  | .error f => .error f
  | .ok (p, []) => .ok [p]
  | .ok (p, c :: rest) =>
    if c ≠ '.' then .error (.expectedDot c)
    else if rest = [] then .error .trailingDot
    else (readParts rest).map (p :: ·)
termination_by cs.length
decreasing_by
  have := length_of_readPart _h
  simp at this
  omega

def parseChars (cs : List Char) : Except Fault Ident :=
  if cs = [] then .error .empty
  else if '\x00' ∈ cs then .error .containsNul
  else (readParts cs).map Ident.mk

def parse (s : String) : Except Fault Ident := parseChars s.toList

end Ident

end EntityStore
