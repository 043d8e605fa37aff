import EntityStore.Text.Blank
import EntityStore.Text.Name

/-!
# Tokens of declarations

The types, names and attributes of a declaration are made of words, lifetimes, literals, marks
and brackets. Blanks and comments stand between them and count for nothing, but for comments
that document something, which are attributes.
-/

namespace EntityStore.Declaration

inductive Token where
  | word (text : String)
  | lifetime (text : String)
  | literal (text : String)
  | mark (text : String)
  | opening (text : String)
  | closing (text : String)
deriving DecidableEq, Repr

namespace Token

def text : Token → String
  | .word s | .lifetime s | .literal s | .mark s | .opening s | .closing s => s

/-- The tokens as one text, without the blanks between and in them. -/
def join (tokens : List Token) : String :=
  String.ofList ((tokens.flatMap fun t => t.text.toList).filter (· ≠ ' '))

/-- A blank, or a mark that sets the direction of writing. -/
def isSpace (c : Char) : Bool := Text.isBlank c || c.toNat = 0x200e || c.toNat = 0x200f

/-- Skips a comment of the given depth, behind its first mark. -/
def skipComment (depth : Nat) : List Char → Option (List Char)
  | [] => none
  | '*' :: '/' :: cs => if depth ≤ 1 then some cs else skipComment (depth - 1) cs
  | '/' :: '*' :: cs => skipComment (depth + 1) cs
  | _ :: cs => skipComment depth cs

/-- A reader takes the front of a text and leaves the rest, or refuses the text. -/
abbrev Reader := List Char → Option (Token × List Char)

/-- Reads a quoted literal behind its first quote; `done` is what was read, in reverse. A
backslash takes the next character with it. -/
def readQuoted (quote : Char) (done : List Char) : Reader
  | [] => none
  | '\\' :: c :: cs => readQuoted quote (c :: '\\' :: done) cs
  | c :: cs =>
    if c = quote then some (.literal (String.ofList (c :: done).reverse), cs)
    else readQuoted quote (c :: done) cs

/-- Reads a literal without escapes up to the characters that close it. -/
def readRaw (close done : List Char) : Reader
  | [] => none
  | c :: cs =>
    if close.isPrefixOf (c :: cs) then
      some (.literal (String.ofList (done.reverse ++ close)), (c :: cs).drop close.length)
    else readRaw close (c :: done) cs

/-- Takes the sign and the digits of an exponent whose letter ends the number so far. -/
def withExponent (number rest : List Char) : List Char × List Char :=
  match rest with
  | sign :: d :: r =>
    if (sign = '+' || sign = '-') && d.isDigit && number.getLastD ' ' ∈ ['e', 'E'] &&
        number.dropLast.all fun c => c.isDigit || c = '_' || c = '.' then
      (number ++ sign :: (d :: r).takeWhile Text.isNameRest, (d :: r).dropWhile Text.isNameRest)
    else (number, rest)
  | _ => (number, rest)

/-- Reads a number: a point belongs to it unless a second point or a word follows. -/
def readNumber (cs : List Char) : Token × List Char :=
  let whole := cs.takeWhile Text.isNameRest
  let (number, rest) := match cs.dropWhile Text.isNameRest with
    | '.' :: r =>
      if (whole.all fun c => c.isDigit || c = '_') && r.headD ' ' ≠ '.' &&
          !Text.isNameStart (r.headD ' ') then
        (whole ++ '.' :: r.takeWhile Text.isNameRest, r.dropWhile Text.isNameRest)
      else (whole, '.' :: r)
    | r => (whole, r)
  let (number, rest) := withExponent number rest
  (.literal (String.ofList number), rest)

/-- The words that a literal without escapes may begin with. -/
def rawWords : List (List Char) := [['r'], ['b', 'r'], ['c', 'r']]

/-- Words that cannot be written with `r#` in front. -/
def neverRaw : List String := ["_", "super", "self", "Self", "crate"]

/-- Reads a word, or a literal that has a word in front of its quotes. -/
def readWord (cs : List Char) : Option (Token × List Char) :=
  let word := cs.takeWhile Text.isNameRest
  match cs.dropWhile Text.isNameRest with
  | '"' :: r =>
    if word ∈ rawWords then readRaw ['"'] ('"' :: word.reverse) r
    else if word ∈ [['b'], ['c']] then readQuoted '"' ('"' :: word.reverse) r
    else some (.word (String.ofList word), '"' :: r)
  | '\x27' :: r =>
    if word = ['b'] then readQuoted '\x27' ('\x27' :: word.reverse) r
    else some (.word (String.ofList word), '\x27' :: r)
  | '#' :: r =>
    if word ∉ rawWords then some (.word (String.ofList word), '#' :: r)
    else
      let hashes := '#' :: r.takeWhile (· = '#')
      match r.dropWhile (· = '#') with
      | '"' :: t => readRaw ('"' :: hashes) ('"' :: (word ++ hashes).reverse) t
      | t =>
        let name := String.ofList (t.takeWhile Text.isNameRest)
        if word = ['r'] && hashes.length = 1 && Text.isNameStart (t.headD ' ') &&
            name ∉ neverRaw then
          some (.word ("r#" ++ name), t.dropWhile Text.isNameRest)
        else none
  | r => some (.word (String.ofList word), r)

def marks : List Char := "+-*/%^!&|=<>@.,;:#$?~".toList

def read : Reader
  | [] => none
  | '"' :: cs => readQuoted '"' ['"'] cs
  | '\x27' :: '\\' :: cs => readQuoted '\x27' ['\x27'] ('\\' :: cs)
  | '\x27' :: c :: '\x27' :: cs => some (.literal (String.ofList ['\x27', c, '\x27']), cs)
  | '\x27' :: c :: cs =>
    if Text.isNameStart c then
      some (.lifetime (String.ofList ('\x27' :: (c :: cs).takeWhile Text.isNameRest)),
        (c :: cs).dropWhile Text.isNameRest)
    else none
  | ':' :: ':' :: cs => some (.mark "::", cs)
  | '-' :: '>' :: cs => some (.mark "->", cs)
  | c :: cs =>
    if c ∈ ['(', '[', '\x7b'] then some (.opening c.toString, cs)
    else if c ∈ [')', ']', '\x7d'] then some (.closing c.toString, cs)
    else if c ∈ marks then some (.mark c.toString, cs)
    else if c.isDigit then some (readNumber (c :: cs))
    else if Text.isNameStart c then readWord (c :: cs)
    else none

/-- The attribute that a comment on what follows it stands for, or on what holds it if it is
`inner`. -/
def documentation (inner : Bool) (text : List Char) : List Token :=
  let text := "\"" ++ String.ofList text ++ "\""
  .mark "#" :: (if inner then [.mark "!"] else []) ++
    [.opening "[", .word "doc", .mark "=", .literal text, .closing "]"]

/-- What a comment stands for, given its text, the mark that makes it document something and the
character behind it: mostly nothing. -/
def ofComment (mark behind : Char) : List Char → List Token
  | [] => []
  | '!' :: text => documentation true text
  | c :: text => if c = mark && text.headD behind ≠ mark then documentation false text else []

/-- The tokens of a text, at most so many together with the blanks and comments. -/
def readAll : Nat → List Char → Option (List Token)
  | 0, _ => none
  | _, [] => some []
  | fuel + 1, '/' :: '/' :: cs =>
    (readAll fuel (cs.dropWhile (· ≠ '\n'))).map (ofComment '/' '\n' (cs.takeWhile (· ≠ '\n')) ++ ·)
  | fuel + 1, '/' :: '*' :: cs =>
    (skipComment 1 cs).bind fun r =>
      (readAll fuel r).map (ofComment '*' '*' (cs.take (cs.length - r.length - 2)) ++ ·)
  | fuel + 1, c :: cs =>
    if isSpace c then readAll fuel cs
    else (read (c :: cs)).bind fun (t, cs) => (readAll fuel cs).map (t :: ·)

/-- The tokens of a text, or none if a part of it is no token. -/
def ofText? (s : String) : Option (List Token) := readAll (s.length + 1) s.toList

def closer (opening : String) : String :=
  match opening with
  | "(" => ")"
  | "[" => "]"
  | _ => "\x7d"

/-- Skips tokens until all brackets are closed; those still to come are given. -/
def skipBrackets : List String → List Token → Option (List Token)
  | [], ts => some ts
  | _ :: _, [] => none
  | c :: cs, .opening b :: ts => skipBrackets (closer b :: c :: cs) ts
  | c :: cs, .closing b :: ts => if b = c then skipBrackets cs ts else none
  | c :: cs, _ :: ts => skipBrackets (c :: cs) ts

/-- The words that have a meaning of their own and name nothing. -/
def reserved : List String :=
  ["_", "abstract", "as", "async", "await", "become", "box", "break", "const", "continue", "crate",
    "do", "dyn", "else", "enum", "extern", "false", "final", "fn", "for", "if", "impl", "in",
    "let", "loop", "macro", "match", "mod", "move", "mut", "override", "priv", "pub", "ref",
    "return", "Self", "self", "static", "struct", "super", "trait", "true", "try", "type",
    "typeof", "unsafe", "unsized", "use", "virtual", "where", "while", "yield"]

/-- The name that a text spells: one word that is not reserved. -/
def name? (s : String) : Option String :=
  match ofText? s with
  | some [.word w] => if w ∈ reserved then none else some w
  | _ => none

end Token

end EntityStore.Declaration
