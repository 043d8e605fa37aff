import EntityStore.Declaration.Token
import EntityStore.Declaration.TypeExpr

/-!
# Reading types

The grammar of types, read off their tokens. Each reader takes its part from the front and leaves
the rest; fuel bounds how deep they call each other, and sixteen calls a token are enough. A text
is a type if the whole of it is read.
-/

namespace EntityStore.Declaration.TypeExpr

/-! ## Parts of types -/

/-- What the place of a type may ask of its form. -/
inductive Form where
  /-- One name, with arguments or without. -/
  | name
  /-- Any other path that no type qualifies. -/
  | path
  /-- One bound, by its text without parentheses. -/
  | bound (inner : String)
  | paren
  | other

structure Path where
  text : String
  /-- The last name and its arguments. -/
  name : String
  arguments : List TypeExpr
  /-- Whether the last name has no arguments. -/
  bare : Bool
  /-- Whether no name has arguments. -/
  plain : Bool
  /-- Whether the path is one name, with arguments in angle brackets or none. -/
  single : Bool

/-- Appends a name to a path. -/
def Path.push (p q : Path) : Path :=
  { q with text := p.text ++ "::" ++ q.text, plain := p.plain && q.bare, single := false }

def Path.call (p : Path) (text : String) : Path :=
  ⟨p.text ++ text, p.name, [], false, false, false⟩

structure Bounds where
  text : String
  /-- Whether one of them is more than a lifetime. -/
  hasTrait : Bool

structure Argument where
  isLifetime : Bool
  type : TypeExpr
  /-- Whether a comma follows it. -/
  comma : Bool

/-- Writes arguments one behind the other; the flag says that no comma is missing before the
next one. -/
def writeArguments : String × Bool → List Argument → String × Bool
  | out, [] => out
  | (out, complete), a :: as =>
    let missing := if complete then "" else ","
    let comma := if a.comma then "," else ""
    writeArguments (out ++ missing ++ a.type.text ++ comma, a.comma) as

def argumentsText (as : List Argument) : String :=
  let lifetimes := writeArguments ("", true) (as.filter (·.isLifetime))
  (writeArguments lifetimes (as.filter (!·.isLifetime))).1

/-! ## Reading tokens -/

/-- A reader takes a part from the front of the tokens. -/
abbrev Reader := StateT (List Token) Option

/-- Takes the next token if it is the given one. -/
def accept (t : Token) : Reader Bool := do
  match ← get with
  | u :: r => if u = t then set r; return true else return false
  | [] => return false

def expect (t : Token) : Reader Unit := do if ← accept t then pure () else failure

/-- Takes a token that may stand there, and gives its text. -/
def optional (t : Token) : Reader String := do return if ← accept t then t.text else ""

/-- Runs a step that drops tokens, and gives their text as it stands. -/
def verbatim (drop : List Token → Option (List Token)) : Reader String := do
  let ts ← get
  let r ← StateT.lift (drop ts)
  set r
  return Token.join (ts.take (ts.length - r.length))

/-- Drops tokens up to the bracket that closes angle brackets of the given depth. -/
def dropAngles (depth : Nat) : List Token → Option (List Token)
  | [] => none
  | .mark "<" :: ts => dropAngles (depth + 1) ts
  | .mark ">" :: ts => if depth ≤ 1 then some ts else dropAngles (depth - 1) ts
  | _ :: ts => dropAngles depth ts

def readLifetimes : Reader String :=
  verbatim fun
    | .word "for" :: .mark "<" :: ts => dropAngles 1 ts
    | _ => none

def readRest (close : String) : Reader String := verbatim (Token.skipBrackets [close])

/-- Reads attributes, at most so many. -/
def readAttributes : Nat → Reader String
  | 0 => failure
  | fuel + 1 => do
    match ← get with
    | .mark "#" :: .opening "[" :: _ =>
      let a ← verbatim fun ts => Token.skipBrackets ["]"] (ts.drop 2)
      return a ++ (← readAttributes fuel)
    | _ => return ""

/-- Words that are a whole name in a path, and take no arguments. -/
def wholeNames : List String := ["super", "self", "crate", "try"]

/-- Whether a type may begin with a word as its first name. -/
def isFirstName (w : String) : Bool :=
  w ∉ Token.reserved || w ∈ ["super", "self", "Self", "crate"]

/-- Whether a word may name a parameter. -/
def isParameter (w : String) : Bool := w ∉ Token.reserved || w = "_"

/-- Whether a bound can begin with the next token. -/
def beginsBound (const : Bool) : List Token → Bool
  | .word _ :: _ | .mark "::" :: _ | .mark "?" :: _ | .lifetime _ :: _ | .opening "(" :: _ => true
  | .opening "[" :: _ => const
  | _ => false

def isString (literal : String) : Bool := literal.startsWith "\"" || literal.startsWith "r"

def isNumber (literal : String) : Bool := (literal.toList.headD ' ').isDigit

/-- Drops what is left in brackets, up to the closing one. -/
def dropRest (close : String) (ts : List Token) : Option (List Token) := do
  let r ← Token.skipBrackets [close] ts
  return ts.drop (ts.length - r.length - 1)

def skipGroup (opening : String) : Reader Unit := do
  let _ ← readRest (Token.closer opening)

/-- Takes a step and gives the text of the tokens that it took. -/
def spelled (step : Reader Unit) : Reader String := do
  let ts ← get
  step
  return Token.join (ts.take (ts.length - (← get).length))

def openWords : List String :=
  ["async", "break", "const", "continue", "for", "if", "let", "loop", "match", "move", "return",
    "static", "unsafe", "while", "yield"]

/-- Operators between two operands, a longer one before its beginning. -/
def operators : List (List String) :=
  [["<", "<", "="], [">", ">", "="], ["<", "<"], [">", ">"], ["&", "&"], ["|", "|"], ["=", "="],
    ["!", "="], ["<", "="], [">", "="], ["+", "="], ["-", "="], ["*", "="], ["/", "="], ["%", "="],
    ["^", "="], ["&", "="], ["|", "="], ["+"], ["-"], ["*"], ["/"], ["%"], ["^"], ["&"], ["|"],
    ["<"], [">"], ["="]]

def dropOperator (ts : List Token) : Option (List Token) :=
  (operators.find? fun o => (o.map Token.mark).isPrefixOf ts).map fun o => ts.drop o.length

def readConstant : Reader (Option String) := do
  match ← get with
  | .literal s :: r =>
    set r
    return some s
  | .word w :: r =>
    if w = "true" || w = "false" then
      set r
      return some w
    else return none
  | .mark "-" :: .literal s :: r =>
    if !isNumber s then return none
    set r
    return some ("-" ++ s)
  | .opening "\x7b" :: r =>
    set r
    return some ("\x7b" ++ (← readRest "\x7d"))
  | _ => return none

/-- Reads parameters of a `use` bound, up to the closing bracket. -/
def readCaptures : Nat → Reader (List Argument)
  | 0 => failure
  | fuel + 1 => do
    if ← accept (.mark ">") then return []
    match ← get with
    | t :: r =>
      set r
      let isLifetime ← match t with
        | .lifetime _ => pure true
        | .word _ => pure false
        | _ => failure
      let comma ← accept (.mark ",")
      let a : Argument := ⟨isLifetime, .noType t.text, comma⟩
      if comma then return a :: (← readCaptures fuel)
      else
        expect (.mark ">")
        return [a]
    | [] => failure

/-! ## The grammar -/

mutual

/-- Reads a type; with `sum` a plus may make it a sum of bounds. -/
def readType (fuel : Nat) (sum : Bool) : Reader (TypeExpr × Form) :=
  match fuel with
  | 0 => failure
  | fuel + 1 => do
    match ← get with
    | .word "for" :: _ =>
      let lifetimes ← readLifetimes
      match ← get with
      | .word w :: _ =>
        if w ∈ ["fn", "unsafe", "extern"] then
          return (.other (lifetimes ++ (← readFunction fuel)), .other)
        else if isFirstName w then
          let (_, p) ← readQualified fuel
          let more ← if sum then readMore fuel false false false else pure ⟨"", true⟩
          let text := lifetimes ++ p.text ++ more.text
          return (.other text, if more.text = "" then .bound text else .other)
        else failure
      | _ => failure
    | .opening "(" :: r =>
      set r
      readParens fuel sum
    | .opening "[" :: r =>
      set r
      let (t, _) ← readType fuel true
      if ← accept (.closing "]") then return (.other ("[" ++ t.text ++ "]"), .other)
      expect (.mark ";")
      let length ← spelled (readExpression fuel)
      expect (.closing "]")
      return (.other ("[" ++ t.text ++ ";" ++ length ++ "]"), .other)
    | .mark "*" :: .word w :: r =>
      if w ≠ "const" && w ≠ "mut" then failure
      set r
      return (.other ("*" ++ w ++ (← readType fuel false).1.text), .other)
    | .mark "&" :: r =>
      set r
      let lifetime ← verbatim fun
        | .lifetime _ :: r => some r
        | r => some r
      let mutability ← optional (.word "mut")
      return (.other ("&" ++ lifetime ++ mutability ++ (← readType fuel false).1.text), .other)
    | .mark "!" :: r =>
      set r
      return (.other "!", .other)
    | .word "_" :: r =>
      set r
      return (.other "_", .other)
    | .word "dyn" :: r =>
      set r
      let star ← optional (.mark "*")
      let bounds ← readBounds fuel sum false false
      return (.other ("dyn" ++ star ++ bounds.text), .other)
    | .word "impl" :: r =>
      set r
      return (.other ("impl" ++ (← readBounds fuel sum true true).text), .other)
    | .lifetime _ :: _ => return (.other (← readBounds fuel sum false false).text, .other)
    | .word "fn" :: _ | .word "unsafe" :: _ | .word "extern" :: _ =>
      return (.other (← readFunction fuel), .other)
    | ts =>
      match ts with
      | .word w :: _ => if !isFirstName w then failure
      | _ => pure ()
      let (qualified, p) ← readQualified fuel
      let type : TypeExpr := .named p.text p.name p.arguments
      if qualified then return (type, .other)
      match ← get with
      | .mark "!" :: .opening b :: r =>
        if !p.plain then failure
        set r
        return (.other (p.text ++ "!" ++ b ++ (← readRest (Token.closer b))), .other)
      | .mark "+" :: _ =>
        if sum then return (.other (p.text ++ (← readMore fuel false false false).text), .other)
        else return (type, if p.single then .name else .path)
      | _ => return (type, if p.single then .name else .path)

/-- Reads a tuple or a type in parentheses, behind the opening one. -/
def readParens (fuel : Nat) (sum : Bool) : Reader (TypeExpr × Form) :=
  match fuel with
  | 0 => failure
  | fuel + 1 => do
    match ← get with
    | .closing ")" :: r =>
      set r
      return (.other "()", .other)
    | .lifetime _ :: _ =>
      let bounds ← readBounds fuel true false false
      expect (.closing ")")
      return (.other ("(" ++ bounds.text ++ ")"), .paren)
    | .mark "?" :: _ =>
      let inner ← readTrait fuel false
      expect (.closing ")")
      let more ← readMore fuel true false false
      let form : Form := if more.text = "" then .bound inner else .other
      return (.other ("(" ++ inner ++ ")" ++ more.text), form)
    | _ =>
      let (t, form) ← readType fuel true
      if ← accept (.closing ")") then
        let whole := "(" ++ t.text ++ ")"
        if !sum || (← get).head? ≠ some (.mark "+") then return (.other whole, .paren)
        else
          match form with
          | .name | .path =>
            return (.other (whole ++ (← readMore fuel true false false).text), .other)
          | .bound inner =>
            return (.other ("(" ++ inner ++ ")" ++ (← readMore fuel true false false).text), .other)
          | _ => return (.other whole, .paren)
      else
        expect (.mark ",")
        return (.other ("(" ++ t.text ++ "," ++ (← readTypes fuel)), .other)

def readTypes (fuel : Nat) : Reader String :=
  match fuel with
  | 0 => failure
  | fuel + 1 => do
    if ← accept (.closing ")") then return ")"
    let (t, _) ← readType fuel true
    if ← accept (.mark ",") then return t.text ++ "," ++ (← readTypes fuel)
    expect (.closing ")")
    return t.text ++ ")"

def readFunction (fuel : Nat) : Reader String :=
  match fuel with
  | 0 => failure
  | fuel + 1 => do
    let safety ← optional (.word "unsafe")
    let convention ← verbatim fun
      | .word "extern" :: .literal s :: r => if isString s then some r else none
      | .word "extern" :: r => some r
      | r => some r
    expect (.word "fn")
    expect (.opening "(")
    let parameters ← readParameters fuel true
    let (result, _) ← readResult fuel
    return safety ++ convention ++ "fn(" ++ parameters ++ result

def readParameters (fuel : Nat) (first : Bool) : Reader String :=
  match fuel with
  | 0 => failure
  | fuel + 1 => do
    if ← accept (.closing ")") then return ")"
    let attributes ← readAttributes (fuel + 1)
    let name ← verbatim fun
      | .word "mut" :: .word "self" :: .mark ":" :: r => if first then some r else none
      | .word w :: .mark ":" :: r =>
        if isParameter w || (first && w = "self") then some r else none
      | r => some r
    let type ← match ← get with
      | .mark "." :: .mark "." :: .mark "." :: r =>
        set r
        let comma ← optional (.mark ",")
        if (← get).head? ≠ some (.closing ")") then failure
        pure ("..." ++ comma)
      | .word "mut" :: .word "self" :: r =>
        if !first || name ≠ "" then failure
        set r
        pure "mutself"
      | _ => do pure (← readType fuel true).1.text
    if ← accept (.mark ",") then
      return attributes ++ name ++ type ++ "," ++ (← readParameters fuel false)
    expect (.closing ")")
    return attributes ++ name ++ type ++ ")"

/-- Reads the result of a function, if it has one. The flag says whether names of a path may
follow. -/
def readResult (fuel : Nat) : Reader (String × Bool) :=
  match fuel with
  | 0 => failure
  | fuel + 1 => do
    if ← accept (.mark "->") then
      let (t, form) ← readType fuel false
      return ("->" ++ t.text, form matches .paren)
    else return ("", true)

/-- Reads a path that a type may qualify, which the flag tells. -/
def readQualified (fuel : Nat) : Reader (Bool × Path) :=
  match fuel with
  | 0 => failure
  | fuel + 1 => do
    if ← accept (.mark "<") then
      let (self, _) ← readType fuel true
      let bound ←
        if ← accept (.word "as") then do pure ("as" ++ (← readPath fuel).text) else pure ""
      expect (.mark ">")
      expect (.mark "::")
      let p ← readCalls fuel (← readNames fuel (← readName fuel))
      return (true, { p with text := "<" ++ self.text ++ bound ++ ">::" ++ p.text })
    else return (false, ← readCalls fuel (← readPath fuel))

/-- Reads a path without arguments in parentheses. -/
def readPath (fuel : Nat) : Reader Path :=
  match fuel with
  | 0 => failure
  | fuel + 1 => do
    let leading ← optional (.mark "::")
    let p ← readName fuel
    readNames fuel { p with text := leading ++ p.text, single := leading = "" }

def readNames (fuel : Nat) (p : Path) : Reader Path :=
  match fuel with
  | 0 => failure
  | fuel + 1 => do
    match ← get with
    | .mark "::" :: .opening "(" :: _ => return p
    | .mark "::" :: r =>
      set r
      readNames fuel (p.push (← readName fuel))
    | _ => return p

/-- Reads one name of a path with its arguments in angle brackets. -/
def readName (fuel : Nat) : Reader Path :=
  match fuel with
  | 0 => failure
  | fuel + 1 => do
    match ← get with
    | .word w :: r =>
      set r
      let bare : Path := ⟨w, w, [], true, true, true⟩
      let withArguments (mark : String) : Reader Path := do
        let arguments ← readArguments fuel
        let text := w ++ mark ++ argumentsText arguments ++ ">"
        return ⟨text, w, arguments.map (·.type), false, false, true⟩
      if w ∈ wholeNames then return bare
      else if w ∈ Token.reserved && w ≠ "Self" then failure
      else
        match r with
        | .mark "<" :: r =>
          set r
          withArguments "<"
        | .mark "::" :: .mark "<" :: r =>
          set r
          withArguments "::<"
        | _ => return bare
    | _ => failure

/-- Reads arguments in parentheses that the last name of a path may have. -/
def readCalls (fuel : Nat) (p : Path) : Reader Path :=
  match fuel with
  | 0 => failure
  | fuel + 1 => do
    let call : Reader Path := do
      let types ← readTypes fuel
      let (result, more) ← readResult fuel
      let p := p.call ("(" ++ types ++ result)
      if more then readCalls fuel (← readNames fuel p) else return p
    match ← get with
    | .opening "(" :: r | .mark "::" :: .opening "(" :: r =>
      if !p.bare then return p
      set r
      call
    | _ => return p

def readArguments (fuel : Nat) : Reader (List Argument) :=
  match fuel with
  | 0 => failure
  | fuel + 1 => do
    if ← accept (.mark ">") then return []
    let a ← readArgument fuel
    if ← accept (.mark ",") then return { a with comma := true } :: (← readArguments fuel)
    expect (.mark ">")
    return [a]

/-- Reads an argument: a type, or what stands where a type would. -/
def readArgument (fuel : Nat) : Reader Argument :=
  match fuel with
  | 0 => failure
  | fuel + 1 => do
    match ← get with
    | .lifetime s :: r =>
      if r.head? = some (.mark "+") then return ⟨false, (← readType fuel true).1, false⟩
      set r
      return ⟨true, .noType s, false⟩
    | _ =>
      match ← readConstant with
      | some text => return ⟨false, .noType text, false⟩
      | none =>
        let (t, form) ← readType fuel true
        if !(form matches .name) then return ⟨false, t, false⟩
        else if ← accept (.mark "=") then
          let value ← match ← readConstant with
            | some text => pure text
            | none => do pure (← readType fuel true).1.text
          return ⟨false, .noType (t.text ++ "=" ++ value), false⟩
        else if ← accept (.mark ":") then
          match ← get with
          | .mark "," :: _ | .mark ">" :: _ => return ⟨false, .noType (t.text ++ ":"), false⟩
          | _ =>
            let bound ← readBound fuel false true
            let more ← readMore fuel false true false
            return ⟨false, .noType (t.text ++ ":" ++ bound.text ++ more.text), false⟩
        else return ⟨false, t, false⟩

/-- Reads bounds, at least one of which is more than a lifetime. -/
def readBounds (fuel : Nat) (sum captures const : Bool) : Reader Bounds :=
  match fuel with
  | 0 => failure
  | fuel + 1 => do
    let b ← readBound fuel captures const
    let more ← if sum then readMore fuel false const captures else pure ⟨"", false⟩
    if b.hasTrait || more.hasTrait then return ⟨b.text ++ more.text, true⟩ else failure

/-- Reads further bounds, each behind a plus. Unless it is `strict`, the last plus may stand
alone. -/
def readMore (fuel : Nat) (strict const captures : Bool) : Reader Bounds :=
  match fuel with
  | 0 => failure
  | fuel + 1 => do
    if ← accept (.mark "+") then
      if strict || beginsBound const (← get) then
        let b ← readBound fuel captures const
        let more ← readMore fuel strict const captures
        return ⟨"+" ++ b.text ++ more.text, b.hasTrait || more.hasTrait⟩
      else return ⟨"+", false⟩
    else return ⟨"", false⟩

def readBound (fuel : Nat) (captures const : Bool) : Reader Bounds :=
  match fuel with
  | 0 => failure
  | fuel + 1 => do
    match ← get with
    | .lifetime s :: r =>
      set r
      return ⟨s, false⟩
    | .word "use" :: .mark "<" :: r =>
      if !captures then failure
      set r
      return ⟨"use<" ++ argumentsText (← readCaptures (r.length + 1)) ++ ">", false⟩
    | .opening "(" :: r =>
      set r
      let inner ← readTrait fuel const
      expect (.closing ")")
      return ⟨"(" ++ inner ++ ")", true⟩
    | _ => return ⟨← readTrait fuel const, true⟩

/-- Reads a bound that is a path, with what may stand before it. A constant one keeps its text
as it stands. -/
def readTrait (fuel : Nat) (const : Bool) : Reader String :=
  match fuel with
  | 0 => failure
  | fuel + 1 => do
    let ts ← get
    let hasLifetimes (ts : List Token) : Bool := ts.head? = some (.word "for")
    let before ← if hasLifetimes ts then readLifetimes else pure ""
    let constant ← verbatim fun
      | .opening "[" :: .word "const" :: .closing "]" :: r => some r
      | .word "const" :: r => some r
      | r => some r
    if constant ≠ "" && !const then failure
    let modifier ← optional (.mark "?")
    let behind ←
      if before = "" && modifier ≠ "" && hasLifetimes (← get) then readLifetimes else pure ""
    let p ← readPath fuel
    let arguments ← match ← get with
      | .opening "(" :: r | .mark "::" :: .opening "(" :: r =>
        if p.bare then do
          set r
          let types ← readTypes fuel
          pure ("(" ++ types ++ (← readResult fuel).1)
        else pure ""
      | _ => pure ""
    if constant ≠ "" then return Token.join (ts.take (ts.length - (← get).length))
    else return modifier ++ before ++ behind ++ p.text ++ arguments

/-- Reads an expression in brackets, of which only the outline counts: operands with operators
between them. Either side of a range may be missing. -/
def readExpression (fuel : Nat) : Reader Unit :=
  match fuel with
  | 0 => failure
  | fuel + 1 => do
    match ← get with
    | .mark "." :: .mark "." :: _ => readOperators fuel
    | _ =>
      readOperand fuel
      readOperators fuel

def readOperators (fuel : Nat) : Reader Unit :=
  match fuel with
  | 0 => failure
  | fuel + 1 => do
    match ← get with
    | .mark "." :: .mark "." :: .mark "=" :: r =>
      set r
      readOperand fuel
      readOperators fuel
    | .mark "." :: .mark "." :: r =>
      set r
      match r with
      | .closing _ :: _ => return
      | _ =>
        readOperand fuel
        readOperators fuel
    | ts =>
      match dropOperator ts with
      | some r =>
        set r
        readOperand fuel
        readOperators fuel
      | none => return

def readOperand (fuel : Nat) : Reader Unit :=
  match fuel with
  | 0 => failure
  | fuel + 1 => do
    let _ ← readAttributes (fuel + 1)
    match ← get with
    | .mark "-" :: r | .mark "*" :: r | .mark "!" :: r | .mark "&" :: .word "mut" :: r
    | .mark "&" :: .word "raw" :: .word "const" :: r
    | .mark "&" :: .word "raw" :: .word "mut" :: r | .mark "&" :: r =>
      set r
      readOperand fuel
    | .mark "|" :: _ => do
      let _ ← verbatim (dropRest "]")
    | .literal _ :: r | .word "true" :: r | .word "false" :: r | .word "_" :: r =>
      set r
      readSuffix fuel
    | .opening b :: r =>
      set r
      skipGroup b
      readSuffix fuel
    | .mark "<" :: r =>
      set r
      let _ ← readType fuel true
      if ← accept (.word "as") then
        let _ ← readPath fuel
      expect (.mark ">")
      expect (.mark "::")
      readOperandNames fuel
      readSuffix fuel
    | .word w :: _ =>
      if w ∈ openWords then
        let _ ← verbatim (dropRest "]")
      else if isFirstName w then
        readOperandNames fuel
        readSuffix fuel
      else failure
    | .mark "::" :: r =>
      set r
      readOperandNames fuel
      readSuffix fuel
    | _ => failure

/-- Reads the names of a path in an expression, and the brackets of a macro or a record. -/
def readOperandNames (fuel : Nat) : Reader Unit :=
  match fuel with
  | 0 => failure
  | fuel + 1 => do
    match ← get with
    | .word w :: r =>
      if !isFirstName w then failure
      set r
    | .mark "<" :: r =>
      set r
      let _ ← readArguments fuel
    | _ => failure
    match ← get with
    | .mark "::" :: r =>
      set r
      readOperandNames fuel
    | .mark "!" :: .opening b :: r =>
      set r
      skipGroup b
    | .opening "\x7b" :: r =>
      set r
      skipGroup "\x7b"
    | _ => return

/-- Reads what stands behind an operand: calls, indices, fields and conversions. -/
def readSuffix (fuel : Nat) : Reader Unit :=
  match fuel with
  | 0 => failure
  | fuel + 1 => do
    match ← get with
    | .opening "(" :: r =>
      set r
      skipGroup "("
      readSuffix fuel
    | .opening "[" :: r =>
      set r
      skipGroup "["
      readSuffix fuel
    | .mark "?" :: r | .mark "." :: .literal _ :: r =>
      set r
      readSuffix fuel
    | .mark "." :: .word _ :: .mark "::" :: .mark "<" :: r =>
      set r
      let _ ← readArguments fuel
      readSuffix fuel
    | .mark "." :: .word _ :: r =>
      set r
      readSuffix fuel
    | .word "as" :: r =>
      set r
      let _ ← readType fuel false
      readSuffix fuel
    | _ => return

end

def ofText? (s : String) : Option TypeExpr := do
  let ts ← Token.ofText? s
  match ← (readType (16 * (ts.length + 1)) true).run ts with
  | ((type, _), []) => some type
  | _ => none

def columnTypeOf? (s : String) : Option ColumnType := (ofText? s).bind columnType?

end EntityStore.Declaration.TypeExpr
