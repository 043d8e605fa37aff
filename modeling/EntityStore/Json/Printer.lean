import EntityStore.Json
import EntityStore.Text.Hex

/-!
# Writing JSON documents

The compact form: no blanks, members in the order of their names. In strings the quote, the
backslash and the control characters below U+0020 are escaped, and nothing else.
-/

namespace EntityStore.Json

def escapeChar (c : Char) : List Char :=
  if c = '"' then ['\\', '"']
  else if c = '\\' then ['\\', '\\']
  else if c = '\n' then ['\\', 'n']
  else if c = '\t' then ['\\', 't']
  else if c = '\r' then ['\\', 'r']
  else if c = '\x08' then ['\\', 'b']
  else if c = '\x0c' then ['\\', 'f']
  else if c.toNat < 0x20 then '\\' :: 'u' :: Text.hexDigits 4 c.toNat
  else [c]

def quote (s : String) : String :=
  "\"" ++ String.ofList (s.toList.flatMap escapeChar) ++ "\""

/-- A double that is not finite has no written form and becomes `null`. -/
def printFloat (x : Float) : String :=
  if x.isNaN || x.isInf then "null" else Number.Layout.document.finite x

mutual

def print : Json → String
  | .null => "null"
  | .bool b => if b then "true" else "false"
  | .int i => toString i
  | .float x => printFloat x
  | .string s => quote s
  | .array items => "[" ++ ",".intercalate (printItems items) ++ "]"
  | .object members => "\x7b" ++ ",".intercalate (printMembers members) ++ "\x7d"

def printItems : List Json → List String
  | [] => []
  | j :: js => print j :: printItems js

def printMembers : List (String × Json) → List String
  | [] => []
  | (n, j) :: ms => (quote n ++ ":" ++ print j) :: printMembers ms

end

instance : ToString Json := ⟨print⟩

end EntityStore.Json
