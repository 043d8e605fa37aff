import EntityStore.Declaration
import EntityStore.Declaration.Token

/-!
# Parts of attributes

The attributes of one place are written with commas between them, and a path is whatever its
author wrote. So what attributes say is read off the tokens of them all: a reader takes what
belongs to a name from the front, and the first fault on the way is reported.
-/

namespace EntityStore.Declaration

/-- A token of attributes, or a value. -/
inductive Part where
  | token (t : Token)
  | value (v : Literal)
deriving DecidableEq

namespace Part

def token? : Part → Option Token
  | .token t => some t
  | .value _ => none

/-! ## Writing -/

def valueOf (literal : String) : Literal :=
  match literal.toList with
  | '"' :: cs => if '\\' ∈ cs then .other else .text (String.ofList cs.dropLast)
  | _ => (literal.toNat?.map fun n => .number n).getD .other

def ofPath? (path : String) : Option (List Part) := do
  return (← Token.ofText? path).map fun
    | .literal s => .value (valueOf s)
    | t => .token t

mutual

def ofAttribute? : Attribute → Option (List Part)
  | .flag path => ofPath? path
  | .assign path v => do return (← ofPath? path) ++ [.token (.mark "="), .value v]
  | .list path items => do
    let items := .token (.opening "(") :: (← ofItems? items) ++ [.token (.closing ")")]
    return (← ofPath? path) ++ items

def ofItems? : List Attribute → Option (List Part)
  | [] => some []
  | a :: as => do
    let parts ← ofAttribute? a
    if as.isEmpty then return parts else return parts ++ .token (.mark ",") :: (← ofItems? as)

end

/-- Whether every bracket is closed by its own. -/
def isBalanced (parts : List Part) : Bool :=
  Token.skipBrackets [")"] (parts.filterMap token? ++ [.closing ")"]) = some []

/-- The parts of the attributes of one place. -/
def ofAttributes? (as : List Attribute) : Option (List Part) := do
  let parts ← ofItems? as
  if isBalanced parts then return parts else none

/-! ## Reading -/

/-- A reader takes what it reads from the front of the parts. -/
abbrev Reader := StateT (List Part) (Except Fault)

/-- Words with `::` between them, and the parts behind. -/
def words? : List Part → Option (String × List Part)
  | .token (.word w) :: .token (.mark "::") :: ps => do
    let (more, ps) ← words? ps
    return (w ++ "::" ++ more, ps)
  | .token (.word w) :: ps => some (w, ps)
  | _ => none

/-- A path of words, which may begin with `::`, and the parts behind. -/
def path? : List Part → Option (String × List Part)
  | .token (.mark "::") :: ps => (words? ps).map fun (path, ps) => ("::" ++ path, ps)
  | ps => words? ps

def readPath : Reader String := do
  match path? (← get) with
  | some (path, ps) => set ps; return path
  | none => throw .malformed

def readText : Reader String := do
  match ← get with
  | .token (.mark "=") :: .value (.text s) :: ps => set ps; return s
  | _ => throw .malformed

/-- Reads a number of 32 bits behind an equals sign. -/
def readNumber : Reader UInt32 := do
  match ← get with
  | .token (.mark "=") :: .value (.number n) :: ps =>
    if 0 ≤ n ∧ n < UInt32.size then set ps; return UInt32.ofNat n.toNat else throw .malformed
  | _ => throw .malformed

/-- Whether a list of attributes ends here. -/
def atEnd : List Part → Bool
  | [] | .token (.closing _) :: _ => true
  | _ => false

/-- Reads attributes with commas between them, at most so many; a comma may stand behind the last
one. -/
def foldUpTo {σ : Type} (add : σ → String → Reader σ) : Nat → σ → Reader σ
  | 0, _ => throw .malformed
  | fuel + 1, out => do
    let out ← add out (← readPath)
    match ← get with
    | .token (.mark ",") :: ps =>
      set ps
      if atEnd ps then return out else foldUpTo add fuel out
    | ps => if atEnd ps then return out else throw .malformed

/-- Reads attributes to their end, one after the other: `add` takes what is behind a path. -/
def fold {σ : Type} (add : σ → String → Reader σ) (out : σ) : Reader σ := do
  foldUpTo add ((← get).length + 1) out

/-- Reads attributes in parentheses. -/
def foldItems {σ : Type} (add : σ → String → Reader σ) (out : σ) : Reader σ := do
  match ← get with
  | .token (.opening "(") :: ps =>
    set ps
    let out ← fold add out
    match ← get with
    | .token (.closing ")") :: ps => set ps; return out
    | _ => throw .malformed
  | _ => throw .malformed

/-- Reads the attributes of one place. -/
def foldAttributes {σ : Type} (add : σ → String → Reader σ) (out : σ) :
    List Attribute → Except Fault σ
  | [] => .ok out
  | a :: as =>
    match ofAttributes? (a :: as) with
    | some parts => (fold add out).run' parts
    | none => .error .malformed

end Part

end EntityStore.Declaration
