import EntityStore.Ident

/-!
# Column expressions

What may stand in a projection, an ORDER BY term or a HAVING condition: a column, `*` or
`table.*`, or an aggregate function over one of these. An aggregate's argument is a plain
term, so aggregates cannot be nested.
-/

namespace EntityStore

/-- A column expression without an aggregate. -/
inductive Term where
  | column (ident : Ident)
  | star (table : Option Ident)
deriving DecidableEq, Repr

inductive ColumnExpr where
  | term (t : Term)
  | aggregate (func : String) (distinct : Bool) (arg : Term)
deriving DecidableEq, Repr

namespace Term

def toSql : Term → String
  | .column i => i.toSql
  | .star none => "*"
  | .star (some t) => t.toSql ++ ".*"

end Term

namespace ColumnExpr

abbrev column (i : Ident) : ColumnExpr := .term (.column i)

abbrev star (table : Option Ident) : ColumnExpr := .term (.star table)

def toSql : ColumnExpr → String
  | .term t => t.toSql
  | .aggregate func distinct arg =>
    func ++ "(" ++ (if distinct then "DISTINCT " else "") ++ arg.toSql ++ ")"

instance : ToString ColumnExpr := ⟨toSql⟩

/-- The column this expression names, if it is a plain one. -/
def asColumn? : ColumnExpr → Option Ident
  | .term (.column i) => some i
  | _ => none

def isAggregate : ColumnExpr → Bool
  | .aggregate .. => true
  | .term _ => false

/-- Why a text is not a column expression. The faults of an aggregate carry the text of the
expression they were found in, which may be an argument of the one that was read. -/
inductive Fault where
  | empty
  | ident (shown : String) (fault : Ident.Fault)
  | unbalanced (shown : String)
  | functionName (shown : String)
  | nested (shown : String)
deriving DecidableEq, Repr

def Fault.message : Fault → String
  | .empty => "column expression cannot be empty"
  | .ident shown fault => fault.message shown
  | .unbalanced shown => Ident.Fault.message.invalid shown "unbalanced parentheses"
  | .functionName shown => Ident.Fault.message.invalid shown "invalid function name"
  | .nested shown => Ident.Fault.message.invalid shown "nested aggregates are not supported"

/-! ## Reading -/

def parseIdent (cs : List Char) : Except Fault Ident :=
  (Ident.parseChars cs).mapError (.ident (String.ofList cs))

/-- What stands before `tail`, when the text ends in it. -/
def dropTail? (tail cs : List Char) : Option (List Char) :=
  if tail <:+ cs then some (cs.take (cs.length - tail.length)) else none

def isFunctionName (cs : List Char) : Bool :=
  !cs.isEmpty && cs.all fun c => c = '_' || c.isAlpha

/-- Splits off a leading `DISTINCT` and its blank, in any case of letters. -/
def splitDistinct (cs : List Char) : Bool × List Char :=
  if (cs.take 9).map Char.toUpper = "DISTINCT ".toList then (true, Text.trim (cs.drop 9))
  else (false, cs)

/-- The argument text of `FUNC(argument)`, given what follows the opening parenthesis. -/
def argument (inner : List Char) : Bool × List Char := splitDistinct (Text.trim inner)

theorem length_of_dropTail? {tail cs front : List Char} (h : dropTail? tail cs = some front) :
    front.length ≤ cs.length := by
  unfold dropTail? at h
  split at h
  · cases h; simp
  · cases h

theorem length_argument_le (inner : List Char) : (argument inner).2.length ≤ inner.length := by
  unfold argument splitDistinct
  split
  · exact Nat.le_trans (Text.trim_length_le _)
      (Nat.le_trans (by simp) (Text.trim_length_le inner))
  · exact Text.trim_length_le inner

theorem length_drop_idxOf {c : Char} {cs : List Char} (h : c ∈ cs) :
    (cs.drop (cs.idxOf c + 1)).length < cs.length := by
  have := List.idxOf_lt_length_of_mem h
  simp only [List.length_drop]
  omega

/-- Reads an expression that has no blanks at its ends. -/
def parseTrimmed (cs : List Char) : Except Fault ColumnExpr :=
  if cs = [] then .error .empty
  else if cs = ['*'] then .ok (.star none)
  else
    match dropTail? ['.', '*'] cs with
    | some table => (parseIdent table).map fun t => .star (some t)
    | none =>
      if _paren : '(' ∈ cs then
        match _closed : dropTail? [')'] (cs.drop (cs.idxOf '(' + 1)) with
        | none => .error (.unbalanced (String.ofList cs))
        | some inner =>
          let func := Text.trim (cs.take (cs.idxOf '('))
          if !isFunctionName func then .error (.functionName (String.ofList cs))
          else
            match parseTrimmed (Text.trim (argument inner).2) with
            | .error f => .error f
            | .ok (.aggregate ..) => .error (.nested (String.ofList cs))
            | .ok (.term arg) =>
              .ok (.aggregate (String.ofList (func.map Char.toUpper)) (argument inner).1 arg)
      else (parseIdent cs).map .column
termination_by cs.length
decreasing_by
  have h1 := length_of_dropTail? _closed
  have h2 := length_argument_le inner
  have h3 := Text.trim_length_le (argument inner).2
  have h4 := length_drop_idxOf _paren
  omega

/-- Reads a column expression; blanks around it are ignored. -/
def parse (s : String) : Except Fault ColumnExpr := parseTrimmed (Text.trim s.toList)

end ColumnExpr

end EntityStore
