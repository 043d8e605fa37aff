import EntityStore.ColumnExpr
import EntityStore.Value

/-!
# SQL fragments

A fragment keeps its text apart from the values that it binds. Text is a list of pieces, none
empty and no two adjacent, with a mark for each parameter between them; numbered placeholders
are made only when the fragment is rendered.
-/

namespace EntityStore

inductive Placeholder where
  /-- `$1`, `$2` and so on. -/
  | dollar
  /-- `?` for every parameter. -/
  | question
deriving DecidableEq, Repr

namespace Sql

inductive Piece where
  | text (s : String)
  | param
deriving DecidableEq, Repr

end Sql

structure Sql where
  pieces : List Sql.Piece
  params : List Value

namespace Sql

def empty : Sql := ⟨[], []⟩

instance : EmptyCollection Sql := ⟨empty⟩

/-- Appends text to a list of pieces; it joins a piece of text at the end. -/
def appendText (s : String) : List Piece → List Piece
  | [] => if s = "" then [] else [.text s]
  | [.text t] => [.text (t ++ s)]
  | p :: ps => p :: appendText s ps

/-- Appends text. -/
def push (q : Sql) (s : String) : Sql := { q with pieces := appendText s q.pieces }

def ofText (s : String) : Sql := empty.push s

/-- Appends a placeholder and binds its value. -/
def bind (q : Sql) (v : Value) : Sql := ⟨q.pieces ++ [.param], q.params ++ [v]⟩

/-- Appends one placeholder per value with commas between them, and `NULL` for none, so that
`IN (NULL)` stays a statement. -/
def bindList (q : Sql) : List Value → Sql
  | [] => q.push "NULL"
  | v :: vs => vs.foldl (fun q w => (q.push ", ").bind w) (q.bind v)

/-- Appends one piece, without the value of a parameter. -/
def appendPiece (pieces : List Piece) : Piece → List Piece
  | .text s => appendText s pieces
  | .param => pieces ++ [.param]

def append (q other : Sql) : Sql :=
  ⟨other.pieces.foldl appendPiece q.pieces, q.params ++ other.params⟩

instance : Append Sql := ⟨append⟩

def pushIdent (q : Sql) (i : Ident) : Sql := q.push i.toSql

def pushColumn (q : Sql) (c : ColumnExpr) : Sql := q.push c.toSql

/-- Appends the identifier that `name` is the text of, if it is one. -/
def ident (q : Sql) (name : String) : Except Ident.Fault Sql :=
  (Ident.parse name).map q.pushIdent

/-- Appends what `write` adds for each element, with `separator` between neighbours. -/
def separated {α : Type} (q : Sql) (separator : String) (write : Sql → α → Sql) : List α → Sql
  | [] => q
  | x :: xs => xs.foldl (fun q y => write (q.push separator) y) (write q x)

def placeholderText (style : Placeholder) (n : Nat) : String :=
  match style with
  | .dollar => "$" ++ toString n
  | .question => "?"

/-- The text of the pieces; `n` parameters stand before them. -/
def renderFrom (style : Placeholder) (n : Nat) : List Piece → String
  | [] => ""
  | .text s :: ps => s ++ renderFrom style n ps
  | .param :: ps => placeholderText style (n + 1) ++ renderFrom style (n + 1) ps

def render (style : Placeholder) (q : Sql) : String := renderFrom style 0 q.pieces

/-- The text with numbered placeholders. -/
def toSql (q : Sql) : String := q.render .dollar

end Sql

end EntityStore
