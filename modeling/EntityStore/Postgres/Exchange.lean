import EntityStore.Postgres.Statement
import EntityStore.Postgres.Wire

/-!
# Talking to the server

The client sends statements over connections from a pool. What the server will answer is
given as a list, one answer per statement, and every statement that is sent is kept with the
place that it came from. An exchange is what the client does to answer one request: it may
fail, and then what was sent stays sent.
-/

namespace EntityStore.Postgres

/-! ## The server's side -/

/-- The server's complaint about a statement. -/
structure Complaint where
  code : String
  /-- Whether it is raised when the statement is prepared, not when it is run. -/
  early : Bool
deriving DecidableEq, Repr

/-- A cell of a row; null has no bytes. -/
abbrev Cell := Option Wire.Bytes

structure Answer where
  /-- The types of the parameters, if they are told. -/
  params : Option (List ServerType)
  columns : List (String × ServerType)
  rows : List (List Cell)
  /-- The command tag, which ends with the number of affected rows. -/
  tag : String
  complaint : Option Complaint
deriving DecidableEq, Repr

namespace Answer

/-- Nothing found, nothing changed, nothing wrong. -/
def plain : Answer := ⟨none, [], [], "OK 0", none⟩

instance : Inhabited Answer := ⟨plain⟩

/-- The largest number behind a dollar sign. -/
def lastPlaceholder : List Char → Nat
  | [] => 0
  | c :: cs =>
    let here := if c = '$' then Number.natOfDigits (cs.takeWhile Char.isDigit) else 0
    max here (lastPlaceholder cs)

/-- The types of a statement's parameters, text when they are not told. -/
def paramTypes (a : Answer) (sql : String) : List ServerType :=
  a.params.getD (List.replicate (lastPlaceholder sql.toList) .text)

/-- The number of affected rows, zero when the tag does not end with one. -/
def affected (a : Answer) : UInt64 :=
  let last := (a.tag.splitOn " ").getLastD ""
  ((Number.readInt? 0 (UInt64.size - 1) last).getD 0).toNat.toUInt64

end Answer

/-! ## The client's side -/

inductive Sent where
  /-- A statement that is sent as its text. -/
  | simple (sql : String)
  /-- A prepared statement with its parameters, if it came to bind them. -/
  | prepared (sql : String) (params : Option (List Cell))
deriving DecidableEq, Repr

inductive Lease where
  /-- It belongs to the transaction, which is open. -/
  | held
  /-- It went back to the pool when the transaction ended. -/
  | returned
  | closed
deriving DecidableEq, Repr

structure Store where
  /-- What the server will answer; plain answers follow. -/
  script : List Answer
  /-- The code with which the server refuses connections, if it does. -/
  refusal : Option String
  /-- The statements that were sent, in order. -/
  sent : List (Scope × Sent)
  transactions : List Lease
  /-- The length in bytes to which statements are cut in the log. -/
  logLimit : Option Nat
deriving DecidableEq, Repr

namespace Store

/-- The limit of a store that is not told another. -/
def defaultLogLimit : Nat := 200

def scripted (script : List Answer) : Store := ⟨script, none, [], [], some defaultLogLimit⟩

def setLease (s : Store) (id : Nat) (lease : Lease) : Store :=
  { s with transactions := s.transactions.set id lease }

end Store

/-! ## The log -/

def logTarget : String := "gpa.sql"

/-- The characters at the front that take at most `limit` bytes together. -/
def takeBytes : Nat → List Char → List Char
  | _, [] => []
  | limit, c :: cs => if c.utf8Size ≤ limit then c :: takeBytes (limit - c.utf8Size) cs else []

def shown (limit : Option Nat) (sql : String) : String :=
  match limit with
  | none => sql
  | some n => if sql.utf8ByteSize ≤ n then sql else String.ofList (takeBytes n sql.toList) ++ "..."

def statementLine (limit : Option Nat) (op sql : String) (params : Nat) : LogLine :=
  ⟨.debug, logTarget, none,
    [("op", .text op), ("param_count", .count params), ("sql", .text (shown limit sql))]⟩

def abandonedLine : LogLine :=
  ⟨.warn, logTarget, some "transaction dropped while open; closing its connection", []⟩

/-! ## Exchanges -/

/-- The store during an exchange and what the exchange has written to the log. -/
structure Talk where
  store : Store
  log : List LogLine

abbrev Exchange := ExceptT StoreError (StateM Talk)

/-- A parameter: what is sent for a type, or none if it does not fit the type. -/
abbrev Param := ServerType → Option Cell

namespace Exchange

def ofExcept {α : Type} : Except StoreError α → Exchange α
  | .ok x => pure x
  | .error e => throw e

def ofFault {α : Type} : Except QueryFault α → Exchange α
  | .ok x => pure x
  | .error e => throw (.query e)

/-- A part of a statement, whose error is a refusal to build it. -/
def built {α : Type} : Except Error α → Exchange α
  | .ok x => pure x
  | .error e => throw (.rejected e)

def modifyStore (f : Store → Store) : Exchange Unit := modify fun t => { t with store := f t.store }

/-- Gets hold of the connection for a scope: one from the pool, or the transaction's own. -/
def acquire : Scope → Exchange Unit
  | .direct => do
    match (← get).store.refusal with
    | some code => throw (.connection (.server code))
    | none => return
  | .tx id => do
    match (← get).store.transactions[id]? with
    | some .held => return
    | _ => throw .transactionClosed

def logStatement (op sql : String) (params : Nat) : Exchange Unit :=
  modify fun t => { t with log := t.log ++ [statementLine t.store.logLimit op sql params] }

def nextAnswer : Exchange Answer := do
  match (← get).store.script with
  | [] => return .plain
  | a :: rest =>
    modifyStore fun s => { s with script := rest }
    return a

def record (scope : Scope) (sent : Sent) : Exchange Unit :=
  modifyStore fun s => { s with sent := s.sent ++ [(scope, sent)] }

def complain (a : Answer) : Exchange Unit :=
  match a.complaint with
  | some c => throw (.query (.server c.code))
  | none => pure ()

/-- Sends a statement as its text. -/
def simple (scope : Scope) (sql : String) : Exchange Unit := do
  let a ← nextAnswer
  record scope (.simple sql)
  complain a

/-- The parameters for their types, the first of which has this index. -/
def bind (index : Nat) : List ServerType → List Param → Except QueryFault (List Cell)
  | t :: ts, p :: ps =>
    match p t with
    | some c => (bind (index + 1) ts ps).map (c :: ·)
    | none => .error (.serialize index)
  | _, _ => .ok []

/-- The parameters, if there are as many as there are types and every one fits. -/
def bindAll (types : List ServerType) (params : List Param) : Except QueryFault (List Cell) :=
  if params.length = types.length then bind 0 types params
  else .error (.parameterCount types.length params.length)

/-- Whether the server does not get to bind parameters. -/
def failsEarly (a : Answer) : Bool := (a.complaint.map (·.early)).getD false

def prepared (scope : Scope) (sql : String) (params : List Param) : Exchange Answer := do
  let a ← nextAnswer
  if failsEarly a then
    record scope (.prepared sql none)
    complain a
    return a
  else
    let cells := bindAll (a.paramTypes sql) params
    record scope (.prepared sql cells.toOption)
    let _ ← ofFault cells
    complain a
    return a

/-! ## Reading rows -/

def decodeCell (index : Nat) (column : String) (type : ServerType) (cell : Cell) :
    Except StoreError Value :=
  match type, cell with
  | .other name, _ => .error (.decode column (.unsupportedType name))
  | _, none => .ok .null
  | type, some bs =>
    match Wire.decode? type bs with
    | some v => .ok v
    | none => .error (.decode column (.wire index))

/-- The values of a row from the column of this index on. -/
def decodeFrom (index : Nat) :
    List (String × ServerType) → List Cell → Except StoreError (List (String × Value))
  | [], _ => .ok []
  | (column, type) :: columns, cells => do
    let v ← decodeCell index column type (cells.headD none)
    return (column, v) :: (← decodeFrom (index + 1) columns cells.tail)

/-- A row as a record. Of columns with one name the last one's value is kept. -/
def decodeRow (a : Answer) (row : List Cell) : Except StoreError Record :=
  (decodeFrom 0 a.columns row).map .ofPairs

def records (a : Answer) : Exchange (List Record) := ofExcept (a.rows.mapM (decodeRow a))

/-- The only row of an answer. -/
def onlyRow (a : Answer) : Except QueryFault (List Cell) :=
  match a.rows with
  | [row] => .ok row
  | _ => .error .rowCount

/-- The first cell of a row, whose column has to be of an accepted type. -/
def firstCell {α : Type} (accepts : ServerType → Bool) (ofValue : Value → Option α) (a : Answer)
    (row : List Cell) : Except QueryFault α :=
  match a.columns with
  | [] => .error (.missingColumn 0)
  | (_, type) :: _ =>
    let value? := if accepts type then (row.headD none).bind (Wire.decode? type) else none
    match value?.bind ofValue with
    | some x => .ok x
    | none => .error (.deserialize 0)

def boolCell : Answer → List Cell → Except QueryFault Bool :=
  firstCell (· = .bool) fun | .bool b => some b | _ => none

def intCell : Answer → List Cell → Except QueryFault Int64 :=
  firstCell (· = .int8) fun | .int i => some i | _ => none

def textCell : Answer → List Cell → Except QueryFault String :=
  firstCell ServerType.isText fun | .text s => some s | _ => none

end Exchange

end EntityStore.Postgres
