import EntityStore.Convert

/-!
# Errors of stores and of repositories

A store reports what went wrong as a `StoreError`. A repository classifies it into one of
four kinds, so that its callers see a closed set: nothing found, a duplicate, a refusal
before anything was written, or any other failure of the store. The text of the error that
was classified is kept as the cause.
-/

namespace EntityStore

inductive ErrorKind where
  /-- No row matched. -/
  | notFound
  | duplicate
  /-- Input or a hook stopped the operation before it reached the store. -/
  | validation
  | database
deriving DecidableEq, Repr

namespace ErrorKind

def all : List ErrorKind := [.notFound, .duplicate, .validation, .database]

def text : ErrorKind → String
  | .notFound => "not found"
  | .duplicate => "duplicate"
  | .validation => "validation"
  | .database => "database"

end ErrorKind

structure Error where
  kind : ErrorKind
  message : String
  cause : Option String
deriving DecidableEq, Repr

namespace Error

def ofMessage (kind : ErrorKind) (message : String) : Error := ⟨kind, message, none⟩

def notFound (message : String) : Error := ofMessage .notFound message

def duplicate (message : String) : Error := ofMessage .duplicate message

def validation (message : String) : Error := ofMessage .validation message

def isKind (e : Error) (kind : ErrorKind) : Bool := e.kind = kind

def display (e : Error) : String := e.kind.text ++ " error: " ++ e.message

end Error

/-- Why a statement failed at the database server or on the way to it. -/
inductive QueryFault where
  /-- The server answered with an error of the given SQLSTATE code. -/
  | server (code : String)
  /-- The parameter of this index does not fit its type. -/
  | serialize (index : Nat)
  /-- The column of this index does not decode. -/
  | deserialize (index : Nat)
  /-- The row has no column of this index. -/
  | missingColumn (index : Nat)
  | parameterCount (expected got : Nat)
  | rowCount
deriving DecidableEq, Repr

namespace QueryFault

/-- The SQLSTATE code of a violated unique constraint. -/
def uniqueViolationCode : String := "23505"

def text : QueryFault → String
  | .server _ => "db error"
  | .serialize i => "error serializing parameter " ++ toString i
  | .deserialize i => "error deserializing column " ++ toString i
  | .missingColumn i => "invalid column `" ++ toString i ++ "`"
  | .parameterCount expected got =>
    "expected " ++ toString expected ++ " parameters but got " ++ toString got
  | .rowCount => "query returned an unexpected number of rows"

def isUniqueViolation : QueryFault → Bool
  | .server code => code = uniqueViolationCode
  | _ => false

end QueryFault

inductive StoreError where
  | noRows
  | uniqueViolation (key : String)
  | query (fault : QueryFault)
  /-- No connection could be made. -/
  | connection (fault : QueryFault)
  | missingTable (name : String)
  | transactionClosed
  | unsupported (what : String)
  | decode (column : String) (reason : Mismatch)
  | rejected (error : Error)
  | other (text : String)
deriving DecidableEq, Repr

namespace StoreError

def message : StoreError → String
  | .noRows => "no rows in result set"
  | .uniqueViolation key => "unique constraint violation: " ++ key
  | .query fault => "query error: " ++ fault.text
  | .connection fault =>
    "pool error: Error occurred while creating a new object: " ++ fault.text
  | .missingTable name => "no such table: " ++ name
  | .transactionClosed => "transaction already closed"
  | .unsupported what => "unsupported by store: " ++ what
  | .decode column reason => "decode error on column '" ++ column ++ "': " ++ reason.message
  | .rejected e => e.display
  | .other text => text

def isUniqueViolation : StoreError → Bool
  | .uniqueViolation _ => true
  | .query fault => fault.isUniqueViolation
  | _ => false

/-- Classifies what a store reported. A refusal stays what it was. -/
def classify : StoreError → Error
  | .rejected e => e
  | .noRows => ⟨.notFound, "record not found", some StoreError.noRows.message⟩
  | e =>
    if e.isUniqueViolation then ⟨.duplicate, "duplicate key", some e.message⟩
    else ⟨.database, e.message, some e.message⟩

end StoreError

/-- Any error that an operation of an application may raise. -/
inductive RawError where
  | classified (e : Error)
  | store (e : StoreError)
  | query (fault : QueryFault)
  | foreign (text : String)
deriving DecidableEq, Repr

def RawError.classify : RawError → Error
  | .classified e => e
  | .store e => e.classify
  | .query fault =>
    if fault.isUniqueViolation then ⟨.duplicate, "duplicate key", some fault.text⟩
    else ⟨.database, fault.text, some fault.text⟩
  | .foreign text => ⟨.database, text, some text⟩

end EntityStore
