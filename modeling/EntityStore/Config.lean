import EntityStore.Config.Expand
import EntityStore.Config.File
import EntityStore.Text.Blank
import EntityStore.Toml.Reader

/-!
# Configuration

How to reach the database server and how many connections to keep. A configuration is read
from a document, references to the environment are expanded, and it is checked; all faults are
validation errors.
-/

namespace EntityStore

structure SslConfig where
  enabled : Bool := false
  mode : String := ""
  certFile : Option String := none
  keyFile : Option String := none
  caFile : Option String := none
deriving DecidableEq, Repr

structure Config where
  driver : String := "postgres"
  host : String := "localhost"
  port : Nat := 5432
  username : String := ""
  password : String := ""
  database : String := ""
  /-- A whole connection string, which counts in place of the single settings. -/
  connectionUrl : Option String := none
  maxOpenConns : Nat := 16
  maxIdleConns : Option Nat := none
  connMaxLifetime : Option Nat := none
  connMaxIdleTime : Option Nat := none
  connectTimeout : Option Nat := none
  ssl : SslConfig := {}
  options : List (String × Json) := []

inductive SslMode where
  | disable
  | prefer
  | require
deriving DecidableEq, Repr

def SslMode.text : SslMode → String
  | .disable => "disable"
  | .prefer => "prefer"
  | .require => "require"

namespace Config

/-! ## Reading documents -/

def unreadable (reason : String) : Error :=
  ⟨.validation, "invalid config: " ++ reason, some reason⟩

def ofType (name type : String) {α : Type} : Except Error α :=
  .error (unreadable (name ++ ": " ++ type ++ " expected"))

def asString (name : String) : Json → Except Error String
  | .string s => .ok s
  | _ => ofType name "a string"

def asBool (name : String) : Json → Except Error Bool
  | .bool b => .ok b
  | _ => ofType name "a boolean"

/-- An integer up to `high`. -/
def asNat (high : Nat) (name : String) : Json → Except Error Nat
  | .int i =>
    if 0 ≤ i ∧ i ≤ high then .ok i.toNat else ofType name ("a number up to " ++ toString high)
  | _ => ofType name "an integer"

mutual

/-- Whether all integers in a document have 64 bits, signed or unsigned. -/
def hasWords : Json → Bool
  | .int i => Int64.minValue.toInt ≤ i && i < UInt64.size
  | .array items => allHaveWords items
  | .object ms => membersHaveWords ms
  | _ => true

def allHaveWords : List Json → Bool
  | [] => true
  | j :: js => hasWords j && allHaveWords js

def membersHaveWords : List (String × Json) → Bool
  | [] => true
  | (_, j) :: ms => hasWords j && membersHaveWords ms

end

def asOptions (name : String) : Json → Except Error (List (String × Json))
  | .object ms => if membersHaveWords ms then .ok ms else ofType name "integers of 64 bits"
  | _ => ofType name "a table"

def maxCount : Nat := UInt64.size - 1

/-- Reads a setting, or takes its default when the document lacks it. -/
def setting {α : Type} (doc : Json) (default : α) (read : String → Json → Except Error α)
    (name : String) : Except Error α :=
  match doc.member? name with
  | none | some .null => .ok default
  | some v => read name v

def optional {α : Type} (doc : Json) (read : String → Json → Except Error α) (name : String) :
    Except Error (Option α) :=
  setting doc none (fun name v => (read name v).map some) name

def sslOfTable (doc : Json) : Except Error SslConfig := do
  return {
    enabled := ← setting doc false asBool "enabled"
    mode := ← setting doc "" asString "mode"
    certFile := ← optional doc asString "cert_file"
    keyFile := ← optional doc asString "key_file"
    caFile := ← optional doc asString "ca_file" }

def sslNames : List String := ["enabled", "mode", "cert_file", "key_file", "ca_file"]

def sslOf (name : String) : Json → Except Error SslConfig
  | .object ms => sslOfTable (.object ms)
  | .array items =>
    sslOfTable (.object (sslNames.zip items))
  | _ => ofType name "a table"

/-- Takes the settings from a document. Settings of other names are left alone. -/
def ofDocument (doc : Json) : Except Error Config := do
  return {
    driver := ← setting doc "postgres" asString "driver"
    host := ← setting doc "localhost" asString "host"
    port := ← setting doc 5432 (asNat 65535) "port"
    username := ← setting doc "" asString "username"
    password := ← setting doc "" asString "password"
    database := ← setting doc "" asString "database"
    connectionUrl := ← optional doc asString "connection_url"
    maxOpenConns := ← setting doc 16 (asNat maxCount) "max_open_conns"
    maxIdleConns := ← optional doc (asNat maxCount) "max_idle_conns"
    connMaxLifetime := ← optional doc (asNat maxCount) "conn_max_lifetime_secs"
    connMaxIdleTime := ← optional doc (asNat maxCount) "conn_max_idle_time_secs"
    connectTimeout := ← optional doc (asNat maxCount) "connect_timeout_secs"
    ssl := ← setting doc {} sslOf "ssl"
    options := ← setting doc [] asOptions "options" }

/-! ## Expanding -/

def expandText (env : String → Option String) (s : String) : Except Error String :=
  (expand env s).mapError fun f => .validation f.message

def expandOptional (env : String → Option String) :
    Option String → Except Error (Option String)
  | none => .ok none
  | some s => (expandText env s).map some

/-- Expands the references of the text settings, the required ones first. -/
def expandAll (env : String → Option String) (c : Config) : Except Error Config := do
  let host ← expandText env c.host
  let username ← expandText env c.username
  let password ← expandText env c.password
  let database ← expandText env c.database
  let mode ← expandText env c.ssl.mode
  let connectionUrl ← expandOptional env c.connectionUrl
  let certFile ← expandOptional env c.ssl.certFile
  let keyFile ← expandOptional env c.ssl.keyFile
  let caFile ← expandOptional env c.ssl.caFile
  return { c with
    host := host, username := username, password := password, database := database
    connectionUrl := connectionUrl
    ssl := { c.ssl with mode := mode, certFile := certFile, keyFile := keyFile, caFile := caFile } }

/-! ## Checking -/

def supportedDrivers : List String := ["postgres", "postgresql"]

def sslModeOf (spelling : String) : Except Error SslMode :=
  let name := String.ofList ((Text.trim spelling.toList).map Char.toLower)
  match name with
  | "disable" => .ok .disable
  | "" | "prefer" | "allow" => .ok .prefer
  | "require" | "verify-ca" | "verify-full" => .ok .require
  | _ => .error (.validation ("unsupported ssl mode: " ++ name))

def isBlankUrl (url : Option String) : Bool :=
  match url with
  | some u => u.toList.all Text.isBlank
  | none => false

def validate (c : Config) : Except Error Unit :=
  if String.ofList (c.driver.toList.map Char.toLower) ∉ supportedDrivers then
    .error (.validation ("unsupported driver: " ++ c.driver))
  else if c.maxOpenConns = 0 then .error (.validation "max_open_conns must be at least 1")
  else if isBlankUrl c.connectionUrl then .error (.validation "connection_url must not be empty")
  else if c.ssl.enabled then (sslModeOf c.ssl.mode).map fun _ => ()
  else .ok ()

def load (env : String → Option String) (doc : Json) : Except Error Config := do
  let c ← (← ofDocument doc).expandAll env
  c.validate
  return c

/-- Drops what a list of encryption settings holds behind the last of them. -/
def cutSettings : String × Toml.Value → String × Toml.Value
  | ("ssl", .array items) => ("ssl", .array (items.take sslNames.length))
  | member => member

/-- The document of a TOML text; none if it is malformed or a number in it has no room. -/
def documentOf? (text : String) : Option Json := do
  (Toml.Value.table ((← Toml.read? text).map cutSettings)).toJson?

def loadText (env : String → Option String) (text : String) : Except Error Config :=
  match documentOf? text with
  | some doc => load env doc
  | none => .error (unreadable "malformed document")

def unreadableFile (path : String) (fault : FileFault) : Error :=
  ⟨.validation, "failed to read config file " ++ path ++ ": " ++ fault.message, some fault.message⟩

def loadFile (env : String → Option String) (path : String) : Except Error Config := do
  loadText env (← (readFile path).mapError (unreadableFile path))

/-! ## The connection string -/

def dsn (c : Config) : String :=
  match c.connectionUrl with
  | some url => url
  | none =>
    "host=" ++ c.host ++ " port=" ++ toString c.port ++ " user=" ++ c.username ++
      " password=" ++ c.password ++ " dbname=" ++ c.database ++ " sslmode=" ++
      (if c.ssl.enabled then c.ssl.mode else SslMode.disable.text) ++
      (match c.connectTimeout with
        | some secs => " connect_timeout=" ++ toString secs
        | none => "")

end Config

end EntityStore
