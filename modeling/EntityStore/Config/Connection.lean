import EntityStore.Config

/-!
# Connection settings

What the driver of the server is told: from the single settings of a configuration, or from
its connection string, which is a URL or a list of keywords with values.
-/

namespace EntityStore

structure Connection where
  user : Option String := none
  password : Option String := none
  database : Option String := none
  applicationName : Option String := none
  ssl : SslMode := .prefer
  hosts : List String := []
  ports : List Nat := []
  /-- In seconds. -/
  connectTimeout : Option Nat := none
deriving DecidableEq, Repr

namespace Connection

/-! ## Values of parameters -/

def port? (s : String) : Option Nat :=
  if s = "" then some 5432 else (Number.readInt? 0 65535 s).map Int.toNat

def signed64? (s : String) : Option Int :=
  Number.readInt? Int64.minValue.toInt Int64.maxValue.toInt s

def isUnsigned (bits : Nat) (s : String) : Bool :=
  (Number.readInt? 0 (Nat.pow 2 bits - 1 : Nat) s).isSome

/-- A number of an address without superfluous zeros. -/
def isOctet (s : String) : Bool :=
  (s = "0" || !s.startsWith "0") && (Number.readNat? s.toList).any (· < 256)

def isIPv4 (s : String) : Bool :=
  let parts := s.splitOn "."
  parts.length = 4 && parts.all isOctet

/-- How many of the eight groups a list of groups fills; an address of the older kind at the
end fills two. -/
def groups? (parts : List String) : Option Nat :=
  match parts.reverse with
  | [] => some 0
  | last :: front =>
    let isGroup (g : String) := 0 < g.length && g.length ≤ 4 && g.all fun c => (Text.hexValue? c).isSome
    if !front.all isGroup then none
    else if isGroup last then some parts.length
    else if isIPv4 last then some (parts.length + 1)
    else none

/-- The groups of a text between colons; none when it is empty. -/
def partsOf (s : String) : List String := if s = "" then [] else s.splitOn ":"

def isIPv6 (s : String) : Bool :=
  match s.splitOn "::" with
  | [whole] => groups? (partsOf whole) = some 8
  | [front, back] =>
    match groups? (partsOf front), groups? (partsOf back) with
    | some m, some n => m + n ≤ 7 && (partsOf front).all fun g => !g.contains '.'
    | _, _ => false
  | _ => false

def isAddress (s : String) : Bool := isIPv4 s || isIPv6 s

def accept (c : Connection) (ok : Bool) : Option Connection := if ok then some c else none

def sslMode? (s : String) : Option SslMode :=
  [SslMode.disable, .prefer, .require].find? (·.text = s)

/-- Sets a parameter. Unknown ones and values that do not fit are refused. -/
def param (c : Connection) (key value : String) : Option Connection :=
  match key with
  | "user" => some { c with user := some value }
  | "password" => some { c with password := some value }
  | "dbname" => some { c with database := some value }
  | "options" => some c
  | "application_name" => some { c with applicationName := some value }
  | "sslmode" => (sslMode? value).map fun m => { c with ssl := m }
  | "sslnegotiation" => c.accept (value ∈ ["postgres", "direct"])
  | "host" => some { c with hosts := c.hosts ++ value.splitOn "," }
  | "hostaddr" => c.accept ((value.splitOn ",").all isAddress)
  | "port" =>
    ((value.splitOn ",").mapM port?).map fun ports => { c with ports := c.ports ++ ports }
  | "connect_timeout" =>
    (signed64? value).map fun n =>
      if 0 < n then { c with connectTimeout := some n.toNat } else c
  | "tcp_user_timeout" | "keepalives_idle" | "keepalives_interval" => c.accept (signed64? value).isSome
  | "keepalives" => c.accept (isUnsigned 64 value)
  | "keepalives_retries" => c.accept (isUnsigned 32 value)
  | "target_session_attrs" => c.accept (value ∈ ["any", "read-write", "read-only"])
  | "channel_binding" => c.accept (value ∈ ["disable", "prefer", "require"])
  | "load_balance_hosts" => c.accept (value ∈ ["disable", "random"])
  | _ => none

/-! ## Keywords with values -/

def isKeyChar (c : Char) : Bool := !Text.isBlank c && c ≠ '='

/-- A value up to the next blank; a backslash takes the next character as it is. -/
def readPlain (done : List Char) : List Char → List Char × List Char
  | [] => (done.reverse, [])
  | '\\' :: c :: cs => readPlain (c :: done) cs
  | ['\\'] => (done.reverse, [])
  | c :: cs => if Text.isBlank c then (done.reverse, c :: cs) else readPlain (c :: done) cs

def readQuoted (done : List Char) : List Char → Option (List Char × List Char)
  | [] => none
  | '\\' :: c :: cs => readQuoted (c :: done) cs
  | '\x27' :: cs => some (done.reverse, cs)
  | c :: cs => if c = '\\' then none else readQuoted (c :: done) cs

def readValue (cs : List Char) : Option (List Char × List Char) :=
  match cs with
  | '\x27' :: cs => readQuoted [] cs
  | cs =>
    match readPlain [] cs with
    | ([], _) => none
    | result => some result

/-- Reads at most so many keywords with their values. Where no keyword stands the text ends. -/
def readKeywords : Nat → Connection → List Char → Option Connection
  | 0, _, _ => none
  | fuel + 1, c, cs =>
    let cs := Text.trimLeft cs
    match cs.takeWhile isKeyChar with
    | [] => some c
    | key =>
      match Text.trimLeft (cs.dropWhile isKeyChar) with
      | '=' :: rest => do
        let (value, rest) ← readValue (Text.trimLeft rest)
        let c ← c.param (String.ofList key) (String.ofList value)
        readKeywords fuel c rest
      | _ => none

/-! ## URLs -/

/-- The bytes of a text in which a percent sign with two digits stands for a byte. -/
def percentBytes : List UInt8 → List UInt8
  | [] => []
  | 0x25 :: a :: b :: bs =>
    match Text.hexValue? (Char.ofNat a.toNat), Text.hexValue? (Char.ofNat b.toNat) with
    | some high, some low => UInt8.ofNat (high * 16 + low) :: percentBytes bs
    | _, _ => 0x25 :: percentBytes (a :: b :: bs)
  | b :: bs => b :: percentBytes bs

def decode? (s : String) : Option String :=
  String.fromUTF8? ⟨(percentBytes s.toUTF8.toList).toArray⟩

/-- Cuts a text at the first of the given characters; nothing is cut off where there is none. -/
def cut (stops : List Char) (s : List Char) : Option (List Char × List Char) :=
  match s.dropWhile (· ∉ stops) with
  | [] => none
  | rest => some (s.takeWhile (· ∉ stops), rest)

def cutOrAll (stops : List Char) (s : List Char) : List Char × List Char :=
  (cut stops s).getD (s, [])

def readCredentials (c : Connection) (s : List Char) : Option (Connection × List Char) :=
  match cut ['@'] s with
  | none => some (c, s)
  | some (front, rest) => do
    let (user, password) := cutOrAll [':'] front
    let user ← decode? (String.ofList user)
    let c := { c with user := some user }
    match password with
    | [] => return (c, rest.drop 1)
    | _ :: password =>
      return ({ c with password := some ((decode? (String.ofList password)).getD "") }, rest.drop 1)

/-- Host and port of one entry; a host in brackets may hold colons. -/
def splitHost (entry : String) : Option (String × Option String) :=
  match entry.toList with
  | '[' :: cs =>
    match cut [']'] cs with
    | some (host, [_]) => some (String.ofList host, none)
    | some (host, _ :: ':' :: port) => some (String.ofList host, some (String.ofList port))
    | _ => none
  | cs =>
    match cutOrAll [':'] cs with
    | (host, []) => some (String.ofList host, none)
    | (host, _ :: port) => some (String.ofList host, some (String.ofList port))

def addHost (c : Connection) (host : String) : Option Connection :=
  (decode? host).map fun h => { c with hosts := c.hosts ++ [h] }

def readHost (c : Connection) (entry : String) : Option Connection := do
  let (host, port) ← splitHost entry
  let c ← c.addHost host
  c.param "port" (← decode? (port.getD "5432"))

def readHosts (c : Connection) (s : List Char) : Option (Connection × List Char) := do
  let (hosts, rest) := cutOrAll ['/', '?'] s
  if hosts.isEmpty then return (c, rest)
  else return (← ((String.ofList hosts).splitOn ",").foldlM readHost c, rest)

def readPath (c : Connection) (s : List Char) : Option (Connection × List Char) :=
  match s with
  | '/' :: s => do
    let (name, rest) := cutOrAll ['?'] s
    if name.isEmpty then return (c, rest)
    else return ({ c with database := some (← decode? (String.ofList name)) }, rest)
  | s => some (c, s)

def readParams : Nat → Connection → List Char → Option Connection
  | 0, _, _ => none
  | _ + 1, c, [] => some c
  | fuel + 1, c, s => do
    let (key, rest) ← cut ['='] s
    let key ← decode? (String.ofList key)
    let (value, rest) := cutOrAll ['&'] (rest.drop 1)
    let c ← if key = "host" then c.addHost (String.ofList value)
      else c.param key (← decode? (String.ofList value))
    readParams fuel c (rest.drop 1)

def readUrl (s : List Char) : Option Connection := do
  let (c, s) ← readCredentials {} s
  let (c, s) ← readHosts c s
  let (c, s) ← readPath c s
  match s with
  | '?' :: s => readParams (s.length + 1) c s
  | _ => return c

def schemes : List String := ["postgres://", "postgresql://"]

def read? (s : String) : Option Connection :=
  match schemes.find? fun p => s.startsWith p with
  | some scheme => readUrl (s.toList.drop scheme.length)
  | none => readKeywords (s.length + 1) {} s.toList

end Connection

namespace Config

def badUrl : Error :=
  let reason := "malformed connection string"
  ⟨.validation, "invalid connection_url: " ++ reason, some reason⟩

/-- The name under which the server lists the application, if the options give one. -/
def applicationName (c : Config) : Option String :=
  match (Json.object c.options).member? "application_name" with
  | some (.string name) => some name
  | _ => none

/-- The connection that the single settings describe. -/
def ownConnection (c : Config) : Except Error Connection := do
  let mode ← if c.ssl.enabled then sslModeOf c.ssl.mode else .ok .disable
  return {
    user := some c.username
    password := if c.password = "" then none else some c.password
    database := some c.database
    applicationName := c.applicationName
    ssl := mode
    hosts := [c.host]
    ports := [c.port]
    connectTimeout := c.connectTimeout }

def connection (c : Config) : Except Error Connection :=
  match c.connectionUrl with
  | none => c.ownConnection
  | some url =>
    match Connection.read? url with
    | some connection => .ok connection
    | none => .error badUrl

def checkedConnection (c : Config) : Except Error Connection := do
  c.validate
  c.connection

end Config

end EntityStore
