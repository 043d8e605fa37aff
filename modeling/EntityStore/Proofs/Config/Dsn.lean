import EntityStore.Config.Connection
import EntityStore.Proofs.Config.Keyword

/-!
# The connection string

A configuration that brings no connection string is written as keywords with values, each value as
it stands in the configuration. Read back, the text says what the driver is told exactly if all
values are plain words and the mode of encryption is spelled as the driver spells it.
-/

namespace EntityStore

/-! ## What the driver is told -/

def timeoutSettings (secs : Option Nat) : List (String × String) :=
  secs.toList.map fun n => ("connect_timeout", toString n)

/-- What the driver is told, as keywords with values. -/
def Connection.settings (c : Connection) : List (String × String) :=
  c.hosts.map (("host", ·)) ++ c.ports.map (fun port => ("port", toString port)) ++
    c.user.toList.map (("user", ·)) ++ c.password.toList.map (("password", ·)) ++
    c.database.toList.map (("dbname", ·)) ++ ("sslmode", c.ssl.text) ::
    timeoutSettings c.connectTimeout

namespace Config

open Keyword (Blanks Plain Name Ends value pairs written name_of_letters)

/-- A word with nothing but blanks around it. -/
def Padded (b : Blanks) (word cs : List Char) : Prop :=
  ∃ front back, (∀ c ∈ front, b.isBlank c = true) ∧ (∀ c ∈ back, b.isBlank c = true) ∧
    cs = front ++ (word ++ back)

/-- No value needs quotes. -/
structure Legible (b : Blanks) (c : Config) : Prop where
  host : Plain b c.host.toList
  username : Plain b c.username.toList
  password : Plain b c.password.toList
  database : Plain b c.database.toList
  mode : c.ssl.enabled = true → ∃ m : SslMode, Padded b m.text.toList c.ssl.mode.toList

/-! ## Modes of encryption -/

theorem sslModeOf_padded {b : Blanks} {m : SslMode} {spelling : String}
    (padded : Padded b m.text.toList spelling.toList) : sslModeOf spelling = .ok m := by
  obtain ⟨front, back, before, behind, same⟩ := padded
  have trimmed : Text.trim spelling.toList = m.text.toList := by
    rw [same]
    refine Text.trim_of_blanks (fun c member => b.isBlank_of (before c member))
      (fun c member => b.isBlank_of (behind c member)) ?_ (by cases m <;> decide)
    constructor
    all_goals
      rintro c first
      cases m <;> cases first <;> rfl
  rw [sslModeOf, trimmed]
  cases m <;> rfl

/-- The texts that name a mode of encryption. -/
def spellings : List String :=
  ["disable", "", "prefer", "allow", "require", "verify-ca", "verify-full"]

theorem mem_spellings {m : SslMode} {spelling : String} (accepted : sslModeOf spelling = .ok m) :
    String.ofList ((Text.trim spelling.toList).map Char.toLower) ∈ spellings := by
  dsimp only [sslModeOf] at accepted
  split at accepted
  case h_8 => cases accepted
  all_goals rename_i same; rw [same]; decide

theorem letter_of_sslModeOf {m : SslMode} {spelling : String}
    (accepted : sslModeOf spelling = .ok m) {c : Char} (member : c ∈ spelling.toList) :
    Text.isBlank c = true ∨ c.toLower.isLower = true ∨ c.toLower = '-' := by
  refine (Text.isBlank_or_mem_trim member).imp_right fun kept => ?_
  have letters : (spellings.all fun s => s.toList.all fun d => d.isLower || d == '-') = true := rfl
  have all := List.all_eq_true.mp letters _ (mem_spellings accepted)
  rw [String.toList_ofList] at all
  simpa using List.all_eq_true.mp all _ (List.mem_map_of_mem kept)

theorem not_mem_of_sslModeOf {m : SslMode} {spelling : String}
    (accepted : sslModeOf spelling = .ok m) {c : Char}
    (foreign : Text.isBlank c = false ∧ c.toLower.isLower = false ∧ c.toLower ≠ '-') :
    c ∉ spelling.toList := by
  intro member
  rcases letter_of_sslModeOf accepted member with blank | lower | dash
  · exact Bool.noConfusion (foreign.1.symm.trans blank)
  · exact Bool.noConfusion (foreign.2.1.symm.trans lower)
  · exact foreign.2.2 dash

/-! ## The text -/

def timeoutText : Option Nat → List Char
  | none => []
  | some n => ' ' :: ("connect_timeout".toList ++ '=' :: (toString n).toList)

/-- What is written in front of the mode of encryption. -/
def fields (c : Config) : List (String × String) :=
  [("host", c.host), ("port", toString c.port), ("user", c.username), ("password", c.password),
    ("dbname", c.database)]

def modeText (c : Config) : String := if c.ssl.enabled then c.ssl.mode else SslMode.disable.text

theorem toList_dsn {c : Config} (own : c.connectionUrl = none) : c.dsn.toList =
    written c.fields ++
      ("sslmode".toList ++ '=' :: (c.modeText.toList ++ timeoutText c.connectTimeout)) := by
  simp only [dsn, own, fields, String.toList_append, written, List.flatMap_cons, List.flatMap_nil,
    timeoutText]
  cases c.connectTimeout <;> simp [modeText]

variable {b : Blanks}

theorem plain_toString (n : Nat) : Plain b (toString n).toList := by
  have digits : (toString n).toList = Nat.toDigits 10 n := Nat.toList_repr
  rw [digits]
  exact Keyword.plain_of_inert Nat.toDigits_ne_nil fun c member =>
    Keyword.inert_of_isDigit (Nat.isDigit_of_mem_toDigits (by decide) (by decide) member)

theorem plain_text (m : SslMode) : Plain b m.text.toList :=
  have name : Name b m.text.toList := by
    refine name_of_letters ?_ ?_
    all_goals cases m <;> decide
  Keyword.plain_of_inert name.ne_nil name.inert

theorem name_connect_timeout : Name b "connect_timeout".toList :=
  name_of_letters (by decide) (by decide)

theorem name_sslmode : Name b "sslmode".toList := name_of_letters (by decide) (by decide)

theorem pairs_timeoutText (secs : Option Nat) :
    pairs b (timeoutText secs) = some (timeoutSettings secs) := by
  cases secs with
  | none => exact Keyword.pairs_blank nofun
  | some n =>
    rw [timeoutText, Keyword.pairs_space,
      Keyword.pairs_last name_connect_timeout (plain_toString n)]
    rfl

theorem ends_timeoutText (secs : Option Nat) : Ends b (timeoutText secs) := by
  cases secs with
  | none => exact nofun
  | some n =>
    rintro c ⟨⟩
    exact b.space

/-- Where the mode is blank, what is read for it is nothing, or the timeout. -/
theorem value_timeoutText {secs : Option Nat} {v rest : List Char}
    (read : value b (timeoutText secs) = some (v, rest)) : v = [] ∨ '_' ∈ v := by
  cases secs with
  | none =>
    cases read
    exact .inl rfl
  | some n =>
    have plain : Plain b ("connect_timeout".toList ++ '=' :: (toString n).toList) :=
      name_connect_timeout.plain_setting (plain_toString n)
    rw [timeoutText, Keyword.value_space, Keyword.value_last plain] at read
    obtain ⟨rfl, -⟩ := Prod.mk.inj (Option.some.inj read)
    exact .inr (List.mem_append_left _ (by decide))

/-- Behind the mode nothing but blanks can stand in front of the timeout. -/
theorem blank_of_timeoutSettings {secs : Option Nat} {back : List Char} (absent : '_' ∉ back)
    (read : pairs b (back ++ timeoutText secs) = some (timeoutSettings secs)) :
    ∀ c ∈ back, b.isBlank c = true := by
  obtain ⟨front, seen, blanks, visible, rfl⟩ := Keyword.exists_skipped b back
  rw [List.append_assoc, Keyword.pairs_append_of_blank blanks] at read
  cases seen with
  | nil => simpa using blanks
  | cons c w =>
    -- What is left would be the start of another keyword.
    obtain ⟨v, ps, first⟩ := Keyword.name_of_pairs (visible c rfl) read
    cases secs with
    | none => cases first
    | some n =>
      have key : "connect_timeout".toList =
          (c :: w ++ timeoutText (some n)).takeWhile b.isName := by
        rw [(Prod.mk.inj (List.cons.inj first).1).1, String.toList_ofList]
        rfl
      have underscore : '_' ∈ "connect_timeout".toList := by decide
      rw [key] at underscore
      have inside := Keyword.mem_of_mem_takeWhile (ends_timeoutText (some n)) underscore
      exact absurd (List.mem_append_right _ inside) absent

/-- The mode is read as the driver is told it exactly if it is spelled that way. -/
theorem pairs_mode {m : SslMode} {spelling : String} (accepted : sslModeOf spelling = .ok m)
    (secs : Option Nat) :
    pairs b ("sslmode".toList ++ '=' :: (spelling.toList ++ timeoutText secs)) =
        some (("sslmode", m.text) :: timeoutSettings secs) ↔
      ∃ m' : SslMode, Padded b m'.text.toList spelling.toList := by
  rw [Keyword.pairs_keyword name_sslmode, String.ofList_toList]
  constructor
  · intro read
    obtain ⟨⟨v, rest⟩, reads, others⟩ := Option.bind_eq_some_iff.mp read
    obtain ⟨ps, behind, same⟩ := Option.map_eq_some_iff.mp others
    obtain ⟨first, rfl⟩ := List.cons.inj same
    obtain rfl : v = m.text.toList := by rw [← (Prod.mk.inj first).2, String.toList_ofList]
    have quote := not_mem_of_sslModeOf accepted (c := '\x27') (by decide)
    have escape := not_mem_of_sslModeOf accepted (c := '\\') (by decide)
    rcases Keyword.value_unmarked quote escape (ends_timeoutText secs) reads with
      blank | ⟨front, back, before, spelled, rfl⟩
    · rcases value_timeoutText blank with empty | underscore
      · cases m <;> cases empty
      · have absent : '_' ∉ m.text.toList := by cases m <;> decide
        exact absurd underscore absent
    · have absent : '_' ∉ back := by
        have nowhere := not_mem_of_sslModeOf accepted (c := '_') (by decide)
        rw [spelled, List.mem_append, List.mem_append, not_or, not_or] at nowhere
        exact nowhere.2.2
      exact ⟨m, front, back, before, blank_of_timeoutSettings absent behind, spelled⟩
  · rintro ⟨m', padded⟩
    have same := sslModeOf_padded padded
    rw [accepted] at same
    cases same
    obtain ⟨front, back, before, behind, same⟩ := padded
    have ends : Ends b back := fun c first => behind c (List.mem_of_mem_head? first)
    rw [same, List.append_assoc, Keyword.value_append_of_blank before, List.append_assoc,
      Keyword.value_plain (plain_text m) (ends.append (ends_timeoutText secs)), Option.bind_some,
      Keyword.pairs_append_of_blank behind, pairs_timeoutText, String.ofList_toList]
    rfl

/-! ## Reading it back -/

/-- The connection of a configuration without a connection string, for the mode it names. -/
def told (c : Config) (m : SslMode) : Connection where
  user := some c.username
  password := if c.password = "" then none else some c.password
  database := some c.database
  applicationName := c.applicationName
  ssl := m
  hosts := [c.host]
  ports := [c.port]
  connectTimeout := c.connectTimeout

theorem connection_of_validate {c : Config} (valid : c.validate = .ok ())
    (own : c.connectionUrl = none) :
    ∃ m, sslModeOf c.modeText = .ok m ∧ c.connection = .ok (c.told m) := by
  rw [connection, own]
  dsimp only
  cases enabled : c.ssl.enabled with
  | false =>
    have disabled : sslModeOf SslMode.disable.text = .ok .disable := rfl
    simp [modeText, ownConnection, enabled, disabled, told]
  | true =>
    cases accepted : sslModeOf c.ssl.mode with
    | ok m => simp [modeText, ownConnection, enabled, accepted, told]
    | error e =>
      simp only [validate, enabled, accepted, if_true] at valid
      repeat' split at valid
      all_goals cases valid

theorem legible_mode (c : Config) :
    (∃ m : SslMode, Padded b m.text.toList c.modeText.toList) ↔
      (c.ssl.enabled = true → ∃ m : SslMode, Padded b m.text.toList c.ssl.mode.toList) := by
  cases enabled : c.ssl.enabled with
  | false =>
    rw [modeText, enabled]
    exact ⟨nofun, fun _ => ⟨.disable, [], [], nofun, nofun, by simp⟩⟩
  | true => simp [modeText, enabled]

theorem name_of_fields {c : Config} : ∀ s ∈ c.fields, Name b s.1.toList := by
  simp only [fields, List.forall_mem_cons]
  refine ⟨?_, ?_, ?_, ?_, ?_, nofun⟩
  all_goals exact name_of_letters (by decide) (by decide)

/-- Without a password the keyword is still written, and the driver is told no such thing. -/
theorem not_read_of_no_password {c : Config} (own : c.connectionUrl = none)
    (absent : c.password = "") (m : SslMode) :
    pairs b c.dsn.toList ≠ some (c.told m).settings := by
  intro read
  have name : Name b "password".toList := name_of_letters (by decide) (by decide)
  have told : (c.told m).settings = c.fields.take 3 ++ ("dbname", c.database) ::
      ("sslmode", m.text) :: timeoutSettings c.connectTimeout := by
    simp [Config.told, Connection.settings, absent, fields]
  obtain ⟨cs, text⟩ : ∃ cs,
      c.dsn.toList = written (c.fields.take 3) ++ ("password".toList ++ '=' :: cs) := by
    rw [toList_dsn own, fields, written]
    exact ⟨_, by simp [written]; rfl⟩
  have names : ∀ s ∈ c.fields.take 3, Name b s.1.toList :=
    fun s member => name_of_fields s (List.mem_of_mem_take member)
  rw [text, told, Keyword.pairs_written name names, Keyword.pairs_keyword name] at read
  obtain ⟨r, -, others⟩ := Option.bind_eq_some_iff.mp read.2
  obtain ⟨ps, -, same⟩ := Option.map_eq_some_iff.mp others
  exact absurd (Prod.mk.inj (List.cons.inj same).1).1 (by decide)

theorem plain_fields_iff {c : Config} : (∀ s ∈ c.fields, Plain b s.2.toList) ↔
    Plain b c.host.toList ∧ Plain b c.username.toList ∧ Plain b c.password.toList ∧
      Plain b c.database.toList := by
  simp only [fields, List.forall_mem_cons, plain_toString, true_and]
  simp

theorem read_iff_of_password {c : Config} (own : c.connectionUrl = none)
    (present : c.password ≠ "") {m : SslMode} (accepted : sslModeOf c.modeText = .ok m) :
    pairs b c.dsn.toList = some (c.told m).settings ↔ c.Legible b := by
  have told : (c.told m).settings =
      c.fields ++ ("sslmode", m.text) :: timeoutSettings c.connectTimeout := by
    simp [Config.told, Connection.settings, present, fields]
  rw [toList_dsn own, told, Keyword.pairs_written name_sslmode name_of_fields, plain_fields_iff,
    pairs_mode accepted, legible_mode]
  constructor
  · rintro ⟨⟨host, username, password, database⟩, mode⟩
    exact ⟨host, username, password, database, mode⟩
  · rintro ⟨host, username, password, database, mode⟩
    exact ⟨⟨host, username, password, database⟩, mode⟩

/-- The text of a configuration is read as what the driver is told exactly if nothing in it needs
quotes: the host, the user, the password and the database are words of their own, so none of
them is empty, and the mode of encryption is one that the driver is told. -/
theorem dsn_read_iff (b : Blanks) (c : Config) (valid : c.validate = .ok ())
    (own : c.connectionUrl = none) :
    ∃ conn, c.connection = .ok conn ∧
      (pairs b c.dsn.toList = some conn.settings ↔ c.Legible b) := by
  obtain ⟨m, accepted, connected⟩ := connection_of_validate valid own
  refine ⟨_, connected, ?_⟩
  by_cases present : c.password = ""
  · have unread := not_read_of_no_password own present m (b := b)
    exact iff_of_false unread fun legible => legible.password.ne_nil (by simp [present])
  · exact read_iff_of_password own present accepted

/-- A configuration without anything that needs quotes. -/
def office : Config where
  host := "db.internal"
  username := "svc"
  password := "a=b"
  database := "app"
  connectTimeout := some 5
  ssl := { enabled := true, mode := " require" }

/-- A sign of equality in a password does no harm, nor does a blank in front of the mode. -/
theorem office_read_back : office.validate = .ok () ∧ office.connectionUrl = none ∧
    ∃ conn, office.connection = .ok conn ∧
      pairs Keyword.ascii office.dsn.toList = some conn.settings := by
  obtain ⟨conn, connected, read⟩ := dsn_read_iff Keyword.ascii office rfl rfl
  refine ⟨rfl, rfl, conn, connected, read.mpr ?_⟩
  exact {
    host := by decide
    username := by decide
    password := by decide
    database := by decide
    mode := fun _ => ⟨.require, [' '], [], List.forall_mem_singleton.mpr rfl, nofun, rfl⟩ }

/-- Encryption without a mode, which the driver is told as the mode it may do without. -/
def unsetMode : Config where
  username := "svc"
  password := "pw"
  database := "app"
  connectTimeout := some 5
  ssl := { enabled := true }

/-- Behind a mode that is not set the timeout is read in its place. -/
theorem timeout_read_as_mode : unsetMode.validate = .ok () ∧ unsetMode.connectionUrl = none ∧
    unsetMode.connection = .ok (unsetMode.told .prefer) ∧
    (unsetMode.told .prefer).settings =
      unsetMode.fields ++ [("sslmode", "prefer"), ("connect_timeout", "5")] ∧
    pairs Keyword.ascii unsetMode.dsn.toList =
      some (unsetMode.fields ++ [("sslmode", "connect_timeout=5")]) ∧
    pairs Keyword.ascii unsetMode.dsn.toList ≠ some (unsetMode.told .prefer).settings := by
  have plain : Plain Keyword.ascii "connect_timeout=5".toList := by decide
  have last : pairs Keyword.ascii ("sslmode".toList ++ '=' :: ("".toList ++ timeoutText (some 5))) =
      some [("sslmode", "connect_timeout=5")] := by
    have shown : "".toList ++ timeoutText (some 5) = ' ' :: "connect_timeout=5".toList := by decide
    rw [shown, Keyword.pairs_keyword name_sslmode, Keyword.value_space, Keyword.value_last plain,
      Option.bind_some, Keyword.pairs_blank (List.forall_mem_nil _), String.ofList_toList,
      String.ofList_toList]
    rfl
  have read : pairs Keyword.ascii unsetMode.dsn.toList =
      some (unsetMode.fields ++ [("sslmode", "connect_timeout=5")]) := by
    rw [toList_dsn rfl, Keyword.pairs_written name_sslmode name_of_fields, plain_fields_iff]
    exact ⟨⟨by decide, by decide, by decide, by decide⟩, last⟩
  refine ⟨rfl, rfl, rfl, rfl, read, ?_⟩
  rw [read]
  decide

end Config

end EntityStore
