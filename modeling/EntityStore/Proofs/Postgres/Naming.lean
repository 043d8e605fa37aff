import EntityStore.Proofs.Postgres.Catalog
import EntityStore.Proofs.Postgres.Select
import EntityStore.Proofs.Repository.Migration
import EntityStore.Proofs.Sql.Name
import Mathlib

/-!
# Names of columns on the server

A column is defined with the text that its entity gives for it. The server takes the text for an
identifier and keeps the column under the name that it denotes: a plain name in lower case, a
quoted one without its quotes. The answers of the server carry these names, but they are compared
with the texts. So a column is known again exactly if its text is a plain name without upper-case
letters. Any other column counts as missing, unless its text happens to be the name of another
one, whose values its field is then given.
-/

namespace EntityStore

/-! ## Names that the server keeps -/

namespace Ident

/-- The name that a part denotes on the server, which folds what is not quoted to lower case. -/
def Part.folded : Part → String
  | .plain s => s.toLower
  | .quoted s => s

/-- The text is a plain name without upper-case letters. -/
def IsLower (s : String) : Prop := (Part.plain s).WellFormed ∧ ∀ c ∈ s.toList, ¬c.isUpper

theorem isUpper_iff {c : Char} : c.isUpper ↔ 65 ≤ c.toNat ∧ c.toNat ≤ 90 := by
  simp [Char.isUpper, UInt32.le_iff_toNat_le, ← Char.toNat_val]

theorem toNat_toLower {c : Char} (h : c.isUpper) : c.toLower.toNat = c.toNat + 32 := by
  have range : 'A'.val ≤ c.val ∧ c.val ≤ 'Z'.val := by simpa [Char.isUpper] using h
  have lower : c.toLower = _ := dif_pos range
  have moved : c.toLower.toNat = (c.toNat + ('a'.val - 'A'.val).toNat) % 2 ^ 32 := by
    rw [lower]
    exact UInt32.toNat_add _ _
  have bound := (isUpper_iff.mp h).2
  rw [moved, show ('a'.val - 'A'.val).toNat = 32 by decide]
  omega

theorem toLower_of_not_isUpper {c : Char} (h : ¬c.isUpper) : c.toLower = c := by
  apply dif_neg
  simpa [Char.isUpper] using h

theorem not_isUpper_toLower (c : Char) : ¬c.toLower.isUpper := by
  by_cases upper : c.isUpper
  · have bounds := isUpper_iff.mp upper
    rw [isUpper_iff, toNat_toLower upper]
    omega
  · rwa [toLower_of_not_isUpper upper]

theorem not_isUpper_of_toLower (s : String) : ∀ c ∈ s.toLower.toList, ¬c.isUpper := by
  intro c member
  rw [String.toLower, String.toList_map] at member
  obtain ⟨d, -, rfl⟩ := List.mem_map.mp member
  exact not_isUpper_toLower d

theorem toLower_eq_self {s : String} (h : ∀ c ∈ s.toList, ¬c.isUpper) : s.toLower = s := by
  apply String.toList_injective
  rw [String.toLower, String.toList_map]
  exact (List.map_congr_left fun c member => toLower_of_not_isUpper (h c member)).trans
    (List.map_id _)

theorem isAlpha_toLower {c : Char} (h : c.isAlpha) : c.toLower.isAlpha := by
  by_cases upper : c.isUpper
  · have bounds := isUpper_iff.mp upper
    rw [ColumnExpr.isAlpha_iff, toNat_toLower upper]
    omega
  · rwa [toLower_of_not_isUpper upper]

theorem isStart_toLower {c : Char} (h : isStart c) : isStart c.toLower := by
  simp only [isStart, Bool.or_eq_true, decide_eq_true_eq] at h ⊢
  rcases h with rfl | letter
  · exact .inl rfl
  · exact .inr (isAlpha_toLower letter)

theorem isContinue_toLower {c : Char} (h : isContinue c) : isContinue c.toLower := by
  by_cases upper : c.isUpper
  · have letter : c.isAlpha := by simp [Char.isAlpha, upper]
    simp [isContinue, Char.isAlphanum, isAlpha_toLower letter]
  · rwa [toLower_of_not_isUpper upper]

theorem isLower_toLower {s : String} (plain : (Part.plain s).WellFormed) : IsLower s.toLower := by
  obtain ⟨c, cs, spelled, start, others⟩ := plain
  refine ⟨⟨c.toLower, cs.map Char.toLower, ?_, isStart_toLower start, ?_⟩, not_isUpper_of_toLower s⟩
  · rw [String.toLower, String.toList_map, spelled, List.map_cons]
  · intro d member
    obtain ⟨e, inside, rfl⟩ := List.mem_map.mp member
    exact isContinue_toLower (others e inside)

theorem length_le_doubleQuotes (cs : List Char) : cs.length ≤ (doubleQuotes cs).length := by
  induction cs with
  | nil => exact Nat.le_refl 0
  | cons c cs ih =>
    rw [doubleQuotes]
    split <;> simp only [List.length_cons] <;> omega

end Ident

namespace Postgres

open Ident (IsLower)

/-- The name under which the server keeps a column with this definition, if it is an identifier of
one part. -/
def storedName? (column : String) : Option String :=
  match Ident.parse column with
  | .ok ⟨[p]⟩ => some p.folded
  | _ => none

section

variable {column name : String}

/-- A plain text is folded, and a quoted one is longer than what it quotes. -/
theorem spelling_of_storedName? (h : storedName? column = some name) :
    (Ident.parse column = .ok ⟨[.plain column]⟩ ∧ name = column.toLower) ∨
      (Ident.parse column = .ok ⟨[.quoted name]⟩ ∧ name.length < column.length) := by
  unfold storedName? at h
  split at h
  · rename_i p parsed
    have spelled := Ident.toSql_of_parse parsed
    cases h
    cases p with
    | plain s =>
      have same : s = column := by
        rw [← spelled, Ident.toSql, Ident.joinParts, Ident.Part.toChars, String.ofList_toList]
      subst same
      exact .inl ⟨parsed, rfl⟩
    | quoted s =>
      refine .inr ⟨parsed, ?_⟩
      have longer := Ident.length_le_doubleQuotes s.toList
      rw [String.length_toList] at longer
      rw [← spelled, Ident.toSql, Ident.joinParts, Ident.Part.toChars, String.length_ofList,
        List.length_append, List.length_cons]
      change s.length < _
      omega
  · cases h

/-- The server keeps just the plain lower-case names as they are spelled. -/
theorem storedName?_eq_self : storedName? column = some column ↔ IsLower column := by
  constructor
  · intro h
    rcases spelling_of_storedName? h with ⟨parsed, same⟩ | ⟨-, shorter⟩
    · refine ⟨(Ident.wellFormed_of_parseChars parsed).parts _ List.mem_cons_self, ?_⟩
      rw [same]
      exact Ident.not_isUpper_of_toLower column
    · exact absurd shorter (lt_irrefl _)
  · rintro ⟨plain, lower⟩
    rw [storedName?, Ident.parse_plain plain]
    exact congrArg some (Ident.toLower_eq_self lower)

end

/-! ## The columns of an entity -/

section

variable {columns : List ColumnSpec} {names : List String}

section

variable (stored : columns.map (fun c => storedName? c.column) = names.map some)

include stored

theorem mem_names_iff {name : String} :
    name ∈ names ↔ ∃ c ∈ columns, storedName? c.column = some name := by
  have same : some name ∈ names.map some ↔
      some name ∈ columns.map fun c => storedName? c.column := by
    rw [stored]
  rw [List.mem_map, List.mem_map] at same
  simpa using same

/-- If every text is the name of some column, all are plain lower-case names: of the others the
longest one would be the name of a column with a quoted text, which is longer. -/
theorem isLower_of_found (found : ∀ c ∈ columns, c.column ∈ names) :
    ∀ c ∈ columns, IsLower c.column := by
  classical
  by_contra! h
  obtain ⟨c, member, other⟩ := h
  have nonempty : (columns.toFinset.filter fun c => ¬IsLower c.column).Nonempty :=
    ⟨c, Finset.mem_filter.mpr ⟨List.mem_toFinset.mpr member, other⟩⟩
  obtain ⟨longest, inside, bound⟩ := Finset.exists_max_image _ (·.column.length) nonempty
  obtain ⟨listed, irregular⟩ := Finset.mem_filter.mp inside
  obtain ⟨d, declared, kept⟩ :=
    (mem_names_iff stored).mp (found longest (List.mem_toFinset.mp listed))
  rcases spelling_of_storedName? kept with ⟨parsed, same⟩ | ⟨parsed, longer⟩
  · apply irregular
    rw [same]
    exact Ident.isLower_toLower ((Ident.wellFormed_of_parseChars parsed).parts _ List.mem_cons_self)
  · have quoted : ¬IsLower d.column := by
      intro lower
      rw [Ident.parse_plain lower.1] at parsed
      cases parsed
    have shorter := bound d (Finset.mem_filter.mpr ⟨List.mem_toFinset.mpr declared, quoted⟩)
    exact absurd longer (Nat.not_lt.mpr shorter)

theorem found_iff : (∀ c ∈ columns, c.column ∈ names) ↔ ∀ c ∈ columns, IsLower c.column := by
  refine ⟨isLower_of_found stored, fun lower c member => ?_⟩
  exact (mem_names_iff stored).mpr ⟨c, member, storedName?_eq_self.mpr (lower c member)⟩

/-! ### Fields -/

/-- What a field is given from a row: the value of the column that the server keeps under the text
of the field's own column, or its default if there is no such column. -/
def Given (columns : List ColumnSpec) (pairs : List (String × Value)) (c : ColumnSpec)
    (x : c.type.Carrier) : Prop :=
  (∀ d ∈ columns, storedName? d.column = some c.column →
      ∃ v, (c.column, v) ∈ pairs ∧ Record.decodeAt c.column v = .ok x) ∧
    ((∀ d ∈ columns, storedName? d.column ≠ some c.column) → x = c.type.default)

theorem given_of_decodeD {pairs : List (String × Value)} (named : pairs.map (·.1) = names)
    {c : ColumnSpec} {x : c.type.Carrier}
    (read : (Record.ofPairs pairs).decodeD c.column c.type.default = .ok x) :
    Given columns pairs c x := by
  subst named
  by_cases present : c.column ∈ pairs.map (·.1)
  · obtain ⟨d, declared, kept⟩ := (mem_names_iff stored).mp present
    obtain ⟨v, held⟩ := Record.exists_get?_ofPairs present
    rw [Record.decodeD, held] at read
    refine ⟨fun _ _ _ => ⟨v, ?_, read⟩, fun absent => absurd kept (absent d declared)⟩
    rcases Record.get?_setAll .empty pairs c.column with none | ⟨⟨n, w⟩, member, same, given⟩
    · cases none.symm.trans held
    · cases given.symm.trans held
      cases same
      exact member
  · rw [Record.decodeD, Record.get?_ofPairs_of_notMem present] at read
    refine ⟨fun d declared kept => ?_, fun _ => ?_⟩
    · exact absurd ((mem_names_iff stored).mpr ⟨d, declared, kept⟩) present
    · cases read
      rfl

/-- In columns of different names there is one value for a field. -/
theorem decodeD_of_given (distinct : names.Nodup) {pairs : List (String × Value)}
    (named : pairs.map (·.1) = names) {c : ColumnSpec} {x : c.type.Carrier}
    (given : Given columns pairs c x) :
    (Record.ofPairs pairs).decodeD c.column c.type.default = .ok x := by
  subst named
  by_cases present : c.column ∈ pairs.map (·.1)
  · obtain ⟨d, declared, kept⟩ := (mem_names_iff stored).mp present
    obtain ⟨v, member, read⟩ := given.1 d declared kept
    rw [Record.decodeD, Record.get?_ofPairs_of_mem distinct member]
    exact read
  · rw [Record.decodeD, Record.get?_ofPairs_of_notMem present, given.2]
    exact fun d declared kept => present ((mem_names_iff stored).mpr ⟨d, declared, kept⟩)

end

end

/-! ## The definition of the table -/

theorem ident_of_parse {text : String} {i : Ident} (parsed : Ident.parse text = .ok i) :
    Query.ident text = .ok i := by
  rw [Query.ident, Query.checkIdent, parsed]
  rfl

theorem toSql_of_ident {text : String} {i : Ident} (named : Query.ident text = .ok i) :
    i.toSql = text := Ident.toSql_of_parse (ok_of_mapError (ok_of_mapError named))

theorem exists_ident_of_storedName? {column name : String} (h : storedName? column = some name) :
    ∃ i, Query.ident column = .ok i := by
  rcases spelling_of_storedName? h with ⟨parsed, -⟩ | ⟨parsed, -⟩ <;>
    exact ⟨_, ident_of_parse parsed⟩

namespace Statement

theorem exists_columnDefinition (inlineKey : Bool) {f : Field} {i : Ident}
    (named : Query.ident f.column = .ok i) : ∃ d, columnDefinition inlineKey f = .ok d := by
  rw [columnDefinition, named]
  exact ⟨_, rfl⟩

/-- A column is defined with the very text of the field. -/
theorem exists_of_columnDefinition {inlineKey : Bool} {f : Field} {d : String}
    (made : columnDefinition inlineKey f = .ok d) : ∃ rest, d = f.column ++ " " ++ rest := by
  obtain ⟨i, named, made⟩ := exists_of_bind made
  cases made
  rw [toSql_of_ident named]
  simp only [String.append_assoc]
  exact ⟨_, rfl⟩

theorem exists_keyClause {key : List String} (named : ∀ n ∈ key, ∃ i, Query.ident n = .ok i) :
    ∃ clause, keyClause key = .ok clause := by
  unfold keyClause
  split
  · obtain ⟨is, read⟩ := exists_mapM named
    rw [idents, read]
    exact ⟨_, rfl⟩
  · exact ⟨_, rfl⟩

/-- Of an entity whose columns are named the table can be defined. The definitions of the columns
begin with their texts. -/
theorem exists_createTable {l : Layout} {table : Ident} (titled : Query.ident l.table = .ok table)
    (named : ∀ c ∈ l.columns, ∃ i, Query.ident c.column = .ok i) :
    ∃ definitions clause, createTable l.info.schema = .ok
        ("CREATE TABLE " ++ l.table ++ " (" ++ ", ".intercalate (definitions ++ clause) ++ ")") ∧
      List.Forall₂ (fun c d => ∃ rest, d = c.column ++ " " ++ rest) l.columns definitions := by
  have fields : ∀ f ∈ l.info.schema.fields, ∃ i, Query.ident f.column = .ok i := by
    intro f member
    obtain ⟨c, listed, rfl⟩ := List.mem_map.mp member
    exact named c listed
  have key : ∀ n ∈ keyColumns l.info.schema.fields, ∃ i, Query.ident n = .ok i := by
    intro n member
    obtain ⟨f, inKey, rfl⟩ := List.mem_map.mp member
    exact fields f (List.mem_of_mem_filter inKey)
  obtain ⟨definitions, defined⟩ := exists_mapM fun f member =>
    (fields f member).elim fun i =>
      exists_columnDefinition (decide ((keyColumns l.info.schema.fields).length = 1))
  obtain ⟨clause, keyed⟩ := exists_keyClause key
  refine ⟨definitions, clause, ?_, ?_⟩
  · rw [createTable, defined]
    change (keyClause (keyColumns l.info.schema.fields) >>= fun clause =>
      Query.ident l.table >>= fun table => _) = _
    rw [keyed]
    change (Query.ident l.table >>= fun table =>
      .ok ("CREATE TABLE " ++ table.toSql ++ _ ++ _ ++ _)) = _
    rw [titled, ← toSql_of_ident titled]
    rfl
  · have each := forall₂_of_mapM defined
    change List.Forall₂ _ (l.columns.map (·.field)) definitions at each
    exact (List.forall₂_map_left_iff.mp each).imp fun c d made => exists_of_columnDefinition made

end Statement

/-! ## Entities -/

section

variable {l : Layout} {Extra : Type} [Inhabited Extra] {names : List String}
  (stored : l.columns.map (fun c => storedName? c.column) = names.map some)

include stored

/-- Right after the table is created those columns are pending whose text is no name on the
server. -/
theorem status_of_created (hooks : Hooks (l.Item Extra)) (repo : Repository (l.Item Extra))
    {table : Ident} (titled : Query.ident l.table = .ok table) {s : Session Store}
    (creates : s.store.Creates repo.scope names) :
    letI := l.entity hooks
    ∃ definitions clause s',
      (do repo.createTable; repo.migrationStatus : Action Store _).run.run s =
        (.ok ⟨true, ((l.columns.map (·.column)).filter (· ∉ names)).map fun c =>
          "add column " ++ l.table ++ "." ++ c⟩, s') ∧
      s'.store = s.store.speak repo.scope (creation l.table
        ("CREATE TABLE " ++ l.table ++ " (" ++ ", ".intercalate (definitions ++ clause) ++ ")")) ∧
      List.Forall₂ (fun c d => ∃ rest, d = c.column ++ " " ++ rest) l.columns definitions := by
  let _ := l.entity hooks
  have named : ∀ c ∈ l.columns, ∃ i, Query.ident c.column = .ok i := by
    intro c member
    have kept : storedName? c.column ∈ names.map some := by
      rw [← stored]
      exact List.mem_map_of_mem member
    obtain ⟨name, -, same⟩ := List.mem_map.mp kept
    exact exists_ident_of_storedName? same.symm
  obtain ⟨definitions, clause, made, spelled⟩ := Statement.exists_createTable titled named
  have info : Entity.info (l.Item Extra) = l.info := rfl
  rw [← info] at made
  obtain ⟨s', ran, behind⟩ := run_status_of_created made creates
  refine ⟨definitions, clause, s', ?_, behind, spelled⟩
  have columns : l.info.columns = l.columns.map (·.column) := List.map_map ..
  rw [ran, Repository.pendingColumns_eq, info, columns]
  rfl

omit stored in
theorem fromRecord_eq_ok {row : Record} {cells : Cells l.columns} :
    (Layout.Item.fromRecord row : Except StoreError (l.Item Extra)) = .ok (.ofCells cells) ↔
      Cells.ofRecord row l.columns = .ok cells := by
  constructor
  · intro read
    obtain ⟨cells', fromCells, same⟩ := exists_of_map read
    rw [fromCells, show cells' = cells from congrArg Layout.Item.cells same]
  · intro read
    rw [Layout.Item.fromRecord, read]
    rfl

/-- An entity is read from a row of the table just when each of its fields is given from it. -/
theorem fromRecord_iff_given (distinct : names.Nodup) {pairs : List (String × Value)}
    (named : pairs.map (·.1) = names) (cells : Cells l.columns) :
    (Layout.Item.fromRecord (.ofPairs pairs) : Except StoreError (l.Item Extra)) =
        .ok (.ofCells cells) ↔ Cells.Each (Given l.columns pairs) l.columns cells := by
  rw [fromRecord_eq_ok]
  constructor
  · intro read
    refine (Cells.each_of_ofRecord read).imp ?_
    exact fun _ _ _ here => given_of_decodeD stored named here
  · intro given
    apply Cells.ofRecord_of_each
    refine given.imp ?_
    exact fun _ _ _ here => decodeD_of_given stored distinct named here

/-- Each field of what a query answers is given from the row. -/
theorem fields_of_query {hooks : Hooks (l.Item Extra)}
    {repo : Repository (l.Item Extra)} {clauses : List Query.Clause} {s s' : Session Store}
    {found : List (l.Item Extra)} (answered : s.store.upcoming.columns.map (·.1) = names)
    (ran : letI := l.entity hooks; (repo.query clauses).run.run s = (.ok found, s')) :
    List.Forall₂ (fun row e => ∃ pairs, ∃ read : l.Item Extra,
        Exchange.decodeFrom 0 s.store.upcoming.columns row = .ok pairs ∧
        e = (hooks.afterFind read).2 ∧ Cells.Each (Given l.columns pairs) l.columns read.cells)
      s.store.upcoming.rows found := by
  obtain ⟨-, -, -, -, -, -, -, rows⟩ := exists_of_layout_query ran
  refine rows.imp ?_
  rintro row e ⟨pairs, read, decoded, hooked, fields⟩
  have named : pairs.map (·.1) = names := (Exchange.names_of_decodeFrom decoded).trans answered
  refine ⟨pairs, read, decoded, hooked, fields.imp ?_⟩
  exact fun _ _ _ here => given_of_decodeD stored named here

end

/-- A server that keeps each column of an entity under the name which its text denotes. The text
stands in the definition as it is, and it is that name exactly if it is plain and in lower case.
Right after the table is created those columns are pending whose text is no name on the server, so
nothing is pending exactly if all texts are plain and in lower case. A field of a row is given the
value of the column that the server keeps under the field's text. That is its own column if the text
is plain and in lower case; otherwise it is another one, or there is none and the field has its
default. -/
theorem columns_known_by_text {l : Layout} {Extra : Type} [Inhabited Extra]
    (hooks : Hooks (l.Item Extra)) (repo : Repository (l.Item Extra)) {table : Ident}
    {names : List String} (titled : Query.ident l.table = .ok table)
    (stored : l.columns.map (fun c => storedName? c.column) = names.map some)
    (s : Session Store) :
    letI := l.entity hooks
    let lost := (l.columns.map (·.column)).filter (· ∉ names)
    (∀ c ∈ l.columns, storedName? c.column = some c.column ↔ IsLower c.column) ∧
      (s.store.Creates repo.scope names → ∃ definitions clause s',
        (do repo.createTable; repo.migrationStatus : Action Store _).run.run s =
          (.ok ⟨true, lost.map fun c => "add column " ++ l.table ++ "." ++ c⟩, s') ∧
        s'.store = s.store.speak repo.scope (creation l.table
          ("CREATE TABLE " ++ l.table ++ " (" ++ ", ".intercalate (definitions ++ clause) ++ ")")) ∧
        List.Forall₂ (fun c d => ∃ rest, d = c.column ++ " " ++ rest) l.columns definitions) ∧
      (lost = [] ↔ ∀ c ∈ l.columns, IsLower c.column) ∧
      (names.Nodup → ∀ pairs : List (String × Value), pairs.map (·.1) = names →
        ∀ cells : Cells l.columns,
          (Layout.Item.fromRecord (.ofPairs pairs) : Except StoreError (l.Item Extra)) =
            .ok (.ofCells cells) ↔ Cells.Each (Given l.columns pairs) l.columns cells) ∧
      ∀ clauses found s', s.store.upcoming.columns.map (·.1) = names →
        (repo.query clauses).run.run s = (.ok found, s') →
        List.Forall₂ (fun row e => ∃ pairs, ∃ read : l.Item Extra,
            Exchange.decodeFrom 0 s.store.upcoming.columns row = .ok pairs ∧
            e = (hooks.afterFind read).2 ∧ Cells.Each (Given l.columns pairs) l.columns read.cells)
          s.store.upcoming.rows found := by
  intro lost
  refine ⟨fun c _ => storedName?_eq_self, status_of_created stored hooks repo titled, ?_,
    fun distinct pairs named => fromRecord_iff_given stored distinct named,
    fun clauses found s' => fields_of_query stored⟩
  rw [List.filter_eq_nil_iff, List.forall_mem_map, ← found_iff stored]
  simp

/-! ### Authors and labels -/

def tells (there : UInt8) : Answer :=
  ⟨some [.text], [("exists", .bool)], [[some [there]]], "SELECT 1", none⟩

def listing (columns : List Wire.Bytes) : Answer :=
  ⟨some [.text], [("column_name", .text)], columns.map fun c => [some c], "SELECT 2", none⟩

/-- A server on which a table is created. -/
def creating (columns : List Wire.Bytes) : Store :=
  .scripted [tells 0, .plain, tells 1, listing columns]

theorem creates_of_lists {columns : List Wire.Bytes} {names : List String}
    (lists : (listing columns).Lists names) : (creating columns).Creates .direct names where
  connected := rfl
  answers := ⟨_, _, _, _, _, rfl, ⟨⟨⟨.text, rfl, rfl⟩, rfl⟩, rfl⟩, rfl,
    ⟨⟨⟨.text, rfl, rfl⟩, rfl⟩, rfl⟩, lists⟩

theorem lists_id_name : (listing [[105, 100], [110, 97, 109, 101]]).Lists ["id", "name"] :=
  ⟨⟨⟨.text, rfl, rfl⟩, rfl⟩, rfl⟩

/-- The row of the first author, with the second column under this name. -/
def annUnder (name : String) : Answer :=
  ⟨some [], [("id", .int8), (name, .text)],
    [[some [0, 0, 0, 0, 0, 0, 0, 1], some [65, 110, 110]]], "SELECT 1", none⟩

theorem decodeFrom_ann (name : String) :
    Exchange.decodeFrom 0 (annUnder name).columns
      [some [0, 0, 0, 0, 0, 0, 0, 1], some [65, 110, 110]] =
        .ok [("id", .int 1), (name, .text "Ann")] := by
  simp [annUnder, Exchange.decodeFrom, Exchange.decodeCell, decode?_one, decode?_ann]
  rfl

theorem decodeRow_ann (name : String) :
    (annUnder name).rows.mapM (Exchange.decodeRow (annUnder name)) =
      .ok [.ofPairs [("id", .int 1), (name, .text "Ann")]] := by
  rw [annUnder, List.mapM_cons, Exchange.decodeRow]
  change ((Exchange.decodeFrom 0 (annUnder name).columns _).map _ >>= _) = _
  rw [decodeFrom_ann]
  rfl

/-- All authors are asked for, and the entity is read from the row of the first one. -/
theorem run_query_ann {l : Layout} {table : Ident} (titled : Query.ident l.table = .ok table)
    (name : String) {e : l.Item Unit}
    (read : Layout.Item.fromRecord (.ofPairs [("id", .int 1), (name, .text "Ann")]) = .ok e) :
    letI := l.entity ({} : Hooks (l.Item Unit))
    ∃ s', ((.direct : Repository (l.Item Unit)).query []).run.run
      (Session.start (Store.scripted [annUnder name])) = (.ok [e], s') := by
  let _ := l.entity ({} : Hooks (l.Item Unit))
  have compiled : Query.compileClauses [] = .ok .everything := by cbv
  let s : Store := .scripted [annUnder name]
  have connected : s.grant .direct = .ok () := rfl
  obtain ⟨log, performed⟩ : ∃ log,
      EntityStore.Store.perform .direct (.select l.table .everything) s = _ :=
    perform_select connected titled rfl rfl (decodeRow_ann name)
  obtain ⟨s', asked, -⟩ : ∃ s', (Action.ask .direct (.select l.table .everything)).run.run
      (Repository.asking (l.Item Unit) (Session.start (Store.scripted [annUnder name]))
        .everything) = (.ok [.ofPairs [("id", .int 1), (name, .text "Ann")]], s') ∧
          s'.store = _ :=
    run_ask_answered performed
  have ran := Repository.run_query (.direct : Repository (l.Item Unit)) compiled asked
  have each : ([.ofPairs [("id", .int 1), (name, .text "Ann")]] : List Record).mapM (fun row =>
      (Entity.fromRecord row : Except StoreError (l.Item Unit)).mapError StoreError.classify) =
        .ok [e] := by
    rw [List.mapM_cons, show Entity.fromRecord (α := l.Item Unit) _ = .ok e from read]
    rfl
  have decoded : ([.ofPairs [("id", .int 1), (name, .text "Ann")]].mapM
      (Repository.decodeRow (l.Item Unit)) : Action Store _).run.run s' = (.ok [e], s') := by
    unfold Repository.decodeRow
    rw [run_mapM_ofExcept, each]
  rw [ran, run_bind_ok decoded]
  exact ⟨_, Prod.ext rfl rfl⟩

theorem stored_author : Sample.author.columns.map (fun c => storedName? c.column) =
    ["id", "name"].map some := by cbv

/-- Right after its creation the table of authors has nothing pending, and an author is answered
with the name that is stored. -/
theorem author_known_by_text :
    (∃ s', (do
        (.direct : Repository Sample.Author).createTable
        (.direct : Repository Sample.Author).migrationStatus : Action Store _).run.run
          (Session.start (creating [[105, 100], [110, 97, 109, 101]])) = (.ok ⟨true, []⟩, s')) ∧
      ∃ (s' : Session Store) (e : Sample.Author),
        ((.direct : Repository Sample.Author).query []).run.run
          (Session.start (Store.scripted [annUnder "name"])) = (.ok [e], s') ∧
        ∃ v, ("name", v) ∈ [("id", Value.int 1), ("name", Value.text "Ann")] ∧
          Record.decodeAt "name" v = .ok e.cells.2.1 := by
  have titled : Query.ident Sample.author.table = .ok ⟨[.plain "authors"]⟩ := by cbv
  constructor
  · obtain ⟨-, created, -⟩ := columns_known_by_text ({} : Hooks Sample.Author) .direct titled
      stored_author (Session.start (creating [[105, 100], [110, 97, 109, 101]]))
    obtain ⟨-, -, s', ran, -⟩ := created (creates_of_lists lists_id_name)
    exact ⟨s', ran⟩
  · have kept : storedName? "name" = some "name" := by cbv
    obtain ⟨s', ran⟩ := run_query_ann titled "name" (e := .ofCells (1, "Ann", ())) rfl
    obtain ⟨-, -, -, -, read⟩ := columns_known_by_text ({} : Hooks Sample.Author) .direct titled
      stored_author (Session.start (Store.scripted [annUnder "name"]))
    cases read [] _ s' rfl ran with
    | cons first _ =>
      obtain ⟨pairs, item, decoded, same, -, ⟨own, -⟩, -⟩ := first
      cases (decodeFrom_ann "name").symm.trans decoded
      refine ⟨s', _, ran, ?_⟩
      rw [same]
      exact own _ (List.mem_cons_of_mem _ List.mem_cons_self) kept

/-- An entity with an upper-case letter in the text of a column. -/
def label : Layout where
  name := "Label"
  table := "labels"
  columns :=
    [{ name := "id", type := .int64, primaryKey := true },
      { name := "text", column := "Text", type := .text }]

abbrev Label := label.Item Unit

instance : Entity Label := label.entity {}

/-- The texts of the columns differ, and each is an identifier of one part. But right after its
creation the table has a column pending, and a text that is stored is answered as the default. -/
theorem capital_column_lost :
    (label.columns.map (·.column)).Nodup ∧
      label.columns.map (fun c => storedName? c.column) = ["id", "text"].map some ∧
      (∃ s', (do
        (.direct : Repository Label).createTable
        (.direct : Repository Label).migrationStatus : Action Store _).run.run
          (Session.start (creating [[105, 100], [116, 101, 120, 116]])) =
            (.ok ⟨true, ["add column labels.Text"]⟩, s')) ∧
      Exchange.decodeFrom 0 (annUnder "text").columns
          [some [0, 0, 0, 0, 0, 0, 0, 1], some [65, 110, 110]] =
        .ok [("id", .int 1), ("text", .text "Ann")] ∧
      ∃ s', ((.direct : Repository Label).query []).run.run
        (Session.start (Store.scripted [annUnder "text"])) = (.ok [.ofCells (1, "", ())], s') := by
  have titled : Query.ident label.table = .ok ⟨[.plain "labels"]⟩ := by cbv
  have stored : label.columns.map (fun c => storedName? c.column) = ["id", "text"].map some := by
    cbv
  let s : Session Store := .start (creating [[105, 100], [116, 101, 120, 116]])
  have creates : s.store.Creates .direct ["id", "text"] :=
    creates_of_lists ⟨⟨⟨.text, rfl, rfl⟩, rfl⟩, rfl⟩
  obtain ⟨-, -, s', ran, -⟩ :=
    status_of_created stored ({} : Hooks Label) .direct titled creates
  exact ⟨by decide, stored, ⟨s', ran⟩, decodeFrom_ann "text",
    run_query_ann titled "text" rfl⟩

end Postgres

end EntityStore
