import Mathlib.Algebra.GroupWithZero.Nat
import EntityStore.Proofs.Sql.Binding
import EntityStore.Proofs.Sql.Name

/-!
# Insertions of several rows

The rows of one insertion need not have the same columns. The statement lists each column that
some row has where it first appears, and every row gets a tuple with one cell for each of them:
the placeholder of the row's value, or the keyword for the default. The names are written as they
are given, and the first that is no identifier is reported.
-/

namespace EntityStore

namespace Query

theorem ident_eq_ok {name : String} {i : Ident} :
    ident name = .ok i ↔ Ident.parse name = .ok i := by
  rw [ident, checkIdent]
  cases Ident.parse name with
  | ok j => exact ⟨fun h => congrArg _ (Except.ok.inj h), fun h => congrArg _ (Except.ok.inj h)⟩
  | error fault => constructor <;> rintro ⟨⟩

theorem ident_eq_error {name : String} {e : Error} :
    ident name = .error e ↔
      ∃ fault : Ident.Fault, Ident.parse name = .error fault ∧ e = .validation (fault.message name) := by
  rw [ident, checkIdent]
  cases Ident.parse name with
  | ok j =>
    constructor
    · rintro ⟨⟩
    · rintro ⟨_, ⟨⟩, _⟩
  | error fault =>
    constructor
    · rintro ⟨⟩
      exact ⟨fault, rfl, rfl⟩
    · rintro ⟨_, ⟨⟩, rfl⟩
      rfl

end Query

/-- The text is read as an identifier. -/
def Ident.Valid (s : String) : Prop := ∃ i, parse s = .ok i

/-! ## Printing a list -/

namespace Sql

open Item (print values)

variable {α : Type} (style : Placeholder) (f : α → List Item)

/-- What is printed of each element of a list; `n` values stand before. -/
def Item.printEach : Nat → List α → List String
  | _, [] => []
  | n, x :: xs => print style n (f x) :: printEach (n + (values (f x)).length) xs

theorem print_separate (n : Nat) (separator : String) (xs : List α) :
    print style n (separate separator f xs) = separator.intercalate (Item.printEach style f n xs) := by
  cases xs with
  | nil => simp [separate, print, Item.printEach]
  | cons x xs =>
    rw [separate, Item.print_append]
    induction xs generalizing x n with
    | nil => simp [print, Item.printEach]
    | cons y xs ih =>
      rw [List.flatMap_cons, List.cons_append, print, Item.print_append, ih]
      simp only [Item.printEach, String.intercalate_cons_cons, String.append_assoc]

/-- The text is what is printed of items whose values stand among those of a statement. -/
def Printed (vs : List Value) (is : List Item) (text : String) : Prop :=
  ∃ before after, vs = before ++ values is ++ after ∧ text = print style before.length is

theorem printed_printEach (before after : List Value) (xs : List α) :
    List.Forall₂
      (fun x text =>
        Printed style (before ++ (xs.flatMap fun x => values (f x)) ++ after) (f x) text)
      xs (Item.printEach style f before.length xs) := by
  induction xs generalizing before with
  | nil => exact .nil
  | cons x xs ih =>
    refine .cons ⟨before, (xs.flatMap fun x => values (f x)) ++ after, by simp, rfl⟩ ?_
    have rest := ih (before ++ values (f x))
    rw [List.length_append] at rest
    simpa using rest

end Sql

namespace Postgres.Statement

open Sql (Item ofItems separate Printed)

/-! ## The listed columns -/

/-- The members of a list, each where it first appears in it. -/
structure FirstAppearances (all cs : List String) : Prop where
  mem : ∀ c, c ∈ cs ↔ c ∈ all
  /-- The places grow strictly, so no member is listed twice. -/
  ordered : cs.Pairwise fun c d => all.idxOf c < all.idxOf d

theorem FirstAppearances.concat {all cs : List String} (h : FirstAppearances all cs) (d : String) :
    FirstAppearances (all ++ [d]) (if cs.contains d then cs else cs ++ [d]) := by
  have kept : cs.Pairwise fun b c => (all ++ [d]).idxOf b < (all ++ [d]).idxOf c := by
    refine h.ordered.imp_of_mem fun {b c} hb hc before => ?_
    rwa [List.idxOf_append_of_mem ((h.mem b).mp hb), List.idxOf_append_of_mem ((h.mem c).mp hc)]
  by_cases known : d ∈ cs
  · rw [if_pos (List.contains_iff_mem.mpr known)]
    refine ⟨fun c => ?_, kept⟩
    rw [h.mem, List.mem_append, List.mem_singleton]
    exact ⟨.inl, fun either => either.elim id fun same => same ▸ (h.mem d).mp known⟩
  · have fresh : d ∉ all := fun member => known ((h.mem d).mpr member)
    rw [if_neg (by simpa using known)]
    refine ⟨fun c => by rw [List.mem_append, List.mem_append, h.mem], ?_⟩
    refine List.pairwise_append.mpr ⟨kept, List.pairwise_singleton _ d, ?_⟩
    intro c member e last
    cases List.mem_singleton.mp last
    have earlier : c ∈ all := (h.mem c).mp member
    rw [List.idxOf_append_of_mem earlier, List.idxOf_append_of_notMem fresh]
    exact Nat.lt_of_lt_of_le (List.idxOf_lt_length_of_mem earlier) (Nat.le_add_right _ _)

theorem FirstAppearances.addNew {all cs : List String} (h : FirstAppearances all cs)
    (new : List String) : FirstAppearances (all ++ new) (addNew cs new) := by
  induction new generalizing all cs with
  | nil => rwa [List.append_nil]
  | cons d new ih =>
    have rest := ih (h.concat d)
    rwa [List.append_assoc] at rest

theorem firstAppearances_columnsOf (rows : List Record) :
    FirstAppearances (rows.flatMap Record.columns) (columnsOf rows) := by
  have go {all cs : List String} (h : FirstAppearances all cs) :
      FirstAppearances (all ++ rows.flatMap Record.columns)
        (rows.foldl (fun cs r => Statement.addNew cs r.columns) cs) := by
    induction rows generalizing all cs with
    | nil => rwa [List.flatMap_nil, List.append_nil]
    | cons row rows ih =>
      have rest := ih (h.addNew row.columns)
      rwa [List.append_assoc] at rest
  exact go ⟨fun c => Iff.rfl, .nil⟩

/-! ## The statement -/

/-- What stands in a tuple for a value that a row has or lacks: the number of a parameter that is
this value, or the keyword. -/
def Cell (params : List Value) (value? : Option Value) (text : String) : Prop :=
  match value? with
  | some v => ∃ k, params[k]? = some v ∧ text = "$" ++ toString (k + 1)
  | none => text = "DEFAULT"

/-- One cell for each listed column, in order. -/
def Tuple (params : List Value) (columns : List String) (row : Record) (text : String) : Prop :=
  ∃ cells, List.Forall₂ (fun c cell => Cell params (row.get? c) cell) columns cells ∧
    text = "(" ++ ", ".intercalate cells ++ ")"

def returningText (returning : List String) : String :=
  if returning.isEmpty then "" else " RETURNING " ++ ", ".intercalate returning

def insertText (table : String) (columns tuples returning : List String) : String :=
  "INSERT INTO " ++ table ++ " (" ++ ", ".intercalate columns ++ ") VALUES " ++
    ", ".intercalate tuples ++ returningText returning

/-- The statement inserts the rows: its text has one tuple for each, and it binds their values and
nothing else. -/
structure Inserts (q : Sql) (table : String) (columns : List String) (rows : List Record)
    (returning : List String) : Prop where
  text : ∃ tuples, List.Forall₂ (Tuple q.params columns) rows tuples ∧
    q.toSql = insertText table columns tuples returning
  params : q.params = rows.flatMap fun row => columns.filterMap row.get?
  placeholders : q.placeholders = q.params.length

section

variable {vs : List Value}

theorem cell_of_printed {row : Record} {column text : String}
    (printed : Printed .dollar vs (cellItems row column) text) : Cell vs (row.get? column) text := by
  obtain ⟨before, after, rfl, rfl⟩ := printed
  unfold cellItems Cell
  cases row.get? column with
  | none => rfl
  | some v => exact ⟨before.length, by simp, by simp [Item.print, Sql.placeholderText]⟩

theorem values_tupleItems (columns : List String) (row : Record) :
    Item.values (tupleItems columns row) = columns.flatMap fun c => Item.values (cellItems row c) := by
  simp [tupleItems, Sql.values_separate]

theorem values_cellItems (row : Record) (column : String) :
    Item.values (cellItems row column) = (row.get? column).toList := by
  unfold cellItems
  cases row.get? column <;> rfl

theorem tuple_of_printed {columns : List String} {row : Record} {text : String}
    (printed : Printed .dollar vs (tupleItems columns row) text) : Tuple vs columns row text := by
  obtain ⟨before, after, rfl, rfl⟩ := printed
  refine ⟨Item.printEach .dollar (cellItems row) before.length columns, ?_, ?_⟩
  · rw [values_tupleItems]
    exact (Sql.printed_printEach .dollar (cellItems row) before after columns).imp
      fun c text => cell_of_printed
  · rw [tupleItems, List.cons_append, Item.print, Item.print_append, Sql.print_separate]
    simp [Item.print, String.append_assoc]

end

theorem map_toSql_of_idents {names : List String} {is : List Ident} (read : idents names = .ok is) :
    is.map Ident.toSql = names := by
  have each := forall₂_of_mapM read
  clear read
  induction each with
  | nil => rfl
  | cons here _ ih => rw [List.map_cons, ih, Ident.toSql_of_parse (Query.ident_eq_ok.mp here)]

section

variable (style : Placeholder) (n : Nat)

theorem printEach_identItems (is : List Ident) :
    Item.printEach style identItems n is = is.map Ident.toSql := by
  induction is generalizing n with
  | nil => rfl
  | cons i is ih => simp [Item.printEach, identItems, Item.print, ih]

theorem print_returningItems (returned : List Ident) :
    Item.print style n (returningItems returned) = returningText (returned.map Ident.toSql) := by
  unfold returningItems returningText
  rw [List.isEmpty_map]
  split
  · rfl
  · rw [Item.print, Sql.print_separate, printEach_identItems]

theorem print_insertItems (table : Ident) (listed returned : List Ident) {rows : List Record}
    (given : columnsOf rows ≠ []) :
    Item.print style 0 (insertItems table listed returned rows) =
      insertText table.toSql (listed.map Ident.toSql)
        (Item.printEach style (tupleItems (columnsOf rows)) 0 rows) (returned.map Ident.toSql) := by
  have silent : Item.values (separate ", " identItems listed) = [] := by
    simp [Sql.values_separate, identItems]
  have columns : ¬(columnsOf rows).isEmpty = true := fun none => given (List.isEmpty_iff.mp none)
  rw [insertItems, rowItems, if_neg columns, Item.print_append, print_returningItems]
  unfold insertText
  simp only [List.cons_append, List.nil_append, Item.print, Item.print_append, Sql.print_separate,
    printEach_identItems, silent, List.length_nil, Nat.add_zero, String.append_assoc]

end

theorem inserts_of_ok {table : String} {rows : List Record} {returning : List String} {q : Sql}
    (made : insert table rows returning = .ok q) (given : columnsOf rows ≠ []) :
    Inserts q table (columnsOf rows) rows returning := by
  rw [insert_eq] at made
  obtain ⟨t, named, made⟩ := exists_of_bind made
  obtain ⟨listed, columns, made⟩ := exists_of_bind made
  obtain ⟨returned, answered, made⟩ := exists_of_bind made
  cases made
  have bound := Sql.binds_ofItems (values_insertItems t listed returned rows)
  refine ⟨?_, bound.params, bound.params ▸ bound.placeholders⟩
  have printed := Sql.printed_printEach .dollar (tupleItems (columnsOf rows)) [] [] rows
  have values : (ofItems (insertItems t listed returned rows)).params =
      [] ++ (rows.flatMap fun row => Item.values (tupleItems (columnsOf rows) row)) ++ [] := by
    rw [bound.params, List.nil_append, List.append_nil]
    simp only [values_tupleItems, values_cellItems, List.filterMap_eq_flatMap_toList]
  rw [← values] at printed
  refine ⟨_, printed.imp fun row text => tuple_of_printed, ?_⟩
  rw [Sql.toSql, Sql.render_ofItems, print_insertItems .dollar t listed returned given,
    Ident.toSql_of_parse (Query.ident_eq_ok.mp named), map_toSql_of_idents columns,
    map_toSql_of_idents answered]
  rfl

theorem length_params {rows : List Record} (distinct : ∀ row ∈ rows, row.columns.Nodup) :
    (rows.flatMap fun row => (columnsOf rows).filterMap row.get?).length =
      (rows.map Record.size).sum := by
  rw [List.length_flatMap]
  congr 1
  refine List.map_congr_left fun row member => ?_
  rw [(perm_rowValues member (distinct row member)).length_eq]
  exact List.length_map _

/-! ## Names that are no identifiers -/

/-- The first of the names that is no identifier is reported. -/
def Refused (names : List String) (e : Error) : Prop :=
  ∃ front name back, ∃ fault : Ident.Fault, names = front ++ name :: back ∧
    (∀ n ∈ front, Ident.Valid n) ∧ Ident.parse name = .error fault ∧
    e = .validation (fault.message name)

theorem valid_or_refused (names : List String) :
    (∃ is, idents names = .ok is ∧ ∀ n ∈ names, Ident.Valid n) ∨
      ∃ e, idents names = .error e ∧ Refused names e := by
  induction names with
  | nil => exact .inl ⟨[], rfl, List.forall_mem_nil _⟩
  | cons name names ih =>
    rw [idents, List.mapM_cons]
    cases read : Query.ident name with
    | error e =>
      obtain ⟨fault, failed, rfl⟩ := Query.ident_eq_error.mp read
      exact .inr ⟨_, rfl, [], name, names, fault, rfl, List.forall_mem_nil _, failed, rfl⟩
    | ok i =>
      have valid : Ident.Valid name := ⟨i, Query.ident_eq_ok.mp read⟩
      rcases ih with ⟨is, all, each⟩ | ⟨e, failed, front, bad, back, fault, rfl, before, stop, rfl⟩
      · rw [idents] at all
        exact .inl ⟨i :: is, by rw [all]; rfl, List.forall_mem_cons.mpr ⟨valid, each⟩⟩
      · rw [idents] at failed
        refine .inr ⟨_, by rw [failed]; rfl, name :: front, bad, back, fault, rfl, ?_, stop, rfl⟩
        exact List.forall_mem_cons.mpr ⟨valid, before⟩

theorem not_valid_of_refused {names : List String} {e : Error} (refused : Refused names e) :
    ∃ name ∈ names, ¬Ident.Valid name := by
  obtain ⟨front, name, back, fault, rfl, -, failed, -⟩ := refused
  refine ⟨name, by simp, ?_⟩
  rintro ⟨i, read⟩
  rw [failed] at read
  cases read

/-- An insertion fails as its names do, read in one go. -/
theorem insert_map_eq (table : String) (rows : List Record) (returning : List String) :
    ((insert table rows returning).map fun _ => ()) =
      (idents (table :: columnsOf rows ++ returning)).map fun _ => () := by
  rw [insert_eq]
  unfold idents
  rw [List.cons_append, List.mapM_cons, List.mapM_append]
  cases Query.ident table with
  | error e => rfl
  | ok t =>
    cases (columnsOf rows).mapM Query.ident with
    | error e => rfl
    | ok listed => cases returning.mapM Query.ident <;> rfl

theorem inserted_or_refused (table : String) (rows : List Record) (returning : List String) :
    (∃ q, insert table rows returning = .ok q ∧
        ∀ name ∈ table :: columnsOf rows ++ returning, Ident.Valid name) ∨
      ∃ e, insert table rows returning = .error e ∧
        Refused (table :: columnsOf rows ++ returning) e := by
  have same := insert_map_eq table rows returning
  rcases valid_or_refused (table :: columnsOf rows ++ returning) with
    ⟨is, read, valid⟩ | ⟨e, read, refused⟩
  · rw [read] at same
    obtain ⟨q, made, -⟩ := exists_of_map same
    exact .inl ⟨q, made, valid⟩
  · rw [read] at same
    exact .inr ⟨e, map_eq_error.mp same, refused⟩

/-- The columns of an insertion are those of its rows where they first appear. If there are any, and
if all names are identifiers, there is a statement, and it inserts the rows; where no row has a
column twice, it binds as many parameters as the rows have entries. It fails if and only if some
name is no identifier, with the first of these as the reason. -/
theorem insertion_faithful (table : String) (rows : List Record) (returning : List String) :
    FirstAppearances (rows.flatMap Record.columns) (columnsOf rows) ∧
      ((∃ row ∈ rows, row.columns ≠ []) →
        (∀ name ∈ table :: columnsOf rows ++ returning, Ident.Valid name) →
        ∃ q, insert table rows returning = .ok q ∧
          Inserts q table (columnsOf rows) rows returning ∧
          ((∀ row ∈ rows, row.columns.Nodup) → q.params.length = (rows.map Record.size).sum)) ∧
      ((∃ e, insert table rows returning = .error e) ↔
        ∃ name ∈ table :: columnsOf rows ++ returning, ¬Ident.Valid name) ∧
      ∀ e, insert table rows returning = .error e →
        Refused (table :: columnsOf rows ++ returning) e := by
  refine ⟨firstAppearances_columnsOf rows, ?_⟩
  rcases inserted_or_refused table rows returning with ⟨q, made, valid⟩ | ⟨e, failed, refused⟩
  · refine ⟨?_, ⟨?_, ?_⟩, ?_⟩
    · rintro ⟨row, member, given⟩ -
      obtain ⟨c, held⟩ := List.exists_mem_of_ne_nil _ given
      have listed : columnsOf rows ≠ [] :=
        List.ne_nil_of_mem (mem_columnsOf.mpr ⟨row, member, held⟩)
      have inserts := inserts_of_ok made listed
      exact ⟨q, made, inserts, fun distinct => inserts.params ▸ length_params distinct⟩
    · rintro ⟨e, failed⟩
      rw [made] at failed
      cases failed
    · rintro ⟨name, member, bad⟩
      exact absurd (valid name member) bad
    · intro e failed
      rw [made] at failed
      cases failed
  · have bad := not_valid_of_refused refused
    refine ⟨?_, ⟨fun _ => bad, fun _ => ⟨e, failed⟩⟩, ?_⟩
    · intro _ valid
      obtain ⟨name, member, invalid⟩ := bad
      exact absurd (valid name member) invalid
    · intro e' failed'
      rw [failed] at failed'
      cases failed'
      exact refused

/-- Rows with different columns in different orders. -/
theorem mixed_rows_inserted :
    let rows : List Record := [⟨[("a", .int 1), ("b", .int 2)]⟩, ⟨[("c", .int 3), ("a", .int 4)]⟩]
    ∃ q, insert "t" rows ["id"] = .ok q ∧ Inserts q "t" ["a", "b", "c"] rows ["id"] ∧
      q.params.length = 4 := by
  intro rows
  have given : ∃ row ∈ rows, row.columns ≠ [] := ⟨_, List.mem_cons_self, by decide⟩
  have columns : columnsOf rows = ["a", "b", "c"] := by decide
  have valid : ∀ name ∈ "t" :: columnsOf rows ++ ["id"], Ident.Valid name := by
    simp only [columns, List.cons_append, List.nil_append, List.forall_mem_cons]
    refine ⟨⟨⟨[.plain "t"]⟩, ?_⟩, ⟨⟨[.plain "a"]⟩, ?_⟩, ⟨⟨[.plain "b"]⟩, ?_⟩, ⟨⟨[.plain "c"]⟩, ?_⟩,
      ⟨⟨[.plain "id"]⟩, ?_⟩, List.forall_mem_nil _⟩ <;> cbv
  obtain ⟨q, made, inserts, count⟩ := (insertion_faithful "t" rows ["id"]).2.1 given valid
  rw [columns] at inserts
  exact ⟨q, made, inserts, count (by decide)⟩

example :
    let rows : List Record := [⟨[("a", .int 1), ("b", .int 2)]⟩, ⟨[("c", .int 3), ("a", .int 4)]⟩]
    (insert "t" rows ["id"]).toOption.map Sql.toSql = some
        "INSERT INTO t (a, b, c) VALUES ($1, $2, DEFAULT), ($3, DEFAULT, $4) RETURNING id" := by
  decide +kernel

end Postgres.Statement

end EntityStore
