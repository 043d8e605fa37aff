import EntityStore.Proofs.Memory.Order
import EntityStore.Proofs.Memory.Shape
import EntityStore.Proofs.Memory.Step
import EntityStore.Proofs.Value

/-!
# Answers of selections

A selection without aggregates answers with a slice of what its projection shows of the rows that
satisfy its filters, in the order of its terms; where it is distinct, repetitions are left out
before the slice is taken. So the pages of any size make up the whole answer.
-/

namespace EntityStore

/-! ## Equal rows -/

/-- Lists are equal element by element. -/
instance partialEquivBEqList {α : Type} [BEq α] [PartialEquivBEq α] : PartialEquivBEq (List α) where
  symm {as bs} same := by
    induction as generalizing bs with
    | nil => cases bs <;> first | rfl | cases same
    | cons a as ih =>
      cases bs with
      | nil => cases same
      | cons b bs =>
        rw [List.cons_beq_cons, Bool.and_eq_true] at same ⊢
        exact ⟨BEq.symm same.1, ih same.2⟩
  trans {as bs cs} first second := by
    induction as generalizing bs cs with
    | nil => cases bs <;> first | exact second | cases first
    | cons a as ih =>
      cases bs with
      | nil => cases first
      | cons b bs =>
        cases cs with
        | nil => cases second
        | cons c cs =>
          rw [List.cons_beq_cons, Bool.and_eq_true] at first second ⊢
          exact ⟨BEq.trans first.1 second.1, ih first.2 second.2⟩

namespace Record

theorem beq_iff {a b : Record} :
    (a == b) = true ↔ (a.columns == b.columns) = true ∧ (a.values == b.values) = true :=
  Bool.and_eq_true_iff

instance : PartialEquivBEq Record where
  symm same := beq_iff.mpr ((beq_iff.mp same).imp BEq.symm BEq.symm)
  trans first second :=
    have ⟨columns, values⟩ := beq_iff.mp first
    have ⟨columns', values'⟩ := beq_iff.mp second
    beq_iff.mpr ⟨BEq.trans columns columns', BEq.trans values values'⟩

end Record

namespace Memory

/-! ## First occurrences -/

section

variable {α : Type} [BEq α]

/-- The elements that equal no earlier one. -/
def firsts (xs : List α) : List α :=
  (xs.zipIdx.filter fun x => !(xs.take x.2).contains x.1).map (·.1)

theorem firsts_append (xs : List α) (x : α) :
    firsts (xs ++ [x]) = firsts xs ++ if xs.contains x then [] else [x] := by
  have early : ∀ y ∈ xs.zipIdx,
      (!((xs ++ [x]).take y.2).contains y.1) = !(xs.take y.2).contains y.1 := by
    intro y member
    rw [List.take_append_of_le_length (Nat.le_of_lt (List.snd_lt_of_mem_zipIdx member))]
  rw [firsts, List.zipIdx_append, List.filter_append, List.filter_congr early, List.map_append,
    Nat.zero_add, List.zipIdx_singleton, List.filter_singleton, List.take_left]
  cases xs.contains x <;> rfl

/-- The elements that are kept are the first occurrences. -/
theorem dedup_eq_firsts [PartialEquivBEq α] (xs : List α) : dedup xs = firsts xs := by
  induction xs using List.reverseRecOn with
  | nil => rfl
  | append_singleton xs x ih =>
    have seen : (dedup xs).contains x = xs.contains x := by
      rw [Bool.eq_iff_iff, List.contains_iff_exists_mem_beq, List.contains_iff_exists_mem_beq]
      constructor
      · rintro ⟨y, kept, same⟩
        exact ⟨y, (represents_dedup xs).sublist.subset kept, same⟩
      · rintro ⟨y, member, same⟩
        rcases (represents_dedup xs).covered y member with kept | ⟨z, kept, equal⟩
        · exact ⟨y, kept, same⟩
        · exact ⟨z, kept, BEq.trans same equal⟩
    have step : dedup (xs ++ [x]) =
        if (dedup xs).contains x then dedup xs else dedup xs ++ [x] := by
      rw [dedup, List.foldl_append]
      rfl
    rw [step, firsts_append, seen, ih]
    split
    · rw [List.append_nil]
    · rfl

end

end Memory

/-! ## Projection -/

/-- The cells of a row that a term of a projection shows. -/
def ColumnExpr.cells (row : Record) : ColumnExpr → List (String × Value)
  | .term (.star _) => row.entries
  | .term (.column i) => [(i.name, row.getD i.name)]
  | .aggregate .. => []

/-- What a query shows of a row: all of it, or the cells that its terms show, each column in the
place where it is shown first. -/
def Compiled.shown (q : Compiled) (row : Record) : Record :=
  if q.projection.isEmpty then row else .ofPairs (q.projection.flatMap (·.cells row))

/-- The query for all that it would answer on any page. -/
def Compiled.unlimited (q : Compiled) : Compiled := { q with offset := none, limit := none }

namespace Memory

variable {row out : Record} {projection : List ColumnExpr}

theorem projectTerm_eq {before : Record} {c : ColumnExpr}
    (done : projectTerm row before c = .ok out) : out = before.setAll (c.cells row) := by
  cases c with
  | aggregate => cases done
  | term t =>
    cases t with
    | star => exact (Except.ok.inj done).symm
    | column i =>
      rw [projectTerm] at done
      split at done
      next v held =>
        rw [← Except.ok.inj done, ColumnExpr.cells, Record.getD, held]
        rfl
      next => cases done

theorem projectRow_eq (done : projectRow projection row = .ok out) :
    out = .ofPairs (projection.flatMap (·.cells row)) := by
  have run (before : Record) (done : projection.foldlM (projectTerm row) before = .ok out) :
      out = before.setAll (projection.flatMap (·.cells row)) := by
    clear * - done
    induction projection generalizing before with
    | nil => exact (Except.ok.inj done).symm
    | cons c cs ih =>
      obtain ⟨mid, here, rest⟩ := foldlM_cons_eq_ok.mp done
      rw [ih mid rest, projectTerm_eq here, List.flatMap_cons]
      exact List.foldl_append.symm
  exact run .empty done

/-- Of each picked row an answer holds what the query shows. -/
theorem project_eq_shown {q : Compiled} {rows outs : List Record} (plain : q.aggregates = false)
    (done : project q.projection rows = .ok outs) : outs = rows.map q.shown := by
  obtain ⟨rfl, each⟩ := project_eq_ok plain done
  refine List.map_congr_left ?_
  intro row member
  cases terms : q.projection with
  | nil => rw [Compiled.shown, terms]; rfl
  | cons c cs =>
    have shown := projectRow_eq (each (terms ▸ List.cons_ne_nil c cs) row member)
    rwa [Compiled.shown, terms] at *

/-! ## Pages -/

section

variable {q : Compiled} {rows answer : List Record}

/-- Offset and limit cut a slice out of what would be answered without them. -/
theorem runQuery_eq_page (q : Compiled) (rows : List Record) :
    runQuery q rows = (runQuery q.unlimited rows).map (page q.offset q.limit) := by
  unfold runQuery Compiled.unlimited
  cases matching q.filters rows with
  | error e => rfl
  | ok hit =>
    change (sort hit q.orders >>= fun _ => _) = Except.map _ (sort hit q.orders >>= fun _ => _)
    cases sort hit q.orders with
    | error e => rfl
    | ok sorted =>
      change (project q.projection sorted >>= fun _ => _) =
        Except.map _ (project q.projection sorted >>= fun _ => _)
      cases project q.projection sorted <;> rfl

theorem run_unlimited (plain : q.aggregates = false) (ran : runQuery q rows = .ok answer) :
    let shown := (ordered q.orders (rows.filter (passes q.filters))).map q.shown
    runQuery q.unlimited rows = .ok (if q.distinct then firsts shown else shown) := by
  obtain ⟨hit, matched, ran⟩ := exists_of_bind ran
  obtain ⟨sorted, done, ran⟩ := exists_of_bind ran
  obtain ⟨outs, projected, -⟩ := exists_of_bind ran
  obtain ⟨-, rfl⟩ := matching_eq_ok matched
  obtain rfl := sort_eq_ok done
  have whole := runQuery_of_steps (q := q.unlimited) matched done projected
  obtain rfl := project_eq_shown plain projected
  rwa [dedup_eq_firsts] at whole

theorem getElem?_page (offset limit : Option UInt64) (rows : List Record) (i : Nat) :
    (page offset limit rows)[i]? =
      if limit.all (i < ·.toNat) then rows[(offset.map (·.toNat)).getD 0 + i]? else none := by
  cases limit with
  | none => exact List.getElem?_drop
  | some n =>
    rw [page, List.getElem?_take, List.getElem?_drop]
    simp only [Option.all_some, decide_eq_true_eq]

theorem page_some {offset : Nat} {limit : UInt64} (small : offset < UInt64.size)
    (rows : List Record) :
    page (some (UInt64.ofNat offset)) (some limit) rows = (rows.drop offset).take limit.toNat := by
  rw [page, Option.map_some, Option.getD_some, UInt64.toNat_ofNat_of_lt' small]

/-- The pages of one size, one after the other, are what the list starts with. -/
theorem flatten_slices {α : Type} (xs : List α) (size count : Nat) :
    ((List.range count).map fun number => (xs.drop (number * size)).take size).flatten =
      xs.take (count * size) := by
  induction count with
  | zero => rw [Nat.zero_mul, List.take_zero]; rfl
  | succ count ih =>
    rw [List.range_succ, List.map_append, List.flatten_append, ih, Nat.succ_mul, List.take_add,
      List.map_singleton, List.flatten_singleton]

/-- How many pages of a size make up so many rows. -/
def pageCount (size rows : Nat) : Nat := (rows + (size - 1)) / size

theorem le_pageCount_mul {size : Nat} (positive : 0 < size) (rows : Nat) :
    rows ≤ pageCount size rows * size := by
  have rest := Nat.div_add_mod (rows + (size - 1)) size
  have small := Nat.mod_lt (rows + (size - 1)) positive
  rw [pageCount, Nat.mul_comm]
  omega

theorem mul_lt_of_lt_pageCount {size rows number : Nat} (within : number < pageCount size rows) :
    number * size < rows := by
  have positive : 0 < size := by
    by_contra none
    rw [Nat.eq_zero_of_not_pos none, pageCount, Nat.div_zero] at within
    exact Nat.not_lt_zero number within
  have enough := (Nat.le_div_iff_mul_le positive).mp (Nat.succ_le_of_lt within)
  rw [Nat.succ_mul] at enough
  omega

end

end Memory

/-- The query for the page of a number, counted from zero, where pages have a size. -/
def Compiled.paged (q : Compiled) (size : UInt64) (number : Nat) : Compiled :=
  { q with offset := some (UInt64.ofNat (number * size.toNat)), limit := some size }

namespace Memory

section

variable {s : Store} {scope : Scope} {table : String} {q : Compiled} {ts : Tables} {t : Table}
  {answer : List Record}

/-- Where the rows carry the columns of their table, it matters only which values they hold. -/
theorem Table.Whole.sortable (whole : t.Whole) {orders : List Compiled.Order}
    {rows : List Record} (stored : ∀ row ∈ rows, row ∈ t.rows)
    (families : ∀ o ∈ orders, ∃ family : Value.Family, ∀ row ∈ rows, family.Holds (o.value row)) :
    Sortable orders rows := by
  intro o member
  obtain ⟨family, holds⟩ := families o member
  refine ⟨family, holds, ?_⟩
  have known : ∀ row ∈ rows, o.carriedBy row = (o.column.asColumn?.any (t.hasColumn ·.name)) := by
    intro row inRows
    unfold Compiled.Order.carriedBy columnValue
    cases o.column.asColumn? with
    | none => rfl
    | some i =>
      simp only [Option.any_some, ← whole row (stored row inRows) i.name]
      split
      next v held => rw [held]; rfl
      next lacks => rw [lacks]; rfl
  intro a inA b inB
  rw [known a inA, known b inB]

theorem select_of_table (tables : s.tablesOf scope = .ok ts) (found : ts.get? table = some t)
    (supported : checkSupported q = .ok ()) :
    (s.perform scope (.select table q)).1 = runQuery q t.rows := by
  rw [Store.perform_select, tables]
  change (checkSupported q >>= fun _ => ts.get table >>= fun t => runQuery q t.rows) = _
  rw [supported, Tables.get_eq_ok.mpr found]
  rfl

theorem supported_of_select (tables : s.tablesOf scope = .ok ts)
    (selected : (s.perform scope (.select table q)).1 = .ok answer) :
    checkSupported q = .ok () := by
  rw [Store.perform_select, tables] at selected
  obtain ⟨_, same, selected⟩ := exists_of_bind selected
  obtain ⟨_, supported, -⟩ := exists_of_bind selected
  exact supported

/-- Where every slice of a list is answered, the pages of any size make up the list. -/
theorem exists_pages {whole : List Record} (tables : s.tablesOf scope = .ok ts)
    (found : ts.get? table = some t) (supported : checkSupported q = .ok ())
    (slices : ∀ offset limit, runQuery { q with offset := offset, limit := limit } t.rows =
      .ok (page offset limit whole))
    {size : UInt64} (positive : 0 < size) (small : whole.length ≤ UInt64.size) :
    ∃ pages, (List.range (pageCount size.toNat whole.length)).mapM (fun number =>
      (s.perform scope (.select table (q.paged size number))).1) = .ok pages ∧
      pages.flatten = whole := by
  have each : ∀ number ∈ List.range (pageCount size.toNat whole.length),
      (s.perform scope (.select table (q.paged size number))).1 =
        .ok ((whole.drop (number * size.toNat)).take size.toNat) := by
    intro number within
    have below := Nat.lt_of_lt_of_le (mul_lt_of_lt_pageCount (List.mem_range.mp within)) small
    rw [← page_some below]
    exact (select_of_table (q := q.paged size number) tables found supported).trans (slices _ _)
  refine ⟨_, (mapM_congr each).trans (List.mapM_pure ..), ?_⟩
  rw [flatten_slices]
  exact List.take_of_length_le (le_pageCount_mul (UInt64.lt_iff_toNat_lt.mp positive) _)

/-- What a selection without aggregates answers, where each column by which it orders holds null
or values of one family in the rows that satisfy the filters: a slice of all that the query shows of
these rows in their one order, in which ties stand as they are stored; where the query is
distinct, of the first occurrences of what it shows. Without offset and limit it answers the
whole, and the pages of any size, one after the other, are the whole. -/
theorem selected_in_order (tables : s.tablesOf scope = .ok ts) (found : ts.get? table = some t)
    (plain : q.aggregates = false)
    (sortable : Sortable q.orders (t.rows.filter (passes q.filters)))
    (selected : (s.perform scope (.select table q)).1 = .ok answer) :
    (∀ row ∈ t.rows, satisfiesAll row q.filters = .ok (passes q.filters row)) ∧
    ∃ sorted,
      (∀ other, SortedBy q.orders (t.rows.filter (passes q.filters)) other ↔ other = sorted) ∧
      let shown := sorted.map fun x => q.shown x.1
      let whole := if q.distinct then firsts shown else shown
      (∀ i, answer[i]? = if q.limit.all (i < ·.toNat) then
        whole[(q.offset.map (·.toNat)).getD 0 + i]? else none) ∧
      (s.perform scope (.select table q.unlimited)).1 = .ok whole ∧
      ∀ size : UInt64, 0 < size → whole.length ≤ UInt64.size →
        ∃ pages, (List.range (pageCount size.toNat whole.length)).mapM (fun number =>
          (s.perform scope (.select table (q.paged size number))).1) = .ok pages ∧
          pages.flatten = whole := by
  have supported := supported_of_select tables selected
  have ran : runQuery q t.rows = .ok answer :=
    (select_of_table tables found supported).symm.trans selected
  obtain ⟨sorted, order, rows⟩ := exists_sortedBy sortable
  obtain ⟨hit, matched, -⟩ := exists_of_bind ran
  have unlimited := run_unlimited plain ran
  rw [← rows, List.map_map] at unlimited
  have slices (offset limit : Option UInt64) :
      runQuery { q with offset := offset, limit := limit } t.rows = .ok (page offset limit _) :=
    (runQuery_eq_page _ t.rows).trans (congrArg (Except.map _) unlimited)
  have slice := Except.ok.inj (ran.symm.trans (slices q.offset q.limit))
  refine ⟨(matching_eq_ok matched).1, sorted, ?_, ?_, ?_, ?_⟩
  · intro other
    exact ⟨fun h => h.unique order, fun same => same ▸ order⟩
  · intro i
    rw [slice, getElem?_page]
    rfl
  · exact (select_of_table (q := q.unlimited) tables found supported).trans unlimited
  · intro size positive small
    exact exists_pages tables found supported slices positive small

end

/-- The columns of a table of files. -/
def fileFields : List Field :=
  [Field.ofType "n" .bigInt, { Field.ofType "owner" .text with nullable := true }]

/-- Files with their owners: the second has none, and that of the third is an identifier. -/
def files : List Record :=
  [.ofPairs [("n", .int 1), ("owner", .text "b")], .ofPairs [("n", .int 2), ("owner", .null)],
    .ofPairs [("n", .int 3), ("owner", .uuid .nil)], .ofPairs [("n", .int 4), ("owner", .text "b")]]

/-- A table with the files. -/
def filed : Store :=
  Step.after ∅ [.ask .direct (.createTable ⟨"files", fileFields⟩),
    .ask .direct (.insert "files" files [])]

/-- The second and the third of the different owners, the greatest of whom comes first. -/
def owners : Compiled :=
  { Compiled.filtered [] with
    projection := [.term (.column ⟨[.plain "owner"]⟩)]
    orders := [⟨.term (.column ⟨[.plain "owner"]⟩), .desc⟩]
    offset := some 1
    limit := some 2
    distinct := true }

theorem run_owners (offset limit : Option UInt64) :
    runQuery { owners with offset := offset, limit := limit } files =
      .ok (page offset limit [.ofPairs [("owner", .null)], .ofPairs [("owner", .text "b")],
        .ofPairs [("owner", .uuid .nil)]]) := by
  have sorted : sort files owners.orders =
      .ok [.ofPairs [("n", .int 2), ("owner", .null)],
        .ofPairs [("n", .int 1), ("owner", .text "b")],
        .ofPairs [("n", .int 4), ("owner", .text "b")],
        .ofPairs [("n", .int 3), ("owner", .uuid .nil)]] := by
    change Except.ok (files.mergeSort (notBehind owners.orders)) = _
    simp +decide [files, List.mergeSort, List.MergeSort.Internal.splitInTwo]
  exact runQuery_of_steps (q := { owners with offset := offset, limit := limit }) rfl sorted rfl

/-- The missing owner is in front of the others, a text is compared with an identifier by its
text, and an owner of two files is shown once. -/
theorem owners_selected_in_order :
    ∃ ts t, filed.tablesOf .direct = .ok ts ∧ ts.get? "files" = some t ∧
      owners.aggregates = false ∧
      Sortable owners.orders (t.rows.filter (passes owners.filters)) ∧
      (filed.perform .direct (.select "files" owners)).1 =
        .ok [.ofPairs [("owner", .text "b")], .ofPairs [("owner", .uuid .nil)]] ∧
      ∃ pages, (List.range 2).mapM (fun number =>
          (filed.perform .direct (.select "files" (owners.paged 2 number))).1) = .ok pages ∧
        pages.flatten = [.ofPairs [("owner", .null)], .ofPairs [("owner", .text "b")],
          .ofPairs [("owner", .uuid .nil)]] := by
  obtain ⟨ts, t, answers, inserted, tables, found⟩ : ∃ ts t answers,
      (Table.ofFields fileFields).insert "files" files [] = .ok (t, answers) ∧
        filed.tablesOf .direct = .ok ts ∧ ts.get? "files" = some t :=
    ⟨_, _, _, rfl, rfl, rfl⟩
  have rows : t.rows = files :=
    congrArg (·.1.rows) (Except.ok.inj inserted).symm
  have whole : t.Whole := by
    refine Table.Whole.insert (t := .ofFields fileFields) ?_ ?_ inserted
    · exact fun row member => nomatch member
    · exact nofun
  have sortable : Sortable owners.orders (t.rows.filter (passes owners.filters)) := by
    refine whole.sortable (fun _ => List.mem_of_mem_filter) ?_
    simp only [owners, List.forall_mem_singleton]
    refine ⟨.text, fun row member => ?_⟩
    have file : row ∈ files := rows ▸ List.mem_of_mem_filter member
    simp only [files, List.mem_cons, List.not_mem_nil, or_false] at file
    rcases file with rfl | rfl | rfl | rfl
    · exact .text "b"
    · exact .null
    · exact .uuid .nil
    · exact .text "b"
  have selected : (filed.perform .direct (.select "files" owners)).1 = .ok _ :=
    (select_of_table tables found rfl).trans (rows ▸ run_owners (some 1) (some 2))
  have all : (filed.perform .direct (.select "files" owners.unlimited)).1 = .ok _ :=
    (select_of_table (q := owners.unlimited) tables found rfl).trans (rows ▸ run_owners none none)
  obtain ⟨-, sorted, -, -, unlimited, pages⟩ :=
    selected_in_order tables found rfl sortable selected
  rw [← Except.ok.inj (all.symm.trans unlimited)] at pages
  exact ⟨ts, t, tables, found, rfl, sortable, selected, pages 2 (by decide) (by decide)⟩

end Memory

end EntityStore
