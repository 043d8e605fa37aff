import EntityStore.Proofs.Memory.Table
import EntityStore.Proofs.Record
import Mathlib.Data.List.Basic

/-!
# Selected rows

A query without aggregates answers with images of stored rows. `chosen` are the stored rows that
it picks, through filters, order, distinctness and page; `image` is what its projection makes of
one of them.
-/

namespace EntityStore

/-- Whether the query makes one row of all. -/
def Compiled.aggregates (q : Compiled) : Bool := q.projection.any (·.isAggregate)

/-- Whether the expression puts a column of rows in its projection of them. -/
def ColumnExpr.keeps (column : String) : ColumnExpr → Bool
  | .term (.star _) => true
  | .term (.column i) => i.name = column
  | .aggregate .. => false

/-- Whether the query answers with a column of the rows that it picks. -/
def Compiled.keeps (q : Compiled) (column : String) : Bool :=
  q.projection.isEmpty || q.projection.any (·.keeps column)

namespace Memory

/-! ## Filters -/

/-- Whether the filters are known to hold on a row. -/
def passes (filters : List Predicate) (row : Record) : Bool :=
  match satisfiesAll row filters with
  | .ok b => b
  | .error _ => false

theorem passes_of_ok {filters : List Predicate} {row : Record} {b : Bool}
    (judged : satisfiesAll row filters = .ok b) : passes filters row = b := by
  rw [passes, judged]

/-- Filters that come to an answer on all rows pick those that they hold on. -/
theorem matching_eq_ok {filters : List Predicate} {rows hit : List Record}
    (matched : matching filters rows = .ok hit) :
    (∀ row ∈ rows, satisfiesAll row filters = .ok (passes filters row)) ∧
      hit = rows.filter (passes filters) := by
  obtain ⟨ms, judged, rfl⟩ := exists_of_map matched
  obtain ⟨rfl, each⟩ := marked_eq_ok judged
  have marks : ∀ m ∈ ms, passes filters m.1 = m.2 := fun m member => passes_of_ok (each m member)
  constructor
  · intro row member
    obtain ⟨m, inMs, rfl⟩ := List.mem_map.mp member
    rw [marks m inMs]
    exact each m inMs
  · rw [List.filter_map]
    exact congrArg (List.map Prod.fst) (List.filter_congr fun m member => (marks m member).symm)

/-! ## Distinctness -/

section

variable {α β : Type}

/-- Elements of a list that stand for all of them: each is equal to no earlier one, and each that
is left out is equal to one of them. -/
structure Represents [BEq α] (kept xs : List α) : Prop where
  sublist : kept.Sublist xs
  apart : kept.Pairwise fun x y => (y == x) = false
  covered : ∀ x ∈ xs, x ∈ kept ∨ ∃ y ∈ kept, (x == y) = true

/-- Keeps the first of the elements whose images are equal. -/
def dedupBy [BEq β] (f : α → β) (xs : List α) : List α :=
  xs.foldl (fun kept x => if (kept.map f).contains (f x) then kept else kept ++ [x]) []

variable [BEq β]

theorem dedup_map (f : α → β) (xs : List α) : dedup (xs.map f) = (dedupBy f xs).map f := by
  have step (kept xs : List α) :
      (xs.map f).foldl (fun kept y => if kept.contains y then kept else kept ++ [y]) (kept.map f) =
        (xs.foldl (fun kept x => if (kept.map f).contains (f x) then kept else kept ++ [x])
          kept).map f := by
    induction xs generalizing kept with
    | nil => rfl
    | cons x xs ih =>
      rw [List.map_cons, List.foldl_cons, List.foldl_cons]
      by_cases seen : (kept.map f).contains (f x) = true
      · rw [if_pos seen, if_pos seen, ih]
      · rw [if_neg seen, if_neg seen, ← ih, List.map_append, List.map_singleton]
  exact step [] xs

theorem represents_append {kept xs : List β} {x : β} (h : Represents kept xs) :
    Represents (if kept.contains x then kept else kept ++ [x]) (xs ++ [x]) := by
  by_cases seen : kept.contains x = true
  · rw [if_pos seen]
    refine ⟨h.sublist.trans (List.sublist_append_left xs [x]), h.apart, ?_⟩
    intro y member
    rcases List.mem_append.mp member with before | last
    · exact h.covered y before
    · rw [List.mem_singleton.mp last]
      exact .inr (List.contains_iff_exists_mem_beq.mp seen)
  · rw [if_neg seen]
    refine ⟨h.sublist.append (List.Sublist.refl [x]), ?_, ?_⟩
    · rw [List.pairwise_append]
      refine ⟨h.apart, List.pairwise_singleton _ x, ?_⟩
      intro y member z last
      rw [List.mem_singleton.mp last]
      by_contra equal
      exact seen (List.contains_iff_exists_mem_beq.mpr ⟨y, member, Bool.of_not_eq_false equal⟩)
    · intro y member
      rcases List.mem_append.mp member with before | last
      · rcases h.covered y before with inKept | ⟨z, inKept, equal⟩
        · exact .inl (List.mem_append_left [x] inKept)
        · exact .inr ⟨z, List.mem_append_left [x] inKept, equal⟩
      · exact .inl (List.mem_append_right kept last)

theorem represents_dedup (xs : List β) : Represents (dedup xs) xs := by
  have run (xs before kept : List β) (h : Represents kept before) :
      Represents (xs.foldl (fun kept x => if kept.contains x then kept else kept ++ [x]) kept)
        (before ++ xs) := by
    induction xs generalizing before kept with
    | nil => rwa [List.append_nil]
    | cons x xs ih =>
      have rest := ih (before ++ [x]) _ (represents_append (x := x) h)
      rwa [List.append_assoc] at rest
  exact run xs [] [] ⟨List.Sublist.refl [], List.Pairwise.nil, nofun⟩

theorem mem_of_dedupBy {f : α → β} {xs : List α} {x : α} (member : x ∈ dedupBy f xs) : x ∈ xs := by
  have run (xs kept : List α) (member : x ∈ xs.foldl (fun kept x =>
      if (kept.map f).contains (f x) then kept else kept ++ [x]) kept) : x ∈ kept ∨ x ∈ xs := by
    induction xs generalizing kept with
    | nil => exact .inl member
    | cons y ys ih =>
      rcases ih _ member with early | late
      · dsimp only at early
        split at early
        · exact .inl early
        · rcases List.mem_append.mp early with before | here
          · exact .inl before
          · exact .inr (List.mem_cons.mpr (.inl (List.mem_singleton.mp here)))
      · exact .inr (List.mem_cons_of_mem y late)
  exact (run xs [] member).resolve_left List.not_mem_nil

end

/-! ## Order, projection and page -/

/-- The rows as the orders sort them. -/
def ordered (orders : List Compiled.Order) (rows : List Record) : List Record :=
  if orders.isEmpty then rows else rows.mergeSort fun a b => compareRows orders a b != .gt

theorem sort_eq_ok {orders : List Compiled.Order} {rows sorted : List Record}
    (done : sort rows orders = .ok sorted) : sorted = ordered orders rows := by
  obtain ⟨_, -, same⟩ := exists_of_bind done
  exact (Except.ok.inj same).symm

theorem sort_nil (rows : List Record) : sort rows [] = .ok rows := by
  cases rows <;> rfl

theorem ordered_perm (orders : List Compiled.Order) (rows : List Record) :
    (ordered orders rows).Perm rows := by
  unfold ordered
  split
  · exact List.Perm.refl rows
  · exact List.mergeSort_perm rows _

/-- What a projection without aggregates makes of a row that it can be applied to. -/
def image (projection : List ColumnExpr) (row : Record) : Record :=
  if projection.isEmpty then row
  else
    match projectRow projection row with
    | .ok out => out
    | .error _ => row

theorem image_of_ok {projection : List ColumnExpr} {row out : Record} (some : projection ≠ [])
    (done : projectRow projection row = .ok out) : image projection row = out := by
  rw [image, if_neg (by simpa using some), done]

theorem project_eq_ok {projection : List ColumnExpr} {rows out : List Record}
    (plain : projection.any (·.isAggregate) = false) (done : project projection rows = .ok out) :
    out = rows.map (image projection) ∧
      (projection ≠ [] → ∀ row ∈ rows,
        projectRow projection row = .ok (image projection row)) := by
  unfold project at done
  cases projection with
  | nil =>
    obtain rfl := Except.ok.inj done
    exact ⟨(List.map_id' rows).symm, fun h => absurd rfl h⟩
  | cons c cs =>
    have some : c :: cs ≠ [] := List.cons_ne_nil c cs
    rw [if_neg (by simp), plain, if_neg Bool.false_ne_true] at done
    have each := forall₂_of_mapM done
    clear done
    induction each with
    | nil => exact ⟨rfl, fun _ => nofun⟩
    | cons here _ ih =>
      have own := image_of_ok some here
      refine ⟨?_, ?_⟩
      · rw [List.map_cons, own, ih.1]
      · intro _ row member
        rcases List.mem_cons.mp member with rfl | member
        · rw [own]
          exact here
        · exact ih.2 some row member

section

variable {row out out' : Record} {column : String}

theorem get?_projectTerm {c : ColumnExpr} {kept : Bool} (distinct : row.columns.Nodup)
    (before : out.get? column = if kept then row.get? column else none)
    (done : projectTerm row out c = .ok out') :
    out'.get? column = if kept || c.keeps column then row.get? column else none := by
  cases c with
  | aggregate => cases done
  | term t =>
    cases t with
    | star =>
      cases done
      have entries : Record.ofPairs row.entries = row :=
        congrArg Record.mk (Record.entries_ofPairs distinct)
      rw [Record.get?_setAll_eq_or, entries, before, ColumnExpr.keeps, Bool.or_true, if_pos rfl]
      cases row.get? column <;> cases kept <;> rfl
    | column i =>
      rw [projectTerm] at done
      split at done
      next v held =>
        cases done
        rw [Record.get?_set, before, ColumnExpr.keeps]
        by_cases here : i.name = column
        · rw [if_pos here, decide_eq_true here, Bool.or_true, if_pos rfl, ← here, held]
        · rw [if_neg here, decide_eq_false here, Bool.or_false]
      next => cases done

/-- A projected row holds what the row held in the columns that are kept, and nothing in others. -/
theorem get?_projectRow {projection : List ColumnExpr} (distinct : row.columns.Nodup)
    (done : projectRow projection row = .ok out) :
    out.get? column = if projection.any (·.keeps column) then row.get? column else none := by
  have run (kept : Bool) (start : Record)
      (before : start.get? column = if kept then row.get? column else none)
      (done : projection.foldlM (projectTerm row) start = .ok out) :
      out.get? column =
        if kept || projection.any (·.keeps column) then row.get? column else none := by
    clear * - distinct before done
    induction projection generalizing start kept with
    | nil =>
      cases done
      rw [List.any_nil, Bool.or_false]
      exact before
    | cons c cs ih =>
      obtain ⟨mid, here, rest⟩ := foldlM_cons_eq_ok.mp done
      rw [List.any_cons, ← Bool.or_assoc]
      exact ih _ mid (get?_projectTerm distinct before here) rest
  have all := run false .empty rfl done
  rwa [Bool.false_or] at all

end

theorem page_map (offset limit : Option UInt64) (f : Record → Record) (rows : List Record) :
    page offset limit (rows.map f) = (page offset limit rows).map f := by
  cases limit <;> simp [page, List.map_drop, List.map_take]

theorem mem_of_page {offset limit : Option UInt64} {rows : List Record} {row : Record}
    (member : row ∈ page offset limit rows) : row ∈ rows := by
  cases limit with
  | none => exact List.mem_of_mem_drop member
  | some n => exact List.mem_of_mem_drop (List.mem_of_mem_take member)

/-! ## Queries -/

theorem runQuery_of_steps {q : Compiled} {rows hit sorted shown : List Record}
    (matched : matching q.filters rows = .ok hit) (done : sort hit q.orders = .ok sorted)
    (projected : project q.projection sorted = .ok shown) :
    runQuery q rows =
      .ok (page q.offset q.limit (if q.distinct then dedup shown else shown)) := by
  simp only [runQuery, matched, done, projected, bind, Except.bind]
  rfl

/-- A query that only filters answers the rows that satisfy the filters. -/
theorem runQuery_filtered (filters : List Predicate) (rows : List Record) :
    runQuery (.filtered filters) rows = matching filters rows := by
  cases matched : matching filters rows with
  | error e =>
    unfold runQuery
    rw [show matching (Compiled.filtered filters).filters rows = .error e from matched]
    rfl
  | ok hit => exact runQuery_of_steps matched (sort_nil hit) rfl

/-- The stored rows that a query picks, in the order of its answer. -/
def chosen (q : Compiled) (rows : List Record) : List Record :=
  let hit := ordered q.orders (rows.filter (passes q.filters))
  page q.offset q.limit (if q.distinct then dedupBy (image q.projection) hit else hit)

theorem mem_ordered_of_chosen {q : Compiled} {rows : List Record} {row : Record}
    (member : row ∈ chosen q rows) :
    row ∈ ordered q.orders (rows.filter (passes q.filters)) := by
  have unpaged := mem_of_page member
  split at unpaged
  · exact mem_of_dedupBy unpaged
  · exact unpaged

theorem mem_of_chosen {q : Compiled} {rows : List Record} {row : Record}
    (member : row ∈ chosen q rows) : row ∈ rows ∧ passes q.filters row = true :=
  List.mem_filter.mp ((ordered_perm _ _).mem_iff.mp (mem_ordered_of_chosen member))

/-- What a query without aggregates answers are the images of the rows that it picks. -/
theorem runQuery_eq_ok {q : Compiled} {rows answer : List Record} (plain : q.aggregates = false)
    (ran : runQuery q rows = .ok answer) :
    answer = (chosen q rows).map (image q.projection) ∧
      (q.projection ≠ [] → ∀ row ∈ chosen q rows,
        projectRow q.projection row = .ok (image q.projection row)) := by
  obtain ⟨hit, matched, ran⟩ := exists_of_bind ran
  obtain ⟨sorted, done, ran⟩ := exists_of_bind ran
  obtain ⟨shown, projected, ran⟩ := exists_of_bind ran
  obtain rfl := Except.ok.inj ran
  obtain ⟨-, rfl⟩ := matching_eq_ok matched
  obtain rfl := sort_eq_ok done
  obtain ⟨rfl, each⟩ := project_eq_ok plain projected
  constructor
  · rw [chosen, ← page_map]
    split
    · rw [dedup_map]
    · rfl
  · intro some row member
    exact each some row (mem_ordered_of_chosen member)

/-- Of a picked row the query answers with the columns that it keeps. -/
theorem get?_image {q : Compiled} {rows answer : List Record} (plain : q.aggregates = false)
    (ran : runQuery q rows = .ok answer) {row : Record} (member : row ∈ chosen q rows)
    (distinct : row.columns.Nodup) (column : String) :
    (image q.projection row).get? column = if q.keeps column then row.get? column else none := by
  have applies := (runQuery_eq_ok plain ran).2
  unfold Compiled.keeps
  cases h : q.projection with
  | nil => rfl
  | cons c cs =>
    rw [h] at applies
    exact get?_projectRow distinct (applies (List.cons_ne_nil c cs) row member)

/-! ## One comparison -/

section

variable {i : Ident} {op : Operator} {v : Value}

/-- A comparison needs the row to carry the column, and looks at what it holds there. -/
theorem satisfiesAll_compare (row : Record) :
    satisfiesAll row [.compare (.column i) op v] =
      if (row.get? i.name).isSome then .ok (compares (row.getD i.name) op v)
      else .error (unknownColumn i.name) := by
  have asColumn : (ColumnExpr.column i).asColumn? = some i := rfl
  rw [satisfiesAll, satisfies, columnValue, asColumn]
  dsimp only
  rw [Record.getD]
  cases row.get? i.name with
  | none => rfl
  | some w =>
    change (if compares w op v then satisfiesAll row [] else .ok false) = _
    rw [satisfiesAll]
    cases verdict : compares w op v <;> simp [verdict]

theorem marked_compare (rows : List Record) :
    marked [.compare (.column i) op v] rows =
      if rows.all fun row => (row.get? i.name).isSome then
        .ok (rows.map fun row => (row, compares (row.getD i.name) op v))
      else .error (unknownColumn i.name) := by
  induction rows with
  | nil => rfl
  | cons row rows ih =>
    unfold marked at ih ⊢
    rw [List.mapM_cons, satisfiesAll_compare, ih, List.all_cons]
    cases (row.get? i.name).isSome with
    | false => rfl
    | true =>
      cases rows.all fun row => (row.get? i.name).isSome <;> rfl

theorem matching_compare (rows : List Record) :
    matching [.compare (.column i) op v] rows =
      if rows.all fun row => (row.get? i.name).isSome then
        .ok (rows.filter fun row => compares (row.getD i.name) op v)
      else .error (unknownColumn i.name) := by
  rw [matching, marked_compare]
  split
  · change Except.ok (((rows.map _).filter _).map _) = _
    rw [List.filter_map, List.map_map]
    exact congrArg Except.ok (List.map_id _)
  · rfl

/-- The rows of a table, if all of them carry the column. -/
def Tables.carrying (ts : Tables) (table column : String) : Except StoreError (List Record) := do
  let t ← ts.get table
  if t.rows.all fun row => (row.get? column).isSome then return t.rows
  else throw (unknownColumn column)

/-- What is selected by a comparison. -/
theorem Tables.select_compare (ts : Tables) (table : String) :
    ts.select table (.filtered [.compare (.column i) op v]) =
      (ts.carrying table i.name).map
        fun rows => rows.filter fun row => compares (row.getD i.name) op v := by
  rw [Tables.select, Tables.carrying]
  change (ts.get table >>= fun t => runQuery _ t.rows) = _
  cases ts.get table with
  | error e => rfl
  | ok t =>
    change runQuery _ t.rows = Except.map _ (if _ then _ else _)
    rw [runQuery_filtered, matching_compare]
    split <;> rfl

end

end Memory

end EntityStore
