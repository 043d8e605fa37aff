import EntityStore.Proofs.Memory.Select

/-!
# Queries that name columns of their table

In rows that all list the columns of their table, a filter, a term of an order or a projection that
names only these columns has a value in every row. What is left to fail is what this store does not
support. The order checks its terms in the first row only, and that is enough for all rows.
-/

namespace EntityStore

/-- The expression names no columns but those of a list. -/
def ColumnExpr.Within (columns : List String) : ColumnExpr → Prop
  | .term (.column i) | .aggregate _ _ (.column i) => i.name ∈ columns
  | .term (.star _) | .aggregate _ _ (.star _) => True

mutual

def Predicate.Within (columns : List String) : Predicate → Prop
  | .compare c _ _ => c.Within columns
  | .all ps | .any ps => AllWithin columns ps

def Predicate.AllWithin (columns : List String) : List Predicate → Prop
  | [] => True
  | p :: ps => Within columns p ∧ AllWithin columns ps

end

/-- The query names no columns but those of a list where it filters, orders and projects. -/
structure Compiled.Within (columns : List String) (q : Compiled) : Prop where
  filters : Predicate.AllWithin columns q.filters
  orders : ∀ o ∈ q.orders, o.column.Within columns
  projection : ∀ c ∈ q.projection, c.Within columns

namespace Memory

/-! ## Supported outcomes -/

/-- The outcome is a value, or else the error that something is not supported. -/
def Supported {α : Type} (x : Except StoreError α) : Prop :=
  ∀ e, x = .error e → ∃ what, e = .unsupported what

section

variable {α β : Type} {x : Except StoreError α}

theorem supported_ok (a : α) : Supported (.ok a) := nofun

theorem supported_error (what : String) : Supported (.error (.unsupported what) : Except StoreError α) := by
  rintro e ⟨⟩
  exact ⟨what, rfl⟩

theorem Supported.bind (h : Supported x) {f : α → Except StoreError β}
    (rest : ∀ a, x = .ok a → Supported (f a)) : Supported (x >>= f) := by
  intro e failed
  rcases error_of_bind failed with first | ⟨a, value, later⟩
  · exact h e first
  · exact rest a value e later

theorem Supported.map (h : Supported x) (f : α → β) : Supported (x.map f) :=
  fun e failed => h e (map_eq_error.mp failed)

theorem supported_mapM {f : α → Except StoreError β} {as : List α}
    (each : ∀ a ∈ as, Supported (f a)) : Supported (as.mapM f) := by
  induction as with
  | nil => exact supported_ok []
  | cons a as ih =>
    obtain ⟨here, rest⟩ := List.forall_mem_cons.mp each
    rw [List.mapM_cons]
    exact here.bind fun b _ => (ih rest).bind fun bs _ => supported_ok (b :: bs)

theorem supported_forM {f : α → Except StoreError Unit} {as : List α}
    (each : ∀ a ∈ as, Supported (f a)) : Supported (as.forM f) := by
  induction as with
  | nil => exact supported_ok ()
  | cons a as ih =>
    obtain ⟨here, rest⟩ := List.forall_mem_cons.mp each
    exact here.bind fun _ _ => ih rest

theorem eq_ok_of_forM {f : α → Except StoreError Unit} {as : List α} (done : as.forM f = .ok ()) :
    ∀ a ∈ as, f a = .ok () := by
  induction as with
  | nil => exact nofun
  | cons a as ih =>
    obtain ⟨_, here, rest⟩ := exists_of_bind done
    exact List.forall_mem_cons.mpr ⟨here, ih rest⟩

theorem supported_foldlM {f : β → α → Except StoreError β} {as : List α}
    (each : ∀ a ∈ as, ∀ b, Supported (f b a)) (b : β) : Supported (as.foldlM f b) := by
  induction as generalizing b with
  | nil => exact supported_ok b
  | cons a as ih =>
    obtain ⟨here, rest⟩ := List.forall_mem_cons.mp each
    rw [List.foldlM_cons]
    exact (here b).bind fun c _ => ih rest c

end

/-! ## Single rows -/

section

variable {row : Record} {c : ColumnExpr}

/-- An expression has a value in a row if and only if it is a column that the row lists. -/
theorem exists_columnValue : (∃ v, columnValue row c = .ok v) ↔
    ∃ i : Ident, c.asColumn? = some i ∧ i.name ∈ row.columns := by
  unfold columnValue
  cases c.asColumn? with
  | none => exact iff_of_false nofun nofun
  | some i =>
    simp only [Option.some.injEq, exists_eq_left', Record.mem_columns]
    cases row.get? i.name with
    | none => exact iff_of_false nofun nofun
    | some v => exact iff_of_true ⟨v, rfl⟩ rfl

theorem supported_columnValue (within : c.Within row.columns) : Supported (columnValue row c) := by
  cases c with
  | aggregate func distinct arg => exact supported_error _
  | term t =>
    cases t with
    | star table => exact supported_error _
    | column i =>
      obtain ⟨v, value⟩ := (exists_columnValue (c := .column i)).mpr ⟨i, rfl, within⟩
      change Supported (columnValue row (.column i))
      rw [value]
      exact supported_ok v

mutual

theorem supported_satisfies : ∀ p, Predicate.Within row.columns p → Supported (satisfies row p)
  | .compare c op value, within => by
    rw [satisfies]
    exact (supported_columnValue within).map _
  | .all ps, within => by
    rw [satisfies]
    exact supported_satisfiesAll ps within
  | .any ps, within => by
    rw [satisfies]
    exact supported_satisfiesAny ps within

theorem supported_satisfiesAll :
    ∀ ps, Predicate.AllWithin row.columns ps → Supported (satisfiesAll row ps)
  | [], _ => supported_ok true
  | p :: ps, ⟨here, rest⟩ => by
    rw [satisfiesAll]
    refine (supported_satisfies p here).bind fun b _ => ?_
    split
    · exact supported_satisfiesAll ps rest
    · exact supported_ok false

theorem supported_satisfiesAny :
    ∀ ps, Predicate.AllWithin row.columns ps → Supported (satisfiesAny row ps)
  | [], _ => supported_ok false
  | p :: ps, ⟨here, rest⟩ => by
    rw [satisfiesAny]
    refine (supported_satisfies p here).bind fun b _ => ?_
    split
    · exact supported_ok true
    · exact supported_satisfiesAny ps rest

end

theorem supported_projectRow {projection : List ColumnExpr}
    (within : ∀ c ∈ projection, c.Within row.columns) : Supported (projectRow projection row) := by
  refine supported_foldlM (fun c member out => ?_) _
  have here := within c member
  unfold projectTerm
  split
  · exact supported_ok _
  · rename_i i
    obtain ⟨v, held⟩ := Option.isSome_iff_exists.mp (Record.mem_columns.mp here)
    rw [held]
    exact supported_ok _
  · exact supported_error _

end

/-! ## Rows that list the same columns -/

section

variable {columns : List String} {rows : List Record}

theorem supported_matching {filters : List Predicate} (listed : ∀ row ∈ rows, row.columns = columns)
    (within : Predicate.AllWithin columns filters) : Supported (matching filters rows) := by
  refine Supported.map (supported_mapM fun row member => ?_) _
  exact (supported_satisfiesAll filters (listed row member ▸ within)).map _

/-- Where the terms of an order have values in the first row, they have values in all rows. -/
theorem exists_value_of_checkOrders {orders : List Compiled.Order}
    (listed : ∀ row ∈ rows, row.columns = columns) (checked : checkOrders rows orders = .ok ()) :
    ∀ row ∈ rows, ∀ o ∈ orders, ∃ v, columnValue row o.column = .ok v := by
  cases rows with
  | nil => exact nofun
  | cons first rows =>
    intro row member o inOrders
    obtain ⟨v, value, -⟩ := exists_of_map (eq_ok_of_forM checked o inOrders)
    have here : ∃ v, columnValue first o.column = .ok v := ⟨v, value⟩
    obtain ⟨i, named, held⟩ := exists_columnValue.mp here
    rw [listed first List.mem_cons_self, ← listed row member] at held
    exact exists_columnValue.mpr ⟨i, named, held⟩

theorem supported_sort {orders : List Compiled.Order} (listed : ∀ row ∈ rows, row.columns = columns)
    (within : ∀ o ∈ orders, o.column.Within columns) : Supported (sort rows orders) := by
  refine Supported.bind ?_ fun _ _ => supported_ok _
  cases rows with
  | nil => exact supported_ok ()
  | cons first rows =>
    refine supported_forM fun o member => Supported.map ?_ _
    exact supported_columnValue (listed first List.mem_cons_self ▸ within o member)

theorem supported_aggregateTerm (listed : ∀ row ∈ rows, row.columns = columns) {c : ColumnExpr}
    (within : c.Within columns) : Supported (aggregateTerm rows c) := by
  cases c with
  | term t => exact supported_error _
  | aggregate func distinct arg =>
    have argument : Supported (argumentValues rows arg) := by
      cases arg with
      | star table => exact supported_ok _
      | column i =>
        refine Supported.bind (supported_mapM fun row member => ?_) fun vs _ => supported_ok _
        exact supported_columnValue (c := .column i) (listed row member ▸ within)
    refine argument.bind fun vs _ => Supported.bind ?_ fun v _ => supported_ok _
    unfold aggregateValue
    split <;> first | exact supported_ok _ | exact supported_error _

theorem supported_project {projection : List ColumnExpr}
    (listed : ∀ row ∈ rows, row.columns = columns)
    (within : ∀ c ∈ projection, c.Within columns) : Supported (project projection rows) := by
  unfold project
  split
  · exact supported_ok rows
  · split
    · refine Supported.map (Supported.map (supported_mapM fun c member => ?_) _) _
      exact supported_aggregateTerm listed (within c member)
    · exact supported_mapM fun row member => supported_projectRow (listed row member ▸ within)

theorem supported_runQuery {q : Compiled} (listed : ∀ row ∈ rows, row.columns = columns)
    (within : q.Within columns) : Supported (runQuery q rows) := by
  refine (supported_matching listed within.filters).bind fun hit matched => ?_
  have hits : ∀ row ∈ hit, row.columns = columns := by
    obtain ⟨-, rfl⟩ := matching_eq_ok matched
    exact fun row member => listed row (List.mem_filter.mp member).1
  refine (supported_sort hits within.orders).bind fun sorted done => ?_
  have inOrder : ∀ row ∈ sorted, row.columns = columns := by
    rw [sort_eq_ok done]
    exact fun row member => hits row ((ordered_perm _ _).mem_iff.mp member)
  exact (supported_project inOrder within.projection).bind fun shown _ => supported_ok _

end

end Memory

end EntityStore
