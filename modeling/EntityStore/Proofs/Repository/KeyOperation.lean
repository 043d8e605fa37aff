import EntityStore.Proofs.Mutation
import EntityStore.Proofs.Repository.KeyColumn
import EntityStore.Proofs.Sql.Name
import EntityStore.Sample.Schema
import Mathlib.Data.List.Basic

/-!
# Operations on one key

What a successful update, partial update or deletion makes of the table of its entity: it acts
on the rows whose first key column compares as equal to the key, at least one, and on nothing
else. In a table with a key of one column that is exactly one row.
-/

namespace EntityStore

/-! ## The rows of a key -/

namespace Repository

/-- Whether the row is one of those that a key is looked for with. -/
def hits (column : String) (key : Value) (row : Record) : Bool :=
  (row.getD column).compare? key == some .eq

/-- The key is looked for in the first key column alone, by the identifier that it is spelled as. -/
theorem keyFilter_of_ident {info : EntityInfo} {field : Field} {column : Ident}
    (required : info.requirePrimaryKey = .ok field) (spelled : Query.ident field.column = .ok column)
    (key : Value) :
    keyFilter info key = if key.isNull then .error nullKey
      else .ok [.compare (.column column) .eq key] := by
  rw [keyFilter, required]
  change (if key.isNull then _ else Query.ident field.column >>= fun column =>
    pure [Predicate.compare (.column column) .eq key]) = _
  rw [spelled]
  rfl

theorem keyFilter_eq {info : EntityInfo} {field : Field}
    (required : info.requirePrimaryKey = .ok field) (plain : (Ident.Part.plain field.column).WellFormed)
    (key : Value) :
    keyFilter info key = if key.isNull then .error nullKey
      else .ok [.compare (.column ⟨[.plain field.column]⟩) .eq key] :=
  keyFilter_of_ident required (Query.ident_plain plain) key

theorem keyFilter_eq_ok {info : EntityInfo} {field : Field} {key : Value} {filters : List Predicate}
    (required : info.requirePrimaryKey = .ok field) (plain : (Ident.Part.plain field.column).WellFormed)
    (made : keyFilter info key = .ok filters) :
    filters = [.compare (.column ⟨[.plain field.column]⟩) .eq key] := by
  rw [keyFilter_eq required plain] at made
  split at made
  · cases made
  · cases made
    rfl

end Repository

namespace Memory

open Repository

variable {column : String} {key : Value} {rows : List Record} {ms : List (Record × Bool)}

theorem get?_of_columnValue {row : Record} {i : Ident} {v : Value}
    (present : columnValue row (.column i) = .ok v) : row.get? i.name = some v := by
  have asColumn : (ColumnExpr.column i).asColumn? = some i := rfl
  unfold columnValue at present
  rw [asColumn] at present
  dsimp only at present
  cases held : row.get? i.name with
  | none =>
    rw [held] at present
    cases present
  | some w =>
    rw [held] at present
    cases present
    rfl

theorem satisfiesAll_key {row : Record} {b : Bool}
    (judged : satisfiesAll row [.compare (.column ⟨[.plain column]⟩) .eq key] = .ok b) :
    b = hits column key row := by
  obtain ⟨found, first, rest⟩ := exists_of_bind judged
  obtain ⟨v, present, rfl⟩ := exists_of_map first
  have value : row.get? column = some v := get?_of_columnValue present
  have same : hits column key row = compares v .eq key := by
    rw [hits, Record.getD, value]
    rfl
  rw [same]
  cases verdict : compares v .eq key with
  | true =>
    rw [verdict] at rest
    cases rest
    rfl
  | false =>
    rw [verdict] at rest
    cases rest
    rfl

theorem marked_key
    (judged : marked [.compare (.column ⟨[.plain column]⟩) .eq key] rows = .ok ms) :
    ms = rows.map fun row => (row, hits column key row) := by
  obtain ⟨same, each⟩ := marked_eq_ok judged
  rw [← same, List.map_map]
  have pair : ∀ m ∈ ms, m = (m.1, hits column key m.1) := by
    intro m member
    exact Prod.ext rfl (satisfiesAll_key (each m member))
  exact (List.map_id ms).symm.trans (List.map_congr_left pair)

theorem exists_of_countMarked (some : countMarked (rows.map fun row => (row, hits column key row)) ≠ 0) :
    ∃ row ∈ rows, hits column key row = true := by
  refine Classical.byContradiction fun none => some ?_
  have zero : (rows.map fun row => (row, hits column key row)).countP (·.2) = 0 := by
    rw [List.countP_eq_zero]
    intro m member hit
    obtain ⟨row, inRows, rfl⟩ := List.mem_map.mp member
    exact none ⟨row, inRows, hit⟩
  rw [countMarked, zero]
  rfl

end Memory

/-! ## Runs that succeed -/

/-- Nothing is written in the step. -/
def Step.Reads : Step → Prop
  | .ask _ (.select ..) => True
  | _ => False

theorem Step.reads_select {scope : Scope} {table : String} {q : Compiled} :
    (Step.ask scope (.select table q)).Reads := trivial

section

variable {σ ε α β γ : Type}

namespace Mutation

theorem exists_of_runOn_bind {m : Mutation σ α β} {next : β → Mutation σ α γ} {e e' : α}
    {s s' : Session σ} {y : γ} (h : ((m >>= next).runOn e).run s = ((.ok y, e'), s')) :
    ∃ x left mid, (m.runOn e).run s = ((.ok x, left), mid) ∧
      ((next x).runOn left).run mid = ((.ok y, e'), s') := by
  obtain ⟨⟨result, left⟩, mid, ran⟩ : ∃ p mid, (m.runOn e).run s = (p, mid) := ⟨_, _, rfl⟩
  cases result with
  | error error =>
    rw [runOn_bind_error ran] at h
    cases h
  | ok x =>
    rw [runOn_bind_ok ran] at h
    exact ⟨x, left, mid, ran, h⟩

theorem exists_of_act {a : Action σ β} {next : β → Mutation σ α γ} {e e' : α} {s s' : Session σ}
    {y : γ} (h : ((act a >>= next).runOn e).run s = ((.ok y, e'), s')) :
    ∃ x mid, a.run.run s = (.ok x, mid) ∧
      ((next x).runOn e).run mid = ((.ok y, e'), s') := by
  obtain ⟨x, left, mid, ran, rest⟩ := exists_of_runOn_bind h
  rw [runOn_act (a := a) rfl] at ran
  obtain ⟨first, rfl⟩ := Prod.mk.inj ran
  obtain ⟨answered, rfl⟩ := Prod.mk.inj first
  exact ⟨x, _, Prod.ext answered rfl, rest⟩

theorem exists_of_early [Entity α] {point : HookPoint} {next : Unit → Mutation σ α γ} {e e' : α}
    {s s' : Session σ} {y : γ}
    (h : ((Repository.early point >>= next).runOn e).run s = ((.ok y, e'), s')) :
    ∃ mid, mid.store = s.store ∧
      ((next ()).runOn (Entity.hooks.at point e).2).run mid = ((.ok y, e'), s') := by
  obtain ⟨x, left, mid, ran, rest⟩ := exists_of_runOn_bind h
  have alone : ((Repository.early point : Mutation σ α Unit).runOn e).run s =
      ((Entity.hooks.at point).mapError (Repository.stopped point) e,
        s.note [.hook point (Entity.toRecord e)]) := rfl
  rw [alone] at ran
  obtain ⟨first, rfl⟩ := Prod.mk.inj ran
  have changed : (Entity.hooks.at point e).2 = left := congrArg Prod.snd first
  rw [← changed] at rest
  exact ⟨s.note _, rfl, rest⟩

end Mutation

end

namespace Memory

namespace Store

theorem next_of_reads {s : Store} {st : Step} (reads : st.Reads) : Step.next s st = s := by
  cases st with
  | ask scope r =>
    cases r with
    | select table q => exact congrArg (·.2) (s.perform_select scope table q)
    | _ => cases reads
  | _ => cases reads

end Store

variable {α β γ : Type}

/-- What only reads leaves the store. -/
theorem store_of_reads {m : StateM (Session Store) β} (reads : Takes Step.Reads m)
    {s s' : Session Store} {x : β} (ran : m.run s = (x, s')) : s'.store = s.store := by
  have leads := (reads s).1
  rw [ran] at leads
  refine leads.induction (I := (· = s.store)) ?_ rfl
  rintro _ st reading rfl
  exact Store.next_of_reads reading

/-- A request that is answered is answered by the store. -/
theorem perform_of_ask {scope : Scope} {r : Request β} {s s' : Session Store} {x : β}
    (ran : (Action.ask scope r).run.run s = (.ok x, s')) :
    s.store.perform scope r = (.ok x, s'.store) := by
  rw [run_ask] at ran
  obtain ⟨answered, rfl⟩ := Prod.mk.inj ran
  exact Prod.ext (ok_of_mapError answered) rfl

/-- A write that is said to have succeeded has found a row. -/
theorem of_affected {info : EntityInfo} {n : UInt64} {s s' : Session Store} {x : Unit}
    (ran : (Repository.affected info n : Action Store Unit).run.run s = (.ok x, s')) :
    n ≠ 0 ∧ s'.store = s.store := by
  refine ⟨?_, store_of_reads (Repository.takes_affected n) ran⟩
  rintro rfl
  cases ran

end Memory

/-! ## Operations -/

/-- An operation on the rows of one key. -/
inductive KeyOperation (α : Type) where
  | update (e : α)
  | updatePartial (key : Value) (given : Record)
  | delete (key : Value)

namespace KeyOperation

open Repository Memory

variable {σ α : Type} [Entity α]

def run [Store σ] (repo : Repository α) :
    KeyOperation α → StateM (Session σ) (Except Error Unit)
  | .update e => Prod.fst <$> repo.update.runOn e
  | .updatePartial key given => (repo.updatePartial key given).run
  | .delete key => (repo.delete key).run

/-- The entity that an update writes: what its hook has made of the one that was given. -/
def saved (e : α) : α := (Entity.hooks.beforeUpdate e).2

def key : KeyOperation α → Value
  | .update e => Entity.primaryKey (saved e)
  | .updatePartial key _ | .delete key => key

/-- What is set on a row. -/
def changes (field : Field) : KeyOperation α → Record
  | .update e => (Entity.toRecord (saved e)).remove field.column
  | .updatePartial _ given => ((resolveChanges (Entity.info α) given).toOption).getD ∅
  | .delete _ => ∅

def removes : KeyOperation α → Bool
  | .delete _ => true
  | _ => false

/-- What becomes of a row. -/
def outcome (op : KeyOperation α) (field : Field) (row : Record) : Option Record :=
  if hits field.column op.key row then
    if op.removes then none else some (row.setAll (op.changes field).entries)
  else some row

/-- The write that the operation asks for. -/
def request (op : KeyOperation α) (field : Field) (filters : List Predicate) : Request UInt64 :=
  if op.removes then .delete (Entity.info α).table filters
  else .update (Entity.info α).table (op.changes field) filters

/-- Updates and deletions are not counted. -/
theorem perform_request (op : KeyOperation α) (field : Field) (filters : List Predicate)
    (s : Memory.Store) (scope : Scope) :
    s.perform scope (op.request field filters) = s.answer scope (op.request field filters) := by
  unfold request
  split <;> rfl

theorem outcome_of_not_hit {op : KeyOperation α} {field : Field} {row : Record}
    (apart : hits field.column op.key row = false) : op.outcome field row = some row := by
  rw [outcome, apart]
  rfl

/-- A column that is not among the changes keeps its value. -/
theorem get?_of_outcome {op : KeyOperation α} {field : Field} {row row' : Record} {column : String}
    (same : op.outcome field row = some row') (unnamed : column ∉ (op.changes field).columns) :
    row'.get? column = row.get? column := by
  unfold outcome at same
  split at same
  · split at same
    · cases same
    · cases same
      refine Record.get?_setAll_of_notMem ?_
      rintro p member rfl
      exact unnamed (List.mem_map_of_mem member)
  · cases same
    rfl

theorem performed_update {repo : Repository α} {e e' : α} {s s' : Session Memory.Store}
    {field : Field} (required : (Entity.info α).requirePrimaryKey = .ok field)
    (done : (repo.update.runOn e).run s = ((.ok (), e'), s')) :
    ∃ filters n, keyFilter (Entity.info α) (Entity.primaryKey (saved e)) = .ok filters ∧ n ≠ 0 ∧
      s.store.perform repo.scope (.update (Entity.info α).table
        ((Entity.toRecord (saved e)).remove field.column) filters) = (.ok n, s'.store) ∧
      e' = (Entity.hooks.afterUpdate (saved e)).2 := by
  -- the check and the hook before the write leave the store
  obtain ⟨s₁, kept₁, ran⟩ := Mutation.exists_of_early done
  obtain ⟨s₂, kept₂, ran⟩ := Mutation.exists_of_early ran
  have entity : (Entity.hooks.at .beforeUpdate (Entity.hooks.at .validate e).2).2 = saved e := rfl
  rw [entity] at ran
  obtain ⟨_, _, s₃, got, ran⟩ := Mutation.exists_of_runOn_bind ran
  cases got
  obtain ⟨_, s₃, found, ran⟩ := Mutation.exists_of_act ran
  rw [required] at found
  cases found
  obtain ⟨filters, s₃, made, ran⟩ := Mutation.exists_of_act ran
  rw [run_ofExcept] at made
  obtain ⟨looked, rfl⟩ := Prod.mk.inj made
  obtain ⟨_, s₃, logged, ran⟩ := Mutation.exists_of_act ran
  cases logged
  obtain ⟨n, s₄, asked, ran⟩ := Mutation.exists_of_act ran
  have wrote := perform_of_ask asked
  -- so do the steps behind it
  obtain ⟨_, s₅, counted, ran⟩ := Mutation.exists_of_act ran
  obtain ⟨positive, kept₃⟩ := of_affected counted
  have late := (Repository.run_late repo .afterUpdate _ s₅).symm.trans ran
  obtain ⟨changed, rfl⟩ := Prod.mk.inj late
  obtain ⟨-, rfl⟩ := Prod.mk.inj changed
  refine ⟨filters, n, looked, positive, ?_, rfl⟩
  change _ = (_, s₅.store)
  rw [← kept₁, ← kept₂, kept₃]
  exact wrote

theorem performed_updatePartial {repo : Repository α} {key : Value} {given : Record}
    {s s' : Session Memory.Store} (done : (repo.updatePartial key given).run.run s = (.ok (), s')) :
    ∃ changes filters n, resolveChanges (Entity.info α) given = .ok changes ∧
      keyFilter (Entity.info α) key = .ok filters ∧ n ≠ 0 ∧
      s.store.perform repo.scope (.update (Entity.info α).table changes filters) =
        (.ok n, s'.store) := by
  obtain ⟨changes, resolved, ran⟩ := exists_of_run_ofExcept done
  obtain ⟨filters, looked, ran⟩ := exists_of_run_ofExcept ran
  obtain ⟨_, s₁, logged, ran⟩ := exists_of_run_bind ran
  cases logged
  obtain ⟨n, s₂, asked, counted⟩ := exists_of_run_bind ran
  have wrote := perform_of_ask asked
  obtain ⟨positive, kept⟩ := of_affected counted
  refine ⟨changes, filters, n, resolved, looked, positive, ?_⟩
  rw [kept]
  exact wrote

theorem performed_delete {repo : Repository α} {key : Value} {s s' : Session Memory.Store}
    (done : (repo.delete key).run.run s = (.ok (), s')) :
    ∃ filters n, keyFilter (Entity.info α) key = .ok filters ∧ n ≠ 0 ∧
      s.store.perform repo.scope (.delete (Entity.info α).table filters) = (.ok n, s'.store) := by
  obtain ⟨filters, looked, ran⟩ := exists_of_run_ofExcept done
  -- one row is fetched for the hooks, whatever is deleted
  obtain ⟨row, s₁, fetched, ran⟩ := exists_of_run_bind ran
  have kept₁ : s₁.store = s.store :=
    store_of_reads (Attempt.takes_fetchOne Step.reads_select) fetched
  obtain ⟨e, decoded, ran⟩ := exists_of_run_ofExcept ran
  obtain ⟨e', s₂, hooked, ran⟩ := exists_of_run_bind ran
  have kept₂ : s₂.store = s₁.store :=
    store_of_reads (Mutation.takes_changed (takes_early .beforeDelete) e) hooked
  obtain ⟨_, s₃, logged, ran⟩ := exists_of_run_bind ran
  cases logged
  obtain ⟨n, s₄, asked, ran⟩ := exists_of_run_bind ran
  have wrote := perform_of_ask asked
  obtain ⟨_, s₅, counted, ran⟩ := exists_of_run_bind ran
  obtain ⟨positive, kept₃⟩ := of_affected counted
  obtain ⟨_, s₆, late, ran⟩ := exists_of_run_bind ran
  have kept₄ : s₆.store = s₅.store :=
    store_of_reads (Mutation.takes_changed (repo.takes_late .afterDelete) e') late
  cases ran
  refine ⟨filters, n, looked, positive, ?_⟩
  rw [← kept₁, ← kept₂, kept₄, kept₃]
  exact wrote

/-- The operation succeeds only if the store does the write, on some rows, and nothing else. -/
theorem performed {repo : Repository α} {op : KeyOperation α} {s s' : Session Memory.Store}
    {field : Field} (required : (Entity.info α).requirePrimaryKey = .ok field)
    (done : (op.run repo).run s = (.ok (), s')) :
    ∃ filters n, keyFilter (Entity.info α) op.key = .ok filters ∧ n ≠ 0 ∧
      s.store.perform repo.scope (op.request field filters) = (.ok n, s'.store) := by
  cases op with
  | update e =>
    obtain ⟨⟨result, e'⟩, final, ran⟩ : ∃ p final, (repo.update.runOn e).run s = (p, final) :=
      ⟨_, _, rfl⟩
    have outer : (Prod.fst <$> repo.update.runOn e : StateM (Session Memory.Store) _).run s =
        (result, final) := by
      rw [StateT.run_map, ran]
      rfl
    rw [run, outer] at done
    obtain ⟨rfl, rfl⟩ := Prod.mk.inj done
    obtain ⟨filters, n, looked, positive, wrote, -⟩ := performed_update required ran
    exact ⟨filters, n, looked, positive, wrote⟩
  | updatePartial key given =>
    obtain ⟨set, filters, n, resolved, looked, positive, wrote⟩ := performed_updatePartial done
    have changes : (KeyOperation.updatePartial key given : KeyOperation α).changes field = set := by
      rw [KeyOperation.changes, resolved]
      rfl
    refine ⟨filters, n, looked, positive, ?_⟩
    rw [request, changes]
    exact wrote
  | delete key => exact performed_delete done

theorem filterMap_outcome_of_update {op : KeyOperation α} (field : Field) (sets : op.removes = false)
    (rows : List Record) :
    rows.filterMap (op.outcome field) =
      (rows.map fun row => (row, hits field.column op.key row)).map fun m =>
        if m.2 then m.1.setAll (op.changes field).entries else m.1 := by
  rw [List.map_map, ← List.filterMap_eq_map]
  refine List.filterMap_congr fun row _ => ?_
  rw [outcome, sets]
  cases hit : hits field.column op.key row <;> simp [hit]

theorem filterMap_outcome_of_delete {op : KeyOperation α} (field : Field) (removes : op.removes = true)
    (rows : List Record) :
    rows.filterMap (op.outcome field) =
      ((rows.map fun row => (row, hits field.column op.key row)).filter fun m => !m.2).map (·.1) := by
  have same : (Prod.fst ∘ fun row => (row, hits field.column op.key row)) = id := rfl
  rw [List.filter_map, List.map_map, same, List.map_id, ← List.filterMap_eq_filter]
  refine List.filterMap_congr fun row _ => ?_
  rw [outcome, removes]
  cases hit : hits field.column op.key row <;> simp [Option.guard, hit]

/-- The write acts on the rows of the key, of which there is one. -/
theorem set_of_answer {op : KeyOperation α} {field : Field} {ts ts' : Tables} {n : UInt64}
    (positive : n ≠ 0)
    (answered : ts.answer
      (op.request field [.compare (.column ⟨[.plain field.column]⟩) .eq op.key]) = .ok (n, ts')) :
    ∃ t, ts.get? (Entity.info α).table = some t ∧
      (∃ row ∈ t.rows, hits field.column op.key row = true) ∧
      ts' = ts.set (Entity.info α).table { t with rows := t.rows.filterMap (op.outcome field) } := by
  unfold request at answered
  split at answered
  · rename_i removes
    obtain ⟨t, t', found, done, rfl⟩ := Tables.delete_of_answer answered
    obtain ⟨ms, judged, rfl, rfl⟩ := rows_of_delete done
    rw [marked_key judged] at positive ⊢
    rw [← filterMap_outcome_of_delete field removes]
    exact ⟨t, found, exists_of_countMarked positive, rfl⟩
  · rename_i sets
    obtain ⟨t, t', found, done, rfl⟩ := Tables.update_of_answer answered
    obtain ⟨ms, judged, rfl, rfl⟩ := rows_of_update done
    rw [marked_key judged] at positive ⊢
    rw [← filterMap_outcome_of_update field (eq_false_of_ne_true sets)]
    exact ⟨t, found, exists_of_countMarked positive, rfl⟩

/-- If no two rows are of the key, one is and the others are left. -/
theorem split_of_pairwise {op : KeyOperation α} {field : Field} {rows : List Record}
    (apart : rows.Pairwise fun a b => ¬((a.getD field.column).compare? op.key = some .eq ∧
      (b.getD field.column).compare? op.key = some .eq))
    (some : ∃ row ∈ rows, hits field.column op.key row = true) :
    ∃ front row back, rows = front ++ row :: back ∧ hits field.column op.key row = true ∧
      (∀ other ∈ front ++ back, hits field.column op.key other = false) ∧
      rows.filterMap (op.outcome field) = front ++ (op.outcome field row).toList ++ back := by
  obtain ⟨row, member, hit⟩ := some
  obtain ⟨front, back, rfl⟩ := List.append_of_mem member
  obtain ⟨-, behind, before⟩ := List.pairwise_append.mp apart
  have here : (row.getD field.column).compare? op.key = .some .eq := eq_of_beq hit
  have others : ∀ other ∈ front ++ back, hits field.column op.key other = false := by
    intro other place
    refine eq_false_of_ne_true fun same => ?_
    have there : (other.getD field.column).compare? op.key = .some .eq := eq_of_beq same
    rcases List.mem_append.mp place with inFront | inBack
    · exact before other inFront row List.mem_cons_self ⟨there, here⟩
    · exact (List.pairwise_cons.mp behind).1 other inBack ⟨here, there⟩
  have kept : ∀ part : List Record, (∀ other ∈ part, other ∈ front ++ back) →
      part.filterMap (op.outcome field) = part := by
    intro part within
    rw [List.filterMap_congr fun other place => outcome_of_not_hit (others other (within other place))]
    exact List.filterMap_some
  refine ⟨front, row, back, rfl, hit, others, ?_⟩
  rw [List.filterMap_append, List.filterMap_cons, kept front fun _ => List.mem_append_left back,
    kept back fun _ => List.mem_append_right front]
  cases op.outcome field row <;> simp

end KeyOperation

/-! ## Stores with entities -/

/-- The empty store after a repository has created its table and some entities in it. -/
def stocked {α : Type} [Entity α] (es : List α) : Session Memory.Store :=
  es.foldl (fun s e => (((Operation.create e).run .direct).run s).2)
    (((Operation.createTable : Operation α _).run .direct).run (.start ∅)).2

theorem written_stocked {α : Type} [Entity α] (key : Field) (es : List α) :
    Memory.Store.Written α key (stocked es).store := by
  have onward (es : List α) : ∀ s : Session Memory.Store, Memory.Store.Written α key s.store →
      Memory.Store.Written α key
        (es.foldl (fun s e => (((Operation.create e).run .direct).run s).2) s).store := by
    induction es with
    | nil => exact fun _ written => written
    | cons e es ih => exact fun s written => ih _ (written.run .direct (.create e) trivial)
  refine onward es _ ?_
  exact Memory.Store.Written.run (s := .start ∅) Memory.Store.written_empty .direct .createTable trivial

namespace Sample

def authors : List Author := [.ofCells (1, "Ann", ()), .ofCells (2, "Bob", ())]

def entries : List Sample.Entry := [.ofCells (1, 1, none, ()), .ofCells (1, 2, none, ())]

end Sample

/-! ## Effects -/

/-- A successful update, partial update or deletion by key changes or removes the rows of the
entity's table whose first key column compares as equal to the key, of which there is at least
one; the other rows, the order of the rows, the columns that the change does not name and the
other tables stay as they were. If the key is of one column, entities have values of its type
there, and only their repositories have written to the table, that is exactly one row, except
for a double that two integers round to. -/
theorem key_operation_rows {α : Type} [Entity α] (repo : Repository α) (op : KeyOperation α)
    {s s' : Session Memory.Store} {field : Field}
    (required : (Entity.info α).requirePrimaryKey = .ok field)
    (plain : (Ident.Part.plain field.column).WellFormed)
    (done : (op.run repo).run s = (.ok (), s')) :
    ∃ ts ts' t, s.store.tablesOf repo.scope = .ok ts ∧
      s'.store = s.store.setTables repo.scope ts' ∧
      ts.get? (Entity.info α).table = some t ∧
      ts'.get? (Entity.info α).table = some { t with rows := t.rows.filterMap (op.outcome field) } ∧
      (∀ name, name ≠ (Entity.info α).table → ts'.get? name = ts.get? name) ∧
      (∃ row ∈ t.rows, Repository.hits field.column op.key row = true) ∧
      (∀ row row' column, op.outcome field row = some row' →
        column ∉ (op.changes field).columns → row'.get? column = row.get? column) ∧
      (keyColumns (Entity.info α).fields = [field.column] →
        (∀ e : α, field.type.Admits ((Entity.toRecord e).getD field.column)) →
        Memory.Store.Written α field s.store → op.key.Unambiguous →
        ∃ front row back, t.rows = front ++ row :: back ∧
          Repository.hits field.column op.key row = true ∧
          (∀ other ∈ front ++ back, Repository.hits field.column op.key other = false) ∧
          t.rows.filterMap (op.outcome field) =
            front ++ (op.outcome field row).toList ++ back) := by
  obtain ⟨filters, n, looked, positive, performed⟩ := op.performed required done
  have filter := Repository.keyFilter_eq_ok required plain looked
  subst filter
  rw [KeyOperation.perform_request] at performed
  obtain ⟨ts, ts', tables, answered, stored⟩ := Memory.Store.answer_eq_ok performed
  obtain ⟨t, found, some, rfl⟩ := KeyOperation.set_of_answer positive answered
  refine ⟨ts, _, t, tables, stored, found, ?_, ?_, some, fun _ _ _ => KeyOperation.get?_of_outcome, ?_⟩
  · rw [Memory.Tables.get?_set, if_pos rfl]
  · intro name other
    rw [Memory.Tables.get?_set, if_neg (Ne.symm other)]
  · intro single typed written unambiguous
    have keyed := (written.holds required typed).tablesOf tables
    exact KeyOperation.split_of_pairwise (keyed.pairwise found single unambiguous) some

/-- Of two authors the one who is deleted is removed. -/
theorem author_deleted :
    ∃ (s : Session Memory.Store) (front back : List Record) (row : Record) (t t' : Memory.Table),
      ((KeyOperation.delete (.int 1) : KeyOperation Sample.Author).run .direct).run
          (stocked Sample.authors) = (.ok (), s) ∧
      (stocked Sample.authors).store.tables.get? "authors" = some t ∧ t.rows = front ++ row :: back ∧
      s.store.tables.get? "authors" = some t' ∧ t'.rows = front ++ back := by
  let id : Field := { (Field.ofType "id" .bigInt).asPrimaryKey with autoIncrement := true }
  have required : (Entity.info Sample.Author).requirePrimaryKey = .ok id := rfl
  have plain : (Ident.Part.plain "id").WellFormed :=
    ⟨'i', ['d'], by simp, rfl, List.all_eq_true.mp rfl⟩
  have succeeds : (((KeyOperation.delete (.int 1) : KeyOperation Sample.Author).run .direct).run
      (stocked Sample.authors)).1 = .ok () := by
    rw [KeyOperation.run, Repository.delete, Repository.keyFilter_eq required plain]
    rfl
  obtain ⟨s, done⟩ : ∃ s, ((KeyOperation.delete (.int 1) : KeyOperation Sample.Author).run
      .direct).run (stocked Sample.authors) = (.ok (), s) := ⟨_, Prod.ext succeeds rfl⟩
  obtain ⟨ts, ts', t, tables, stored, found, found', -, -, -, one⟩ :=
    key_operation_rows .direct _ required plain done
  cases tables
  obtain ⟨front, row, back, whole, hit, -, rest⟩ := one rfl
    (fun e => Layout.admits_key (l := Sample.author) (by decide) required (.inl rfl) e)
    (written_stocked id _) (Value.unambiguous_of_ne_float nofun)
  refine ⟨s, front, back, row, t, _, done, found, whole,
    (congrArg (·.tables.get? "authors") stored).trans found', ?_⟩
  rw [rest, KeyOperation.outcome, hit]
  exact congrArg (· ++ back) (List.append_nil front)

/-- A deletion by a key of two columns removes every row that agrees in the first of them. -/
theorem shelf_deleted :
    ∃ (key : Field) (s : Session Memory.Store) (t : Memory.Table),
      (Entity.info Sample.Entry).requirePrimaryKey = .ok key ∧
      (∀ f ∈ (Entity.info Sample.Entry).fields, f.primaryKey = true →
        f.type.IsKey ∧ (Ident.Part.plain f.column).WellFormed) ∧
      Memory.Store.Written Sample.Entry key (stocked Sample.entries).store ∧
      ((KeyOperation.delete (.int 1) : KeyOperation Sample.Entry).run .direct).run
          (stocked Sample.entries) = (.ok (), s) ∧
      (stocked Sample.entries).store.tables.get? "entries" = some t ∧ t.rows.length = 2 ∧
      (s.store.tables.get? "entries").map (·.rows) = some [] := by
  let shelf : Field := { (Field.ofType "shelf" .bigInt).asPrimaryKey with autoIncrement := true }
  have required : (Entity.info Sample.Entry).requirePrimaryKey = .ok shelf := rfl
  have plain : (Ident.Part.plain "shelf").WellFormed :=
    ⟨'s', ['h', 'e', 'l', 'f'], by simp, rfl, List.all_eq_true.mp rfl⟩
  have plain' : (Ident.Part.plain "slot").WellFormed :=
    ⟨'s', ['l', 'o', 't'], by simp, rfl, List.all_eq_true.mp rfl⟩
  refine ⟨shelf, _, _, required, ?_, written_stocked shelf _, Prod.ext ?_ rfl, rfl, rfl, ?_⟩
  · intro f member primary
    rcases List.mem_cons.mp member with rfl | member
    · exact ⟨.inl rfl, plain⟩
    · rcases List.mem_cons.mp member with rfl | member
      · exact ⟨.inl rfl, plain'⟩
      · cases List.mem_singleton.mp member
        cases primary
  · rw [KeyOperation.run, Repository.delete, Repository.keyFilter_eq required plain]
    rfl
  · rw [KeyOperation.run, Repository.delete, Repository.keyFilter_eq required plain]
    rfl

end EntityStore
