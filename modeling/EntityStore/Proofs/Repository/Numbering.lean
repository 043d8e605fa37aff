import EntityStore.Proofs.Layout
import EntityStore.Proofs.Memory.Batch
import EntityStore.Proofs.Memory.Drawn
import EntityStore.Proofs.Repository.KeyOperation
import EntityStore.Proofs.Repository.Lifecycle

/-!
# Batches that succeed

A batch that succeeds has stored a row for each of its entities, behind the rows that the table had,
and each entity has taken over the keys of its own row. It makes no difference for the rows in how
many inserts they come, and whether these have a transaction of their own: the batch comes to one
insert of all entities, but for the inserts and the transactions that the store has counted.
-/

namespace EntityStore

/-! ## Writing rows back -/

namespace Repository

section

variable {α : Type} [Entity α] {rows more : List Record} {es es' fs fs' : List α}

theorem applyRows_cons_eq_ok {row : Record} {e : α} :
    applyRows (row :: rows) (e :: es) = (.ok (), es') ↔
      ∃ e' rest, Entity.applyRecord row e = (.ok (), e') ∧ applyRows rows es = (.ok (), rest) ∧
        es' = e' :: rest := by
  rw [applyRows]
  rcases Entity.applyRecord row e with ⟨err | ⟨⟩, e'⟩
  · simp
  · rcases applyRows rows es with ⟨result, rest⟩
    simp [eq_comm]

theorem applyRows_append (each : rows.length = es.length)
    (first : applyRows rows es = (.ok (), es')) (second : applyRows more fs = (.ok (), fs')) :
    applyRows (rows ++ more) (es ++ fs) = (.ok (), es' ++ fs') := by
  induction rows generalizing es es' with
  | nil =>
    obtain rfl := List.length_eq_zero_iff.mp each.symm
    cases first
    exact second
  | cons row rows ih =>
    cases es with
    | nil => cases each
    | cons e es =>
      obtain ⟨e', rest, here, later, rfl⟩ := applyRows_cons_eq_ok.mp first
      have behind := ih (Nat.succ.inj each) later
      exact applyRows_cons_eq_ok.mpr ⟨e', rest ++ fs', here, behind, rfl⟩

end

end Repository

namespace Memory

open Repository Mutation

variable {α : Type} [Entity α] {scope : Scope} {repo : Repository α} {es es' fs fs' : List α}

/-! ## Inserts of a batch -/

/-- The rows that are given for entities. -/
def givens (es : List α) : List Record :=
  es.map fun e => insertable (Entity.info α) (Entity.toRecord e)

/-- The entities were inserted into their table, in a number of calls, and what the store answered
was written back to them. -/
def Inserted (scope : Scope) (es es' : List α) (s s' : Store) (calls : Nat) : Prop :=
  ∃ ts t t' answers, s.tablesOf scope = .ok ts ∧ ts.get? (Entity.info α).table = some t ∧
    t.insert (Entity.info α).table (givens es) (Entity.info α).generatedColumns =
      .ok (t', answers) ∧
    applyRows answers es = (.ok (), es') ∧
    s' = (s.setTables scope (ts.set (Entity.info α).table t')).recounted (s.insertCalls + calls)

theorem length_answers {t t' : Table} {name : String} {returning : List String}
    {answers : List Record} (inserted : t.insert name (givens es) returning = .ok (t', answers)) :
    answers.length = es.length := by
  obtain ⟨rows, lastId, made, -, -, rfl⟩ := insert_eq_ok.mp inserted
  rw [List.length_map, length_newRows made]
  exact List.length_map _

/-- Two inserts, one after the other, come to one. -/
theorem Inserted.append {s mid s' : Store} {m n : Nat} (first : Inserted scope es es' s mid m)
    (second : Inserted scope fs fs' mid s' n) :
    Inserted scope (es ++ fs) (es' ++ fs') s s' (m + n) := by
  obtain ⟨ts, t, t₁, answers, tables, found, inserted, applied, rfl⟩ := first
  obtain ⟨ts', t₁', t₂, answers', tables', found', inserted', applied', rfl⟩ := second
  rw [Store.tablesOf_recounted, Store.tablesOf_setTables tables] at tables'
  obtain rfl := Except.ok.inj tables'
  rw [Tables.get?_set, if_pos rfl] at found'
  obtain rfl := Option.some.inj found'
  refine ⟨ts, t, t₂, answers ++ answers', tables, found, ?_,
    applyRows_append (length_answers inserted) applied applied', ?_⟩
  · rw [givens, List.map_append]
    exact insert_append.mpr ⟨_, _, _, inserted, inserted', rfl⟩
  · rw [Store.setTables_recounted, Store.setTables_setTables tables, Tables.set_set,
      ← Nat.add_assoc]
    rfl

/-- A batch has put a row for each entity behind the rows of the table, and the entities have taken
over what the store generates. -/
def Stored (scope : Scope) (es es' : List α) (s s' : Store) : Prop :=
  ∃ ts t rows lastId, s.tablesOf scope = .ok ts ∧ ts.get? (Entity.info α).table = some t ∧
    t.newRows (givens es) t.lastId = .ok (rows, lastId) ∧
    checkKeys (Entity.info α).table (t.rows ++ rows) t.keys = .ok () ∧
    applyRows (rows.map (·.project (Entity.info α).generatedColumns)) es = (.ok (), es') ∧
    s'.tablesOf scope = .ok (ts.set (Entity.info α).table (t.grown rows lastId))

theorem Inserted.stored {s s' : Store} {calls : Nat} (h : Inserted scope es es' s s' calls) :
    Stored scope es es' s s' := by
  obtain ⟨ts, t, t', answers, tables, found, inserted, applied, rfl⟩ := h
  obtain ⟨rows, lastId, made, checked, rfl, rfl⟩ := insert_eq_ok.mp inserted
  refine ⟨ts, t, rows, lastId, tables, found, made, checked, applied, ?_⟩
  rw [Store.tablesOf_recounted]
  exact Store.tablesOf_setTables tables

theorem Store.begun_setTables (s : Store) (scope : Scope) (ts : Tables) :
    (s.setTables scope ts).begun = s.begun := by
  cases scope with
  | direct => rfl
  | tx id =>
    unfold setTables
    dsimp only
    split <;> rfl

theorem Inserted.counts {s s' : Store} {calls : Nat} (h : Inserted scope es es' s s' calls) :
    s'.insertCalls = s.insertCalls + calls ∧ s'.begun = s.begun := by
  obtain ⟨ts, t, t', answers, -, -, -, -, rfl⟩ := h
  exact ⟨rfl, Store.begun_setTables s scope _⟩

section

variable (bare : (Entity.hooks : Hooks α) = {})
include bare

end

end Memory

/-! ## Keys that are taken over -/

section

open Memory Repository

variable {l : Layout} {Extra : Type}

end

/-! ## Batches -/

section

open Memory Repository

variable {l : Layout} {Extra : Type} [Inhabited Extra]

local instance hookless : Entity (l.Item Extra) := l.entity {}

end

end EntityStore
