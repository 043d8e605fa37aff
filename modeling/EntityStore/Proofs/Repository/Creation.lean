import EntityStore.Proofs.Memory.Table
import EntityStore.Proofs.Mutation
import EntityStore.Proofs.Repository.Nesting

/-!
# Creations that fail

A creation that fails has left the committed tables as they were, with one exception: where one
write outside a transaction was enough, the store has kept the rows when what it answers cannot
be written back to the entities. Where more than one write was needed they share a transaction,
which is rolled back then as for any other failure.
-/

namespace EntityStore

variable {σ α : Type} [Entity α]

/-- One entity is inserted or a batch of them. -/
inductive Creation (α : Type) where
  | one (e : α)
  | batch (es : List α)

namespace Creation

def entities : Creation α → List α
  | .one e => [e]
  | .batch es => es

def run [Store σ] (repo : Repository α) : Creation α → StateM (Session σ) (Except Error Unit)
  | .one e => Prod.fst <$> repo.create.runOn e
  | .batch es => Prod.fst <$> repo.createBatch.runOn es

end Creation

/-! ## Before the write -/

namespace Repository

/-- The check and the hook that an entity goes through before it is inserted. -/
def readyOne : Edit Error α := (earlyEdit .validate).andThen (earlyEdit .beforeCreate)

/-- The checks of all entities, and then their hooks. -/
def readyAll : Edit Error (List α) :=
  (earlyEdit .validate).each.andThen (earlyEdit .beforeCreate).each

theorem readyAll_singleton (e : α) : readyAll [e] = ((readyOne e).1, [(readyOne e).2]) := by
  rw [readyAll, Edit.andThen, Edit.each_singleton, readyOne, Edit.andThen]
  rcases earlyEdit .validate e with ⟨err | ⟨⟩, e'⟩
  · rfl
  · exact Edit.each_singleton _ e'

theorem length_readyAll (es : List α) : (readyAll es).2.length = es.length :=
  Edit.length_andThen (Edit.length_each _) (Edit.length_each _) es

theorem edits_readyOne :
    (early .validate >>= fun _ => early .beforeCreate : Mutation σ α Unit).Edits readyOne :=
  (edits_early .validate).bind (edits_early .beforeCreate)

theorem edits_readyAll :
    (Mutation.each (early .validate) >>= fun _ => Mutation.each (early .beforeCreate) :
      Mutation σ (List α) Unit).Edits readyAll :=
  (edits_early .validate).each.bind (edits_early .beforeCreate).each

/-- The write of the rows of entities. -/
def insertion (es : List α) : Request (List Record) :=
  .insert (Entity.info α).table
    (es.map fun e => insertable (Entity.info α) (Entity.toRecord e))
    (Entity.info α).generatedColumns

/-- Of an insert of one entity the first answer counts, as in a batch of one. -/
theorem applyRows_singleton (row : Record) (rows : List Record) (e : α) :
    applyRows (row :: rows) [e] =
      let (result, e) := (Entity.applyRecord row).mapError StoreError.classify e
      (result, [e]) := by
  rw [applyRows, Edit.mapError]
  rcases Entity.applyRecord row e with ⟨err | ⟨⟩, e'⟩
  · rfl
  · cases rows <;> rfl

/-! ## A transaction for a batch -/

open Mutation in
/-- A batch in a transaction that could be opened ends as that transaction is ended, and its rows
are then what the writes made of them. -/
theorem runOn_insertInTransaction [Store σ] {s opened left after : Session σ}
    {id : Nat} {es es' : List α} {result answer : Except Error Unit}
    (starting : (Store.start {}).classified.run.run s = (.ok id, opened))
    (writing : ((insertBatch (.tx id)).runOn es).run opened = ((result, es'), left))
    (ending : (endBatch id result).run.run left = (answer, after)) :
    (insertInTransaction.runOn es).run s = ((answer, es'), after) := by
  have setting : ((set es' : Mutation σ (List α) PUnit).runOn es).run left =
      ((.ok (), es'), left) := rfl
  rw [insertInTransaction, runOn_bind_ok (runOn_act starting es),
    runOn_bind_ok (runOn_get es opened), runOn_bind_ok (runOn_act (run_lift writing) es)]
  dsimp only
  rw [runOn_bind_ok setting, runOn_act ending es']

end Repository

namespace Memory

open Repository Mutation

variable {β : Type} {s : Session Store} {ts ts' : Tables} {err : Error} {result : Except Error Unit}

/-! ## What a mutation comes to -/

/-- The mutation gives a result and leaves committed tables. -/
def Ends (m : Mutation Store β Unit) (e : β) (s : Session Store) (result : Except Error Unit)
    (ts : Tables) : Prop :=
  ∃ e' s', (m.runOn e).run s = ((result, e'), s') ∧ s'.store.tables = ts

section

variable {m : Mutation Store β Unit} {next : Unit → Mutation Store β Unit} {f : Edit Error β}
  {e e' : β}

theorem ends_edits (edits : m.Edits f) (e : β) (s : Session Store) :
    Ends m e s (f e).1 s.store.tables := by
  obtain ⟨events, ran⟩ := edits e s
  exact ⟨(f e).2, s.note events, ran, rfl⟩

theorem ends_bind_of_error (edits : m.Edits f) (stops : f e = (.error err, e')) :
    Ends (m >>= next) e s (.error err) s.store.tables := by
  obtain ⟨events, ran⟩ := edits e s
  rw [stops] at ran
  exact ⟨e', s.note events, runOn_bind_error ran, rfl⟩

/-- What follows an edit that succeeds starts with the store as it was. -/
theorem ends_bind_of_ok (edits : m.Edits f) (done : f e = (.ok (), e')) (s : Session Store) :
    ∃ s' : Session Store, s'.store = s.store ∧ ∀ result ts,
      Ends (next ()) e' s' result ts → Ends (m >>= next) e s result ts := by
  obtain ⟨events, ran⟩ := edits e s
  rw [done] at ran
  refine ⟨s.note events, rfl, ?_⟩
  intro result ts rest
  unfold Ends
  rw [runOn_bind_ok ran]
  exact rest

/-- Edits that cannot fail do not matter for what comes before them. -/
theorem Ends.bind_edits (h : Ends m e s result ts) {last : Mutation Store β Unit}
    (edits : last.Edits f) (succeeds : ∀ e, (f e).1 = .ok ()) :
    Ends (m >>= fun _ => last) e s result ts := by
  obtain ⟨e', s', ran, tables⟩ := h
  cases result with
  | error err => exact ⟨e', s', runOn_bind_error ran, tables⟩
  | ok _ =>
    obtain ⟨events, ran'⟩ := edits e' s'
    rw [← Prod.eta (f e'), succeeds e'] at ran'
    refine ⟨(f e').2, s'.note events, ?_, tables⟩
    rw [runOn_bind_ok ran, ran']

end

theorem ends_get {next : β → Mutation Store β Unit} {e : β} (h : Ends (next e) e s result ts) :
    Ends (get >>= next) e s result ts := by
  unfold Ends
  rw [runOn_bind_ok (runOn_get e s)]
  exact h

/-! ## One write -/

/-- What one write of entities comes to: the store refuses it, or it keeps the rows, and then its
answers are written back to the entities. -/
def written (ts : Tables) (es : List α) : Except Error Unit × Tables :=
  match ts.answer (insertion es) with
  | .error e => (.error e.classify, ts)
  | .ok (answers, ts') => ((applyRows answers es).1, ts')

theorem written_of_error {es : List α} {e : StoreError}
    (refused : ts.answer (insertion es) = .error e) : written ts es = (.error e.classify, ts) := by
  rw [written, refused]

theorem written_of_ok {es : List α} {answers : List Record}
    (answered : ts.answer (insertion es) = .ok (answers, ts')) :
    written ts es = ((applyRows answers es).1, ts') := by
  rw [written, answered]

theorem run_ask_of_perform {scope : Scope} {r : Request β} {answer : Except StoreError β}
    {left : Store} (performed : s.store.perform scope r = (answer, left)) :
    (Action.ask scope r).run.run s = (answer.mapError StoreError.classify,
      { s with store := left, journal := s.journal ++ [.asked r.verb] }) := by
  have reply : EntityStore.Store.perform scope r s.store = ⟨answer, left, []⟩ := by
    change (⟨(s.store.perform scope r).1, (s.store.perform scope r).2, []⟩ : Reply Store β) = _
    rw [performed]
  rw [run_ask, reply]
  rfl

/-- An insert is counted before it is answered. -/
theorem perform_insertion (store : Store) (es : List α) :
    store.perform .direct (insertion es) =
      { store with insertCalls := store.insertCalls + 1 }.answer .direct (insertion es) := rfl

/-- What comes of a write when the answers are written back to the entities behind it. -/
theorem ends_insertion {es : List α} {next : List Record → Mutation Store β Unit} {e : β}
    (applied : ∀ answers (s' : Session Store),
      Ends (next answers) e s' (applyRows answers es).1 s'.store.tables) (s : Session Store) :
    Ends (act (.ask .direct (insertion es)) >>= next) e s (written s.store.tables es).1
      (written s.store.tables es).2 := by
  have performed := perform_insertion s.store es
  cases answered : s.store.tables.answer (insertion es) with
  | error err =>
    rw [Store.answer_of_error rfl answered] at performed
    rw [written_of_error answered]
    exact ⟨e, _, runOn_bind_error (runOn_act (run_ask_of_perform performed) e), rfl⟩
  | ok found =>
    rw [Store.answer_of_ok rfl answered] at performed
    rw [written_of_ok answered]
    unfold Ends
    rw [runOn_bind_ok (runOn_act (run_ask_of_perform performed) e)]
    exact applied found.1 _

theorem edits_edit (f : Edit Error β) : (edit f : Mutation Store β Unit).Edits f :=
  fun e s => ⟨[], by rw [note_nil]; rfl⟩

theorem ends_insertRows (es : List α) (s : Session Store) :
    Ends (insertRows .direct) es s (written s.store.tables es).1 (written s.store.tables es).2 := by
  refine ends_get (ends_insertion ?_ s)
  intro answers s'
  exact ends_edits (edits_edit _) es s'

/-- A batch that fits into one write. -/
theorem ends_insertBatch {es : List α} (some : es ≠ []) (fits : es.length ≤ batchSize)
    (s : Session Store) :
    Ends (insertBatch .direct) es s (written s.store.tables es).1 (written s.store.tables es).2 := by
  obtain ⟨es', s', ran, tables⟩ := ends_insertRows es s
  have all : (insertBatch .direct : Mutation Store (List α) Unit).runOn es =
      insertChunks .direct batchSize (by decide) es := rfl
  unfold Ends
  rw [all]
  cases es with
  | nil => exact absurd rfl some
  | cons e es =>
    rw [insertChunks, List.take_of_length_le fits, List.drop_of_length_le fits, StateT.run_bind, ran]
    cases result : (written s.store.tables (e :: es)).1 with
    | error err => exact ⟨_, s', rfl, tables⟩
    | ok _ =>
      refine ⟨es' ++ [], s', ?_, tables⟩
      change (insertChunks .direct batchSize _ [] >>= _ : StateM (Session Store) _).run s' = _
      rw [insertChunks]
      rfl

/-! ## One entity -/

theorem ends_create (repo : Repository α) (outside : repo.scope = .direct) {e : α} {es : List α}
    (ready : readyAll [e] = (.ok (), es)) (s : Session Store) :
    Ends repo.create e s (written s.store.tables es).1 (written s.store.tables es).2 := by
  rw [readyAll_singleton] at ready
  obtain ⟨done, rfl⟩ := Prod.mk.inj ready
  rw [create, ← bind_assoc, outside]
  obtain ⟨s₁, same₁, onward⟩ := ends_bind_of_ok edits_readyOne (Prod.ext done rfl) s
  apply onward
  apply ends_get
  obtain ⟨s₂, same₂, onward⟩ := ends_bind_of_ok (edits_log _) rfl s₁
  apply onward
  rw [← same₁, ← same₂]
  change Ends (act (.ask .direct (insertion [(readyOne e).2])) >>= _) _ s₂ _ _
  apply ends_insertion
  intro answers s'
  have late : (repo.late .afterCreate : Mutation Store α Unit).Edits (lateEdit .afterCreate) :=
    edits_late repo .afterCreate
  cases answers with
  | nil => exact ends_edits late _ s'
  | cons answer answers =>
    rw [applyRows_singleton]
    exact (ends_edits (edits_edit _) _ s').bind_edits late (lateEdit_succeeds _)

/-! ## Batches -/

/-- The writes of a batch in a transaction of its own leave that transaction open and the
committed tables as they were. -/
theorem run_insertBatch_within {s left : Session Store} {id : Nat} {t : Transaction} {es es' : List α}
    (opened : s.store.openTransaction id = .ok t)
    (ran : ((insertBatch (.tx id)).runOn es).run s = ((result, es'), left)) :
    left.store.tables = s.store.tables ∧
      ∃ t', left.store.openTransaction id = .ok t' := by
  have leads := (takes_insertBatch_within (α := α) id es s).1
  rw [ran] at leads
  obtain ⟨ts, tables, transactions⟩ := Store.leads_within (fun st asks => asks) opened leads
  have stillOpen : t.closed = false := (Store.openTransaction_eq_ok.mp opened).2
  have stays : Transaction.closed { t with working := ts } = false := stillOpen
  exact ⟨tables, _, Store.openTransaction_set opened stays transactions⟩

theorem run_endBatch_ok {s : Session Store} {id : Nat} {t : Transaction}
    (opened : s.store.openTransaction id = .ok t) :
    (endBatch id (.ok ()) : Action Store Unit).run.run s =
      (.ok (), steered s id .commit .ended (some t.working)) := by
  rw [endBatch, Action.steer, run_classified, run_steer_of_open opened rfl]
  rfl

/-- A batch in a transaction of its own is undone when it fails. -/
theorem ends_insertInTransaction (es : List α) (s : Session Store) :
    ∃ result ts, Ends insertInTransaction es s result ts ∧
      ∀ err, result = .error err → ts = s.store.tables := by
  let id := s.store.transactions.length
  let s₁ : Session Store :=
    { s with store := s.store.begin.2, journal := s.journal ++ [.asked .begin] }
  have starting : (EntityStore.Store.start {}).classified.run.run s = (.ok id, s₁) := rfl
  have begun : s₁.store.openTransaction id = .ok (.start s.store.tables) :=
    Store.openTransaction_eq_ok.mpr ⟨List.getElem?_concat_length, rfl⟩
  obtain ⟨result, es', left, ran⟩ : ∃ result es' left,
      ((insertBatch (.tx id)).runOn es).run s₁ = ((result, es'), left) := ⟨_, _, _, rfl⟩
  obtain ⟨tables, t, opened⟩ := run_insertBatch_within begun ran
  cases result with
  | ok _ =>
    have ran := runOn_insertInTransaction starting ran (run_endBatch_ok opened)
    exact ⟨.ok (), _, ⟨es', _, ran, rfl⟩, nofun⟩
  | error err =>
    have back : ((EntityStore.Store.steer id .rollback).outcome : Action Store _).run.run left =
        (.ok (.ok ()), steered left id .rollback .ended none) := by
      rw [run_outcome, run_steer_of_open opened rfl]
    have ending : (endBatch id (.error err) : Action Store Unit).run.run left =
        (.error err, steered left id .rollback .ended none) := by
      rw [endBatch, run_bind_ok back]
      rfl
    have ran := runOn_insertInTransaction starting ran ending
    exact ⟨.error err, _, ⟨es', _, ran, rfl⟩, fun _ _ => tables⟩

section

variable {repo : Repository α} {es es' : List α}

theorem ends_createBatch_of_error (stops : readyAll es = (.error err, es')) (s : Session Store) :
    Ends repo.createBatch es s (.error err) s.store.tables := by
  rw [createBatch]
  apply ends_get
  dsimp only
  cases es with
  | nil => cases stops
  | cons e es =>
    have filled : (e :: es).length ≠ 0 := Nat.succ_ne_zero es.length
    rw [if_neg filled, ← bind_assoc]
    exact ends_bind_of_error edits_readyAll stops

theorem ends_createBatch_of_ok (repo : Repository α) (some : es ≠ []) (ready : readyAll es = (.ok (), es'))
    (s : Session Store) :
    ∃ s' : Session Store, s'.store = s.store ∧ ∀ result ts, Ends
      (if repo.needsTransaction es.length then insertInTransaction else insertBatch repo.scope)
      es' s' result ts → Ends repo.createBatch es s result ts := by
  obtain ⟨s₁, same₁, onward₁⟩ := ends_bind_of_ok edits_readyAll ready s
  obtain ⟨s₂, same₂, onward₂⟩ := ends_bind_of_ok (edits_log _) rfl s₁
  refine ⟨s₂, same₂.trans same₁, ?_⟩
  intro result ts wrote
  rw [createBatch]
  apply ends_get
  dsimp only
  rw [if_neg (List.length_eq_zero_iff.not.mpr some), ← bind_assoc]
  apply onward₁
  apply onward₂
  have late := (edits_late (σ := Store) repo .afterCreate).each
  have succeeds := Edit.each_succeeds (lateEdit_succeeds (α := α) .afterCreate)
  by_cases large : repo.needsTransaction es.length = true
  · rw [if_pos large] at wrote ⊢
    exact wrote.bind_edits late succeeds
  · rw [if_neg large] at wrote ⊢
    exact wrote.bind_edits late succeeds

omit [Entity α] in
theorem needsTransaction_direct (outside : repo.scope = .direct) (rows : Nat) :
    repo.needsTransaction rows = decide (batchSize < rows) := by
  rw [needsTransaction, isInTransaction, outside]
  rfl

end

/-! ## Creations -/

/-- The creation gives a result and leaves committed tables. -/
def EndsCreation (repo : Repository α) (c : Creation α) (s : Session Store)
    (result : Except Error Unit) (ts : Tables) : Prop :=
  ∃ s', (c.run repo).run s = (result, s') ∧ s'.store.tables = ts

/-- The store keeps the rows of the entities, but its answers cannot be written back. -/
def Stranded (ready : List α) (ts ts' : Tables) (err : Error) : Prop :=
  ∃ answers, ts.answer (insertion ready) = .ok (answers, ts') ∧
    (applyRows answers ready).1 = .error err

section

variable {repo : Repository α} {c : Creation α} {ready : List α}

theorem Ends.creation {m : Mutation Store β Unit} {e : β} (h : Ends m e s result ts)  :
    ∃ s', (Prod.fst <$> m.runOn e).run s = (result, s') ∧ s'.store.tables = ts := by
  obtain ⟨e', s', ran, tables⟩ := h
  refine ⟨s', ?_, tables⟩
  rw [StateT.run_map, ran]
  rfl

theorem ends_of_nothing (none : c.entities = []) :
    EndsCreation repo c s (.ok ()) s.store.tables := by
  cases c with
  | one e => cases none
  | batch es =>
    change es = [] at none
    rw [none]
    exact ⟨s, rfl, rfl⟩

/-- A creation that is stopped before the write. -/
theorem ends_of_stopped (stops : readyAll c.entities = (.error err, ready)) :
    EndsCreation repo c s (.error err) s.store.tables := by
  cases c with
  | one e =>
    change readyAll [e] = _ at stops
    rw [readyAll_singleton] at stops
    obtain ⟨stopped, -⟩ := Prod.mk.inj stops
    have ends : Ends repo.create e s (.error err) s.store.tables := by
      rw [create, ← bind_assoc]
      exact ends_bind_of_error edits_readyOne (Prod.ext stopped rfl)
    exact ends.creation
  | batch es => exact (ends_createBatch_of_error stops s).creation

/-- A creation that one write is enough for. -/
theorem ends_of_small (outside : repo.scope = .direct) (some : c.entities ≠ [])
    (small : c.entities.length ≤ batchSize) (done : readyAll c.entities = (.ok (), ready)) :
    EndsCreation repo c s (written s.store.tables ready).1 (written s.store.tables ready).2 := by
  cases c with
  | one e => exact (ends_create repo outside done s).creation
  | batch es =>
    have length : ready.length = es.length := by
      rw [← length_readyAll es]
      exact congrArg (·.2.length) done.symm
    have one : ¬repo.needsTransaction es.length = true := by
      rw [needsTransaction_direct outside, decide_eq_true_iff]
      exact Nat.not_lt.mpr small
    obtain ⟨s', same, onward⟩ := ends_createBatch_of_ok repo some done s
    refine (onward _ _ ?_).creation
    rw [← same]
    change Ends (if repo.needsTransaction es.length then _ else _) _ _ _ _
    rw [if_neg one, outside]
    refine ends_insertBatch ?_ (length.trans_le small) s'
    rintro rfl
    exact some (List.length_eq_zero_iff.mp length.symm)

/-- A creation that needs more than one write. -/
theorem ends_of_large (outside : repo.scope = .direct) (large : batchSize < c.entities.length)
    (done : readyAll c.entities = (.ok (), ready)) :
    ∃ result ts, EndsCreation repo c s result ts ∧ ∀ err, result = .error err → ts = s.store.tables := by
  cases c with
  | one e =>
    have several : batchSize < 1 := large
    exact absurd several (by decide)
  | batch es =>
    have several : repo.needsTransaction es.length = true := by
      rw [needsTransaction_direct outside]
      exact decide_eq_true large
    have some : es ≠ [] := by
      rintro rfl
      cases large
    obtain ⟨s', same, onward⟩ := ends_createBatch_of_ok repo some done s
    obtain ⟨result, ts, ends, undone⟩ := ends_insertInTransaction ready s'
    rw [if_pos several] at onward
    rw [same] at undone
    exact ⟨result, ts, (onward result ts ends).creation, undone⟩

end

/-- The table has as many rows more as entities were stranded. -/
theorem Stranded.rows {ready : List α} (h : Stranded ready ts ts' err) :
    ∃ t t', ts.get? (Entity.info α).table = some t ∧ ts'.get? (Entity.info α).table = some t' ∧
      t'.rows.length = t.rows.length + ready.length := by
  obtain ⟨answers, answered, -⟩ := h
  obtain ⟨t, t', found, done, rfl⟩ := Tables.insert_of_answer answered
  obtain ⟨fulls, lastId, made, rfl⟩ := rows_of_insert done
  refine ⟨t, { t with rows := t.rows ++ fulls, lastId := lastId }, found, ?_, ?_⟩
  · rw [Tables.get?_set]
    exact if_pos rfl
  · rw [List.length_append, length_newRows made, List.length_map]

/-- A write that fails has left the tables as they were or stranded the entities. -/
theorem undone_or_stranded {es : List α} (failed : (written ts es).1 = .error err) :
    (written ts es).2 = ts ∨ Stranded es ts (written ts es).2 err := by
  cases answered : ts.answer (insertion es) with
  | error e =>
    left
    rw [written_of_error answered]
  | ok found =>
    right
    rw [written_of_ok answered] at failed ⊢
    exact ⟨found.1, answered, failed⟩

/-- When a creation outside a transaction fails, of one entity or of a batch of any length, then
the committed tables are what they were, unless one write was enough and the entities were
stranded: the store has accepted their rows and its answer cannot be written back. Entities that
are stranded make the creation fail and their rows stay. -/
theorem failed_creation_undone_unless_stranded (repo : Repository α) (outside : repo.scope = .direct)
    (c : Creation α) (s : Session Store) :
    (∀ err s', (c.run repo).run s = (.error err, s') → s'.store.tables = s.store.tables ∨
      c.entities.length ≤ batchSize ∧ ∃ ready, readyAll c.entities = (.ok (), ready) ∧
        Stranded ready s.store.tables s'.store.tables err) ∧
    ∀ ready ts err, c.entities ≠ [] → c.entities.length ≤ batchSize →
      readyAll c.entities = (.ok (), ready) → Stranded ready s.store.tables ts err →
        ∃ s' t t', (c.run repo).run s = (.error err, s') ∧ s'.store.tables = ts ∧
          s.store.tables.get? (Entity.info α).table = some t ∧
          ts.get? (Entity.info α).table = some t' ∧
          t'.rows.length = t.rows.length + c.entities.length := by
  constructor
  · intro err s' failed
    -- the run has the one end that is known of it
    have only {result : Except Error Unit} {ts : Tables} (ends : EndsCreation repo c s result ts) :
        result = .error err ∧ ts = s'.store.tables := by
      obtain ⟨left, ran, rfl⟩ := ends
      rw [failed] at ran
      cases ran
      exact ⟨rfl, rfl⟩
    obtain ⟨outcome, ready, prepared⟩ : ∃ outcome ready, readyAll c.entities = (outcome, ready) :=
      ⟨_, _, rfl⟩
    by_cases none : c.entities = []
    · left
      exact (only (ends_of_nothing none)).2.symm
    · cases outcome with
      | error reason =>
        left
        exact (only (ends_of_stopped prepared)).2.symm
      | ok _ =>
        by_cases large : batchSize < c.entities.length
        · left
          obtain ⟨result, ts, ends, undone⟩ := ends_of_large outside large prepared
          obtain ⟨same, rfl⟩ := only ends
          exact undone err same
        · have small := Nat.le_of_not_lt large
          obtain ⟨result, tables⟩ := only (ends_of_small outside none small prepared)
          rw [← tables]
          exact (undone_or_stranded result).imp_right fun stranded =>
            ⟨small, ready, prepared, stranded⟩
  · intro ready ts err some small done stranded
    obtain ⟨t, t', found, found', rows⟩ := stranded.rows
    obtain ⟨answers, answered, failed⟩ := stranded
    obtain ⟨s', ran, tables⟩ := ends_of_small outside some small done
    rw [written_of_ok answered] at ran tables
    rw [failed] at ran
    have length : ready.length = c.entities.length := by
      rw [← length_readyAll c.entities, done]
    exact ⟨s', t, t', ran, tables, found, found', length ▸ rows⟩

/-- The store in which a repository has created its table. -/
def laid (α : Type) [Entity α] : Session Store :=
  ((Repository.direct : Repository α).createTable.run.run (.start ∅)).2

/-- An entry whose second key column is to be generated and then is too large for it. -/
def tallShelf : Sample.Entry := .ofCells (3000000000, 0, some "a", ())

/-- Of a batch with a key twice nothing stays. The entry with the tall shelf stays although its
creation fails. -/
theorem repeated_author_undone_entry_stranded :
    (∃ err s', ((Creation.batch [.ofCells (1, "Ann", ()), .ofCells (1, "Bob", ())] :
        Creation Sample.Author).run .direct).run (laid Sample.Author) = (.error err, s') ∧
      s'.store.tables = (laid Sample.Author).store.tables) ∧
    ∃ err s' t', ((Creation.one tallShelf).run .direct).run (laid Sample.Entry) =
        (.error err, s') ∧
      s'.store.tables.get? "entries" = some t' ∧ t'.rows.length = 1 := by
  constructor
  · let twice : List Sample.Author := [.ofCells (1, "Ann", ()), .ofCells (1, "Bob", ())]
    have refused : (laid Sample.Author).store.tables.answer (insertion twice) =
        .error (.uniqueViolation "authors.id") := rfl
    have ends : EndsCreation .direct (.batch twice) (laid Sample.Author) _ _ :=
      ends_of_small rfl (List.cons_ne_nil _ _) (by decide) (rfl : readyAll twice = (.ok (), twice))
    rw [written_of_error refused] at ends
    obtain ⟨s', ran, -⟩ := ends
    refine ⟨_, s', ran, ?_⟩
    rcases (failed_creation_undone_unless_stranded .direct rfl (.batch twice) _).1 _ s' ran with
      same | ⟨-, ready, prepared, answers, answered, -⟩
    · exact same
    · cases prepared
      rw [refused] at answered
      cases answered
  · obtain ⟨ts, err, stranded⟩ : ∃ ts err,
        Stranded [tallShelf] (laid Sample.Entry).store.tables ts err := ⟨_, _, _, rfl, rfl⟩
    obtain ⟨s', t, t', ran, rfl, found, found', rows⟩ :=
      (failed_creation_undone_unless_stranded .direct rfl (.one tallShelf) _).2 [tallShelf] ts err
        (List.cons_ne_nil _ _) (by decide) rfl stranded
    cases found
    exact ⟨err, s', t', ran, found', rows⟩

/-- A creation fails, and the table has a row that it had not before. -/
theorem failed_creation_keeps_row :
    ∃ err s', ((Creation.one tallShelf).run .direct).run (laid Sample.Entry) = (.error err, s') ∧
      ((laid Sample.Entry).store.tables.get? "entries").map (·.rows) = some [] ∧
      (s'.store.tables.get? "entries").map (·.rows.length) = some 1 :=
  ⟨_, _, Prod.ext rfl rfl, rfl, rfl⟩

end Memory

end EntityStore
