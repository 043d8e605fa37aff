import EntityStore.Proofs.Outcome
import EntityStore.Proofs.Session
import EntityStore.Proofs.Store.Step
import EntityStore.Repository.Migration
import EntityStore.Repository.Read
import EntityStore.Repository.Transaction

/-!
# Operations of a repository

All operations of a repository as one type, and what they can ask of a store: requests in the
scope of the repository that write to the table of its entity only, and, for a large batch
outside a transaction, a transaction of its own. To take certain steps only is a property that is
closed under sequencing, so it is followed through each operation.
-/

namespace EntityStore

variable {σ ε α β γ : Type}

/-! ## Actions that take certain steps -/

section

variable [Store σ] {P : Step → Prop}

/-- Whatever state it starts in, the computation gets to the state behind it by steps of a
kind, and gives out no savepoint name. -/
def Takes (P : Step → Prop) (m : StateM (Session σ) β) : Prop :=
  ∀ s, Leads P s.store (m.run s).2.store ∧ (m.run s).2.savepoints = s.savepoints

theorem takes_pure (x : β) : Takes P (pure x : StateM (Session σ) β) :=
  fun s => ⟨.refl s.store, rfl⟩

theorem takes_bind {m : StateM (Session σ) β} {f : β → StateM (Session σ) γ} (first : Takes P m)
    (rest : ∀ x, Takes P (f x)) : Takes P (m >>= f) := by
  intro s
  obtain ⟨leads, kept⟩ := first s
  obtain ⟨onward, kept'⟩ := rest (m.run s).1 (m.run s).2
  exact ⟨leads.trans onward, kept'.trans kept⟩

theorem Takes.map {m : StateM (Session σ) β} (h : Takes P m) (f : β → γ) : Takes P (f <$> m) :=
  takes_bind h fun x => takes_pure (f x)

namespace Attempt

def Takes (P : Step → Prop) (act : Attempt σ ε β) : Prop := EntityStore.Takes P act.run

theorem takes_pure (x : β) : Takes P (pure x : Attempt σ ε β) := EntityStore.takes_pure _

theorem takes_throw (e : ε) : Takes P (throw e : Attempt σ ε β) := EntityStore.takes_pure _

theorem takes_ofExcept (x : Except ε β) : Takes P (ofExcept x : Attempt σ ε β) := by
  cases x with
  | error e => exact takes_throw e
  | ok x => exact takes_pure x

theorem takes_bind {act : Attempt σ ε β} {next : β → Attempt σ ε γ} (first : act.Takes P)
    (rest : ∀ x, (next x).Takes P) : Takes P (act >>= next) := by
  change EntityStore.Takes P (act.run >>= ExceptT.bindCont next)
  refine EntityStore.takes_bind first ?_
  rintro (e | x)
  · exact takes_throw e
  · exact rest x

/-- What follows a value that may fail is reached only with that value. -/
theorem takes_bind_ofExcept {x : Except ε β} {next : β → Attempt σ ε γ}
    (rest : ∀ y, x = .ok y → (next y).Takes P) : Takes P (ofExcept x >>= next) := by
  cases x with
  | error e => exact takes_throw e
  | ok y => exact rest y rfl

theorem takes_note (events : List Event) : Takes P (note events : Attempt σ ε Unit) :=
  fun s => ⟨.refl s.store, rfl⟩

theorem takes_outcome {ε' : Type} {act : Attempt σ ε β} (h : act.Takes P) :
    (act.outcome : Attempt σ ε' (Except ε β)).Takes P :=
  h.map Except.ok

theorem takes_classified {act : Attempt σ StoreError β} (h : act.Takes P) :
    act.classified.Takes P :=
  h.map (Except.mapError StoreError.classify)

theorem takes_reply {verb : Verb} {ask : σ → Reply σ β}
    (h : ∀ s, Leads P s (ask s).store) : (Attempt.reply verb ask).Takes P := by
  intro s
  have run := run_reply verb ask s
  refine ⟨?_, ?_⟩
  · exact (congrArg (Leads P s.store ·.2.store) run).mpr (h s.store)
  · exact congrArg (·.2.savepoints) run

theorem takes_request {scope : Scope} {r : Request β} (allowed : P (.ask scope r)) :
    (Store.request scope r : Attempt σ StoreError β).Takes P :=
  takes_reply fun s => .single allowed s

theorem takes_ask {scope : Scope} {r : Request β} (allowed : P (.ask scope r)) :
    (Action.ask scope r : Action σ β).Takes P :=
  takes_classified (takes_request allowed)

theorem takes_fetchOne {scope : Scope} {table : String} {q : Compiled}
    (allowed : P (.ask scope (.select table q.first))) :
    (Action.fetchOne scope table q : Action σ Record).Takes P :=
  takes_classified (takes_bind (takes_request allowed) fun _ => takes_ofExcept _)

theorem takes_mapM {f : β → Attempt σ ε γ} (each : ∀ x, (f x).Takes P) (xs : List β) :
    Takes P (xs.mapM f) := by
  induction xs with
  | nil => exact takes_pure _
  | cons x xs ih =>
    rw [List.mapM_cons]
    refine takes_bind (each x) fun y => ?_
    refine takes_bind ih fun ys => ?_
    exact takes_pure _

end Attempt

namespace Mutation

def Takes (P : Step → Prop) (m : Mutation σ α β) : Prop := ∀ e, EntityStore.Takes P (m.runOn e)

theorem takes_pure (x : β) : Takes P (pure x : Mutation σ α β) := fun _ => EntityStore.takes_pure _

theorem takes_bind {m : Mutation σ α β} {next : β → Mutation σ α γ} (first : m.Takes P)
    (rest : ∀ x, (next x).Takes P) : Takes P (m >>= next) := by
  intro e
  change EntityStore.Takes P (m.runOn e >>= fun p => StateT.run (ExceptT.bindCont next p.1) p.2)
  refine EntityStore.takes_bind (first e) ?_
  rintro ⟨error | x, e⟩
  · exact EntityStore.takes_pure _
  · exact rest x e

theorem takes_get : Takes P (get : Mutation σ α α) := fun _ => EntityStore.takes_pure _

theorem takes_set (e : α) : Takes P (set e : Mutation σ α PUnit) := fun _ => EntityStore.takes_pure _

theorem takes_edit (f : Edit Error α) : Takes P (edit f : Mutation σ α Unit) :=
  fun _ => EntityStore.takes_pure _

theorem takes_act {a : Action σ β} (h : a.Takes P) : (act a : Mutation σ α β).Takes P :=
  fun e => h.map (·, e)

theorem takes_tell (events : List Event) : Takes P (tell events : Mutation σ α Unit) :=
  takes_act (Attempt.takes_note events)

/-- What follows a value that may fail is reached only with that value. -/
theorem takes_bind_required {x : Except Error γ} {next : γ → Mutation σ α β}
    (rest : ∀ y, x = .ok y → (next y).Takes P) : Takes P (act (Attempt.ofExcept x) >>= next) := by
  cases x with
  | error e => exact fun _ => EntityStore.takes_pure _
  | ok y => exact rest y rfl

theorem takes_changed {m : Mutation σ α Unit} (h : m.Takes P) (e : α) : (m.changed e).Takes P :=
  Attempt.takes_bind ((h e).map Except.ok) fun _ => Attempt.takes_ofExcept _

theorem takes_each {m : Mutation σ α Unit} (h : m.Takes P) : (each m).Takes P := by
  intro es
  change EntityStore.Takes P (eachFrom m es)
  induction es with
  | nil => exact EntityStore.takes_pure _
  | cons e es ih =>
    refine EntityStore.takes_bind (h e) ?_
    rintro ⟨error | ⟨⟩, e⟩
    · exact EntityStore.takes_pure _
    · exact EntityStore.takes_bind ih fun _ => EntityStore.takes_pure _

end Mutation

end

/-! ## Steps of a repository -/

/-- A request that a repository makes. It writes to the table of the entity only, inserts rows of
entities, and lays the table out as the entity is described. What it sets on rows is what an
entity has beside its key, or changes that were given and are of a certain kind. -/
def OwnRequest (α : Type) [Entity α] (given : Record → Prop) {β : Type} : Request β → Prop
  | .insert table rows returning =>
    table = (Entity.info α).table ∧ returning = (Entity.info α).generatedColumns ∧
      ∃ es : List α, rows = es.map fun e => Repository.insertable (Entity.info α) (Entity.toRecord e)
  | .update table changes _ =>
    table = (Entity.info α).table ∧
      (given changes ∨ ∃ (e : α) (key : Field), (Entity.info α).requirePrimaryKey = .ok key ∧
        changes = (Entity.toRecord e).remove key.column)
  | .createTable schema | .migrateTable schema => schema = (Entity.info α).schema
  | .count table _ | .delete table _ | .hasTable table | .dropTable table | .tableColumns table
  | .hasIndex table _ | .dropIndex table _ => table = (Entity.info α).table
  | .createIndex index => index.table = (Entity.info α).table
  | .select .. | .rawQuery .. | .rawExec .. | .ping => True

/-- A step that a repository in a scope takes. Outside a transaction it may open one for a
batch. -/
inductive OwnStep (α : Type) [Entity α] (given : Record → Prop) : Scope → Step → Prop where
  | ask {β : Type} {scope : Scope} {r : Request β} (own : OwnRequest α given r) :
      OwnStep α given scope (.ask scope r)
  | begin {options : TxOptions} : OwnStep α given .direct (.begin options)
  | within {β : Type} {id : Nat} {r : Request β} (own : OwnRequest α given r) :
      OwnStep α given .direct (.ask (.tx id) r)
  | steer {id : Nat} {c : Control} : OwnStep α given .direct (.steer id c)

/-- In a transaction a repository makes requests and takes no other steps. -/
theorem OwnStep.asks {α : Type} [Entity α] {given : Record → Prop} {id : Nat} {st : Step}
    (own : OwnStep α given (.tx id) st) :
    ∃ (β : Type) (r : Request β), st = .ask (.tx id) r := by
  cases own with
  | ask own => exact ⟨_, _, rfl⟩

namespace Repository

open Attempt Mutation

variable [Store σ] [Entity α]

theorem takes_early {P : Step → Prop} (point : HookPoint) :
    (early point : Mutation σ α Unit).Takes P := by
  refine Mutation.takes_bind takes_get fun e => ?_
  refine Mutation.takes_bind (takes_tell _) fun _ => ?_
  exact takes_edit _

theorem takes_late {P : Step → Prop} (repo : Repository α) (point : HookPoint) :
    (repo.late point : Mutation σ α Unit).Takes P := by
  refine Mutation.takes_bind takes_get fun e => ?_
  refine Mutation.takes_bind (takes_tell _) fun _ => ?_
  rcases Entity.hooks.at point e with ⟨reason | ⟨⟩, e'⟩
  · exact Mutation.takes_bind (takes_set e') fun _ => takes_tell _
  · exact Mutation.takes_bind (takes_set e') fun _ => Mutation.takes_pure _

theorem takes_found {P : Step → Prop} (repo : Repository α) (e : α) :
    (repo.found e : Action σ α).Takes P :=
  takes_changed (repo.takes_late .afterFind) e

theorem takes_affected {P : Step → Prop} {info : EntityInfo} (rows : UInt64) :
    (affected info rows : Action σ Unit).Takes P := by
  unfold affected
  split
  · exact takes_throw _
  · exact Attempt.takes_pure _

/-! ### Reading -/

variable {given : Record → Prop} {scope : Scope} (repo : Repository α)

section

variable {P : Step → Prop} (selects : ∀ table q, P (.ask scope (.select table q)))

include selects

theorem takes_relatedRows (r : Relation) (keys : List Value) :
    (relatedRows scope r keys : Action σ (List Record)).Takes P := by
  unfold relatedRows
  split
  · exact Attempt.takes_pure _
  · refine Attempt.takes_bind (takes_ofExcept _) fun column => ?_
    exact takes_ask (selects _ _)

theorem takes_loadRelation (r : Relation) (entities : List α) :
    (loadRelation scope r entities : Action σ (List α)).Takes P := by
  refine Attempt.takes_bind (takes_relatedRows selects r _) fun rows => ?_
  exact takes_ofExcept _

/-- Relations are loaded by selections. -/
theorem takes_loadRelations (names : List String) (entities : List α) :
    (loadRelations scope names entities : Action σ (List α)).Takes P := by
  induction names generalizing entities with
  | nil => exact Attempt.takes_pure _
  | cons name names ih =>
    refine Attempt.takes_bind (takes_ofExcept _) fun r => ?_
    dsimp only
    split
    · exact Attempt.takes_bind (Attempt.takes_pure _) ih
    · exact Attempt.takes_bind (takes_loadRelation selects r _) ih

end

theorem takes_decodeRow {P : Step → Prop} (row : Record) :
    (decodeRow α row : Action σ α).Takes P :=
  takes_ofExcept _

section

variable {P : Step → Prop} (selects : ∀ table q, P (.ask repo.scope (.select table q)))

include selects

theorem takes_find (key : Value) : (repo.find key : Action σ α).Takes P := by
  refine Attempt.takes_bind (takes_ofExcept _) fun filters => ?_
  refine Attempt.takes_bind (takes_note _) fun _ => ?_
  refine Attempt.takes_bind (takes_fetchOne (selects _ _)) fun row => ?_
  refine Attempt.takes_bind (takes_decodeRow row) fun e => ?_
  exact repo.takes_found e

theorem takes_query (clauses : List Query.Clause) :
    (repo.query clauses : Action σ (List α)).Takes P := by
  refine Attempt.takes_bind (takes_ofExcept _) fun q => ?_
  refine Attempt.takes_bind (takes_note _) fun _ => ?_
  refine Attempt.takes_bind (takes_ask (selects _ _)) fun rows => ?_
  refine Attempt.takes_bind (takes_mapM takes_decodeRow rows) fun entities => ?_
  refine Attempt.takes_bind (takes_loadRelations selects _ entities) fun entities => ?_
  exact takes_mapM repo.takes_found entities

theorem takes_finish (relations : List String) (row : Record) :
    (repo.finish relations row : Action σ α).Takes P := by
  refine Attempt.takes_bind (takes_decodeRow row) fun e => ?_
  refine Attempt.takes_bind (takes_loadRelations selects relations [e]) fun entities => ?_
  cases entities with
  | nil => exact repo.takes_found e
  | cons e _ => exact repo.takes_found e

theorem takes_queryOne (clauses : List Query.Clause) :
    (repo.queryOne clauses : Action σ α).Takes P := by
  refine Attempt.takes_bind (takes_ofExcept _) fun q => ?_
  refine Attempt.takes_bind (takes_note _) fun _ => ?_
  refine Attempt.takes_bind (takes_fetchOne (selects _ _)) fun row => ?_
  exact repo.takes_finish selects q.preloads row

theorem takes_findWith (key : Value) (relations : List String) :
    (repo.findWith key relations : Action σ α).Takes P := by
  refine Attempt.takes_bind (takes_ofExcept _) fun filters => ?_
  refine Attempt.takes_bind (takes_fetchOne (selects _ _)) fun row => ?_
  exact repo.takes_finish selects relations row

end

theorem takes_count {P : Step → Prop}
    (counts : ∀ q, P (.ask repo.scope (.count (Entity.info α).table q)))
    (clauses : List Query.Clause) : (repo.count clauses : Action σ UInt64).Takes P := by
  refine Attempt.takes_bind (takes_ofExcept _) fun q => ?_
  exact takes_ask (counts q)

theorem takes_rawQuery (sql : String) (args : List Value) :
    (repo.rawQuery sql args : Action σ (List α)).Takes (OwnStep α given repo.scope) := by
  refine Attempt.takes_bind (takes_note _) fun _ => ?_
  refine Attempt.takes_bind (takes_ask (.ask trivial)) fun rows => ?_
  exact takes_mapM takes_decodeRow rows

/-! ### Writing -/

theorem takes_create : (repo.create : Mutation σ α Unit).Takes (OwnStep α given repo.scope) := by
  refine Mutation.takes_bind (takes_early .validate) fun _ => ?_
  refine Mutation.takes_bind (takes_early .beforeCreate) fun _ => ?_
  refine Mutation.takes_bind takes_get fun e => ?_
  refine Mutation.takes_bind (takes_act (takes_note _)) fun _ => ?_
  refine Mutation.takes_bind (takes_act (takes_ask (.ask ⟨rfl, rfl, [e], rfl⟩))) fun answers => ?_
  have last : (repo.late .afterCreate : Mutation σ α Unit).Takes (OwnStep α given repo.scope) :=
    repo.takes_late .afterCreate
  cases answers with
  | nil => exact last
  | cons answer _ => exact Mutation.takes_bind (takes_edit _) fun _ => last

theorem takes_insertRows {P : Step → Prop}
    (allowed : ∀ {β : Type} {r : Request β}, OwnRequest α given r → P (.ask scope r)) :
    (insertRows scope : Mutation σ (List α) Unit).Takes P := by
  refine Mutation.takes_bind takes_get fun es => ?_
  refine Mutation.takes_bind (takes_act (takes_ask (allowed ⟨rfl, rfl, es, rfl⟩))) fun answers => ?_
  exact takes_edit _

theorem takes_insertChunks {P : Step → Prop}
    (allowed : ∀ {β : Type} {r : Request β}, OwnRequest α given r → P (.ask scope r))
    (size : Nat) (positive : 0 < size) (es : List α) :
    Takes P (insertChunks scope size positive es : StateM (Session σ) _) := by
  fun_induction insertChunks (σ := σ) scope size positive es with
  | case1 => exact EntityStore.takes_pure _
  | case2 e es ih =>
    refine EntityStore.takes_bind (takes_insertRows allowed _) ?_
    rintro ⟨error | ⟨⟩, chunk⟩
    · exact EntityStore.takes_pure _
    · exact EntityStore.takes_bind ih fun _ => EntityStore.takes_pure _

theorem takes_insertBatch {P : Step → Prop}
    (allowed : ∀ {β : Type} {r : Request β}, OwnRequest α given r → P (.ask scope r)) :
    (insertBatch scope : Mutation σ (List α) Unit).Takes P :=
  fun es => takes_insertChunks allowed batchSize _ es

/-- In a transaction a batch is written by requests. -/
theorem takes_insertBatch_within (id : Nat) : (insertBatch (.tx id) : Mutation σ (List α) Unit).Takes
    fun st => ∃ (β : Type) (r : Request β), st = .ask (.tx id) r :=
  takes_insertBatch fun {β} {r} (_ : OwnRequest α (fun _ => True) r) => ⟨β, r, rfl⟩

theorem takes_endBatch {P : Step → Prop} {id : Nat} (allowed : ∀ c, P (.steer id c))
    (result : Except Error Unit) : (endBatch id result : Action σ Unit).Takes P := by
  have steer (c : Control) : (Store.steer id c : Attempt σ StoreError Unit).Takes P :=
    takes_reply fun s => .single (allowed c) s
  cases result with
  | ok _ => exact takes_classified (steer .commit)
  | error e =>
    refine Attempt.takes_bind (takes_outcome (steer .rollback)) ?_
    rintro (undo | ⟨⟩)
    · exact Attempt.takes_bind (takes_note _) fun _ => takes_throw _
    · exact takes_throw e

theorem takes_insertInTransaction :
    (insertInTransaction : Mutation σ (List α) Unit).Takes (OwnStep α given .direct) := by
  have begins : (Store.start {} : Attempt σ StoreError Nat).Takes (OwnStep α given .direct) :=
    takes_reply fun s => .single OwnStep.begin s
  refine Mutation.takes_bind (takes_act (takes_classified begins)) fun id => ?_
  refine Mutation.takes_bind takes_get fun es => ?_
  refine Mutation.takes_bind (takes_act ((takes_insertBatch .within es).map Except.ok)) ?_
  rintro ⟨result, es⟩
  refine Mutation.takes_bind (takes_set es) fun _ => ?_
  exact takes_act (takes_endBatch (fun _ => .steer) result)

theorem takes_createBatch :
    (repo.createBatch : Mutation σ (List α) Unit).Takes (OwnStep α given repo.scope) := by
  refine Mutation.takes_bind takes_get fun es => ?_
  dsimp only
  split
  · exact Mutation.takes_pure _
  · refine Mutation.takes_bind (takes_each (takes_early .validate)) fun _ => ?_
    refine Mutation.takes_bind (takes_each (takes_early .beforeCreate)) fun _ => ?_
    refine Mutation.takes_bind (takes_act (takes_note _)) fun _ => ?_
    have last : (each (repo.late .afterCreate) : Mutation σ (List α) Unit).Takes
        (OwnStep α given repo.scope) := takes_each (repo.takes_late .afterCreate)
    split
    · rename_i alone
      have direct : repo.scope = .direct := by
        simpa [needsTransaction, isInTransaction] using (Bool.and_eq_true_iff.mp alone).1
      rw [direct] at last ⊢
      exact Mutation.takes_bind takes_insertInTransaction fun _ => last
    · exact Mutation.takes_bind (takes_insertBatch .ask) fun _ => last

theorem takes_update : (repo.update : Mutation σ α Unit).Takes (OwnStep α given repo.scope) := by
  refine Mutation.takes_bind (takes_early .validate) fun _ => ?_
  refine Mutation.takes_bind (takes_early .beforeUpdate) fun _ => ?_
  refine Mutation.takes_bind takes_get fun e => ?_
  refine takes_bind_required fun key required => ?_
  refine Mutation.takes_bind (takes_act (takes_ofExcept _)) fun filters => ?_
  refine Mutation.takes_bind (takes_act (takes_note _)) fun _ => ?_
  refine Mutation.takes_bind (takes_act (takes_ask (.ask ⟨rfl, .inr ⟨e, key, required, rfl⟩⟩))) fun rows => ?_
  refine Mutation.takes_bind (takes_act (takes_affected rows)) fun _ => ?_
  exact repo.takes_late .afterUpdate

theorem takes_updatePartial (key : Value) {changes : Record}
    (gives : ∀ resolved, resolveChanges (Entity.info α) changes = .ok resolved → given resolved) :
    (repo.updatePartial key changes : Action σ Unit).Takes (OwnStep α given repo.scope) := by
  refine takes_bind_ofExcept fun resolved made => ?_
  refine Attempt.takes_bind (takes_ofExcept _) fun filters => ?_
  refine Attempt.takes_bind (takes_note _) fun _ => ?_
  refine Attempt.takes_bind (takes_ask (.ask ⟨rfl, .inl (gives resolved made)⟩)) fun rows => ?_
  exact takes_affected rows

theorem takes_delete (key : Value) :
    (repo.delete key : Action σ Unit).Takes (OwnStep α given repo.scope) := by
  refine Attempt.takes_bind (takes_ofExcept _) fun filters => ?_
  refine Attempt.takes_bind (takes_fetchOne (.ask trivial)) fun row => ?_
  refine Attempt.takes_bind (takes_decodeRow row) fun e => ?_
  refine Attempt.takes_bind (takes_changed (takes_early .beforeDelete) e) fun e => ?_
  refine Attempt.takes_bind (takes_note _) fun _ => ?_
  refine Attempt.takes_bind (takes_ask (.ask rfl)) fun rows => ?_
  refine Attempt.takes_bind (takes_affected rows) fun _ => ?_
  refine Attempt.takes_bind (takes_changed (repo.takes_late .afterDelete) e) fun _ => ?_
  exact Attempt.takes_pure _

theorem takes_deleteWhere (c : Condition) :
    (repo.deleteWhere c : Action σ UInt64).Takes (OwnStep α given repo.scope) := by
  refine Attempt.takes_bind (takes_ofExcept _) fun p => ?_
  refine Attempt.takes_bind (takes_note _) fun _ => ?_
  exact takes_ask (.ask rfl)

/-! ### Tables -/

theorem takes_createTable : (repo.createTable : Action σ Unit).Takes (OwnStep α given repo.scope) := by
  refine Attempt.takes_bind (takes_ask (.ask rfl)) fun there => ?_
  have creates : (Action.ask repo.scope (.createTable (Entity.info α).schema) : Action σ Unit).Takes
      (OwnStep α given repo.scope) := takes_ask (.ask rfl)
  cases there with
  | true => exact Attempt.takes_bind (takes_throw _) fun _ => creates
  | false => exact creates

theorem takes_migrationStatus {P : Step → Prop}
    (looks : P (.ask repo.scope (.hasTable (Entity.info α).table)))
    (lists : P (.ask repo.scope (.tableColumns (Entity.info α).table))) :
    (repo.migrationStatus : Action σ MigrationStatus).Takes P := by
  refine Attempt.takes_bind (takes_ask looks) fun there => ?_
  cases there with
  | true =>
    refine Attempt.takes_bind (takes_ask lists) fun live => ?_
    exact Attempt.takes_pure _
  | false => exact Attempt.takes_pure _

theorem table_of_indexOn {info : EntityInfo} {fields : List String} {unique : Bool} {index : Index}
    (h : indexOn info fields unique = .ok index) : index.table = info.table := by
  unfold indexOn at h
  split at h
  · cases h
  · obtain ⟨columns, -, rfl⟩ := exists_of_map h
    rfl

theorem takes_createIndex (fields : List String) (unique : Bool) :
    (repo.createIndex fields unique : Action σ Unit).Takes (OwnStep α given repo.scope) := by
  refine takes_bind_ofExcept fun index made => ?_
  have own := table_of_indexOn made
  rw [own]
  refine Attempt.takes_bind (takes_ask (.ask rfl)) fun there => ?_
  have creates : (Action.ask repo.scope (.createIndex index) : Action σ Unit).Takes
      (OwnStep α given repo.scope) := takes_ask (.ask own)
  cases there with
  | true => exact Attempt.takes_bind (takes_throw _) fun _ => creates
  | false => exact creates

theorem takes_dropIndex (name : String) :
    (repo.dropIndex name : Action σ Unit).Takes (OwnStep α given repo.scope) := by
  refine Attempt.takes_bind (takes_ofExcept _) fun _ => ?_
  exact takes_ask (.ask rfl)

end Repository

/-! ## Operations -/

/-- What can be done with a repository, with the type of the outcome. A write to entities leaves
them changed, whether it succeeds or not. -/
inductive Operation (α : Type) : Type → Type where
  | create (e : α) : Operation α (Except Error Unit × α)
  | createBatch (es : List α) : Operation α (Except Error Unit × List α)
  | update (e : α) : Operation α (Except Error Unit × α)
  | updatePartial (key : Value) (changes : Record) : Operation α (Except Error Unit)
  | delete (key : Value) : Operation α (Except Error Unit)
  | deleteWhere (c : Condition) : Operation α (Except Error UInt64)
  | find (key : Value) : Operation α (Except Error α)
  | query (clauses : List Query.Clause) : Operation α (Except Error (List α))
  | queryOne (clauses : List Query.Clause) : Operation α (Except Error α)
  | count (clauses : List Query.Clause) : Operation α (Except Error UInt64)
  | hasAny (clauses : List Query.Clause) : Operation α (Except Error Bool)
  | queryWith (relations : List String) (clauses : List Query.Clause) :
      Operation α (Except Error (List α))
  | findWith (key : Value) (relations : List String) : Operation α (Except Error α)
  | rawQuery (sql : String) (args : List Value) : Operation α (Except Error (List α))
  | rawExec (sql : String) (args : List Value) : Operation α (Except Error ExecResult)
  | createTable : Operation α (Except Error Unit)
  | dropTable : Operation α (Except Error Unit)
  | migrateTable : Operation α (Except Error Unit)
  | migrationStatus : Operation α (Except Error Repository.MigrationStatus)
  | createIndex (fields : List String) (unique : Bool) : Operation α (Except Error Unit)
  | dropIndex (name : String) : Operation α (Except Error Unit)
  | health : Operation α (Except Error Unit)

namespace Operation

variable [Store σ] [Entity α]

def run (repo : Repository α) : Operation α β → StateM (Session σ) β
  | .create e => repo.create.runOn e
  | .createBatch es => repo.createBatch.runOn es
  | .update e => repo.update.runOn e
  | .updatePartial key changes => (repo.updatePartial key changes).run
  | .delete key => (repo.delete key).run
  | .deleteWhere c => (repo.deleteWhere c).run
  | .find key => (repo.find key).run
  | .query clauses => (repo.query clauses).run
  | .queryOne clauses => (repo.queryOne clauses).run
  | .count clauses => (repo.count clauses).run
  | .hasAny clauses => (repo.hasAny clauses).run
  | .queryWith relations clauses => (repo.queryWith relations clauses).run
  | .findWith key relations => (repo.findWith key relations).run
  | .rawQuery sql args => (repo.rawQuery sql args).run
  | .rawExec sql args => (repo.rawExec sql args).run
  | .createTable => repo.createTable.run
  | .dropTable => repo.dropTable.run
  | .migrateTable => repo.migrateTable.run
  | .migrationStatus => repo.migrationStatus.run
  | .createIndex fields unique => (repo.createIndex fields unique).run
  | .dropIndex name => (repo.dropIndex name).run
  | .health => repo.health.run

/-- The changes that are given to the operation, if any are, are of a kind. -/
def Gives (given : Record → Prop) : Operation α β → Prop
  | .updatePartial _ changes => ∀ resolved,
      Repository.resolveChanges (Entity.info α) changes = .ok resolved → given resolved
  | _ => True

theorem gives_any (op : Operation α β) : op.Gives fun _ => True := by
  cases op with
  | updatePartial key changes => exact fun _ _ => trivial
  | _ => exact trivial

/-- Every operation of a repository takes steps of that repository only. -/
theorem takes_run {given : Record → Prop} (repo : Repository α) (op : Operation α β)
    (gives : op.Gives given) :
    Takes (OwnStep α given repo.scope) (op.run repo : StateM (Session σ) β) := by
  cases op with
  | create e => exact repo.takes_create e
  | createBatch es => exact repo.takes_createBatch es
  | update e => exact repo.takes_update e
  | updatePartial key changes => exact repo.takes_updatePartial key gives
  | delete key => exact repo.takes_delete key
  | deleteWhere c => exact repo.takes_deleteWhere c
  | find key => exact repo.takes_find (fun _ _ => .ask trivial) key
  | query clauses => exact repo.takes_query (fun _ _ => .ask trivial) clauses
  | queryOne clauses => exact repo.takes_queryOne (fun _ _ => .ask trivial) clauses
  | count clauses => exact repo.takes_count (fun _ => .ask rfl) clauses
  | hasAny clauses =>
    refine Attempt.takes_bind (repo.takes_count (fun _ => .ask rfl) clauses) fun _ => ?_
    exact Attempt.takes_pure _
  | queryWith relations clauses => exact repo.takes_query (fun _ _ => .ask trivial) _
  | findWith key relations => exact repo.takes_findWith (fun _ _ => .ask trivial) key relations
  | rawQuery sql args => exact repo.takes_rawQuery sql args
  | rawExec sql args =>
    exact Attempt.takes_bind (Attempt.takes_note _) fun _ => Attempt.takes_ask (.ask trivial)
  | createTable => exact repo.takes_createTable
  | dropTable => exact Attempt.takes_ask (.ask rfl)
  | migrateTable => exact Attempt.takes_ask (.ask rfl)
  | migrationStatus => exact repo.takes_migrationStatus (.ask rfl) (.ask rfl)
  | createIndex fields unique => exact repo.takes_createIndex fields unique
  | dropIndex name => exact repo.takes_dropIndex name
  | health => exact Attempt.takes_ask (.ask trivial)

end Operation

end EntityStore
