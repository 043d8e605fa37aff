import EntityStore.Proofs.Repository.Creation
import EntityStore.Proofs.Repository.Stage

/-!
# The lifecycle of entities

In which order the operations of a repository run hooks and ask the store. Of each operation the
whole course is written down, and the operation goes along it up to the first stage that fails.
An early hook that fails is such a stage. The failure of a late one is not: it is told to the
observer, and the operation goes on as if the hook had succeeded.
-/

namespace EntityStore.Repository

open Mutation

variable {σ α β γ : Type} [Store σ] [Entity α]

/-! ## Inserting -/

/-- Entities are inserted a batch at a time, and what the store generated is written back to
them. The last list has the entities with that, unless an insert fails. -/
inductive Inserts (scope : Scope) : List α → Course α → List α → Prop where
  | nil : Inserts scope [] [] []
  | failed {es : List α} (some : es ≠ []) (e : StoreError) :
      Inserts scope es [.asked ⟨.ask scope (insertion (es.take batchSize)), .error e⟩] es
  | unapplied {es left : List α} {rows : List Record} {err : Error} (some : es ≠ [])
      (applied : applyRows rows (es.take batchSize) = (.error err, left)) :
      Inserts scope es
        [.asked ⟨.ask scope (insertion (es.take batchSize)), .ok rows⟩, .refused err] es
  | batch {es first rest : List α} {rows : List Record} {writes : Course α} (some : es ≠ [])
      (applied : applyRows rows (es.take batchSize) = (.ok (), first))
      (behind : Inserts scope (es.drop batchSize) writes rest) :
      Inserts scope es
        (.asked ⟨.ask scope (insertion (es.take batchSize)), .ok rows⟩ :: writes) (first ++ rest)

/-- The writes of a creation: its inserts, and around them, if one insert is not enough and the
repository is not in a transaction, a transaction of their own. If an insert fails there, that
transaction is rolled back, and the creation fails as the insert did. -/
inductive Writes (repo : Repository α) (es : List α) : Course α → List α → Prop where
  | within {writes : Course α} {es' : List α} (within : repo.needsTransaction es.length = false)
      (inserts : Inserts repo.scope es writes es') : Writes repo es writes es'
  | unopened (alone : repo.needsTransaction es.length = true) (e : StoreError) :
      Writes repo es [.asked ⟨.begin {}, .error e⟩] es
  | ended {id : Nat} {writes : Course α} {es' : List α}
      (alone : repo.needsTransaction es.length = true) (inserts : Inserts (.tx id) es writes es')
      (done : writes.verdict = .ok ()) (answer : Except StoreError Unit) :
      Writes repo es
        (.asked ⟨.begin {}, .ok id⟩ :: writes ++ [.asked ⟨.steer id .commit, answer⟩]) es'
  | undone {id : Nat} {writes : Course α} {es' : List α} {err : Error}
      (alone : repo.needsTransaction es.length = true) (inserts : Inserts (.tx id) es writes es')
      (failed : writes.verdict = .error err) (answer : Except StoreError Unit) :
      Writes repo es
        (.asked ⟨.begin {}, .ok id⟩ :: writes.upTo.tries ++
          [.tried ⟨.steer id .rollback, answer⟩, .refused err]) es'

/-- The entities behind the hooks that run before they are inserted. -/
def readied (es : List α) : List α := es.map fun e => (Entity.hooks.beforeCreate e).2

/-- The course of a creation: every entity is validated, the early hook runs on every entity, the
entities are written, and the late hook runs on every one of them. -/
def creationCourse (es : List α) (writes : Course α) (es' : List α) : Course α :=
  es.map (.hook .validate) ++ es.map (.hook .beforeCreate) ++ writes ++ es'.map (.hook .afterCreate)

/-! ## Updating and deleting -/

/-- A write that counts the rows it affects, and the late hook behind it if there are any. -/
inductive Affects (scope : Scope) (r : Request UInt64) (point : HookPoint) (e : α) :
    Course α → Prop where
  | failed (err : StoreError) : Affects scope r point e [.asked ⟨.ask scope r, .error err⟩]
  | missed : Affects scope r point e
      [.asked ⟨.ask scope r, .ok 0⟩, .refused (notFoundError (Entity.info α))]
  | hit {rows : UInt64} (some : rows ≠ 0) :
      Affects scope r point e [.asked ⟨.ask scope r, .ok rows⟩, .hook point e]

/-- The write of an update, by the key of the entity. -/
inductive Updates (repo : Repository α) (e : α) : Course α → Prop where
  | keyless {err : Error} (keyless : keyFilter (Entity.info α) (Entity.primaryKey e) = .error err) :
      Updates repo e [.refused err]
  | keyed {key : Field} {filters : List Predicate} {course : Course α}
      (required : (Entity.info α).requirePrimaryKey = .ok key)
      (filtered : keyFilter (Entity.info α) (Entity.primaryKey e) = .ok filters)
      (affects : Affects repo.scope
        (.update (Entity.info α).table ((Entity.toRecord e).remove key.column) filters)
        .afterUpdate e course) : Updates repo e course

/-- The query for the entity of a key. -/
def fetch (α : Type) [Entity α] (filters : List Predicate) : Request (List Record) :=
  .select (Entity.info α).table (Compiled.filtered filters).first

/-- The entity of the first row. -/
def loaded (α : Type) [Entity α] (rows : List Record) : Except Error α :=
  (firstRow rows >>= Entity.fromRecord).mapError StoreError.classify

/-- A deletion: the entity is fetched by the key, and the row is deleted if the hook that runs on
it lets that happen. -/
inductive Deletes (repo : Repository α) (key : Value) : Course α → Prop where
  | keyless {err : Error} (keyless : keyFilter (Entity.info α) key = .error err) :
      Deletes repo key [.refused err]
  | unfetched {filters : List Predicate} (filtered : keyFilter (Entity.info α) key = .ok filters)
      (e : StoreError) : Deletes repo key [.asked ⟨.ask repo.scope (fetch α filters), .error e⟩]
  | unread {filters : List Predicate} {rows : List Record} {err : Error}
      (filtered : keyFilter (Entity.info α) key = .ok filters)
      (unread : loaded α rows = .error err) :
      Deletes repo key [.asked ⟨.ask repo.scope (fetch α filters), .ok rows⟩, .refused err]
  | loaded {filters : List Predicate} {rows : List Record} {e : α} {course : Course α}
      (filtered : keyFilter (Entity.info α) key = .ok filters) (read : loaded α rows = .ok e)
      (affects : Affects repo.scope (.delete (Entity.info α).table filters) .afterDelete e course) :
      Deletes repo key
        (.asked ⟨.ask repo.scope (fetch α filters), .ok rows⟩ :: .hook .beforeDelete e :: course)

/-! ## Reading -/

/-- The stage is a query, or what was found cannot be made into entities. -/
inductive Loads : Stage α → Prop where
  | selected (scope : Scope) (table : String) (q : Compiled)
      (answer : Except StoreError (List Record)) : Loads (.asked ⟨.ask scope (.select table q), answer⟩)
  | refused (err : Error) : Loads (.refused err)

/-- A reading queries the store, and only then runs the hook of found entities, on each of these.
It answers them as the hook has left them, whether it failed or not. -/
def Reads (act : Action σ β) (listed : β → List α) (s : Session σ) : Prop :=
  ∃ (loading : Course α) (found : List α) (result : Except Error β) (s' : Session σ),
    (∀ stage ∈ loading, Loads stage) ∧ act.run.run s = (result, s') ∧
    Runs (loading ++ found.map (.hook .afterFind)) s s' result ∧
    ∀ y, result = .ok y → listed y = found.map fun e => (Entity.hooks.afterFind e).2

/-! ## Creations -/

section

variable {scope : Scope} {repo : Repository α} {es es' : List α} {writes : Course α}

theorem length_applyRows (rows : List Record) (es : List α) :
    (applyRows rows es).2.length = es.length := by
  induction rows generalizing es with
  | nil => cases es <;> rfl
  | cons row rows ih =>
    cases es with
    | nil => rfl
    | cons e es =>
      rw [applyRows]
      rcases Entity.applyRecord row e with ⟨err | ⟨⟩, e'⟩
      · rfl
      · exact congrArg (· + 1) (ih es)

theorem Inserts.length (inserts : Inserts scope es writes es') : es'.length = es.length := by
  induction inserts with
  | nil | failed | unapplied => rfl
  | @batch es first rest rows writes some applied behind ih =>
    have kept := length_applyRows rows (es.take batchSize)
    rw [applied] at kept
    have kept : first.length = (es.take batchSize).length := kept
    rw [List.length_append, kept, ih, ← List.length_append, List.take_append_drop]

theorem Writes.length (wrote : Writes repo es writes es') : es'.length = es.length := by
  cases wrote with
  | within _ inserts | ended _ inserts | undone _ inserts => exact inserts.length
  | unopened => rfl

/-- There are writes of any entities, if only such as the store refuses. -/
theorem exists_writes (repo : Repository α) (es : List α) : ∃ writes, Writes repo es writes es := by
  by_cases alone : repo.needsTransaction es.length = true
  · exact ⟨_, .unopened alone .noRows⟩
  · have within := Bool.eq_false_iff.mpr alone
    cases es with
    | nil => exact ⟨_, .within within .nil⟩
    | cons e es => exact ⟨_, .within within (.failed (List.cons_ne_nil e es) .noRows)⟩

/-- One insert, and what comes back written to the entities. -/
theorem run_insertRows (scope : Scope) (es : List α) (s : Session σ) :
    ∃ (answer : Except StoreError (List Record)) (s' : Session σ),
      Runs [(.asked ⟨.ask scope (insertion es), answer⟩ : Stage α)] s s'
        (answer.mapError StoreError.classify) ∧
      (∀ e, answer = .error e →
        ((insertRows scope).runOn es).run s = ((.error e.classify, es), s')) ∧
      ∀ rows, answer = .ok rows → ((insertRows scope).runOn es).run s = (applyRows rows es, s') := by
  obtain ⟨answer, s', asked, runs⟩ := run_asked α scope (insertion es) s
  refine ⟨answer, s', runs, ?_, ?_⟩
  · rintro e rfl
    rw [insertRows, runOn_bind_ok (runOn_get es s)]
    exact runOn_bind_error (runOn_act asked es)
  · rintro rows rfl
    rw [insertRows, runOn_bind_ok (runOn_get es s)]
    exact runOn_bind_ok (runOn_act asked es)

theorem run_insertChunks (scope : Scope) (positive : 0 < batchSize) (es : List α) (s : Session σ) :
    ∃ writes es' result left s',
      (insertChunks scope batchSize positive es).run s = ((result, left), s') ∧
      Inserts scope es writes es' ∧ Runs writes s s' result ∧ (result = .ok () → left = es') := by
  fun_induction insertChunks (σ := σ) scope batchSize positive es generalizing s with
  | case1 => exact ⟨[], [], .ok (), [], s, rfl, .nil, .nil s (), fun _ => rfl⟩
  | case2 e es ih =>
    have some : e :: es ≠ [] := List.cons_ne_nil e es
    obtain ⟨answer, mid, asked, failed, answered⟩ := run_insertRows scope ((e :: es).take batchSize) s
    rw [StateT.run_bind]
    cases answer with
    | error err =>
      rw [failed err rfl]
      exact ⟨_, _, _, _, _, rfl, .failed some err, asked.fails, of_error_eq_ok⟩
    | ok rows =>
      rw [answered rows rfl]
      rcases applied : applyRows rows ((e :: es).take batchSize) with ⟨err | ⟨⟩, first⟩
      · refine ⟨_, _, _, _, _, rfl, .unapplied some applied, ?_, of_error_eq_ok⟩
        exact asked.append (.refuse mid err)
      · obtain ⟨writes, es', result, left, s', ran, inserts, runs, whole⟩ := ih mid
        refine ⟨_, _, result, first ++ left, s', ?_, .batch some applied inserts, asked.append runs, ?_⟩
        · change (insertChunks scope batchSize positive ((e :: es).drop batchSize) >>= _ :
            StateM (Session σ) _).run mid = _
          rw [StateT.run_bind, ran]
          rfl
        · intro done
          rw [whole done]

theorem run_insertBatch (scope : Scope) (es : List α) (s : Session σ) :
    ∃ writes es' result left s',
      ((insertBatch scope).runOn es).run s = ((result, left), s') ∧
      Inserts scope es writes es' ∧ Runs writes s s' result ∧ (result = .ok () → left = es') :=
  run_insertChunks scope (by decide) es s

theorem Inserts.unhooked (inserts : Inserts scope es writes es') :
    ∀ stage ∈ writes, stage.isHook = false := by
  induction inserts with
  | nil => exact List.forall_mem_nil _
  | failed => exact List.forall_mem_singleton.mpr rfl
  | unapplied => exact List.forall_mem_cons.mpr ⟨rfl, List.forall_mem_singleton.mpr rfl⟩
  | batch some applied behind ih => exact List.forall_mem_cons.mpr ⟨rfl, ih⟩

theorem run_start_stepped (s : Session σ) :
    (Store.start {}).classified.run.run s =
      ((Store.begin {} s.store).result.mapError StoreError.classify, stepped s (.begin {})) := by
  rw [run_classified, Store.start, run_reply]
  rfl

theorem run_steer_stepped (id : Nat) (c : Control) (s : Session σ) :
    (Store.steer id c).run.run s = ((Store.control id c s.store).result, stepped s (.steer id c)) :=
  run_steer id c s

/-- A batch whose writes failed fails as these did, be its transaction rolled back or not. -/
theorem run_endBatch_error (id : Nat) (err : Error) (s : Session σ) :
    ∃ answer s', (endBatch id (.error err) : Action σ Unit).run.run s = (.error err, s') ∧
      Runs [(.tried ⟨.steer id .rollback, answer⟩ : Stage α), .refused err] s s'
        (.error err : Except Error Unit) := by
  have back : ((Store.steer id .rollback).outcome : Action σ _).run.run s =
      (.ok (Store.control id .rollback s.store).result, stepped s (.steer id .rollback)) := by
    rw [run_outcome, run_steer_stepped]
  have tried := Runs.tried (α := α) s (.steer id .rollback)
  rw [endBatch, run_bind_ok back]
  cases (Store.control id .rollback s.store).result with
  | ok u => exact ⟨_, _, rfl, tried.append (.refuse _ err)⟩
  | error undo => exact ⟨_, _, rfl, tried.append (.log _ (.refuse _ err))⟩

/-- The writes of a batch in a transaction of their own. -/
theorem run_insertInTransaction (alone : repo.needsTransaction es.length = true) (s : Session σ) :
    ∃ writes es' result left s',
      (insertInTransaction.runOn es).run s = ((result, left), s') ∧
      Writes repo es writes es' ∧ Runs writes s s' result ∧ (result = .ok () → left = es') := by
  have opening := Runs.asked (α := α) s (.begin {})
  have starting := run_start_stepped s
  change Runs [(.asked ⟨.begin {}, (Store.begin {} s.store).result⟩ : Stage α)] _ _
    ((Store.begin {} s.store).result.mapError StoreError.classify) at opening
  cases opened : (Store.begin {} s.store).result with
  | error e =>
    rw [opened] at opening starting
    rw [insertInTransaction]
    exact ⟨_, _, _, _, _, runOn_bind_error (runOn_act starting es), .unopened alone e,
      opening.fails, of_error_eq_ok⟩
  | ok id =>
    rw [opened] at opening starting
    obtain ⟨writes, es', result, left, mid, ran, inserts, runs, whole⟩ :=
      run_insertBatch (.tx id) es (stepped s (.begin {}))
    cases result with
    | ok u =>
      have done : writes.verdict = .ok () := runs.comes.symm
      have commit : (endBatch id (.ok ()) : Action σ Unit).run.run mid =
          ((Store.control id .commit mid.store).result.mapError StoreError.classify,
            stepped mid (.steer id .commit)) := by
        rw [endBatch, Action.steer, run_classified, run_steer_stepped]
        rfl
      refine ⟨_, es', _, left, _, runOn_insertInTransaction starting ran commit,
        .ended alone inserts done (Store.control id .commit mid.store).result, ?_, fun _ => whole rfl⟩
      exact (opening.append runs).append (.asked mid (.steer id .commit))
    | error err =>
      have failed : writes.verdict = .error err := runs.comes.symm
      obtain ⟨answer, s', ended, undone⟩ := run_endBatch_error (α := α) id err mid
      have unhooked : ∀ stage ∈ writes.upTo, stage.isHook = false :=
        fun stage member => inserts.unhooked stage (writes.upTo_subset member)
      refine ⟨_, es', _, left, _, runOn_insertInTransaction starting ran ended,
        .undone alone inserts failed answer, ?_, of_error_eq_ok⟩
      exact (opening.append (Runs.tries runs.follows unhooked)).append undone

/-- The writes of a batch, whether they need a transaction or not. -/
theorem run_writes (repo : Repository α) (es : List α) (s : Session σ) :
    ∃ writes es' result left s',
      ((if repo.needsTransaction es.length then insertInTransaction else insertBatch repo.scope :
        Mutation σ (List α) Unit).runOn es).run s = ((result, left), s') ∧
      Writes repo es writes es' ∧ Runs writes s s' result ∧ (result = .ok () → left = es') := by
  by_cases alone : repo.needsTransaction es.length = true
  · rw [if_pos alone]
    exact run_insertInTransaction alone s
  · rw [if_neg alone]
    obtain ⟨writes, es', result, left, s', ran, inserts, runs, whole⟩ :=
      run_insertBatch repo.scope es s
    exact ⟨writes, es', result, left, s', ran, .within (Bool.eq_false_iff.mpr alone) inserts, runs,
      whole⟩

/-- The stages of all entities before the first write. -/
theorem run_readyAll (es : List α) (s : Session σ) :
    ∃ s', ((each (early .validate) >>= fun _ => each (early .beforeCreate) :
        Mutation σ (List α) Unit).runOn es).run s = (readyAll es, s') ∧
      Runs (es.map (.hook .validate) ++ es.map (.hook .beforeCreate) : Course α) s s' (readyAll es).1 ∧
      ((readyAll es).1 = .ok () → (readyAll es).2 = readied es) := by
  obtain ⟨mid, checked, runs⟩ := (isStage_early (σ := σ) (α := α) .validate rfl).each es s
  rw [readyAll, Edit.andThen]
  rcases outcome : (earlyEdit .validate).each es with ⟨err | ⟨⟩, es₁⟩
  · rw [outcome] at checked runs
    exact ⟨mid, runOn_bind_error checked, runs.cut _, of_error_eq_ok⟩
  · have same : es₁ = es := (Edit.each_of_ok outcome).trans (List.map_id' es)
    rw [outcome, same] at checked runs
    rw [same]
    obtain ⟨s', ran, behind⟩ := (isStage_early (σ := σ) (α := α) .beforeCreate rfl).each es mid
    refine ⟨s', ?_, runs.append behind, fun done => ?_⟩
    · rw [runOn_bind_ok checked, ran]
    · exact Edit.each_of_ok (Prod.ext done rfl)

/-- The late hook runs on every entity that was written. -/
theorem run_late_behind (repo : Repository α) {m : Mutation σ (List α) Unit} {es left : List α}
    {s mid : Session σ} {result : Except Error Unit}
    (ran : (m.runOn es).run s = ((result, left), mid)) (runs : Runs writes s mid result)
    (applied : result = .ok () → left = es') :
    ∃ result left s',
      ((m >>= fun _ => each (repo.late .afterCreate)).runOn es).run s = ((result, left), s') ∧
      Runs (writes ++ es'.map (.hook .afterCreate)) s s' result := by
  cases result with
  | error err => exact ⟨_, _, _, runOn_bind_error ran, runs.cut _⟩
  | ok u =>
    rw [applied rfl] at ran
    obtain ⟨s', hooked, behind⟩ :=
      (isStage_late (σ := σ) repo .afterCreate rfl).each es' mid
    exact ⟨_, _, s', (runOn_bind_ok ran).trans hooked, runs.append behind⟩

/-- A batch goes along the course of a creation. -/
theorem runs_createBatch (repo : Repository α) (some : es ≠ []) (s : Session σ) :
    ∃ writes es' result left s', (repo.createBatch.runOn es).run s = ((result, left), s') ∧
      Writes repo (readied es) writes es' ∧ Runs (creationCourse es writes es') s s' result := by
  have filled : es.length ≠ 0 := List.length_eq_zero_iff.not.mpr some
  obtain ⟨s₁, ready, runs, whole⟩ := run_readyAll es s
  rw [createBatch, runOn_bind_ok (runOn_get es s)]
  dsimp only
  rw [if_neg filled, ← bind_assoc]
  rcases outcome : readyAll es with ⟨err | ⟨⟩, es₁⟩
  · rw [outcome] at ready runs
    obtain ⟨writes, wrote⟩ := exists_writes repo (readied es)
    refine ⟨writes, _, _, _, _, runOn_bind_error ready, wrote, ?_⟩
    exact (runs.cut writes).cut _
  · rw [outcome] at ready runs whole
    have same : es₁ = readied es := whole rfl
    have length : es.length = (readied es).length := (List.length_map _).symm
    rw [same] at ready
    rw [runOn_bind_ok ready, length]
    obtain ⟨line, logged⟩ := runOn_logOp α "create_batch" "insert batch"
      [("rows", .count (readied es).length), ("writes", .count (writesOf (readied es).length))]
      (readied es) s₁
    rw [runOn_bind_ok logged]
    obtain ⟨writes, es', result, left, s₂, ran, wrote, written, applied⟩ :=
      run_writes repo (readied es) (s₁.note [.log line])
    have finish : ∃ result left s', ((if repo.needsTransaction (readied es).length then
        insertInTransaction >>= fun _ => each (repo.late .afterCreate)
      else insertBatch repo.scope >>= fun _ => each (repo.late .afterCreate) :
        Mutation σ (List α) Unit).runOn (readied es)).run (s₁.note [.log line]) =
          ((result, left), s') ∧
      Runs (writes ++ es'.map (.hook .afterCreate)) (s₁.note [.log line]) s' result := by
      by_cases alone : repo.needsTransaction (readied es).length = true
      · rw [if_pos alone] at ran ⊢
        exact run_late_behind repo ran written applied
      · rw [if_neg alone] at ran ⊢
        exact run_late_behind repo ran written applied
    obtain ⟨result, left, s', ended, behind⟩ := finish
    refine ⟨writes, es', result, left, s', ended, wrote, ?_⟩
    rw [creationCourse, List.append_assoc]
    exact runs.append (.log line behind)

/-- The two early hooks of a write to one entity. -/
theorem run_checked (point : HookPoint) (aborts : point.aborts = true) (e : α) (s : Session σ) :
    ∃ result e' s', ((early .validate >>= fun _ => early point : Mutation σ α Unit).runOn e).run s =
        ((result, e'), s') ∧
      Runs [.hook .validate e, .hook point e] s s' result ∧
      (result = .ok () → e' = (Entity.hooks.at point e).2) := by
  obtain ⟨mid, checked, runs⟩ := isStage_early (σ := σ) .validate rfl e s
  rcases outcome : earlyEdit .validate e with ⟨err | ⟨⟩, e₁⟩
  · rw [outcome] at checked runs
    exact ⟨_, _, mid, runOn_bind_error checked, runs.cut [_], of_error_eq_ok⟩
  · have same : e₁ = e := (congrArg Prod.snd outcome).symm
    rw [outcome, same] at checked
    rw [outcome] at runs
    obtain ⟨s', ran, behind⟩ := isStage_early (σ := σ) point aborts e mid
    exact ⟨_, _, s', (runOn_bind_ok checked).trans ran, runs.append behind, fun _ => rfl⟩

/-- One insert is enough for one entity. -/
theorem Inserts.one {e : α} {rows : List Record} {es : List α}
    (applied : applyRows rows [e] = (.ok (), es)) :
    Inserts scope [e] [.asked ⟨.ask scope (insertion [e]), .ok rows⟩] es := by
  have inserts : Inserts scope [e] _ (es ++ []) := .batch (List.cons_ne_nil e []) applied .nil
  rwa [List.append_nil] at inserts

/-- The insert of one entity and what is behind it. -/
theorem run_inserting (repo : Repository α) (e : α) (s : Session σ) :
    ∃ writes es' result e' s', ((act (.ask repo.scope (insertion [e])) >>= fun answers => do
        match answers with
        | [] => pure ()
        | answer :: _ => edit ((Entity.applyRecord answer).mapError StoreError.classify)
        repo.late .afterCreate : Mutation σ α Unit).runOn e).run s = ((result, e'), s') ∧
      Inserts repo.scope [e] writes es' ∧
      Runs (writes ++ es'.map (.hook .afterCreate)) s s' result := by
  have some : [e] ≠ [] := List.cons_ne_nil e []
  obtain ⟨answer, mid, asked, runs⟩ := run_asked α repo.scope (insertion [e]) s
  cases answer with
  | error err =>
    exact ⟨_, _, _, _, _, runOn_bind_error (runOn_act asked e), .failed some err, runs.fails.cut _⟩
  | ok rows =>
    rw [runOn_bind_ok (runOn_act asked e)]
    have late (e : α) := isStage_late (σ := σ) repo .afterCreate rfl e mid
    cases rows with
    | nil =>
      obtain ⟨s', hooked, behind⟩ := late e
      exact ⟨_, [e], _, _, s', hooked, .one rfl, runs.append behind⟩
    | cons row rows =>
      have applying := applyRows_singleton row rows e
      rcases applied : (Entity.applyRecord row).mapError StoreError.classify e with ⟨err | ⟨⟩, e₁⟩
      · rw [applied] at applying
        refine ⟨_, _, _, _, _, runOn_bind_error (runOn_edit applied mid),
          .unapplied some applying, ?_⟩
        exact (runs.append (.refuse mid err)).cut _
      · rw [applied] at applying
        obtain ⟨s', hooked, behind⟩ := late e₁
        exact ⟨_, [e₁], _, _, s', (runOn_bind_ok (runOn_edit applied mid)).trans hooked,
          .one applying, runs.append behind⟩

/-- The insert of one entity goes along the course of a creation of one. -/
theorem runs_create (repo : Repository α) (e : α) (s : Session σ) :
    ∃ writes es' result e' s', (repo.create.runOn e).run s = ((result, e'), s') ∧
      Writes repo (readied [e]) writes es' ∧ Runs (creationCourse [e] writes es') s s' result := by
  obtain ⟨result, e₁, s₁, ready, runs, whole⟩ := run_checked (σ := σ) .beforeCreate rfl e s
  rw [create, ← bind_assoc]
  cases result with
  | error err =>
    obtain ⟨writes, wrote⟩ := exists_writes repo (readied [e])
    exact ⟨writes, _, _, _, _, runOn_bind_error ready, wrote, (runs.cut writes).cut _⟩
  | ok u =>
    have same : readied [e] = [e₁] := congrArg (fun x => [x]) (whole rfl).symm
    have within : repo.needsTransaction [e₁].length = false := by
      simp [needsTransaction, batchSize]
    obtain ⟨line, logged⟩ := runOn_logOp α "create" "insert" [] e₁ s₁
    obtain ⟨writes, es', result, e', s', ran, inserts, behind⟩ :=
      run_inserting repo e₁ (s₁.note [.log line])
    rw [runOn_bind_ok ready, runOn_bind_ok (runOn_get e₁ s₁), runOn_bind_ok logged, same]
    refine ⟨writes, es', result, e', s', ran, .within within inserts, ?_⟩
    rw [creationCourse, List.append_assoc]
    exact runs.append (.log line behind)

end

/-! ## Updates and deletions -/

section

variable {repo : Repository α}

omit [Store σ] [Entity α] in
theorem run_affected_none (info : EntityInfo) (s : Session σ) :
    (affected info 0 : Action σ Unit).run.run s = (.error (notFoundError info), s) := rfl

omit [Store σ] [Entity α] in
theorem run_affected_some (info : EntityInfo) {rows : UInt64} (some : rows ≠ 0) (s : Session σ) :
    (affected info rows : Action σ Unit).run.run s = (.ok (), s) := by
  rw [affected, if_neg some]
  rfl

/-- The write of an update and what is behind it. -/
theorem run_updating (repo : Repository α) (r : Request UInt64) (e : α) (s : Session σ) :
    ∃ course result e' s', ((act (.ask repo.scope r) >>= fun rows =>
        act (affected (Entity.info α) rows) >>= fun _ => repo.late .afterUpdate :
          Mutation σ α Unit).runOn e).run s = ((result, e'), s') ∧
      Affects repo.scope r .afterUpdate e course ∧ Runs course s s' result := by
  obtain ⟨answer, mid, asked, runs⟩ := run_asked α repo.scope r s
  cases answer with
  | error err =>
    exact ⟨_, _, _, mid, runOn_bind_error (runOn_act asked e), .failed err, runs.fails⟩
  | ok rows =>
    rw [runOn_bind_ok (runOn_act asked e)]
    by_cases none : rows = 0
    · subst none
      exact ⟨_, _, _, mid, runOn_bind_error (runOn_act (run_affected_none _ mid) e), .missed,
        runs.append (.refuse mid _)⟩
    · rw [runOn_bind_ok (runOn_act (run_affected_some _ none mid) e)]
      obtain ⟨s', hooked, behind⟩ := isStage_late (σ := σ) repo .afterUpdate rfl e mid
      exact ⟨_, _, _, s', hooked, .hit none, runs.append behind⟩

/-- The write of a deletion and what is behind it. -/
theorem run_deleting (repo : Repository α) (r : Request UInt64) (e : α) (s : Session σ) :
    ∃ course result s', ((Action.ask repo.scope r >>= fun rows =>
        affected (Entity.info α) rows >>= fun _ =>
          (repo.late .afterDelete).changed e >>= fun _ => pure () : Action σ Unit)).run.run s =
        (result, s') ∧
      Affects repo.scope r .afterDelete e course ∧ Runs course s s' result := by
  obtain ⟨answer, mid, asked, runs⟩ := run_asked α repo.scope r s
  cases answer with
  | error err => exact ⟨_, _, mid, run_bind_error asked, .failed err, runs.fails⟩
  | ok rows =>
    rw [run_bind_ok asked]
    by_cases none : rows = 0
    · subst none
      exact ⟨_, _, mid, run_bind_error (run_affected_none _ mid), .missed,
        runs.append (.refuse mid _)⟩
    · rw [run_bind_ok (run_affected_some _ none mid)]
      obtain ⟨s', hooked, behind⟩ := isStage_late (σ := σ) repo .afterDelete rfl e mid
      have changed := run_changed hooked
      rw [run_bind_ok changed]
      exact ⟨_, _, s', rfl, .hit none, runs.append behind⟩

theorem exists_updates (repo : Repository α) (e : α) : ∃ course, Updates repo e course := by
  cases filtered : keyFilter (Entity.info α) (Entity.primaryKey e) with
  | error err => exact ⟨_, .keyless filtered⟩
  | ok filters =>
    obtain ⟨key, required, -⟩ := exists_of_bind filtered
    exact ⟨_, .keyed required filtered (.failed .noRows)⟩

/-- An update goes along its course. -/
theorem runs_update (repo : Repository α) (e : α) (s : Session σ) :
    ∃ course result e' s', (repo.update.runOn e).run s = ((result, e'), s') ∧
      Updates repo (Entity.hooks.beforeUpdate e).2 course ∧
      Runs (.hook .validate e :: .hook .beforeUpdate e :: course) s s' result := by
  obtain ⟨result, e₁, s₁, ready, runs, whole⟩ := run_checked (σ := σ) .beforeUpdate rfl e s
  rw [update, ← bind_assoc]
  cases result with
  | error err =>
    obtain ⟨course, updates⟩ := exists_updates repo (Entity.hooks.beforeUpdate e).2
    exact ⟨course, _, _, _, runOn_bind_error ready, updates, runs.cut course⟩
  | ok u =>
    have same : (Entity.hooks.beforeUpdate e).2 = e₁ := (whole rfl).symm
    rw [runOn_bind_ok ready, runOn_bind_ok (runOn_get e₁ s₁), same]
    have given {γ : Type} (x : Except Error γ) :
        ((act (.ofExcept x) : Mutation σ α γ).runOn e₁).run s₁ = ((x, e₁), s₁) :=
      runOn_act (run_ofExcept x s₁) e₁
    cases required : (Entity.info α).requirePrimaryKey with
    | error err =>
      have keyless : keyFilter (Entity.info α) (Entity.primaryKey e₁) = .error err := by
        rw [keyFilter, required]
        rfl
      exact ⟨_, _, _, _, runOn_bind_error (given _), .keyless keyless,
        runs.append (.refuse s₁ err)⟩
    | ok key =>
      rw [runOn_bind_ok (given _)]
      cases filtered : keyFilter (Entity.info α) (Entity.primaryKey e₁) with
      | error err =>
        exact ⟨_, _, _, _, runOn_bind_error (given _), .keyless filtered,
          runs.append (.refuse s₁ err)⟩
      | ok filters =>
        obtain ⟨line, logged⟩ := runOn_logOp α "update" "update" [] e₁ s₁
        rw [runOn_bind_ok (given _)]
        dsimp only
        rw [runOn_bind_ok logged]
        obtain ⟨course, result, e', s', ran, affects, behind⟩ := run_updating repo
          (.update (Entity.info α).table ((Entity.toRecord e₁).remove key.column) filters) e₁
          (s₁.note [.log line])
        exact ⟨course, result, e', s', ran, .keyed required filtered affects,
          runs.append (.log line behind)⟩

variable (α) in
/-- The first row is fetched by one query. -/
theorem run_fetchOne (scope : Scope) (table : String) (q : Compiled) (s : Session σ) :
    ∃ (answer : Except StoreError (List Record)) (s' : Session σ),
      (Action.fetchOne scope table q).run.run s =
        ((answer >>= firstRow).mapError StoreError.classify, s') ∧
      Runs [(.asked ⟨.ask scope (.select table q.first), answer⟩ : Stage α)] s s'
        (answer.mapError StoreError.classify) :=
  ⟨_, _, Action.run_fetchOne .., .asked s (.ask scope (.select table q.first))⟩

/-- The entity of a key is fetched by one query. -/
theorem run_fetching (scope : Scope) (filters : List Predicate) (s : Session σ) :
    ∃ (answer : Except StoreError (List Record)) (s' : Session σ),
      (Action.fetchOne scope (Entity.info α).table (.filtered filters) >>= decodeRow α).run.run s =
        (answer.mapError StoreError.classify >>= loaded α, s') ∧
      Runs [(.asked ⟨.ask scope (fetch α filters), answer⟩ : Stage α)] s s'
        (answer.mapError StoreError.classify) := by
  obtain ⟨answer, s', fetched, runs⟩ :=
    run_fetchOne α scope (Entity.info α).table (.filtered filters) s
  refine ⟨answer, s', ?_, runs⟩
  cases answer with
  | error e =>
    rw [run_bind_error fetched]
    rfl
  | ok rows =>
    cases rows with
    | nil =>
      rw [run_bind_error fetched]
      rfl
    | cons row rows =>
      rw [run_bind_ok fetched, decodeRow, run_ofExcept]
      rfl

/-- A deletion goes along its course. -/
theorem runs_delete (repo : Repository α) (key : Value) (s : Session σ) :
    ∃ course result s', (repo.delete key).run.run s = (result, s') ∧
      Deletes repo key course ∧ Runs course s s' result := by
  have keyed (x : Except Error (List Predicate)) :
      (Attempt.ofExcept x : Action σ (List Predicate)).run.run s = (x, s) := run_ofExcept x s
  rw [delete]
  cases filtered : keyFilter (Entity.info α) key with
  | error err =>
    exact ⟨_, _, s, run_bind_error (keyed _), .keyless filtered, .refuse s err⟩
  | ok filters =>
    obtain ⟨answer, mid, fetched, runs⟩ := run_fetching (α := α) repo.scope filters s
    rw [run_bind_ok (keyed _), ← bind_assoc]
    cases answer with
    | error e => exact ⟨_, _, mid, run_bind_error fetched, .unfetched filtered e, runs.fails⟩
    | ok rows =>
      have fetched : _ = (loaded α rows, mid) := fetched
      cases read : loaded α rows with
      | error err =>
        rw [read] at fetched
        exact ⟨_, _, mid, run_bind_error fetched, .unread filtered read,
          runs.append (.refuse mid err)⟩
      | ok e =>
        rw [read] at fetched
        obtain ⟨s₁, hooked, asked⟩ := isStage_early (σ := σ) .beforeDelete rfl e mid
        rw [run_bind_ok fetched]
        rcases outcome : earlyEdit .beforeDelete e with ⟨err | ⟨⟩, e₁⟩
        · rw [outcome] at hooked asked
          exact ⟨_, _, s₁, run_bind_error (run_changed hooked), .loaded filtered read (.failed .noRows),
            (runs.append asked).cut _⟩
        · have same : e₁ = e := (congrArg Prod.snd outcome).symm
          rw [outcome, same] at hooked
          rw [outcome] at asked
          obtain ⟨line, logged⟩ : ∃ line, (logOp α "delete" "delete" [] : Action σ Unit).run.run s₁ =
              (.ok (), s₁.note [.log line]) := ⟨_, rfl⟩
          rw [run_bind_ok (run_changed hooked), run_bind_ok logged]
          obtain ⟨course, result, s', ran, affects, behind⟩ := run_deleting repo
            (.delete (Entity.info α).table filters) e (s₁.note [.log line])
          exact ⟨_, result, s', ran, .loaded filtered read affects,
            (runs.append asked).append (.log line behind)⟩

end

/-! ## Readings -/

section

/-- The action queries the store, and runs no hook. -/
def OnlyLoads (α : Type) [Entity α] (act : Action σ β) : Prop :=
  ∀ s, ∃ (loading : Course α) (result : Except Error β) (s' : Session σ),
    (∀ stage ∈ loading, Loads stage) ∧ act.run.run s = (result, s') ∧ Runs loading s s' result

variable {act : Action σ β} {next : β → Action σ γ}

theorem onlyLoads_ofExcept (x : Except Error β) :
    OnlyLoads α (Attempt.ofExcept x : Action σ β) := by
  intro s
  cases x with
  | error err =>
    exact ⟨_, _, s, List.forall_mem_singleton.mpr (.refused err), run_ofExcept _ s, .refuse s err⟩
  | ok x => exact ⟨_, _, s, List.forall_mem_nil _, run_ofExcept _ s, .nil s x⟩

theorem onlyLoads_pure (x : β) : OnlyLoads α (pure x : Action σ β) := onlyLoads_ofExcept (.ok x)

theorem onlyLoads_log (line : LogLine) : OnlyLoads α (Action.log line : Action σ Unit) :=
  fun s => ⟨_, _, _, List.forall_mem_nil _, run_log line s, .log line (.nil _ ())⟩

theorem onlyLoads_bind (first : OnlyLoads α act) (rest : ∀ x, OnlyLoads α (next x)) :
    OnlyLoads α (act >>= next) := by
  intro s
  obtain ⟨loading, result, mid, loads, ran, runs⟩ := first s
  cases result with
  | error err => exact ⟨loading, _, mid, loads, run_bind_error ran, runs.fails⟩
  | ok x =>
    obtain ⟨more, result, s', loadsMore, ranOn, behind⟩ := rest x mid
    refine ⟨loading ++ more, result, s', ?_, (run_bind_ok ran).trans ranOn, runs.append behind⟩
    exact List.forall_mem_append.mpr ⟨loads, loadsMore⟩

theorem onlyLoads_mapM {f : β → Action σ γ} (each : ∀ x, OnlyLoads α (f x)) (xs : List β) :
    OnlyLoads α (xs.mapM f) := by
  induction xs with
  | nil => exact onlyLoads_pure []
  | cons x xs ih =>
    rw [List.mapM_cons]
    exact onlyLoads_bind (each x) fun y => onlyLoads_bind ih fun ys => onlyLoads_pure _

theorem onlyLoads_select (scope : Scope) (table : String) (q : Compiled) :
    OnlyLoads α (Action.ask scope (.select table q) : Action σ (List Record)) := by
  intro s
  obtain ⟨answer, s', asked, runs⟩ := run_asked α scope (.select table q) s
  exact ⟨_, _, s', List.forall_mem_singleton.mpr (.selected scope table q answer), asked, runs⟩

theorem onlyLoads_fetchOne (scope : Scope) (table : String) (q : Compiled) :
    OnlyLoads α (Action.fetchOne scope table q : Action σ Record) := by
  intro s
  obtain ⟨answer, s', fetched, runs⟩ := run_fetchOne α scope table q s
  have asked : Loads (.asked ⟨.ask scope (.select table q.first), answer⟩ : Stage α) :=
    .selected scope table q.first answer
  cases answer with
  | error e => exact ⟨_, _, s', List.forall_mem_singleton.mpr asked, fetched, runs.fails⟩
  | ok rows =>
    cases rows with
    | nil =>
      refine ⟨_, _, s', ?_, fetched, runs.append (.refuse s' _)⟩
      exact List.forall_mem_cons.mpr ⟨asked, List.forall_mem_singleton.mpr (.refused _)⟩
    | cons row rows =>
      exact ⟨_, _, s', List.forall_mem_append.mpr ⟨List.forall_mem_singleton.mpr asked,
        List.forall_mem_nil _⟩, fetched, runs.append (.nil s' row)⟩

theorem onlyLoads_decodeRow (row : Record) : OnlyLoads α (decodeRow α row : Action σ α) :=
  onlyLoads_ofExcept _

theorem onlyLoads_relatedRows (scope : Scope) (r : Relation) (keys : List Value) :
    OnlyLoads α (relatedRows scope r keys : Action σ (List Record)) := by
  rw [relatedRows]
  split
  · exact onlyLoads_pure []
  · exact onlyLoads_bind (onlyLoads_ofExcept _) fun column => onlyLoads_select scope _ _

theorem onlyLoads_loadRelation (scope : Scope) (r : Relation) (es : List α) :
    OnlyLoads α (loadRelation scope r es : Action σ (List α)) :=
  onlyLoads_bind (onlyLoads_relatedRows scope r _) fun _ => onlyLoads_ofExcept _

theorem onlyLoads_loadRelations (scope : Scope) (names : List String) (es : List α) :
    OnlyLoads α (loadRelations scope names es : Action σ (List α)) := by
  induction names generalizing es with
  | nil => exact onlyLoads_pure es
  | cons name names ih =>
    refine onlyLoads_bind (onlyLoads_ofExcept _) fun r => ?_
    by_cases none : es.isEmpty = true
    · rw [if_pos none]
      exact onlyLoads_bind (onlyLoads_pure []) ih
    · rw [if_neg none]
      exact onlyLoads_bind (onlyLoads_loadRelation scope r es) ih

end

section

variable {act : Action σ β} {next : β → Action σ γ} {listed : γ → List α}

/-- What is loaded first belongs to the reading. -/
theorem reads_bind (first : OnlyLoads α act) (rest : ∀ x s, Reads (next x) listed s)
    (s : Session σ) : Reads (act >>= next) listed s := by
  obtain ⟨loading, result, mid, loads, ran, runs⟩ := first s
  cases result with
  | error err =>
    refine ⟨loading, [], _, mid, loads, run_bind_error ran, ?_, fun _ => of_error_eq_ok⟩
    exact runs.fails.cut _
  | ok x =>
    obtain ⟨more, found, result, s', loadsMore, ranOn, behind, answers⟩ := rest x mid
    refine ⟨loading ++ more, found, result, s', ?_, (run_bind_ok ran).trans ranOn, ?_, answers⟩
    · exact List.forall_mem_append.mpr ⟨loads, loadsMore⟩
    · rw [List.append_assoc]
      exact runs.append behind

theorem runs_found (repo : Repository α) (e : α) (s : Session σ) :
    ∃ s', (repo.found e).run.run s = (.ok (Entity.hooks.afterFind e).2, s') ∧
      Runs [.hook .afterFind e] s s' (.ok () : Except Error Unit) := by
  obtain ⟨s', hooked, runs⟩ := isStage_late (σ := σ) repo .afterFind rfl e s
  exact ⟨s', run_changed hooked, runs⟩

theorem reads_found (repo : Repository α) (e : α) (s : Session σ) :
    Reads (repo.found e) ([·]) s := by
  obtain ⟨s', found, runs⟩ := runs_found repo e s
  refine ⟨[], [e], _, s', List.forall_mem_nil _, found, ⟨runs.follows, runs.comes⟩, ?_⟩
  rintro y ⟨⟩
  rfl

theorem runs_founds (repo : Repository α) (es : List α) (s : Session σ) :
    ∃ s', (es.mapM repo.found).run.run s = (.ok (es.map fun e => (Entity.hooks.afterFind e).2), s') ∧
      Runs (es.map (.hook .afterFind)) s s' (.ok () : Except Error Unit) := by
  induction es generalizing s with
  | nil => exact ⟨s, rfl, .nil s ()⟩
  | cons e es ih =>
    obtain ⟨mid, found, runs⟩ := runs_found repo e s
    obtain ⟨s', rest, behind⟩ := ih mid
    refine ⟨s', ?_, runs.append behind⟩
    rw [List.mapM_cons, run_bind_ok found, run_bind_ok rest]
    rfl

theorem reads_founds (repo : Repository α) (es : List α) (s : Session σ) :
    Reads (es.mapM repo.found) id s := by
  obtain ⟨s', found, runs⟩ := runs_founds repo es s
  refine ⟨[], es, _, s', List.forall_mem_nil _, found, ⟨runs.follows, runs.comes⟩, ?_⟩
  rintro y ⟨⟩
  rfl

theorem reads_find (repo : Repository α) (key : Value) (s : Session σ) :
    Reads (repo.find key) ([·]) s := by
  refine reads_bind (onlyLoads_ofExcept _) (fun filters => ?_) s
  refine reads_bind (onlyLoads_log _) fun _ => ?_
  refine reads_bind (onlyLoads_fetchOne _ _ _) fun row => ?_
  exact reads_bind (onlyLoads_decodeRow row) (reads_found repo)

theorem reads_query (repo : Repository α) (clauses : List Query.Clause) (s : Session σ) :
    Reads (repo.query clauses) id s := by
  refine reads_bind (onlyLoads_ofExcept _) (fun q => ?_) s
  refine reads_bind (onlyLoads_log _) fun _ => ?_
  refine reads_bind (onlyLoads_select _ _ _) fun rows => ?_
  refine reads_bind (onlyLoads_mapM onlyLoads_decodeRow rows) fun es => ?_
  exact reads_bind (onlyLoads_loadRelations _ _ es) (reads_founds repo)

theorem reads_finish (repo : Repository α) (relations : List String) (row : Record)
    (s : Session σ) : Reads (repo.finish relations row) ([·]) s := by
  refine reads_bind (onlyLoads_decodeRow row) (fun e => ?_) s
  refine reads_bind (onlyLoads_loadRelations _ _ [e]) fun es => ?_
  cases es with
  | nil => exact reads_found repo e
  | cons e' es => exact reads_found repo e'

theorem reads_queryOne (repo : Repository α) (clauses : List Query.Clause) (s : Session σ) :
    Reads (repo.queryOne clauses) ([·]) s := by
  refine reads_bind (onlyLoads_ofExcept _) (fun q => ?_) s
  refine reads_bind (onlyLoads_log _) fun _ => ?_
  exact reads_bind (onlyLoads_fetchOne _ _ _) (reads_finish repo q.preloads)

theorem reads_findWith (repo : Repository α) (key : Value) (relations : List String)
    (s : Session σ) : Reads (repo.findWith key relations) ([·]) s := by
  refine reads_bind (onlyLoads_ofExcept _) (fun filters => ?_) s
  exact reads_bind (onlyLoads_fetchOne _ _ _) (reads_finish repo relations)

end

/-! ## The lifecycle -/

/-- Where a creation goes along its course, whatever it is a creation of. -/
theorem runs_creation (repo : Repository α) (c : Creation α) (some : c.entities ≠ [])
    (s : Session σ) : ∃ writes es' result s', (c.run repo).run s = (result, s') ∧
      Writes repo (readied c.entities) writes es' ∧
      Runs (creationCourse c.entities writes es') s s' result := by
  cases c with
  | one e =>
    obtain ⟨writes, es', result, e', s', ran, wrote, runs⟩ := runs_create repo e s
    refine ⟨writes, es', result, s', ?_, wrote, runs⟩
    rw [Creation.run, StateT.run_map, ran]
    rfl
  | batch es =>
    obtain ⟨writes, es', result, left, s', ran, wrote, runs⟩ := runs_createBatch repo some s
    refine ⟨writes, es', result, s', ?_, wrote, runs⟩
    have ran : (repo.createBatch.runOn es).run s = ((result, left), s') := ran
    rw [Creation.run, StateT.run_map, ran]
    rfl

/-- The lifecycle of entities, for every type of entities and every store.

A creation of one entity or of many goes along its course up to the first stage that fails: the
check of each entity, the early hook of each, the writes, and the late hook of each. An update goes
along the check, the early hook, one write, and the late hook if a row was affected. A deletion
fetches the entity, runs the early hook on it, deletes, and runs the late hook if a row was
affected. A reading only queries the store, and the hook of found entities is the last thing that
it does to each.

Of each run: if an early hook fails, it is the last stage, and the operation fails by it with a
validation error. Late hooks behind a course change neither its verdict nor what the store is
asked. The observer is told of the late hooks that failed, once of each, in their order, and of
nothing else. -/
theorem hook_lifecycle (repo : Repository α) (s : Session σ) :
    (∀ c : Creation α, c.entities ≠ [] → ∃ writes es' result s',
      (c.run repo).run s = (result, s') ∧ Writes repo (readied c.entities) writes es' ∧
      es'.length = c.entities.length ∧
      Runs (creationCourse c.entities writes es') s s' result) ∧
    (∀ e : α, ∃ course result e' s', (repo.update.runOn e).run s = ((result, e'), s') ∧
      Updates repo (Entity.hooks.beforeUpdate e).2 course ∧
      Runs (.hook .validate e :: .hook .beforeUpdate e :: course) s s' result) ∧
    (∀ key, ∃ course result s', (repo.delete key).run.run s = (result, s') ∧
      Deletes repo key course ∧ Runs course s s' result) ∧
    (∀ key, Reads (repo.find key) ([·]) s) ∧
    (∀ clauses, Reads (repo.query clauses) id s) ∧
    (∀ clauses, Reads (repo.queryOne clauses) ([·]) s) ∧
    (∀ key relations, Reads (repo.findWith key relations) ([·]) s) ∧
    ∀ (course : Course α) (s s' : Session σ) (result : Except Error Unit),
      Runs course s s' result →
      (∀ (point : HookPoint) (e : α) reason, .hook point e ∈ course.upTo → point.aborts = true →
        (Entity.hooks.at point e).1 = .error reason →
          result = .error (stopped point reason) ∧ (stopped point reason).kind = .validation ∧
          ∃ front, course.upTo = front ++ [.hook point e]) ∧
      (∀ (point : HookPoint) (es : List α), point.aborts = false →
        (course ++ es.map (Stage.hook point)).verdict = course.verdict ∧
        (course ++ es.map (Stage.hook point)).upTo.steps = course.upTo.steps) ∧
      ∃ events, s'.journal = s.journal ++ events ∧
        events.filter Event.isObserved = course.upTo.flatMap Stage.told := by
  refine ⟨?creation, repo.runs_update (s := s), repo.runs_delete (s := s), repo.reads_find (s := s),
    repo.reads_query (s := s), repo.reads_queryOne (s := s), repo.reads_findWith (s := s), ?along⟩
  case creation =>
    intro c some
    obtain ⟨writes, es', result, s', ran, wrote, runs⟩ := runs_creation repo c some s
    have length : es'.length = c.entities.length := wrote.length.trans (List.length_map _)
    exact ⟨writes, es', result, s', ran, wrote, length, runs⟩
  case along =>
    intro course s s' result runs
    refine ⟨?_, fun point es goesOn => Course.append_late goesOn course es, runs.follows.observed⟩
    intro point e reason member aborts fails
    have failure : Stage.failure? (.hook point e) = some (stopped point reason) := by
      rw [Stage.failure?, if_pos aborts, Stage.reason?, fails]
      rfl
    obtain ⟨comes, last⟩ := Course.last_of_failure member failure
    refine ⟨?_, rfl, last⟩
    rw [← runs.comes] at comes
    cases result with
    | error err => exact comes
    | ok u => cases comes

/-- Authors that have to have a name, and whose late hook always fails. -/
def Named : Type := Sample.Author

instance : Entity Named := Sample.author.entity
  { validate := fun e => if e.cells.2.1 = "" then .error "no name" else .ok ()
    afterCreate := fun e => (.error "too late", e) }

def named (name : String) : Named := (.ofCells (0, name, ()) : Sample.Author)

/-- An author is created although the late hook fails, and the observer is told of that. One
without a name is refused before anything is asked of the store. -/
theorem named_author_created :
    (∃ writes es' s', ((Creation.one (named "Ann")).run .direct).run (Memory.laid Named) =
        (.ok (), s') ∧
      Runs (creationCourse [named "Ann"] writes es') (Memory.laid Named) s'
        (.ok () : Except Error Unit) ∧
      s'.journal.filter Event.isObserved = [.observed "Author" .afterCreate "too late"]) ∧
    ∃ err s', ((Creation.one (named "")).run .direct).run (Memory.laid Named) = (.error err, s') ∧
      err.kind = .validation ∧ s'.store = (Memory.laid Named).store := by
  constructor
  · obtain ⟨creation, -⟩ := hook_lifecycle (.direct : Repository Named) (Memory.laid Named)
    obtain ⟨writes, es', result, s', ran, -, -, runs⟩ :=
      creation (.one (named "Ann")) (List.cons_ne_nil _ _)
    cases ran
    exact ⟨writes, es', _, rfl, runs, rfl⟩
  · obtain ⟨creation, -, -, -, -, -, -, along⟩ :=
      hook_lifecycle (.direct : Repository Named) (Memory.laid Named)
    obtain ⟨writes, es', result, s', ran, -, -, runs⟩ :=
      creation (.one (named "")) (List.cons_ne_nil _ _)
    cases ran
    have member : .hook .validate (named "") ∈
        Course.upTo (creationCourse [named ""] writes es') := List.mem_cons_self
    obtain ⟨stopped, kind, -⟩ := (along _ _ _ _ runs).1 .validate (named "") "no name" member rfl rfl
    exact ⟨_, _, Prod.ext stopped rfl, kind, rfl⟩

end EntityStore.Repository
