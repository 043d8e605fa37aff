import EntityStore.Proofs.Caution
import EntityStore.Proofs.Layout
import EntityStore.Proofs.Repository.Lifecycle

/-!
# Cautious operations

The operations of a repository check before they write. On a store whose requests do so too an
operation that fails with a validation error has changed nothing: what it did before it asked for
the first write only read, and behind a write nothing is refused any more.
-/

namespace EntityStore

variable {σ α β γ : Type}

/-- The request does nothing but read. -/
def Request.ReadOnly {α : Type} : Request α → Prop
  | .select .. | .count .. | .hasTable _ | .tableColumns _ | .hasIndex .. | .ping => True
  | _ => False

def Step.ReadOnly : Step → Prop
  | .ask _ r => r.ReadOnly
  | _ => False

def Request.Migrates {α : Type} : Request α → Prop
  | .migrateTable _ => True
  | _ => False

/-- On the store requests that only read keep to a relation between states, and so do all others
that are refused, migrations apart. Where rows were inserted, rows with the same columns are not
refused. A transaction around inserts keeps to the relation but for what is inserted, unless no
insert is refused at all. -/
structure Cautious [Store σ] (Q : σ → σ → Prop) : Prop where
  refl : ∀ s, Q s s
  trans : ∀ {s s' s''}, Q s s' → Q s' s'' → Q s s''
  reads : ∀ {β : Type} {r : Request β}, r.ReadOnly → ∀ scope s, Q s (Store.perform scope r s).store
  refuses : ∀ {β : Type} {r : Request β} {scope : Scope} {s : σ} {e : StoreError}, ¬r.Migrates →
    (Store.perform scope r s).result = .error e → e.Refuses → Q s (Store.perform scope r s).store
  inserts : ∀ {scope : Scope} {table : String} {rows rows' answers : List Record}
    {returning : List String} {s s' : σ} {e : StoreError}, rows ≠ [] →
    (∀ row' ∈ rows', ∀ c ∈ row'.columns, c ∈ returning ∨ ∃ row ∈ rows, c ∈ row.columns) →
    (Store.perform scope (.insert table rows returning) s).result = .ok answers →
    (Store.perform scope (.insert table rows' returning) s').result = .error e → ¬e.Refuses
  opens : ∀ {s : σ} {e : StoreError}, (Store.begin {} s).result = .error e → ¬e.Refuses
  commits : ∀ {id : Nat} {s : σ} {e : StoreError},
    (Store.control id .commit s).result = .error e → ¬e.Refuses
  brackets :
    (∀ s, Q s (Store.begin {} s).store) ∧ (∀ id s, Q s (Store.control id .rollback s).store) ∨
      ∀ {scope : Scope} {table : String} {rows : List Record} {returning : List String} {s : σ}
        {e : StoreError}, (Store.perform scope (.insert table rows returning) s).result = .error e →
          ¬e.Refuses

/-! ## Entities -/

/-- All entities are written to the same columns, and what goes wrong with a row that was read is no
refusal of input. -/
structure Entity.LawfulRows (α : Type) [Entity α] : Prop where
  columns : ∀ (e e' : α) {c : String},
    c ∈ (Entity.toRecord e).columns → c ∈ (Entity.toRecord e').columns
  read : ∀ {row : Record} {err : StoreError},
    Entity.fromRecord (α := α) row = .error err → ¬err.Refuses
  applied : ∀ {row : Record} {e : α} {err : StoreError},
    (Entity.applyRecord row e).1 = .error err → ¬err.Refuses

theorem Record.error_of_decodeD {α : Type} [Decode α] {row : Record} {column : String} {default : α}
    {err : StoreError} (failed : row.decodeD column default = .error err) : ¬err.Refuses := by
  unfold Record.decodeD Record.decodeAt at failed
  split at failed
  · rename_i v held
    cases decoded : (decode v : Except Mismatch α) with
    | ok x =>
      rw [decoded] at failed
      cases failed
    | error reason =>
      rw [decoded] at failed
      cases failed
      exact nofun
  · cases failed

namespace Cells

variable {row : Record} {cs : List ColumnSpec} {err : StoreError}

theorem error_of_ofRecord (failed : ofRecord row cs = .error err) : ¬err.Refuses := by
  induction cs with
  | nil => cases failed
  | cons c cs ih =>
    rcases error_of_bind failed with here | ⟨x, -, rest⟩
    · exact Record.error_of_decodeD here
    · rcases error_of_bind rest with later | ⟨xs, -, done⟩
      · exact ih later
      · cases done

theorem error_of_apply {xs : Cells cs} (failed : (apply row cs xs).1 = .error err) :
    ¬err.Refuses := by
  induction cs with
  | nil => cases failed
  | cons c cs ih =>
    rw [apply] at failed
    split at failed
    · rename_i e read
      cases failed
      split at read
      · exact Record.error_of_decodeD read
      · cases read
    · exact ih failed

end Cells

/-- Entities with a layout have lawful rows, whatever their columns are called and whatever their
hooks do. -/
theorem Layout.lawfulRows {l : Layout} {Extra : Type} [Inhabited Extra]
    (hooks : Hooks (l.Item Extra)) :
    letI := l.entity hooks
    Entity.LawfulRows (l.Item Extra) := by
  let := l.entity hooks
  constructor
  · intro e e' c named
    change c ∈ (Record.ofPairs (Cells.toPairs l.columns e'.cells)).columns
    rw [Record.mem_columns] at named ⊢
    have listed : c ∈ (Cells.toPairs l.columns e.cells).map (·.1) := by
      refine Classical.byContradiction fun absent => ?_
      have none := Record.get?_ofPairs_of_notMem absent
      change ((Record.ofPairs (Cells.toPairs l.columns e.cells)).get? c).isSome = true at named
      rw [none] at named
      cases named
    rw [Cells.toPairs_columns, ← Cells.toPairs_columns l.columns e'.cells] at listed
    obtain ⟨v, held⟩ := Record.exists_get?_ofPairs listed
    rw [held]
    rfl
  · intro row err failed
    change (Cells.ofRecord row l.columns).map _ = _ at failed
    cases read : Cells.ofRecord row l.columns with
    | ok xs =>
      rw [read] at failed
      cases failed
    | error e =>
      rw [read] at failed
      cases failed
      exact Cells.error_of_ofRecord read
  · intro row e err failed
    exact Cells.error_of_apply failed

namespace Repository

open Mutation

section

variable [Store σ] [Entity α] {Q : σ → σ → Prop}

/-! ## Reading first -/

theorem kept_of_takes (cautious : Cautious Q) {m : StateM (Session σ) β}
    (takes : Takes Step.ReadOnly m) (s : Session σ) : Q s.store (m.run s).2.store := by
  refine (takes s).1.induction (I := Q s.store) ?_ (cautious.refl _)
  intro mid st reads kept
  cases st with
  | ask scope r => exact cautious.trans kept (cautious.reads reads scope mid)
  | _ => cases reads

/-- An attempt that reads may come in front of a wary one. -/
theorem wary_behind (cautious : Cautious Q) {act : Action σ β} {next : β → Action σ γ}
    (takes : act.Takes Step.ReadOnly) (rest : ∀ x, Attempt.Wary Q (next x)) :
    Attempt.Wary Q (act >>= next) :=
  Wary.behind rest cautious.trans (kept_of_takes cautious takes)

theorem wary_of_takes (cautious : Cautious Q) {act : Action σ β} (takes : act.Takes Step.ReadOnly) :
    Attempt.Wary Q act :=
  Still.wary (kept_of_takes cautious takes)

theorem wary_behind_mutation (cautious : Cautious Q) {δ : Type} {m : Mutation σ δ β}
    {next : β → Mutation σ δ γ} (takes : m.Takes Step.ReadOnly) (rest : ∀ x, (next x).Wary Q) :
    (m >>= next).Wary Q :=
  Mutation.Wary.behind rest cautious.trans fun p => kept_of_takes cautious (takes p.1) p.2

omit [Entity α] in
theorem wary_ask_of_kept {scope : Scope} {r : Request β}
    (kept : ∀ {s e}, (Store.perform scope r s).result = .error e → e.Refuses →
      Q s (Store.perform scope r s).store) :
    Attempt.Wary Q (Action.ask scope r : Action σ β) := by
  intro s e s' ran refuses
  rw [run_ask] at ran
  obtain ⟨failed, rfl⟩ := Prod.mk.inj ran
  cases result : (Store.perform scope r s.store).result with
  | ok x =>
    rw [result] at failed
    cases failed
  | error err =>
    rw [result] at failed
    cases failed
    exact kept result refuses

theorem wary_ask (cautious : Cautious Q) {r : Request β} (scope : Scope) (other : ¬r.Migrates) :
    Attempt.Wary Q (Action.ask scope r : Action σ β) :=
  wary_ask_of_kept (cautious.refuses other)

/-! ## Behind a write -/

omit [Store σ] [Entity α] in
theorem firm_affected {info : EntityInfo} (rows : UInt64) :
    Attempt.Firm (affected info rows : Action σ Unit) := by
  intro s e s' ran
  unfold affected at ran
  split at ran <;> cases ran
  exact nofun

omit [Store σ] in
theorem firm_late (repo : Repository α) (point : HookPoint) :
    (repo.late point : Mutation σ α Unit).Firm :=
  (edits_late repo point).firm (lateEdit_succeeds point)

omit [Store σ] [Entity α] in
theorem firm_changed {m : Mutation σ γ Unit} {f : Edit Error γ} (edits : m.Edits f)
    (succeeds : ∀ e, (f e).1 = .ok ()) (e : γ) : Attempt.Firm (m.changed e) := by
  intro s err s' ran
  obtain ⟨events, done⟩ := edits.run_changed e s
  rw [done, succeeds e] at ran
  cases ran

/-- What the store generated is written back without a refusal. -/
theorem firm_applyRows (lawful : Entity.LawfulRows α) {answers : List Record} {es : List α}
    {err : Error} (failed : (applyRows answers es).1 = .error err) : ¬err.Refuses := by
  induction answers generalizing es with
  | nil => cases failed
  | cons row rows ih =>
    cases es with
    | nil => cases failed
    | cons e es =>
      rw [applyRows] at failed
      rcases applied : Entity.applyRecord row e with ⟨e' | ⟨⟩, changed⟩
      · rw [applied] at failed
        cases failed
        exact lawful.applied (congrArg Prod.fst applied)
      · rw [applied] at failed
        exact ih failed

omit [Store σ] in
theorem firm_decodeRow (lawful : Entity.LawfulRows α) (row : Record) :
    Attempt.Firm (decodeRow α row : Action σ α) := by
  refine Attempt.firm_ofExcept ?_
  intro e failed
  cases read : Entity.fromRecord (α := α) row with
  | ok x =>
    rw [read] at failed
    cases failed
  | error err =>
    rw [read] at failed
    cases failed
    exact lawful.read read

/-! ## Inserting -/

/-- No rows of entities are refused in a scope. -/
def Accepts (σ α : Type) [Store σ] [Entity α] (scope : Scope) : Prop :=
  ∀ (es : List α) (s : σ) (e : StoreError),
    (Store.perform scope (insertion es) s).result = .error e → ¬e.Refuses

/-- Where rows of entities were inserted, others are not refused. -/
theorem accepts_of_inserted (cautious : Cautious Q) (lawful : Entity.LawfulRows α) {scope : Scope}
    {es : List α} {s : σ} {answers : List Record} (some : es ≠ [])
    (inserted : (Store.perform scope (insertion es) s).result = .ok answers) :
    Accepts σ α scope := by
  intro es' s' e failed
  refine cautious.inserts (fun none => some (List.map_eq_nil_iff.mp none)) ?_ inserted failed
  intro row' member c named
  obtain ⟨e', -, rfl⟩ := List.mem_map.mp member
  obtain ⟨first, inFirst⟩ := List.exists_mem_of_ne_nil es some
  rw [Record.mem_columns] at named
  -- the column is one of all entities, so the first insert wrote it or asked for it
  have carried : c ∈ (Entity.toRecord e').columns := by
    rw [Record.mem_columns]
    rw [get?_insertable] at named
    split at named
    · cases named
    · exact named
  have shared := lawful.columns e' first carried
  rw [Record.mem_columns] at shared
  by_cases generated : c ∈ (Entity.info α).generatedColumns
  · exact .inl generated
  · refine .inr ⟨_, List.mem_map_of_mem inFirst, ?_⟩
    rwa [Record.mem_columns, get?_insertable, if_neg fun unset => generated unset.1]

section

variable {scope : Scope} {es es' : List α} {s s' : Session σ} {err : Error}

/-- One write of a batch was refused by the store, or its rows were written back. -/
theorem cases_of_insertRows {result : Except Error Unit}
    (ran : ((insertRows scope).runOn es).run s = ((result, es'), s')) :
    (∃ e, (Store.perform scope (insertion es) s.store).result = .error e ∧
        result = .error e.classify ∧
        s'.store = (Store.perform scope (insertion es) s.store).store) ∨
      ∃ answers, (Store.perform scope (insertion es) s.store).result = .ok answers ∧
        applyRows answers es = (result, es') := by
  have asked := run_ask scope (insertion es) s
  rw [insertRows, runOn_bind_ok (runOn_get es s)] at ran
  cases answer : (Store.perform scope (insertion es) s.store).result with
  | error e =>
    rw [answer] at asked
    cases (runOn_bind_error (runOn_act asked es)).symm.trans ran
    exact .inl ⟨e, rfl, rfl, rfl⟩
  | ok answers =>
    rw [answer] at asked
    have edited := (runOn_bind_ok (runOn_act asked es)).symm.trans ran
    exact .inr ⟨answers, rfl, congrArg Prod.fst edited⟩

theorem firm_insertRows (lawful : Entity.LawfulRows α) (accepts : Accepts σ α scope)
    (ran : ((insertRows scope).runOn es).run s = ((.error err, es'), s')) : ¬err.Refuses := by
  rcases cases_of_insertRows ran with ⟨e, refused, same, -⟩ | ⟨answers, -, applied⟩
  · cases same
    exact accepts es s.store e refused
  · exact firm_applyRows lawful (congrArg Prod.fst applied)

/-- The first write of a batch may be refused, and then it did nothing; the later ones are not. -/
theorem wary_insertRows (cautious : Cautious Q) (lawful : Entity.LawfulRows α)
    (ran : ((insertRows scope).runOn es).run s = ((.error err, es'), s')) (refuses : err.Refuses) :
    Q s.store s'.store := by
  rcases cases_of_insertRows ran with ⟨e, refused, same, store⟩ | ⟨answers, -, applied⟩
  · cases same
    rw [store]
    exact cautious.refuses id refused refuses
  · exact absurd refuses (firm_applyRows lawful (congrArg Prod.fst applied))

theorem accepts_of_insertRows (cautious : Cautious Q) (lawful : Entity.LawfulRows α)
    (some : es ≠ []) (ran : ((insertRows scope).runOn es).run s = ((.ok (), es'), s')) :
    Accepts σ α scope := by
  rcases cases_of_insertRows ran with ⟨e, -, same, -⟩ | ⟨answers, inserted, -⟩
  · cases same
  · exact accepts_of_inserted cautious lawful some inserted

/-- A batch that fails failed in its first write or behind it. -/
theorem error_of_insertChunks {size : Nat} {positive : 0 < size}
    (ran : (insertChunks scope size positive es).run s = ((.error err, es'), s')) : es ≠ [] ∧
      ((∃ chunk, ((insertRows scope).runOn (es.take size)).run s = ((.error err, chunk), s')) ∨
        ∃ chunk mid left, ((insertRows scope).runOn (es.take size)).run s = ((.ok (), chunk), mid) ∧
          (insertChunks scope size positive (es.drop size)).run mid = ((.error err, left), s')) := by
  cases es with
  | nil =>
    rw [insertChunks] at ran
    cases ran
  | cons e es =>
    refine ⟨List.cons_ne_nil e es, ?_⟩
    rw [insertChunks, StateT.run_bind] at ran
    rcases first : ((insertRows scope).runOn ((e :: es).take size)).run s with
      ⟨⟨err' | ⟨⟩, chunk⟩, mid⟩
    · rw [first] at ran
      cases ran
      exact .inl ⟨chunk, rfl⟩
    · rw [first] at ran
      change (insertChunks scope size positive ((e :: es).drop size) >>= _ :
        StateM (Session σ) _).run mid = _ at ran
      rw [StateT.run_bind] at ran
      rcases rest : (insertChunks scope size positive ((e :: es).drop size)).run mid with
        ⟨⟨err' | ⟨⟩, left⟩, last⟩
      · rw [rest] at ran
        cases ran
        exact .inr ⟨chunk, mid, left, rfl, rest⟩
      · rw [rest] at ran
        cases ran

theorem firm_insertChunks (lawful : Entity.LawfulRows α) (accepts : Accepts σ α scope) {size : Nat}
    {positive : 0 < size}
    (ran : (insertChunks scope size positive es).run s = ((.error err, es'), s')) :
    ¬err.Refuses := by
  fun_induction insertChunks (σ := σ) scope size positive es generalizing s es' with
  | case1 => cases ran
  | case2 e es ih =>
    rw [← insertChunks] at ran
    obtain ⟨-, ⟨chunk, first⟩ | ⟨chunk, mid, left, -, rest⟩⟩ := error_of_insertChunks ran
    · exact firm_insertRows lawful accepts first
    · exact ih rest

theorem wary_insertChunks (cautious : Cautious Q) (lawful : Entity.LawfulRows α) {size : Nat}
    {positive : 0 < size}
    (ran : (insertChunks scope size positive es).run s = ((.error err, es'), s'))
    (refuses : err.Refuses) : Q s.store s'.store := by
  obtain ⟨some, ⟨chunk, first⟩ | ⟨chunk, mid, left, first, rest⟩⟩ := error_of_insertChunks ran
  · exact wary_insertRows cautious lawful first refuses
  · have filled : es.take size ≠ [] := by
      rw [ne_eq, List.take_eq_nil_iff]
      rintro (none | none)
      · exact absurd none (Nat.pos_iff_ne_zero.mp positive)
      · exact some none
    have accepts := accepts_of_insertRows cautious lawful filled first
    exact absurd refuses (firm_insertChunks lawful accepts rest)

theorem wary_insertBatch (cautious : Cautious Q) (lawful : Entity.LawfulRows α) (scope : Scope) :
    (insertBatch scope : Mutation σ (List α) Unit).Wary Q := by
  rintro ⟨es, s⟩ err ⟨es', s'⟩ ran refuses
  exact wary_insertChunks cautious lawful (run_of_joint ran) refuses

omit [Entity α] in
/-- How a batch was ended when its end failed: one that was written by the commit, and one that
was not with the failure of its writes. -/
theorem error_of_endBatch {id : Nat} {result : Except Error Unit}
    (ran : (endBatch id result : Action σ Unit).run.run s = (.error err, s')) :
    (result = .ok () ∧ ∃ e, (Store.control id .commit s.store).result = .error e ∧
        err = e.classify) ∨
      result = .error err ∧ s'.store = (Store.control id .rollback s.store).store := by
  cases result with
  | ok u =>
    rw [endBatch, Action.steer, run_classified, run_steer] at ran
    cases ended : (Store.control id .commit s.store).result with
    | ok u =>
      rw [ended] at ran
      cases ran
    | error e =>
      rw [ended] at ran
      exact .inl ⟨rfl, e, rfl, (Except.error.inj (Prod.mk.inj ran).1).symm⟩
  | error failure =>
    have back : ((Store.steer id .rollback).outcome : Action σ _).run.run s =
        (.ok (Store.control id .rollback s.store).result, stepped s (.steer id .rollback)) := by
      rw [run_outcome, run_steer_stepped]
    rw [endBatch, run_bind_ok back] at ran
    cases undone : (Store.control id .rollback s.store).result with
    | ok u =>
      rw [undone] at ran
      cases ran
      exact .inr ⟨rfl, rfl⟩
    | error undo =>
      rw [undone] at ran
      cases ran
      exact .inr ⟨rfl, rfl⟩

/-- A batch in a transaction of its own fails as the transaction does not open, as one of its writes
does, and then it is rolled back, or as its commit does. -/
theorem error_of_insertInTransaction
    (ran : (insertInTransaction.runOn es).run s = ((.error err, es'), s')) :
    (∃ e, (Store.begin {} s.store).result = .error e ∧ err = e.classify ∧
      s'.store = (Store.begin {} s.store).store) ∨
    ∃ id, ∃ mid last : Session σ, ∃ left, (Store.begin {} s.store).result = .ok id ∧
      mid.store = (Store.begin {} s.store).store ∧
      (((insertBatch (.tx id)).runOn es).run mid = ((.error err, left), last) ∧
          s'.store = (Store.control id .rollback last.store).store ∨
        ∃ e, (Store.control id .commit last.store).result = .error e ∧ err = e.classify) := by
  have starting := run_start_stepped s
  cases opened : (Store.begin {} s.store).result with
  | error e =>
    rw [opened] at starting
    rw [insertInTransaction, runOn_bind_error (runOn_act starting es)] at ran
    cases ran
    exact .inl ⟨e, rfl, rfl, rfl⟩
  | ok id =>
    rw [opened] at starting
    rcases wrote : ((insertBatch (.tx id)).runOn es).run (stepped s (.begin {})) with
      ⟨⟨result, left⟩, last⟩
    rcases ends : (endBatch id result : Action σ Unit).run.run last with ⟨answer, behind⟩
    rw [runOn_insertInTransaction starting wrote ends] at ran
    cases ran
    refine .inr ⟨id, stepped s (.begin {}), last, es', rfl, rfl, ?_⟩
    rcases error_of_endBatch ends with ⟨-, e, refused, rfl⟩ | ⟨rfl, behind⟩
    · exact .inr ⟨e, refused, rfl⟩
    · exact .inl ⟨wrote, behind⟩

end

theorem wary_insertInTransaction (cautious : Cautious Q) (lawful : Entity.LawfulRows α) :
    (insertInTransaction : Mutation σ (List α) Unit).Wary Q := by
  rintro ⟨es, s⟩ err ⟨es', s'⟩ ran refuses
  obtain ⟨e, opened, rfl, -⟩ | ⟨id, mid, last, left, -, begun, ⟨wrote, undone⟩ | ⟨e, ended, rfl⟩⟩ :=
    error_of_insertInTransaction (run_of_joint ran)
  · exact absurd refuses (cautious.opens opened)
  · rcases cautious.brackets with ⟨begins, rollsBack⟩ | accepts
    · have inserted := (wary_insertBatch cautious lawful (.tx id)).of_runOn wrote refuses
      have opening := begins s.store
      rw [← begun] at opening
      have closing := rollsBack id last.store
      rw [← undone] at closing
      exact cautious.trans opening (cautious.trans inserted closing)
    · have firm := firm_insertChunks lawful (fun _ _ _ => accepts) wrote
      exact absurd refuses firm
  · exact absurd refuses (cautious.commits ended)

/-! ## Operations -/

variable (repo : Repository α)

theorem wary_create (cautious : Cautious Q) (lawful : Entity.LawfulRows α) :
    (repo.create : Mutation σ α Unit).Wary Q := by
  refine wary_behind_mutation cautious (takes_early .validate) fun _ => ?_
  refine wary_behind_mutation cautious (takes_early .beforeCreate) fun _ => ?_
  refine wary_behind_mutation cautious takes_get fun e => ?_
  refine wary_behind_mutation cautious (takes_act (Attempt.takes_note _)) fun _ => ?_
  refine (wary_act (wary_ask cautious repo.scope id)).bind_firm fun answers => ?_
  have last := firm_late (σ := σ) repo .afterCreate
  cases answers with
  | nil => exact last
  | cons answer _ =>
    refine Mutation.Firm.bind (firm_edit ?_) fun _ => last
    intro e err failed
    rcases applied : Entity.applyRecord answer e with ⟨err' | ⟨⟩, e'⟩
    · rw [Edit.mapError, applied] at failed
      cases failed
      exact lawful.applied (congrArg Prod.fst applied)
    · rw [Edit.mapError, applied] at failed
      cases failed

theorem wary_createBatch (cautious : Cautious Q) (lawful : Entity.LawfulRows α) :
    (repo.createBatch : Mutation σ (List α) Unit).Wary Q := by
  refine wary_behind_mutation cautious takes_get fun es => ?_
  dsimp only
  split
  · exact Mutation.Firm.wary (firm_pure ())
  · refine wary_behind_mutation cautious (takes_each (takes_early .validate)) fun _ => ?_
    refine wary_behind_mutation cautious (takes_each (takes_early .beforeCreate)) fun _ => ?_
    refine wary_behind_mutation cautious (takes_act (Attempt.takes_note _)) fun _ => ?_
    have last : (each (repo.late .afterCreate) : Mutation σ (List α) Unit).Firm :=
      (edits_late repo .afterCreate).each.firm (Edit.each_succeeds (lateEdit_succeeds .afterCreate))
    split
    · exact (wary_insertInTransaction cautious lawful).bind_firm fun _ => last
    · exact (wary_insertBatch cautious lawful repo.scope).bind_firm fun _ => last

theorem wary_update (cautious : Cautious Q) : (repo.update : Mutation σ α Unit).Wary Q := by
  refine wary_behind_mutation cautious (takes_early .validate) fun _ => ?_
  refine wary_behind_mutation cautious (takes_early .beforeUpdate) fun _ => ?_
  refine wary_behind_mutation cautious takes_get fun e => ?_
  refine wary_behind_mutation cautious (takes_act (Attempt.takes_ofExcept _)) fun key => ?_
  refine wary_behind_mutation cautious (takes_act (Attempt.takes_ofExcept _)) fun filters => ?_
  refine wary_behind_mutation cautious (takes_act (Attempt.takes_note _)) fun _ => ?_
  refine (wary_act (wary_ask cautious repo.scope id)).bind_firm fun rows => ?_
  refine (firm_act (firm_affected rows)).bind fun _ => ?_
  exact firm_late repo .afterUpdate

theorem wary_updatePartial (cautious : Cautious Q) (key : Value) (changes : Record) :
    Attempt.Wary Q (repo.updatePartial key changes : Action σ Unit) := by
  refine wary_behind cautious (Attempt.takes_ofExcept _) fun resolved => ?_
  refine wary_behind cautious (Attempt.takes_ofExcept _) fun filters => ?_
  refine wary_behind cautious (Attempt.takes_note _) fun _ => ?_
  exact (wary_ask cautious repo.scope id).bind_firm firm_affected

theorem wary_delete (cautious : Cautious Q) (key : Value) :
    Attempt.Wary Q (repo.delete key : Action σ Unit) := by
  refine wary_behind cautious (Attempt.takes_ofExcept _) fun filters => ?_
  refine wary_behind cautious (Attempt.takes_fetchOne trivial) fun row => ?_
  refine wary_behind cautious (takes_decodeRow row) fun e => ?_
  refine wary_behind cautious (takes_changed (takes_early .beforeDelete) e) fun e => ?_
  refine wary_behind cautious (Attempt.takes_note _) fun _ => ?_
  refine (wary_ask cautious repo.scope id).bind_firm fun rows => ?_
  refine (firm_affected rows).bind fun _ => ?_
  refine (firm_changed (edits_late repo .afterDelete) (lateEdit_succeeds .afterDelete) e).bind fun _ => ?_
  exact firm_pure ()

theorem wary_deleteWhere (cautious : Cautious Q) (c : Condition) :
    Attempt.Wary Q (repo.deleteWhere c : Action σ UInt64) := by
  refine wary_behind cautious (Attempt.takes_ofExcept _) fun p => ?_
  refine wary_behind cautious (Attempt.takes_note _) fun _ => ?_
  exact wary_ask cautious repo.scope id

theorem wary_rawQuery (cautious : Cautious Q) (lawful : Entity.LawfulRows α) (sql : String)
    (args : List Value) : Attempt.Wary Q (repo.rawQuery sql args : Action σ (List α)) := by
  refine wary_behind cautious (Attempt.takes_note _) fun _ => ?_
  exact (wary_ask cautious repo.scope id).bind_firm fun rows =>
    Attempt.firm_mapM (firm_decodeRow lawful) rows

theorem wary_createTable (cautious : Cautious Q) :
    Attempt.Wary Q (repo.createTable : Action σ Unit) := by
  refine wary_behind cautious (Attempt.takes_ask trivial) fun there => ?_
  have creates := wary_ask cautious (r := .createTable (Entity.info α).schema) repo.scope id
  cases there with
  | true => exact wary_behind cautious (Attempt.takes_throw _) fun _ => creates
  | false => exact creates

theorem wary_createIndex (cautious : Cautious Q) (fields : List String) (unique : Bool) :
    Attempt.Wary Q (repo.createIndex fields unique : Action σ Unit) := by
  refine wary_behind cautious (Attempt.takes_ofExcept _) fun index => ?_
  refine wary_behind cautious (Attempt.takes_ask trivial) fun there => ?_
  have creates := wary_ask cautious (r := .createIndex index) repo.scope id
  cases there with
  | true => exact wary_behind cautious (Attempt.takes_throw _) fun _ => creates
  | false => exact creates

theorem wary_dropIndex (cautious : Cautious Q) (name : String) :
    Attempt.Wary Q (repo.dropIndex name : Action σ Unit) := by
  refine wary_behind cautious (Attempt.takes_ofExcept _) fun _ => ?_
  exact wary_ask cautious repo.scope id

end

end Repository

/-! ## Any operation -/

def failure? {ε : Type} : Except ε β → Option ε
  | .error e => some e
  | .ok _ => none

namespace Operation

/-- The error with which the operation failed, if it did. -/
def error? : Operation α β → β → Option Error
  | .create _, outcome | .update _, outcome => failure? outcome.1
  | .createBatch _, outcome => failure? outcome.1
  | .updatePartial .., outcome | .delete _, outcome | .createTable, outcome => failure? outcome
  | .dropTable, outcome | .migrateTable, outcome | .createIndex .., outcome => failure? outcome
  | .dropIndex _, outcome | .health, outcome => failure? outcome
  | .deleteWhere _, outcome | .count _, outcome => failure? outcome
  | .find _, outcome | .queryOne _, outcome | .findWith .., outcome => failure? outcome
  | .query _, outcome | .queryWith .., outcome | .rawQuery .., outcome => failure? outcome
  | .hasAny _, outcome => failure? outcome
  | .rawExec .., outcome => failure? outcome
  | .migrationStatus, outcome => failure? outcome

def Migrates : Operation α β → Prop
  | .migrateTable => True
  | _ => False

section

variable {Q : σ → σ → Prop}

theorem kept_of_wary {act : Action σ β} (wary : Attempt.Wary Q act) {s : Session σ} {err : Error}
    (failed : failure? (act.run.run s).1 = some err) (refuses : err.Refuses) :
    Q s.store (act.run.run s).2.store := by
  rcases ran : act.run.run s with ⟨err' | x, s'⟩
  · rw [ran] at failed
    cases failed
    exact wary s err s' ran refuses
  · rw [ran] at failed
    cases failed

theorem kept_of_wary_runOn {m : Mutation σ γ Unit} (wary : m.Wary Q) {e : γ} {s : Session σ}
    {err : Error} (failed : failure? ((m.runOn e).run s).1.1 = some err) (refuses : err.Refuses) :
    Q s.store ((m.runOn e).run s).2.store := by
  rcases ran : (m.runOn e).run s with ⟨⟨err' | x, e'⟩, s'⟩
  · rw [ran] at failed
    cases failed
    exact wary.of_runOn ran refuses
  · rw [ran] at failed
    cases failed

end

variable [Store σ] [Entity α] {Q : σ → σ → Prop}

/-- An operation that fails with a validation error has kept to the relation. For a migration it
takes that the request does, and a migration is nothing but that request. -/
theorem kept_of_refuses (cautious : Cautious Q) (lawful : Entity.LawfulRows α) (repo : Repository α)
    (op : Operation α β) {s : Session σ} {err : Error}
    (careful : op.Migrates → Attempt.Wary Q (repo.migrateTable : Action σ Unit))
    (failed : op.error? ((op.run repo).run s).1 = some err) (refuses : err.Refuses) :
    Q s.store ((op.run repo).run s).2.store := by
  have reads {γ : Type} {act : Action σ γ} (takes : act.Takes Step.ReadOnly)
      (failed : failure? (act.run.run s).1 = some err) : Q s.store (act.run.run s).2.store :=
    kept_of_wary (Repository.wary_of_takes cautious takes) failed refuses
  have asks {γ : Type} {r : Request γ} (other : ¬r.Migrates)
      (failed : failure? ((Action.ask repo.scope r).run.run s).1 = some err) :
      Q s.store ((Action.ask repo.scope r).run.run s).2.store :=
    kept_of_wary (Repository.wary_ask cautious repo.scope other) failed refuses
  cases op with
  | create e => exact kept_of_wary_runOn (repo.wary_create cautious lawful) failed refuses
  | createBatch es => exact kept_of_wary_runOn (repo.wary_createBatch cautious lawful) failed refuses
  | update e => exact kept_of_wary_runOn (repo.wary_update cautious) failed refuses
  | updatePartial key changes =>
    exact kept_of_wary (repo.wary_updatePartial cautious key changes) failed refuses
  | delete key => exact kept_of_wary (repo.wary_delete cautious key) failed refuses
  | deleteWhere c => exact kept_of_wary (repo.wary_deleteWhere cautious c) failed refuses
  | find key => exact reads (repo.takes_find (fun _ _ => trivial) key) failed
  | query clauses => exact reads (repo.takes_query (fun _ _ => trivial) clauses) failed
  | queryOne clauses => exact reads (repo.takes_queryOne (fun _ _ => trivial) clauses) failed
  | count clauses => exact reads (repo.takes_count (fun _ => trivial) clauses) failed
  | hasAny clauses =>
    refine reads (Attempt.takes_bind (repo.takes_count (fun _ => trivial) clauses) fun _ => ?_) failed
    exact Attempt.takes_pure _
  | queryWith relations clauses => exact reads (repo.takes_query (fun _ _ => trivial) _) failed
  | findWith key relations => exact reads (repo.takes_findWith (fun _ _ => trivial) key relations) failed
  | rawQuery sql args => exact kept_of_wary (repo.wary_rawQuery cautious lawful sql args) failed refuses
  | rawExec sql args =>
    refine kept_of_wary (Repository.wary_behind cautious (Attempt.takes_note _) fun _ => ?_) failed refuses
    exact Repository.wary_ask cautious repo.scope id
  | createTable => exact kept_of_wary (repo.wary_createTable cautious) failed refuses
  | dropTable => exact asks id failed
  | migrateTable => exact kept_of_wary (careful trivial) failed refuses
  | migrationStatus => exact reads (repo.takes_migrationStatus trivial trivial) failed
  | createIndex fields unique =>
    exact kept_of_wary (repo.wary_createIndex cautious fields unique) failed refuses
  | dropIndex name => exact kept_of_wary (repo.wary_dropIndex cautious name) failed refuses
  | health => exact reads (Attempt.takes_ask trivial) failed

end Operation

end EntityStore
