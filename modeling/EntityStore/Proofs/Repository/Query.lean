import EntityStore.Proofs.Mutation
import EntityStore.Proofs.Repository.Operation
import Mathlib.Logic.Relation

/-!
# Answers of queries

A query turns each row that it is given into an entity, has rows attached to the entities for the
relations to be loaded, and runs the hook of found entities on each of them. Entities keep their
places in the list all the way.
-/

namespace EntityStore

namespace Repository

variable {σ α β : Type} [Store σ] [Entity α] {s s' : Session σ}

/-! ## Loading -/

/-- The second entity is the first with some rows attached for one of the relations. -/
def Attaches (names : List String) (e e' : α) : Prop :=
  ∃ name ∈ names, ∃ rows, Entity.attach name rows e = .ok e'

section

variable {scope : Scope} {r : Relation} {name : String} {names : List String} {es es' : List α}

theorem name_of_findRelation (found : findRelation α name = .ok r) : r.name = name := by
  unfold findRelation at found
  split at found
  next _ hit =>
    cases found
    have named := List.find?_some hit
    exact of_decide_eq_true named
  next => cases found

theorem findRelation_eq (declared : (Entity.relations α).find? (·.name = name) = some r) :
    findRelation α name = .ok r := by
  rw [findRelation, declared]

theorem loadRelations_cons (names : List String) (found : findRelation α name = .ok r)
    (es : List α) :
    (loadRelations scope (name :: names) es : Action σ (List α)) =
      (if es.isEmpty then pure [] else loadRelation scope r es) >>= loadRelations scope names := by
  rw [loadRelations, found]
  cases es <;> rfl

theorem forall₂_of_loadRelation (ran : (loadRelation scope r es).run.run s = (.ok es', s')) :
    List.Forall₂ (fun e e' => ∃ rows, Entity.attach r.name rows e = .ok e') es es' := by
  obtain ⟨rows, mid, -, attached⟩ := exists_of_run_bind ran
  rw [run_ofExcept] at attached
  exact (forall₂_of_mapM (Prod.mk.inj attached).1).imp fun _ _ here => ⟨_, here⟩

/-- A loading that answers has found each relation and attached rows for it to each entity. -/
theorem exists_of_loadRelations_cons
    (ran : (loadRelations scope (name :: names) es).run.run s = (.ok es', s')) :
    ∃ r mid t, findRelation α name = .ok r ∧
      (if es.isEmpty then pure [] else loadRelation scope r es : Action σ (List α)).run.run s =
        (.ok mid, t) ∧
      List.Forall₂ (fun e e' => ∃ rows, Entity.attach name rows e = .ok e') es mid ∧
      (loadRelations scope names mid).run.run t = (.ok es', s') := by
  cases found : findRelation α name with
  | error fault =>
    rw [loadRelations, found] at ran
    cases ran
  | ok r =>
    rw [loadRelations_cons names found] at ran
    obtain ⟨mid, t, loaded, ran⟩ := exists_of_run_bind ran
    refine ⟨r, mid, t, rfl, loaded, ?_, ran⟩
    rw [← name_of_findRelation found]
    cases es with
    | nil =>
      cases loaded
      exact .nil
    | cons e es => exact forall₂_of_loadRelation loaded

theorem forall₂_of_loadRelations
    (ran : (loadRelations scope names es).run.run s = (.ok es', s')) :
    List.Forall₂ (Relation.ReflTransGen (Attaches names)) es es' := by
  induction names generalizing es s with
  | nil =>
    cases ran
    exact List.forall₂_same.mpr fun _ _ => .refl
  | cons name names ih =>
    obtain ⟨r, mid, t, -, -, here, rest⟩ := exists_of_loadRelations_cons ran
    refine (forall₂_comp here (ih rest)).imp ?_
    rintro e e' ⟨m, ⟨rows, attached⟩, chain⟩
    refine .head ⟨name, List.mem_cons_self, rows, attached⟩
      (Relation.ReflTransGen.mono ?_ _ _ chain)
    rintro _ _ ⟨other, member, later⟩
    exact ⟨other, List.mem_cons_of_mem name member, later⟩

section

variable {f : α → β} (kept : ∀ (name : String) (rows : List Record) (e e' : α),
  Entity.attach name rows e = .ok e' → f e' = f e)

include kept

/-- What the rows of a relation leave alone on an entity is as before when relations are
loaded. -/
theorem forall₂_kept_of_loadRelations
    (ran : (loadRelations scope names es).run.run s = (.ok es', s')) :
    List.Forall₂ (fun e e' => f e' = f e) es es' := by
  refine (forall₂_of_loadRelations ran).imp ?_
  intro e e' chain
  induction chain with
  | refl => rfl
  | tail _ last ih =>
    obtain ⟨name, -, rows, attached⟩ := last
    rw [kept _ _ _ _ attached, ih]

end

end

/-! ## Queries -/

/-- The session in which a query asks the store. -/
def asking (α : Type) [Entity α] (s : Session σ) (q : Compiled) : Session σ :=
  s.note [.log (line (Entity.info α).name "query" "select" [("filters", .count q.filters.length)])]

/-- What a query does with the rows that it is given. -/
theorem run_query (repo : Repository α) {clauses : List Query.Clause} {q : Compiled}
    {rows : List Record} (checked : Query.compileClauses clauses = .ok q)
    (asked : (Action.ask repo.scope (.select (Entity.info α).table q)).run.run (asking α s q) =
      (.ok rows, s')) :
    (repo.query clauses).run.run s =
      (do
        let entities ← rows.mapM (decodeRow α)
        let entities ← loadRelations repo.scope q.preloads entities
        entities.mapM repo.found : Action σ (List α)).run.run s' := by
  have accepted : (compiled clauses : Action σ Compiled).run.run s = (.ok q, s) := by
    rw [Repository.compiled, checked]
    rfl
  have logged : (logOp α "query" "select" [("filters", .count q.filters.length)] :
      Action σ Unit).run.run s = (.ok (), asking α s q) := run_log _ s
  rw [query, run_bind_ok accepted, run_bind_ok logged, run_bind_ok asked]

/-- A query that answers has compiled, each row that it was given has become an entity, relations
were loaded for all of them, and each entity is answered as the hook of found entities leaves
it. -/
theorem exists_of_run_query {repo : Repository α} {clauses : List Query.Clause} {found : List α}
    (ran : (repo.query clauses).run.run s = (.ok found, s')) :
    ∃ (q : Compiled) (rows : List Record) (decoded loaded : List α) (sent behind : Session σ),
      Query.compileClauses clauses = .ok q ∧
      (Action.ask repo.scope (.select (Entity.info α).table q)).run.run (asking α s q) =
        (.ok rows, sent) ∧
      List.Forall₂ (fun row e => Entity.fromRecord row = .ok e) rows decoded ∧
      (loadRelations repo.scope q.preloads decoded).run.run sent = (.ok loaded, behind) ∧
      List.Forall₂ (fun e e' => e' = (Entity.hooks.afterFind e).2) loaded found ∧
      (loaded.mapM repo.found : Action σ (List α)).run.run behind = (.ok found, s') := by
  obtain ⟨q, compiled, ran⟩ := exists_of_run_ofExcept ran
  obtain ⟨_, _, logged, ran⟩ := exists_of_run_bind ran
  cases logged
  obtain ⟨rows, sent, asked, ran⟩ := exists_of_run_bind ran
  obtain ⟨decoded, mid, read, rest⟩ := exists_of_run_bind ran
  obtain ⟨loaded, behind, attached, last⟩ := exists_of_run_bind rest
  unfold decodeRow at read
  rw [run_mapM_ofExcept] at read
  obtain ⟨each, rfl⟩ := Prod.mk.inj read
  refine ⟨q, rows, decoded, loaded, sent, behind, ok_of_mapError compiled, asked, ?_, attached, ?_,
    last⟩
  · exact (forall₂_of_mapM each).imp fun _ _ => ok_of_mapError
  · apply forall₂_of_run_mapM _ last
    intro e e' s s' ran
    obtain ⟨events, edited⟩ := repo.run_found e s
    rw [edited] at ran
    cases ran
    rfl

/-- A query that answers has compiled, each row that it was given has become an entity, and each
entity is answered as the hook of found entities leaves it. -/
theorem exists_of_query {repo : Repository α} {clauses : List Query.Clause} {found : List α}
    (ran : (repo.query clauses).run.run s = (.ok found, s')) :
    ∃ (q : Compiled) (rows : List Record) (decoded loaded : List α)
        (sent mid behind : Session σ),
      Query.compileClauses clauses = .ok q ∧
      (Action.ask repo.scope (.select (Entity.info α).table q)).run.run (asking α s q) =
        (.ok rows, sent) ∧
      List.Forall₂ (fun row e => Entity.fromRecord row = .ok e) rows decoded ∧
      (loadRelations repo.scope q.preloads decoded).run.run mid = (.ok loaded, behind) ∧
      List.Forall₂ (fun e e' => e' = (Entity.hooks.afterFind e).2) loaded found ∧
      Leads (OwnStep α (fun _ => True) repo.scope) sent.store s'.store := by
  obtain ⟨q, rows, decoded, loaded, sent, behind, compiled, asked, read, attached, hooked, last⟩ :=
    exists_of_run_query ran
  have takes : Attempt.Takes (OwnStep α (fun _ => True) repo.scope)
      (loadRelations repo.scope q.preloads decoded >>= fun es => es.mapM repo.found :
        Action σ (List α)) := by
    apply Attempt.takes_bind (takes_loadRelations (fun _ _ => .ask trivial) q.preloads decoded)
    exact Attempt.takes_mapM repo.takes_found
  have leads : Leads _ sent.store s'.store :=
    (congrArg (Leads _ sent.store ·.2.store) ((run_bind_ok attached).trans last)).mp (takes sent).1
  exact ⟨q, rows, decoded, loaded, sent, sent, behind, compiled, asked, read, attached, hooked,
    leads⟩

end Repository

end EntityStore
