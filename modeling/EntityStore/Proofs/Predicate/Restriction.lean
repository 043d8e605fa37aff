import EntityStore.Postgres.Statement
import EntityStore.Proofs.Session
import EntityStore.Proofs.Sql.Clause
import EntityStore.Repository.Write

/-!
# Deletions without a restriction

A deletion by condition is refused when its predicate holds of every row without a look at one.
The guard and the writer are two recursions over the predicate. They agree on groups; on a
comparison they agree unless it is a NOT IN of no items, which is written as a true constant and
which the guard takes for a restriction.
-/

namespace EntityStore

open Sql (Item ofItems Comparison)

namespace Predicate

/-! ## Guard and writer -/

/-- A NOT IN of no items: it is written `1=1`. -/
def Leaf.isVacuous (l : Leaf) : Bool := l.isConstant && l.op = .notIn

theorem read_false (l : Leaf) : l.read (fun _ => false) = l.isVacuous := by
  unfold Leaf.read Leaf.isVacuous
  obtain ⟨column, op, value⟩ := l
  cases op with
  | isIn | notIn => cases (Leaf.mk column _ value).isConstant <;> rfl
  | _ => rfl

/-- The guard takes every comparison for false, whatever it is written as. -/
theorem isUnconditional_eq (p : Predicate) : p.isUnconditional = eval (fun _ => false) p := by
  apply eq_eval isUnconditional allUnconditional anyUnconditional
  · exact fun _ _ _ => rfl
  · exact fun _ => rfl
  · exact fun _ => rfl
  · rfl
  · exact fun _ _ => rfl
  · rfl
  · exact fun _ _ => rfl

end Predicate

/-! ## The deletion of a condition -/

section

variable {style : Placeholder} {table : Ident} {p : Predicate}

open Postgres.Statement (deleteItems)

/-- The WHERE clause of a deletion is true even where no comparison that it is written with
holds. -/
def ConstantlyTrue (style : Placeholder) (table : Ident) (statement : Sql) : Prop :=
  Sql.readClause style (fun _ => false) (deleteItems table []) " WHERE " statement = some true

theorem constantlyTrue_iff (wf : p.WellFormed) :
    ConstantlyTrue style table (ofItems (deleteItems table [p])) ↔
      p.eval Predicate.Leaf.isVacuous = true := by
  have wfs : ∀ q ∈ [p], q.WellFormed := fun q hq => by rwa [List.mem_singleton.mp hq]
  have read := Predicate.readClause_ofItems style (fun _ => false) wfs (by decide)
    (Sql.stops_nil " WHERE ") (deleteItems table [])
  have clause : deleteItems table [] ++ (Predicate.clauseItems " WHERE " [p] ++ []) =
      deleteItems table [p] := by
    simp [deleteItems, Predicate.clauseItems]
  rw [clause, Predicate.clauseValue_singleton,
    Predicate.eval_congr fun l _ => Predicate.read_false l] at read
  rw [ConstantlyTrue, read, Option.some_inj]

/-- What the guard refuses would delete every row. -/
theorem constantlyTrue_of_isUnconditional (wf : p.WellFormed) (h : p.isUnconditional = true) :
    ConstantlyTrue style table (ofItems (deleteItems table [p])) := by
  rw [constantlyTrue_iff wf]
  rw [Predicate.isUnconditional_eq] at h
  exact Predicate.eval_mono (fun _ _ => Bool.false_le _) h

/-- Without a NOT IN of no items the guard refuses all that would delete every row. -/
theorem isUnconditional_iff (wf : p.WellFormed)
    (h : ∀ l ∈ p.leaves, l.isVacuous = false) :
    p.isUnconditional = true ↔
      ConstantlyTrue style table (ofItems (deleteItems table [p])) := by
  rw [constantlyTrue_iff wf, Predicate.isUnconditional_eq, Predicate.eval_congr h]

end

namespace Repository

variable {σ α : Type} [Store σ] [Entity α] {c : Condition} {p : Predicate}

theorem deleteWhere_refused (lowered : Predicate.lower .where c = .ok p)
    (h : p.isUnconditional = true) (repo : Repository α) (s : Session σ) :
    (repo.deleteWhere c).run.run s = (.error unrestricted, s) := by
  have refused : restricting c = .error unrestricted := by
    rw [restricting, lowered]
    exact if_pos h
  rw [deleteWhere, refused]
  exact run_bind_error (run_ofExcept _ s)

theorem deleteWhere_issued (lowered : Predicate.lower .where c = .ok p)
    (h : p.isUnconditional = false) (repo : Repository α) (s : Session σ) :
    Issues (repo.deleteWhere c) .delete s := by
  have accepted : restricting c = .ok p := by
    rw [restricting, lowered]
    exact if_neg (by rw [h]; exact Bool.false_ne_true)
  rw [Issues, deleteWhere, accepted, run_bind_ok (run_ofExcept _ s), logOp,
    run_bind_ok (run_log _ s), run_ask]
  exact ⟨_, List.append_assoc .., List.mem_append_right _ (List.mem_cons_self ..)⟩

/-- The two cases of a deletion exclude each other. -/
theorem not_issues_of_refused {repo : Repository α} {s : Session σ}
    (h : (repo.deleteWhere c).run.run s = (.error unrestricted, s)) :
    ¬Issues (repo.deleteWhere c) .delete s := by
  rintro ⟨events, journal, asked⟩
  rw [h] at journal
  have none : events = [] := List.append_right_eq_self.mp journal.symm
  rw [none] at asked
  cases asked

end Repository

open Postgres in
open Repository (unrestricted) in
/-- A deletion by condition is refused only if its WHERE clause is constantly true. The clause is
so where the predicate would hold by its NOT IN of no items alone; without one, guard and writer
agree on every part of the predicate, and a deletion that is issued has a clause that is not. -/
theorem deletion_guard {c : Condition} {p : Predicate}
    (lowered : Predicate.lower .where c = .ok p) {name : String} {table : Ident}
    (named : Query.ident name = .ok table) (style : Placeholder) :
    ∃ statement : Predicate → Sql, (∀ r, Statement.delete name [r] = .ok (statement r)) ∧
      (p.isUnconditional = true → ConstantlyTrue style table (statement p)) ∧
      (ConstantlyTrue style table (statement p) ↔ p.eval Predicate.Leaf.isVacuous = true) ∧
      ((∀ r ∈ p.parts, r.isUnconditional = true ↔ ConstantlyTrue style table (statement r)) ↔
        ∀ l ∈ p.leaves, l.isVacuous = false) ∧
      ∀ {σ α : Type} [Store σ] [Entity α] (repo : Repository α) (s : Session σ),
        ((repo.deleteWhere c).run.run s = (.error unrestricted, s) ∨
          Issues (repo.deleteWhere c) .delete s) ∧
        ((repo.deleteWhere c).run.run s = (.error unrestricted, s) →
          ConstantlyTrue style table (statement p)) ∧
        ((∀ l ∈ p.leaves, l.isVacuous = false) → Issues (repo.deleteWhere c) .delete s →
          ¬ConstantlyTrue style table (statement p)) := by
  have wf := Predicate.wellFormed_of_lower .where c lowered
  refine ⟨fun r => ofItems (Statement.deleteItems table [r]), fun r => ?_,
    constantlyTrue_of_isUnconditional wf, constantlyTrue_iff wf,
    ⟨fun agree l hl => ?_, fun none r hr => ?_⟩,
    fun repo s => ⟨?_, fun refused => ?_, fun none issued always => ?_⟩⟩
  · rw [Statement.delete_eq, named]
    rfl
  · have leaf := agree _ (Predicate.mem_parts_of_leaf hl)
    rw [constantlyTrue_iff (Predicate.wellFormed_compare.mpr (wf l hl))] at leaf
    exact Bool.eq_false_iff.mpr fun vacuous => Bool.false_ne_true (leaf.mpr vacuous)
  · exact isUnconditional_iff (fun l hl => wf l (Predicate.mem_leaves_of_parts hr hl))
      fun l hl => none l (Predicate.mem_leaves_of_parts hr hl)
  · cases guard : p.isUnconditional with
    | true => exact Or.inl (Repository.deleteWhere_refused lowered guard repo s)
    | false => exact Or.inr (Repository.deleteWhere_issued lowered guard repo s)
  · cases guard : p.isUnconditional with
    | true => exact constantlyTrue_of_isUnconditional wf guard
    | false =>
      exact absurd (Repository.deleteWhere_issued lowered guard repo s)
        (Repository.not_issues_of_refused refused)
  · have guard := (isUnconditional_iff wf none).mpr always
    exact Repository.not_issues_of_refused
      (Repository.deleteWhere_refused lowered guard repo s) issued

open Postgres in
/-- A condition that an empty conjunction makes true of every row is refused. -/
theorem deletion_guard_refuses :
    Predicate.lower .where (.or [.compare "a" .eq (.int 1), .and []]) =
        .ok (.any [.compare (.column ⟨[.plain "a"]⟩) .eq (.int 1), .all []]) ∧
      Query.ident "t" = .ok ⟨[.plain "t"]⟩ ∧
      ∃ statement, Statement.delete "t"
          [.any [.compare (.column ⟨[.plain "a"]⟩) .eq (.int 1), .all []]] = .ok statement ∧
        ConstantlyTrue .dollar ⟨[.plain "t"]⟩ statement := by
  have lowered : Predicate.lower .where (.or [.compare "a" .eq (.int 1), .and []]) =
      .ok (.any [.compare (.column ⟨[.plain "a"]⟩) .eq (.int 1), .all []]) := by cbv
  have named : Query.ident "t" = .ok ⟨[.plain "t"]⟩ := by cbv
  obtain ⟨statement, written, guard, -⟩ := deletion_guard lowered named .dollar
  exact ⟨lowered, named, statement _, written _, guard rfl⟩

open Postgres in
/-- `a NOT IN ()` is written as a constant, and still the guard lets its deletion through. -/
theorem vacuous_deletion :
    ∃ p, Predicate.lower .where (.compare "a" .notIn (.list [])) = .ok p ∧
      p.isUnconditional = false ∧ ∃ statement, Statement.delete "t" [p] = .ok statement ∧
        ConstantlyTrue .dollar ⟨[.plain "t"]⟩ statement := by
  have named : Query.ident "t" = .ok ⟨[.plain "t"]⟩ := by cbv
  have lowered : Predicate.lower .where (.compare "a" .notIn (.list [])) =
      .ok (.compare (.column ⟨[.plain "a"]⟩) .notIn (.list [])) := by cbv
  have written : Statement.delete "t" [.compare (.column ⟨[.plain "a"]⟩) .notIn (.list [])] =
      .ok (ofItems (Statement.deleteItems ⟨[.plain "t"]⟩
        [.compare (.column ⟨[.plain "a"]⟩) .notIn (.list [])])) := by
    rw [Statement.delete_eq, named]
    rfl
  refine ⟨_, lowered, rfl, _, written, ?_⟩
  rw [constantlyTrue_iff (Predicate.wellFormed_of_lower .where _ lowered)]
  rfl

end EntityStore
