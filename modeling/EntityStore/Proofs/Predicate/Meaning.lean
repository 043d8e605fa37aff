import EntityStore.Proofs.Sql.Binding
import EntityStore.Proofs.Sql.Name
import Mathlib.Order.Hom.BoundedLattice

/-!
# What predicates mean

A predicate is made of comparisons by conjunction and disjunction. Given a truth value for each
comparison it has one itself, in any bounded lattice of truth values: two of them where a clause
is read, three where NULL counts.
-/

namespace EntityStore.Predicate

/-- Shows a property of predicates from the same property of their members. -/
theorem inductionOn {motive : Predicate → Prop}
    (compare : ∀ column op value, motive (.compare column op value))
    (all : ∀ ps, (∀ p ∈ ps, motive p) → motive (.all ps))
    (any : ∀ ps, (∀ p ∈ ps, motive p) → motive (.any ps)) (p : Predicate) : motive p := by
  match p with
  | .compare column op value => exact compare column op value
  | .all ps => exact all ps fun q _ => inductionOn compare all any q
  | .any ps => exact any ps fun q _ => inductionOn compare all any q

/-- A comparison inside a predicate. -/
structure Leaf where
  column : ColumnExpr
  op : Operator
  value : Value

mutual

/-- The comparisons of a predicate, from left to right. -/
def leaves : Predicate → List Leaf
  | .compare column op value => [⟨column, op, value⟩]
  | .all ps | .any ps => leavesAll ps

def leavesAll : List Predicate → List Leaf
  | [] => []
  | p :: ps => leaves p ++ leavesAll ps

end

theorem leavesAll_eq (ps : List Predicate) : leavesAll ps = ps.flatMap leaves := by
  induction ps with
  | nil => rfl
  | cons p ps ih => rw [leavesAll, ih, List.flatMap_cons]

theorem leaves_member {p : Predicate} {ps : List Predicate} (h : p ∈ ps) {l : Leaf}
    (hl : l ∈ leaves p) : l ∈ leavesAll ps := by
  rw [leavesAll_eq]
  exact List.mem_flatMap.mpr ⟨p, h, hl⟩

/-! ## Parts -/

mutual

/-- The predicate and all that it is made of. -/
def parts : Predicate → List Predicate
  | .compare column op value => [.compare column op value]
  | .all ps => .all ps :: partsAll ps
  | .any ps => .any ps :: partsAll ps

def partsAll : List Predicate → List Predicate
  | [] => []
  | p :: ps => parts p ++ partsAll ps

end

theorem partsAll_eq (ps : List Predicate) : partsAll ps = ps.flatMap parts := by
  induction ps with
  | nil => rfl
  | cons p ps ih => rw [partsAll, ih, List.flatMap_cons]

/-- The comparisons of a predicate are those of its parts. -/
theorem mem_leaves_of_parts {p r : Predicate} (hr : r ∈ parts p) {l : Leaf} (hl : l ∈ leaves r) :
    l ∈ leaves p := by
  induction p using inductionOn with
  | compare column op value =>
    rw [List.mem_singleton.mp hr] at hl
    exact hl
  | all ps ih | any ps ih =>
    rcases List.mem_cons.mp hr with rfl | hr
    · exact hl
    · rw [partsAll_eq] at hr
      obtain ⟨p, hp, hr⟩ := List.mem_flatMap.mp hr
      exact leaves_member hp (ih p hp hr)

theorem mem_parts_of_leaf {p : Predicate} {l : Leaf} (hl : l ∈ leaves p) :
    compare l.column l.op l.value ∈ parts p := by
  induction p using inductionOn with
  | compare column op value =>
    rw [List.mem_singleton.mp hl]
    exact List.mem_singleton_self _
  | all ps ih | any ps ih =>
    change l ∈ leavesAll ps at hl
    rw [leavesAll_eq] at hl
    obtain ⟨p, hp, hl⟩ := List.mem_flatMap.mp hl
    refine List.mem_cons_of_mem _ ?_
    rw [partsAll_eq]
    exact List.mem_flatMap.mpr ⟨p, hp, ih p hp hl⟩

/-! ## Truth values -/

section

variable {T : Type} [Lattice T] [BoundedOrder T]

mutual

/-- The truth value of a predicate, given those of its comparisons. -/
def eval (truth : Leaf → T) : Predicate → T
  | .compare column op value => truth ⟨column, op, value⟩
  | .all ps => evalAll truth ps
  | .any ps => evalAny truth ps

def evalAll (truth : Leaf → T) : List Predicate → T
  | [] => ⊤
  | p :: ps => eval truth p ⊓ evalAll truth ps

def evalAny (truth : Leaf → T) : List Predicate → T
  | [] => ⊥
  | p :: ps => eval truth p ⊔ evalAny truth ps

end

variable {truth truth' : Leaf → T}

theorem evalAll_mono {ps : List Predicate} (h : ∀ p ∈ ps, eval truth p ≤ eval truth' p) :
    evalAll truth ps ≤ evalAll truth' ps := by
  induction ps with
  | nil => exact le_refl _
  | cons p ps ih =>
    exact inf_le_inf (h p (by simp)) (ih fun q hq => h q (List.mem_cons_of_mem _ hq))

theorem evalAny_mono {ps : List Predicate} (h : ∀ p ∈ ps, eval truth p ≤ eval truth' p) :
    evalAny truth ps ≤ evalAny truth' ps := by
  induction ps with
  | nil => exact le_refl _
  | cons p ps ih =>
    exact sup_le_sup (h p (by simp)) (ih fun q hq => h q (List.mem_cons_of_mem _ hq))

/-- There is no negation above a comparison. -/
theorem eval_mono {p : Predicate} (h : ∀ l ∈ leaves p, truth l ≤ truth' l) :
    eval truth p ≤ eval truth' p := by
  induction p using inductionOn with
  | compare column op value => exact h _ (List.mem_singleton_self _)
  | all ps ih => exact evalAll_mono fun p hp => ih p hp fun l hl => h l (leaves_member hp hl)
  | any ps ih => exact evalAny_mono fun p hp => ih p hp fun l hl => h l (leaves_member hp hl)

theorem eval_congr {p : Predicate} (h : ∀ l ∈ leaves p, truth l = truth' l) :
    eval truth p = eval truth' p :=
  le_antisymm (eval_mono fun l hl => (h l hl).le) (eval_mono fun l hl => (h l hl).ge)

section

variable {f : Predicate → T} {fAll fAny : List Predicate → T}

theorem eq_evalAll (nil : fAll [] = ⊤) (cons : ∀ p ps, fAll (p :: ps) = f p ⊓ fAll ps)
    {ps : List Predicate} (h : ∀ p ∈ ps, f p = eval truth p) : fAll ps = evalAll truth ps := by
  induction ps with
  | nil => exact nil
  | cons p ps ih =>
    rw [cons, h p (by simp), ih fun q hq => h q (List.mem_cons_of_mem _ hq), evalAll]

theorem eq_evalAny (nil : fAny [] = ⊥) (cons : ∀ p ps, fAny (p :: ps) = f p ⊔ fAny ps)
    {ps : List Predicate} (h : ∀ p ∈ ps, f p = eval truth p) : fAny ps = evalAny truth ps := by
  induction ps with
  | nil => exact nil
  | cons p ps ih =>
    rw [cons, h p (by simp), ih fun q hq => h q (List.mem_cons_of_mem _ hq), evalAny]

/-- A function that takes groups for conjunctions and disjunctions is the evaluation. -/
theorem eq_eval (f : Predicate → T) (fAll fAny : List Predicate → T)
    (compare : ∀ column op value, f (.compare column op value) = truth ⟨column, op, value⟩)
    (all : ∀ ps, f (.all ps) = fAll ps) (any : ∀ ps, f (.any ps) = fAny ps)
    (allNil : fAll [] = ⊤) (allCons : ∀ p ps, fAll (p :: ps) = f p ⊓ fAll ps)
    (anyNil : fAny [] = ⊥) (anyCons : ∀ p ps, fAny (p :: ps) = f p ⊔ fAny ps) (p : Predicate) :
    f p = eval truth p := by
  induction p using inductionOn with
  | compare column op value => exact compare column op value
  | all ps ih => exact (all ps).trans (eq_evalAll allNil allCons ih)
  | any ps ih => exact (any ps).trans (eq_evalAny anyNil anyCons ih)

end

/-- Truth values can be compared after the evaluation or before it. -/
theorem eval_hom {S : Type} [Lattice S] [BoundedOrder S] (f : BoundedLatticeHom T S)
    (p : Predicate) : f (eval truth p) = eval (f ∘ truth) p := by
  apply eq_eval (fun p => f (eval truth p)) (fun ps => f (evalAll truth ps))
    fun ps => f (evalAny truth ps)
  · exact fun _ _ _ => rfl
  · exact fun _ => rfl
  · exact fun _ => rfl
  · exact map_top f
  · exact fun _ _ => map_inf f _ _
  · exact map_bot f
  · exact fun _ _ => map_sup f _ _

end

/-! ## Two truth values -/

/-- The lattice of the order of false and true, whatever other ones there are. -/
instance : Lattice Bool := Bool.linearOrder.toLattice

section

variable {truth : Leaf → Bool} {ps : List Predicate}

theorem evalAll_eq_true : evalAll truth ps = true ↔ ∀ p ∈ ps, eval truth p = true := by
  induction ps with
  | nil => simp [evalAll]
  | cons p ps ih => simp [evalAll, ih]

theorem evalAny_eq_true : evalAny truth ps = true ↔ ∃ p ∈ ps, eval truth p = true := by
  induction ps with
  | nil => simp [evalAny]
  | cons p ps ih => simp [evalAny, ih]

end

/-! ## Names -/

/-- Every column is one that some text is read as. -/
def WellFormed (p : Predicate) : Prop := ∀ l ∈ leaves p, l.column.WellFormed

theorem wellFormed_compare {column : ColumnExpr} {op : Operator} {value : Value} :
    (compare column op value).WellFormed ↔ column.WellFormed := by
  simp [WellFormed, leaves]

theorem wellFormed_all {ps : List Predicate} :
    (all ps).WellFormed ↔ ∀ p ∈ ps, p.WellFormed := by
  simp only [WellFormed, leaves, leavesAll_eq, List.mem_flatMap]
  grind

theorem wellFormed_any {ps : List Predicate} :
    (any ps).WellFormed ↔ ∀ p ∈ ps, p.WellFormed := wellFormed_all

theorem wellFormed_of_column {place : Place} {field : String} {c : ColumnExpr}
    (h : place.column field = .ok c) : c.WellFormed := by
  cases place with
  | «where» =>
    obtain ⟨i, read, rfl⟩ := exists_of_map (ok_of_mapError h)
    exact Ident.wellFormed_of_parseChars read
  | having => exact ColumnExpr.wellFormed_of_parseTrimmed (ok_of_mapError h)

mutual

theorem wellFormed_of_lower (place : Place) :
    ∀ (c : Condition) {p : Predicate}, lower place c = .ok p → p.WellFormed
  | .compare field op value, p, h => by
    unfold lower lowerCompare at h
    split at h
    · cases h
    · split at h
      · cases h
      · obtain ⟨column, read, rfl⟩ := exists_of_map h
        exact wellFormed_compare.mpr (wellFormed_of_column read)
  | .and cs, p, h => by
    obtain ⟨ps, read, rfl⟩ := exists_of_map h
    exact wellFormed_all.mpr (wellFormed_of_lowerAll place cs read)
  | .or cs, p, h => by
    obtain ⟨ps, read, rfl⟩ := exists_of_map h
    exact wellFormed_any.mpr (wellFormed_of_lowerAll place cs read)

theorem wellFormed_of_lowerAll (place : Place) :
    ∀ (cs : List Condition) {ps : List Predicate}, lowerAll place cs = .ok ps →
      ∀ p ∈ ps, p.WellFormed
  | [], ps, h => by
    cases h
    intro p hp
    cases hp
  | c :: cs, ps, h => by
    obtain ⟨p, first, h⟩ := exists_of_bind h
    obtain ⟨qs, others, h⟩ := exists_of_bind h
    cases h
    intro q hq
    rcases List.mem_cons.mp hq with rfl | hq
    · exact wellFormed_of_lower place c first
    · exact wellFormed_of_lowerAll place cs others q hq

end

theorem wellFormed_of_compile {q : Query} {c : Compiled} (h : q.compile = .ok c) :
    (∀ p ∈ c.filters, p.WellFormed) ∧ ∀ p ∈ c.having, p.WellFormed := by
  obtain ⟨filters, lowered, h⟩ := exists_of_bind h
  obtain ⟨projection, -, h⟩ := exists_of_bind h
  obtain ⟨orders, -, h⟩ := exists_of_bind h
  obtain ⟨joins, -, h⟩ := exists_of_bind h
  obtain ⟨groups, -, h⟩ := exists_of_bind h
  obtain ⟨having, loweredHaving, h⟩ := exists_of_bind h
  cases h
  exact ⟨wellFormed_of_lowerAll .where _ (ok_of_mapError lowered),
    wellFormed_of_lowerAll .having _ (ok_of_mapError loweredHaving)⟩

end EntityStore.Predicate
