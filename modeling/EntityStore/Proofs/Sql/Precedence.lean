import EntityStore.Memory.Match
import EntityStore.Proofs.Sql.Clause

/-!
# Which clauses denote the conjunction of their filters

A clause joins its filters by AND without parentheses around each, and AND binds tighter than
OR. So the clause denotes the conjunction of its filters as long as no disjunction of two or
more members stands beside another filter; where one does, the clause lets rows through that a
filter excludes.
-/

namespace EntityStore

open Sql (Item ofItems Comparison Level Token)

namespace Predicate

/-! ## Conjunction and clause -/

section

variable {T : Type} [Lattice T] [BoundedOrder T] {truth : Leaf → T}

/-- A disjunction of two or more members: as a member of a conjunction it needs parentheses. -/
def isAlternative : Predicate → Bool
  | .any (_ :: _ :: _) => true
  | _ => false

/-- No disjunction of two or more members stands beside another filter. -/
def Plain (ps : List Predicate) : Prop := ps.length ≤ 1 ∨ ∀ p ∈ ps, p.isAlternative = false

theorem extend_of_not_alternative {p : Predicate} (h : p.isAlternative = false) (l : Level T) :
    extend truth l p = l.take (eval truth p) := by
  match p with
  | .compare .. => rfl
  | .all _ => rfl
  | .any [] => rfl
  | .any [p] => simp [extend, eval, evalAny]
  | .any (_ :: _ :: _) => cases h

theorem clauseValue_of_plain {ps : List Predicate} (h : Plain ps) :
    clauseValue truth ps = evalAll truth ps := by
  rcases h with short | none
  · match ps with
    | [] => simp [clauseValue, evalAll, Level.start, Level.value]
    | [p] =>
      rw [clauseValue_singleton, evalAll, evalAll, inf_top_eq]
    | _ :: _ :: _ => simp at short
  · have taken : ∀ (ps : List Predicate) (l : Level T), (∀ p ∈ ps, p.isAlternative = false) →
        ps.foldl (extend truth) l = ps.foldl (fun l p => l.take (eval truth p)) l := by
      intro ps
      induction ps with
      | nil => exact fun _ _ => rfl
      | cons p ps ih =>
        intro l none
        rw [List.foldl_cons, List.foldl_cons, extend_of_not_alternative (none p (by simp))]
        exact ih _ fun q hq => none q (List.mem_cons_of_mem _ hq)
    have top : (Level.start : Level T) = Level.start.take ⊤ := by simp [Level.start, Level.take]
    rw [clauseValue, taken ps _ none, top, foldl_take]
    simp [Level.start, Level.take, Level.value]

end

section

variable {truth : Leaf → Bool} {l : Level Bool} {p : Predicate}

theorem value_extend (hl : l.value = true) (hp : eval truth p = true) :
    (extend truth l p).value = true := by
  unfold extend
  split
  case h_1 p ps =>
    rw [value_foldl_next]
    change evalAny truth (p :: ps) = true at hp
    simp only [evalAny, Bool.max_eq_or, Bool.or_eq_true] at hp
    simp only [Level.value, Level.take, Bool.max_eq_or, Bool.min_eq_and, Bool.or_eq_true,
      Bool.and_eq_true] at hl ⊢
    tauto
  case h_2 =>
    rw [Level.value, Level.take, hp]
    simpa [Level.value] using hl

theorem closed_extend (h : l.closed = true) (p : Predicate) :
    (extend truth l p).closed = true := by
  have others (ps : List Predicate) (l : Level Bool) (h : l.closed = true) :
      (ps.foldl (fun l p => l.next.take (eval truth p)) l).closed = true := by
    induction ps generalizing l with
    | nil => exact h
    | cons p ps ih =>
      apply ih
      simp [Level.next, Level.take, h]
  unfold extend
  split
  case h_1 => exact others _ _ h
  case h_2 => exact h

theorem value_of_closed (h : l.closed = true) : l.value = true := by
  simp [Level.value, h]

theorem closed_foldl (h : l.closed = true) (ps : List Predicate) :
    (ps.foldl (extend truth) l).closed = true := by
  induction ps generalizing l with
  | nil => exact h
  | cons p ps ih => exact ih (closed_extend h p)

theorem value_foldl (hl : l.value = true) {ps : List Predicate}
    (h : ∀ p ∈ ps, eval truth p = true) : (ps.foldl (extend truth) l).value = true := by
  induction ps generalizing l with
  | nil => exact hl
  | cons p ps ih =>
    exact ih (value_extend hl (h p (by simp))) fun q hq => h q (List.mem_cons_of_mem _ hq)

/-- Nothing that satisfies all filters is left out. -/
theorem clauseValue_of_evalAll {ps : List Predicate} (h : evalAll truth ps = true) :
    clauseValue truth ps = true :=
  value_foldl (by simp [Level.start, Level.value]) (evalAll_eq_true.mp h)

/-- The first member of a disjunction ends the conjunction of the filters in front of it. -/
theorem closed_alternative {q : Predicate} {ps : List Predicate} (hl : l.value = true)
    (hp : eval truth p = true) : (extend truth l (.any (p :: q :: ps))).closed = true := by
  have first : (l.take (eval truth p)).next.closed = true := by
    simpa [Level.next, Level.take, Level.value, hp] using hl
  have others : (extend truth (l.take (eval truth p)).next (.any (q :: ps))).closed = true :=
    closed_extend first _
  simpa [extend, Level.next, Level.take] using others

/-- Any further member of a disjunction lets rows in by itself. -/
theorem value_alternative {q : Predicate} {ps : List Predicate} (hq : eval truth q = true) :
    (extend truth l (.any (p :: q :: ps))).value = true := by
  rw [extend, value_foldl_next, evalAny, hq]
  simp

end

/-! ## Independent filters -/

def comparisons (p : Predicate) : List Comparison := (leaves p).map Leaf.comparison

mutual

/-- Whether no group and no list in the predicate is empty. -/
def isProper : Predicate → Bool
  | .compare column op value => !(Leaf.mk column op value).isConstant
  | .all ps | .any ps => !ps.isEmpty && areProper ps

def areProper : List Predicate → Bool
  | [] => true
  | p :: ps => isProper p && areProper ps

end

/-- Filters without empty groups or lists that share no comparison: the truth of one says
nothing about the truth of another. -/
structure Independent (ps : List Predicate) : Prop where
  proper : ∀ p ∈ ps, p.isProper = true
  apart : ps.Pairwise fun p q => ∀ c ∈ p.comparisons, c ∉ q.comparisons

theorem proper_of_areProper {ps : List Predicate} (h : areProper ps = true) :
    ∀ p ∈ ps, p.isProper = true := by
  induction ps with
  | nil => simp
  | cons p ps ih =>
    rw [areProper, Bool.and_eq_true] at h
    intro q hq
    rcases List.mem_cons.mp hq with rfl | hq
    · exact h.1
    · exact ih h.2 q hq

theorem proper_members {ps : List Predicate} (h : (any ps).isProper = true) :
    ps ≠ [] ∧ ∀ p ∈ ps, p.isProper = true := by
  rw [isProper] at h
  obtain ⟨ne, proper⟩ := Bool.and_eq_true_iff.mp h
  exact ⟨by simpa using ne, proper_of_areProper proper⟩

theorem mem_comparisons {p : Predicate} {ps : List Predicate} (h : p ∈ ps) {c : Comparison}
    (hc : c ∈ p.comparisons) : c ∈ (leavesAll ps).map Leaf.comparison := by
  obtain ⟨l, hl, rfl⟩ := List.mem_map.mp hc
  exact List.mem_map_of_mem (leaves_member h hl)

/-- A proper predicate has the truth value of its comparisons where they agree. -/
theorem eval_of_proper {p : Predicate} (h : p.isProper = true) {truth : Comparison → Bool}
    {b : Bool} (hb : ∀ c ∈ p.comparisons, truth c = b) : eval (Leaf.read truth) p = b := by
  induction p using inductionOn with
  | compare column op value =>
    have written : (Leaf.mk column op value).isConstant = false := by
      simpa [isProper] using h
    rw [eval, Leaf.read, written, if_neg Bool.false_ne_true]
    exact hb _ (by simp [comparisons, leaves])
  | all ps ih =>
    obtain ⟨ne, proper⟩ := proper_members h
    have each : ∀ p ∈ ps, eval (Leaf.read truth) p = b := fun p hp =>
      ih p hp (proper p hp) fun c hc => hb c (mem_comparisons hp hc)
    cases ps with
    | nil => exact absurd rfl ne
    | cons p ps =>
      cases b with
      | true => exact evalAll_eq_true.mpr each
      | false => simp [eval, evalAll, each p (by simp)]
  | any ps ih =>
    obtain ⟨ne, proper⟩ := proper_members h
    have each : ∀ p ∈ ps, eval (Leaf.read truth) p = b := fun p hp =>
      ih p hp (proper p hp) fun c hc => hb c (mem_comparisons hp hc)
    cases ps with
    | nil => exact absurd rfl ne
    | cons p ps =>
      cases b with
      | true => exact evalAny_eq_true.mpr ⟨p, by simp, each p (by simp)⟩
      | false =>
        rw [eval, Bool.eq_false_iff, ne_eq, evalAny_eq_true]
        rintro ⟨q, hq, holds⟩
        rw [each q hq] at holds
        cases holds

/-- The comparisons of a list are true and all others false. -/
theorem exists_truth (cs : List Comparison) :
    ∃ truth : Comparison → Bool, (∀ c ∈ cs, truth c = true) ∧ ∀ c ∉ cs, truth c = false := by
  classical
  exact ⟨fun c => decide (c ∈ cs), by simp, by simp⟩

/-- The clause can let rows in that a filter excludes. -/
def Leaks (ps : List Predicate) : Prop :=
  ∃ truth : Comparison → Bool,
    clauseValue (Leaf.read truth) ps = true ∧ evalAll (Leaf.read truth) ps = false

theorem evalAll_eq_false {truth : Leaf → Bool} {ps : List Predicate} {p : Predicate}
    (hp : p ∈ ps) (h : eval truth p = false) : evalAll truth ps = false := by
  rw [Bool.eq_false_iff, ne_eq, evalAll_eq_true]
  intro all
  rw [all p hp] at h
  cases h

section

variable {front back ps : List Predicate} {first second q : Predicate}

/-- Everything up to the first member of the alternative is true, what stands behind is not. -/
theorem leaks_behind
    (h : Independent (front ++ any (first :: second :: ps) :: q :: back)) :
    Leaks (front ++ any (first :: second :: ps) :: q :: back) := by
  obtain ⟨proper, apart⟩ := h
  obtain ⟨-, behind, between⟩ := List.pairwise_append.mp apart
  obtain ⟨truth, holds, fails⟩ :=
    exists_truth ((front ++ [any (first :: second :: ps)]).flatMap comparisons)
  have members := (proper_members (proper _ (by simp : any (first :: second :: ps) ∈ _))).2
  have inFront : ∀ r ∈ front, eval (Leaf.read truth) r = true := fun r hr =>
    eval_of_proper (proper r (by simp [hr])) fun c hc =>
      holds c (List.mem_flatMap.mpr ⟨r, by simp [hr], hc⟩)
  have inFirst : eval (Leaf.read truth) first = true := by
    refine eval_of_proper (members first (by simp)) fun c hc => holds c ?_
    have : c ∈ comparisons (any (first :: second :: ps)) :=
      mem_comparisons (by simp : first ∈ first :: second :: ps) hc
    exact List.mem_flatMap.mpr ⟨_, by simp, this⟩
  have outside : eval (Leaf.read truth) q = false := by
    refine eval_of_proper (proper q (by simp)) fun c hc => fails c fun hm => ?_
    obtain ⟨r, hr, hcr⟩ := List.mem_flatMap.mp hm
    rcases List.mem_append.mp hr with hr | hr
    · exact between r hr q (by simp) c hcr hc
    · rw [List.mem_singleton.mp hr] at hcr
      exact (List.pairwise_cons.mp behind).1 q (by simp) c hcr hc
  refine ⟨truth, ?_, evalAll_eq_false (p := q) (by simp) outside⟩
  have reached := value_foldl (l := Level.start) (by simp [Level.start, Level.value]) inFront
  rw [clauseValue, List.foldl_append, List.foldl_cons]
  exact value_of_closed (closed_foldl (closed_alternative reached inFirst) _)

/-- The second member of the alternative is true, what stands in front is not. -/
theorem leaks_before (h : Independent (q :: front ++ [any (first :: second :: ps)])) :
    Leaks (q :: front ++ [any (first :: second :: ps)]) := by
  obtain ⟨proper, apart⟩ := h
  obtain ⟨-, -, between⟩ := List.pairwise_append.mp apart
  obtain ⟨truth, holds, fails⟩ := exists_truth (comparisons (any (first :: second :: ps)))
  have members := (proper_members (proper _ (by simp : any (first :: second :: ps) ∈ _))).2
  have inSecond : eval (Leaf.read truth) second = true :=
    eval_of_proper (members second (by simp)) fun c hc =>
      holds c (mem_comparisons (by simp : second ∈ first :: second :: ps) hc)
  have outside : eval (Leaf.read truth) q = false :=
    eval_of_proper (proper q (by simp)) fun c hc => fails c (between q (by simp) _ (by simp) c hc)
  refine ⟨truth, ?_, evalAll_eq_false (p := q) (by simp) outside⟩
  rw [clauseValue, List.foldl_append, List.foldl_cons]
  exact value_alternative inSecond

/-- Where filters are independent, an alternative beside another filter shows in the clause. -/
theorem leaks_of_not_plain (independent : Independent ps) (h : ¬Plain ps) : Leaks ps := by
  simp only [Plain, not_or, not_forall, Nat.not_le, Bool.not_eq_false] at h
  obtain ⟨several, p, hp, alternative⟩ := h
  obtain ⟨front, back, rfl⟩ := List.append_of_mem hp
  match p, alternative with
  | .any (first :: second :: others), _ =>
    match front, back with
    | front, q :: back => exact leaks_behind independent
    | q :: front, [] => exact leaks_before independent
    | [], [] => simp at several

end

end Predicate

/-! ## The clauses of a statement -/

namespace Sql

open Predicate

/-- The clause denotes the conjunction of the filters, whichever of its comparisons hold. -/
def Conjoins (q : Sql) (before : List Item) (keyword : String) (ps : List Predicate) : Prop :=
  ∀ style (truth : Comparison → Bool),
    readClause style truth before keyword q = some (evalAll (Leaf.read truth) ps)

/-- What a clause makes of its filters. It is read as `clauseValue` says, leaves out nothing that
satisfies them all, and denotes their conjunction when they are plain; when they are not, but
independent, it lets in what a filter excludes. -/
structure Restricts (q : Sql) (before : List Item) (keyword : String) (ps : List Predicate) :
    Prop where
  reads : ∀ style (truth : Comparison → Bool),
    readClause style truth before keyword q = some (clauseValue (Leaf.read truth) ps)
  complete : ∀ style (truth : Comparison → Bool), evalAll (Leaf.read truth) ps = true →
    readClause style truth before keyword q = some true
  conjoins : Plain ps → Conjoins q before keyword ps
  leaks : Independent ps → ¬Plain ps → ∀ style, ∃ truth : Comparison → Bool,
    readClause style truth before keyword q = some true ∧ evalAll (Leaf.read truth) ps = false

theorem restricts_ofItems {ps : List Predicate} (wf : ∀ p ∈ ps, p.WellFormed)
    {keyword : String} (hk : keyword ≠ "") {after : List Item} (hs : Stops keyword after)
    (before : List Item) :
    Restricts (ofItems (before ++ (clauseItems keyword ps ++ after))) before keyword ps := by
  have read (style : Placeholder) (truth : Comparison → Bool) :=
    readClause_ofItems style truth wf hk hs before
  constructor
  · exact read
  · intro style truth holds
    rw [read, clauseValue_of_evalAll holds]
  · intro plain style truth
    rw [read, clauseValue_of_plain plain]
  · intro independent mixed style
    obtain ⟨truth, lets, excludes⟩ := leaks_of_not_plain independent mixed
    exact ⟨truth, by rw [read, lets], excludes⟩

theorem stops_clauseItems {keyword keyword' : String} (h : keyword' ∈ endTexts)
    (ha : Apart keyword keyword') (ps : List Predicate) :
    Stops keyword (clauseItems keyword' ps) := by
  cases ps with
  | nil => exact stops_nil _
  | cons p ps => exact stops_text h ha _

end Sql

namespace Compiled

open Sql (Stops stops_nil stops_text stops_append Restricts)

variable (q : Compiled)

/-- The items in front of the HAVING clause. -/
def groupedItems (opening : List Item) : List Item :=
  q.sourceItems opening ++ Predicate.clauseItems " WHERE " q.filters ++ q.groupItems

theorem stops_groupItems {keyword : String} (h : Sql.Apart keyword " GROUP BY ") :
    Stops keyword q.groupItems := by
  unfold groupItems
  split
  · exact stops_nil _
  · exact stops_text (by decide) h _

theorem stops_boundItems {keyword keyword' : String} (h : keyword' ∈ Sql.endTexts)
    (ha : Sql.Apart keyword keyword') (n : Option UInt64) :
    Stops keyword (boundItems keyword' n) := by
  cases n with
  | none => exact stops_nil _
  | some n => exact Or.inr ⟨keyword', h, ha, toString n, [], rfl⟩

theorem stops_pageItems {keyword : String} (order : Sql.Apart keyword " ORDER BY ")
    (limit : Sql.Apart keyword " LIMIT ") (offset : Sql.Apart keyword " OFFSET ") :
    Stops keyword q.pageItems := by
  have ordered : Stops keyword q.orderItems := by
    unfold orderItems
    split
    · exact stops_nil _
    · exact stops_text (by decide) order _
  exact stops_append (stops_append ordered (stops_boundItems (by decide) limit _))
    (stops_boundItems (by decide) offset _)

theorem stops_countEnd {keyword : String} (h : Sql.Apart keyword ") AS t") :
    Stops keyword q.countEnd := by
  unfold countEnd
  split
  · exact stops_text (by decide) h _
  · exact stops_nil _

/-- What both clauses of a statement with the query's body make of their filters. -/
structure BodyRestricts (statement : Sql) (opening : List Item) : Prop where
  filters : Restricts statement (q.sourceItems opening) " WHERE " q.filters
  having : Restricts statement (q.groupedItems opening) " HAVING " q.having

variable {q}

/-- The clauses of a statement that goes on with `after` behind its body. -/
theorem restricts_body (wf : ∀ p ∈ q.filters, p.WellFormed)
    (wfHaving : ∀ p ∈ q.having, p.WellFormed) (opening : List Item)
    {after : List Item} (hw : Stops " WHERE " after) (hh : Stops " HAVING " after) :
    q.BodyRestricts (ofItems (opening ++ q.bodyItems ++ after)) opening := by
  constructor
  · have having : Stops " WHERE " (Predicate.clauseItems " HAVING " q.having) :=
      Sql.stops_clauseItems (by decide) (by decide) q.having
    have stops := stops_append (stops_append (q.stops_groupItems (by decide)) having) hw
    have restricts := Sql.restricts_ofItems wf (by decide) stops (q.sourceItems opening)
    simpa only [sourceItems, bodyItems, List.append_assoc] using restricts
  · have restricts := Sql.restricts_ofItems wfHaving (by decide) hh (q.groupedItems opening)
    simpa only [groupedItems, sourceItems, bodyItems, List.append_assoc] using restricts

theorem restricts_selectSql (wf : ∀ p ∈ q.filters, p.WellFormed)
    (wfHaving : ∀ p ∈ q.having, p.WellFormed) (table : Ident) :
    q.BodyRestricts (q.selectSql table) (q.selectOpening table) := by
  rw [selectSql_eq]
  exact restricts_body wf wfHaving _ (q.stops_pageItems (by decide) (by decide) (by decide))
    (q.stops_pageItems (by decide) (by decide) (by decide))

theorem restricts_countSql (wf : ∀ p ∈ q.filters, p.WellFormed)
    (wfHaving : ∀ p ∈ q.having, p.WellFormed) (table : Ident) :
    q.BodyRestricts (q.countSql table) (q.countOpening table) := by
  rw [countSql_eq]
  exact restricts_body wf wfHaving _ (q.stops_countEnd (by decide)) (q.stops_countEnd (by decide))

end Compiled

namespace Memory

theorem satisfiesAll_eq_true (row : Record) (ps : List Predicate) :
    satisfiesAll row ps = .ok true ↔ ∀ p ∈ ps, satisfies row p = .ok true := by
  induction ps with
  | nil => simp [satisfiesAll]
  | cons p ps ih =>
    rw [satisfiesAll, List.forall_mem_cons, ← ih]
    cases satisfies row p with
    | error e => simp [bind, Except.bind]
    | ok b => cases b <;> simp [bind, Except.bind, pure, Except.pure]

end Memory

open Sql (Restricts) in
open Postgres in
/-- The clauses of every statement are exact for plain filters and leak for others, while rows in
memory have to satisfy each filter in any case. -/
theorem clauses_restrict {clauses : List Query.Clause} {q : Compiled}
    (compiled : Query.compileClauses clauses = .ok q) {filters : List Predicate}
    (wf : ∀ p ∈ filters, p.WellFormed) :
    (∀ table : Ident, q.BodyRestricts (q.selectSql table) (q.selectOpening table) ∧
      q.BodyRestricts (q.countSql table) (q.countOpening table)) ∧
    (∀ name changes statement, Statement.update name changes filters = .ok statement →
      ∃ table columns, Query.ident name = .ok table ∧
        Statement.idents changes.columns = .ok columns ∧
        Restricts statement (Statement.updateItems table columns changes.values []) " WHERE "
          filters) ∧
    (∀ name statement, Statement.delete name filters = .ok statement →
      ∃ table, Query.ident name = .ok table ∧
        Restricts statement (Statement.deleteItems table []) " WHERE " filters) ∧
    ∀ row, Memory.satisfiesAll row filters = .ok true ↔
      ∀ p ∈ filters, Memory.satisfies row p = .ok true := by
  refine ⟨fun table => ?_, ?_, ?_, fun row => Memory.satisfiesAll_eq_true row filters⟩
  · obtain ⟨compiledWf, havingWf⟩ := Predicate.wellFormed_of_compile compiled
    exact ⟨Compiled.restricts_selectSql compiledWf havingWf table,
      Compiled.restricts_countSql compiledWf havingWf table⟩
  · intro name changes statement updated
    rw [Statement.update_eq] at updated
    split at updated
    · cases updated
    · obtain ⟨table, named, updated⟩ := exists_of_bind updated
      obtain ⟨columns, listed, updated⟩ := exists_of_bind updated
      cases updated
      refine ⟨table, columns, named, listed, ?_⟩
      have restricts := Sql.restricts_ofItems wf (by decide) (Sql.stops_nil " WHERE ")
        (Statement.updateItems table columns changes.values [])
      simpa [Statement.updateItems, Predicate.clauseItems] using restricts
  · intro name statement deleted
    rw [Statement.delete_eq] at deleted
    obtain ⟨table, named, rfl⟩ := exists_of_map deleted
    refine ⟨table, named, ?_⟩
    have restricts := Sql.restricts_ofItems wf (by decide) (Sql.stops_nil " WHERE ")
      (Statement.deleteItems table [])
    simpa [Statement.deleteItems, Predicate.clauseItems] using restricts

/-- A comparison beside an alternative. -/
def mixedFilters : List Predicate :=
  [.compare (.column ⟨[.plain "a"]⟩) .eq (.int 1),
    .any [.compare (.column ⟨[.plain "b"]⟩) .eq (.int 2),
      .compare (.column ⟨[.plain "c"]⟩) .eq (.int 3)]]

/-- The clauses that the filters are compiled from. -/
def mixedClauses : List Query.Clause :=
  [.filter (.compare "a" .eq (.int 1)),
    .filter (.or [.compare "b" .eq (.int 2), .compare "c" .eq (.int 3)])]

theorem compile_mixedClauses :
    Query.compileClauses mixedClauses = .ok (Compiled.filtered mixedFilters) := by cbv

theorem independent_mixedFilters : Predicate.Independent mixedFilters := by
  refine ⟨by simp [mixedFilters]; decide, ?_⟩
  simp [mixedFilters, Predicate.comparisons, Predicate.leaves, Predicate.leavesAll,
    Predicate.Leaf.comparison, ColumnExpr.toSql, Term.toSql, Ident.toSql, Ident.joinParts,
    Ident.Part.toChars]

theorem not_plain_mixedFilters : ¬Predicate.Plain mixedFilters := by
  simp [Predicate.Plain, mixedFilters, Predicate.isAlternative]

/-- The text is `a = $1 AND (b = $2) OR (c = $3)`, which `c = 3` alone satisfies. -/
theorem mixed_clause_leaks : ∃ truth : Comparison → Bool,
    Sql.readClause .dollar truth
        ((Compiled.filtered mixedFilters).sourceItems
          ((Compiled.filtered mixedFilters).selectOpening ⟨[.plain "t"]⟩))
        " WHERE " ((Compiled.filtered mixedFilters).selectSql ⟨[.plain "t"]⟩) = some true ∧
      Predicate.evalAll (Predicate.Leaf.read truth) mixedFilters = false :=
  have wf := (Predicate.wellFormed_of_compile compile_mixedClauses).1
  ((clauses_restrict compile_mixedClauses wf).1 ⟨[.plain "t"]⟩).1.filters.leaks
    independent_mixedFilters not_plain_mixedFilters .dollar

/-- Not every clause denotes the conjunction of its filters. -/
theorem clause_not_conjunction : ¬∀ clauses q, Query.compileClauses clauses = .ok q →
    ∀ table : Ident, Sql.Conjoins (q.selectSql table)
      (q.sourceItems (q.selectOpening table)) " WHERE " q.filters := by
  intro conjoins
  have conjoined := conjoins _ _ compile_mixedClauses ⟨[.plain "t"]⟩
  obtain ⟨wf, wfHaving⟩ := Predicate.wellFormed_of_compile compile_mixedClauses
  obtain ⟨truth, lets, excludes⟩ := (Compiled.restricts_selectSql wf wfHaving _).filters.leaks
    independent_mixedFilters not_plain_mixedFilters .dollar
  have read := (conjoined .dollar truth).symm.trans lets
  exact Bool.false_ne_true (excludes.symm.trans (Option.some.inj read))

end EntityStore
