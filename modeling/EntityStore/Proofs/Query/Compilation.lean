import EntityStore.Proofs.Sql.Expression
import Mathlib.Data.List.Induction

/-!
# What a query is compiled from

Clauses of one kind act on a part of the query of their own. Where two lists of clauses agree kind
by kind they make the same query, however the kinds are mixed, and compiling it comes to the same.
Which queries compile is told from the names in their clauses, and from the operators of the
conditions on groups.
-/

namespace EntityStore

/-! ## Conditions that are accepted -/

/-- A comparison somewhere in a condition. -/
structure Condition.Leaf where
  field : String
  op : Operator

mutual

def Condition.leaves : Condition → List Leaf
  | .compare field op _ => [⟨field, op⟩]
  | .and cs | .or cs => Condition.leavesAll cs

def Condition.leavesAll : List Condition → List Leaf
  | [] => []
  | c :: cs => c.leaves ++ leavesAll cs

end

theorem Condition.leavesAll_eq_flatMap (cs : List Condition) :
    leavesAll cs = cs.flatMap leaves := by
  induction cs with
  | nil => rfl
  | cons c cs ih => rw [leavesAll, ih, List.flatMap_cons]

namespace Predicate

/-- What a comparison has to be in a clause of conditions: on a column if the rows are filtered; a
comparison of order or equality, on any expression, if the groups are. -/
def Place.Accepts : Place → Condition.Leaf → Prop
  | .where, l => ∃ i, Ident.parse l.field = .ok i
  | .having, l => l.op.isComparison = true ∧ ∃ e, ColumnExpr.parse l.field = .ok e

variable {place : Place}

theorem accepts_iff {l : Condition.Leaf} :
    place.Accepts l ↔ place.allows l.op = true ∧ ∃ e, place.column l.field = .ok e := by
  cases place with
  | «where» =>
    rw [Place.Accepts, Place.column, exists_mapError_iff, exists_map_iff]
    exact (and_iff_right rfl).symm
  | having => rw [Place.Accepts, Place.column, exists_mapError_iff, Place.allows]

theorem column_empty {e : ColumnExpr} : place.column "" ≠ .ok e := by
  intro read
  cases place with
  | «where» => cases read
  | having =>
    have none : ColumnExpr.parse "" = .error .empty := by
      rw [ColumnExpr.parse, ColumnExpr.parseTrimmed]
      rfl
    rw [Place.column, none] at read
    cases read

theorem exists_lowerCompare_iff {field : String} {op : Operator} {value : Value} :
    (∃ p, lowerCompare place field op value = .ok p) ↔ place.Accepts ⟨field, op⟩ := by
  rw [accepts_iff]
  by_cases empty : field = ""
  · rw [lowerCompare, if_pos empty]
    constructor
    · rintro ⟨p, lowered⟩
      cases lowered
    · rintro ⟨-, e, read⟩
      exact absurd (empty ▸ read) column_empty
  · rw [lowerCompare, if_neg empty]
    cases allowed : place.allows op with
    | false =>
      constructor
      · rintro ⟨p, lowered⟩
        cases lowered
      · rintro ⟨accepted, -⟩
        cases accepted
    | true =>
      rw [Bool.not_true, if_neg Bool.false_ne_true, exists_map_iff]
      exact (and_iff_right rfl).symm

mutual

/-- A condition is lowered if and only if each of its comparisons is accepted. -/
theorem exists_lower_iff (place : Place) : ∀ c : Condition,
    (∃ p, lower place c = .ok p) ↔ ∀ l ∈ c.leaves, place.Accepts l
  | .compare field op value => by
    rw [Condition.leaves, List.forall_mem_singleton]
    exact exists_lowerCompare_iff
  | .and cs => by rw [Condition.leaves, lower, exists_map_iff, exists_lowerAll_iff place cs]
  | .or cs => by rw [Condition.leaves, lower, exists_map_iff, exists_lowerAll_iff place cs]

theorem exists_lowerAll_iff (place : Place) : ∀ cs : List Condition,
    (∃ ps, lowerAll place cs = .ok ps) ↔ ∀ l ∈ Condition.leavesAll cs, place.Accepts l
  | [] => iff_of_true ⟨[], rfl⟩ nofun
  | c :: cs => by
    rw [Condition.leavesAll, List.forall_mem_append, ← exists_lower_iff place c,
      ← exists_lowerAll_iff place cs, lowerAll]
    constructor
    · rintro ⟨_, lowered⟩
      obtain ⟨p, first, lowered⟩ := exists_of_bind lowered
      obtain ⟨ps, others, -⟩ := exists_of_bind lowered
      exact ⟨⟨p, first⟩, ⟨ps, others⟩⟩
    · rintro ⟨⟨p, first⟩, ⟨ps, others⟩⟩
      exact ⟨p :: ps, by rw [first, others]; rfl⟩

end

end Predicate

namespace Query

/-! ## Clauses of one kind -/

inductive Kind where
  | filter | orderBy | limit | offset | select | preload | join | groupBy | having | distinct
deriving DecidableEq

/-- What clauses of a kind carry. -/
abbrev Kind.Content : Kind → Type
  | .filter | .having => Condition
  | .orderBy => Order
  | .limit | .offset => UInt64
  | .select => List String
  | .preload | .groupBy => String
  | .join => Join
  | .distinct => Unit

/-- What a clause carries if it is of the kind. -/
def Clause.content? : (k : Kind) → Clause → Option k.Content
  | .filter, .filter c => some c
  | .orderBy, .orderBy o => some o
  | .limit, .limit n => some n
  | .offset, .offset n => some n
  | .select, .select fs => some fs
  | .preload, .preload r => some r
  | .join, .join j => some j
  | .groupBy, .groupBy f => some f
  | .having, .having c => some c
  | .distinct, .distinct => some ()
  | _, _ => none

def Clause.ofContent : (k : Kind) → k.Content → Clause
  | .filter, c => .filter c
  | .orderBy, o => .orderBy o
  | .limit, n => .limit n
  | .offset, n => .offset n
  | .select, fs => .select fs
  | .preload, r => .preload r
  | .join, j => .join j
  | .groupBy, f => .groupBy f
  | .having, c => .having c
  | .distinct, () => .distinct

/-- The clauses of a kind, in their order. -/
def contents (k : Kind) (clauses : List Clause) : List k.Content :=
  clauses.filterMap (Clause.content? k)

theorem contents_concat (k : Kind) (clauses : List Clause) (c : Clause) :
    contents k (clauses ++ [c]) = contents k clauses ++ (c.content? k).toList := by
  rw [contents, contents, List.filterMap_append, List.filterMap_cons, List.filterMap_nil]
  cases c.content? k <;> rfl

/-- A query has the clauses of each kind in its own part; of limits and offsets the last counts. -/
theorem ofClauses_eq (clauses : List Clause) : ofClauses clauses =
    { conditions := contents .filter clauses
      fields := (contents .select clauses).flatten
      orders := contents .orderBy clauses
      limit := (contents .limit clauses).getLast?
      offset := (contents .offset clauses).getLast?
      joins := contents .join clauses
      preloads := contents .preload clauses
      groups := contents .groupBy clauses
      having := contents .having clauses
      distinct := !(contents .distinct clauses).isEmpty } := by
  induction clauses using List.reverseRecOn with
  | nil => rfl
  | append_singleton clauses c ih =>
    have last : ofClauses (clauses ++ [c]) = (ofClauses clauses).apply c := List.foldl_append
    rw [last, ih]
    simp only [contents_concat]
    cases c <;> simp [apply, Clause.content?]

theorem Clause.content?_eq_some {k : Kind} {c : Clause} {x : k.Content} :
    c.content? k = some x ↔ c = .ofContent k x := by
  cases k <;> cases c <;> simp [content?, ofContent, eq_comm]

theorem mem_contents {k : Kind} {clauses : List Clause} {x : k.Content} :
    x ∈ contents k clauses ↔ .ofContent k x ∈ clauses := by
  rw [contents, List.mem_filterMap]
  constructor
  · rintro ⟨c, member, carried⟩
    rwa [Clause.content?_eq_some.mp carried] at member
  · intro member
    exact ⟨_, member, Clause.content?_eq_some.mpr rfl⟩

/-! ## Agreement and acceptance -/

/-- Two lists of clauses that may mix the kinds differently. -/
structure SameByKind (a b : List Clause) : Prop where
  appended : ∀ k, k ∉ [.limit, .offset, .distinct] → contents k a = contents k b
  limit : (contents .limit a).getLast? = (contents .limit b).getLast?
  offset : (contents .offset a).getLast? = (contents .offset b).getLast?
  distinct : .distinct ∈ a ↔ .distinct ∈ b

theorem SameByKind.ofClauses_eq {a b : List Clause} (same : SameByKind a b) :
    ofClauses a = ofClauses b := by
  have distinct : (contents .distinct a).isEmpty = (contents .distinct b).isEmpty := by
    rw [Bool.eq_iff_iff, List.isEmpty_iff, List.isEmpty_iff, List.eq_nil_iff_forall_not_mem,
      List.eq_nil_iff_forall_not_mem]
    refine forall_congr' fun _ => not_congr ?_
    rw [mem_contents, mem_contents]
    exact same.distinct
  rw [Query.ofClauses_eq, Query.ofClauses_eq b, same.limit, same.offset, distinct,
    same.appended .filter (by decide), same.appended .select (by decide),
    same.appended .orderBy (by decide), same.appended .join (by decide),
    same.appended .preload (by decide), same.appended .groupBy (by decide),
    same.appended .having (by decide)]

/-- The names in the clauses are what they are used for, and groups are compared only. -/
structure Compilable (clauses : List Clause) : Prop where
  filters : ∀ c, .filter c ∈ clauses → ∀ l ∈ c.leaves, ∃ i, Ident.parse l.field = .ok i
  fields : ∀ fs, .select fs ∈ clauses → ∀ f ∈ fs, ∃ e, ColumnExpr.parse f = .ok e
  orders : ∀ o, .orderBy o ∈ clauses → ∃ e, ColumnExpr.parse o.field = .ok e
  joins : ∀ j, .join j ∈ clauses → (∃ i, Ident.parse j.table = .ok i) ∧
    ∀ label, j.label = some label → ∃ i, Ident.parse label = .ok i
  groups : ∀ f, .groupBy f ∈ clauses → ∃ i, Ident.parse f = .ok i
  having : ∀ c, .having c ∈ clauses → ∀ l ∈ c.leaves,
    l.op.isComparison = true ∧ ∃ e, ColumnExpr.parse l.field = .ok e

theorem exists_compile_iff {q : Query} : (∃ c, q.compile = .ok c) ↔
    (∃ ps, Predicate.lowerAll .where q.conditions = .ok ps) ∧
    (∃ es, q.fields.mapM checkColumn = .ok es) ∧ (∃ os, q.orders.mapM checkOrder = .ok os) ∧
    (∃ js, q.joins.mapM checkJoin = .ok js) ∧ (∃ is, q.groups.mapM checkIdent = .ok is) ∧
    ∃ ps, Predicate.lowerAll .having q.having = .ok ps := by
  constructor
  · rintro ⟨_, compiled⟩
    obtain ⟨filters, lowered, compiled⟩ := exists_of_bind compiled
    obtain ⟨projection, projected, compiled⟩ := exists_of_bind compiled
    obtain ⟨orders, ordered, compiled⟩ := exists_of_bind compiled
    obtain ⟨joins, joined, compiled⟩ := exists_of_bind compiled
    obtain ⟨groups, grouped, compiled⟩ := exists_of_bind compiled
    obtain ⟨having, restricted, -⟩ := exists_of_bind compiled
    exact ⟨⟨filters, ok_of_mapError lowered⟩, ⟨projection, projected⟩, ⟨orders, ordered⟩,
      ⟨joins, joined⟩, ⟨groups, grouped⟩, ⟨having, ok_of_mapError restricted⟩⟩
  · rintro ⟨⟨filters, lowered⟩, ⟨projection, projected⟩, ⟨orders, ordered⟩, ⟨joins, joined⟩,
      ⟨groups, grouped⟩, ⟨having, restricted⟩⟩
    exact ⟨_, by rw [compile, lowered, projected, ordered, joined, grouped, restricted]; rfl⟩

theorem exists_checkColumn_iff {s : String} :
    (∃ e, checkColumn s = .ok e) ↔ ∃ e, ColumnExpr.parse s = .ok e := exists_mapError_iff

theorem exists_checkIdent_iff {s : String} :
    (∃ i, checkIdent s = .ok i) ↔ ∃ i, Ident.parse s = .ok i := exists_mapError_iff

theorem exists_checkOrder_iff {o : Order} :
    (∃ c, checkOrder o = .ok c) ↔ ∃ e, ColumnExpr.parse o.field = .ok e :=
  exists_map_iff.trans exists_checkColumn_iff

theorem exists_checkLabel_iff {label? : Option String} : (∃ i, checkLabel label? = .ok i) ↔
    ∀ label, label? = some label → ∃ i, Ident.parse label = .ok i := by
  cases label? with
  | none => exact iff_of_true ⟨none, rfl⟩ nofun
  | some label =>
    rw [checkLabel, exists_map_iff, exists_checkIdent_iff]
    exact ⟨fun read _ same => Option.some.inj same ▸ read, fun all => all label rfl⟩

theorem exists_checkJoin_iff {j : Join} : (∃ c, checkJoin j = .ok c) ↔
    (∃ i, Ident.parse j.table = .ok i) ∧
      ∀ label, j.label = some label → ∃ i, Ident.parse label = .ok i := by
  rw [← exists_checkIdent_iff, ← exists_checkLabel_iff]
  constructor
  · rintro ⟨_, checked⟩
    obtain ⟨table, named, checked⟩ := exists_of_bind checked
    obtain ⟨label, labelled, -⟩ := exists_of_bind checked
    exact ⟨⟨table, named⟩, ⟨label, labelled⟩⟩
  · rintro ⟨⟨table, named⟩, ⟨label, labelled⟩⟩
    exact ⟨_, by rw [checkJoin, named, labelled]; rfl⟩

theorem exists_lowered_iff {place : Predicate.Place} {cs : List Condition} :
    (∃ ps, Predicate.lowerAll place cs = .ok ps) ↔ ∀ c ∈ cs, ∀ l ∈ c.leaves, place.Accepts l := by
  rw [Predicate.exists_lowerAll_iff, Condition.leavesAll_eq_flatMap, List.forall_mem_flatMap]

theorem exists_compileClauses_iff (clauses : List Clause) :
    (∃ c, compileClauses clauses = .ok c) ↔ Compilable clauses := by
  rw [compileClauses, exists_compile_iff, ofClauses_eq]
  simp only [exists_lowered_iff, exists_mapM_iff, exists_checkColumn_iff, exists_checkOrder_iff,
    exists_checkJoin_iff, exists_checkIdent_iff, List.forall_mem_flatten]
  constructor
  · rintro ⟨filters, fields, orders, joins, groups, having⟩
    exact ⟨fun c member => filters c (mem_contents.mpr member),
      fun fs member => fields fs (mem_contents.mpr member),
      fun o member => orders o (mem_contents.mpr member),
      fun j member => joins j (mem_contents.mpr member),
      fun f member => groups f (mem_contents.mpr member),
      fun c member => having c (mem_contents.mpr member)⟩
  · rintro ⟨filters, fields, orders, joins, groups, having⟩
    exact ⟨fun c member => filters c (mem_contents.mp member),
      fun fs member => fields fs (mem_contents.mp member),
      fun o member => orders o (mem_contents.mp member),
      fun j member => joins j (mem_contents.mp member),
      fun f member => groups f (mem_contents.mp member),
      fun c member => having c (mem_contents.mp member)⟩

/-- Clauses that agree kind by kind come to the same compiled query or to the same fault. They
compile exactly if the fields of filters, the tables and labels of joins and the groups are
identifiers, the fields that are selected, ordered by or compared for groups are column
expressions, and groups are restricted by comparisons only. -/
theorem compiled_kind_by_kind :
    (∀ a b : List Clause, SameByKind a b → compileClauses a = compileClauses b) ∧
    ∀ clauses : List Clause, (∃ c, compileClauses clauses = .ok c) ↔ Compilable clauses := by
  refine ⟨fun a b same => ?_, exists_compileClauses_iff⟩
  rw [compileClauses, same.ofClauses_eq, compileClauses]

/-- Names of adults by age, for the red team, asked for in two ways. A pattern for groups is refused,
however deep it stands. -/
theorem mixed_clauses_compile :
    let adults : Condition := .or [.compare "age" .ge (.int 18), .and []]
    let reds : Condition := .compare "team" .eq (.text "red")
    let a : List Clause :=
      [.limit 5, .orderBy ⟨"age", .desc⟩, .filter adults, .select ["name"], .limit 2, .distinct,
        .groupBy "team", .having reds]
    let b : List Clause :=
      [.distinct, .having reds, .select ["name"], .distinct, .groupBy "team", .filter adults,
        .orderBy ⟨"age", .desc⟩, .limit 2]
    let pattern : Condition := .and [.or [.compare "name" .like (.text "A%")]]
    (SameByKind a b ∧ compileClauses a = compileClauses b) ∧
      (Compilable a ∧ ∃ c, compileClauses a = .ok c) ∧
      ∀ c, compileClauses [.having pattern] ≠ .ok c := by
  intro adults reds a b pattern
  have age : Ident.parse "age" = .ok ⟨[.plain "age"]⟩ := by cbv
  have name : Ident.parse "name" = .ok ⟨[.plain "name"]⟩ := by cbv
  have team : Ident.parse "team" = .ok ⟨[.plain "team"]⟩ := by cbv
  have column {s : String} {i : Ident} (read : Ident.parse s = .ok i) (bare : '(' ∉ s.toList) :
      ∃ e, ColumnExpr.parse s = .ok e :=
    ⟨.column i, (ColumnExpr.parse_of_ident read).trans (if_neg bare)⟩
  have same : SameByKind a b :=
    { appended := by
        intro k other
        cases k with
        | limit | offset | distinct => exact absurd (by decide) other
        | _ => rfl
      limit := rfl
      offset := rfl
      distinct := by simp [a, b] }
  have accepted : Compilable a :=
    { filters := by
        intro c member l leaf
        have whole : c = adults := by simpa [a] using member
        subst whole
        have named : l = ⟨"age", .ge⟩ := by
          simpa [adults, Condition.leaves, Condition.leavesAll] using leaf
        subst named
        exact ⟨_, age⟩
      fields := by
        intro fs member f field
        have whole : fs = ["name"] := by simpa [a] using member
        subst whole
        cases List.mem_singleton.mp field
        exact column name (by decide)
      orders := by
        intro o member
        have whole : o = ⟨"age", .desc⟩ := by simpa [a] using member
        subst whole
        exact column age (by decide)
      joins := by simp [a]
      groups := by
        intro f member
        have whole : f = "team" := by simpa [a] using member
        subst whole
        exact ⟨_, team⟩
      having := by
        intro c member l leaf
        have whole : c = reds := by simpa [a] using member
        subst whole
        have named : l = ⟨"team", .eq⟩ := by simpa [reds, Condition.leaves] using leaf
        subst named
        exact ⟨rfl, column team (by decide)⟩ }
  refine ⟨⟨same, compiled_kind_by_kind.1 a b same⟩,
    ⟨accepted, (compiled_kind_by_kind.2 a).mpr accepted⟩, fun c compiled => ?_⟩
  have acceptable : Compilable [.having pattern] := (compiled_kind_by_kind.2 _).mp ⟨c, compiled⟩
  have refused := acceptable.having pattern List.mem_cons_self ⟨"name", .like⟩
    (by simp [pattern, Condition.leaves, Condition.leavesAll])
  exact absurd refused.1 Bool.false_ne_true

end Query

end EntityStore
