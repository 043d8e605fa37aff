import EntityStore.Proofs.Entity
import EntityStore.Proofs.Memory.Select
import EntityStore.Proofs.Memory.Step
import EntityStore.Proofs.Record
import EntityStore.Proofs.Repository.Query
import EntityStore.Proofs.Session
import EntityStore.Proofs.Sql.Name
import EntityStore.Proofs.Value
import EntityStore.Repository.Read
import EntityStore.Sample.Schema

/-!
# Loading relations

A relation is loaded for all entities by one selection, whose rows are shared out by key. Each
entity gets what a selection of its own would have given it: keys that are left out of the one
selection are null or equal to one that is in it, and equal keys find the same rows.
-/

namespace EntityStore

/-! ## One entity alone -/

namespace Repository

variable {σ α : Type} [Store σ] [Entity α]

/-- Loads one relation for one entity, by a selection of the rows with its key. -/
def loadAlone (scope : Scope) (r : Relation) (e : α) : Action σ α := do
  let rows ←
    if (relationKey r e).isNull then pure []
    else do
      let column ← Attempt.ofExcept (Query.ident r.relatedColumn)
      Action.ask scope
        (.select r.table (.filtered [.compare (.column column) .eq (relationKey r e)]))
  .ofExcept (Entity.attach r.name rows e)

/-- Loads relations by name for one entity. -/
def loadAllAlone (scope : Scope) : List String → α → Action σ α
  | [], e => pure e
  | name :: names, e => do
    let r ← Attempt.ofExcept (findRelation α name)
    loadAllAlone scope names (← loadAlone scope r e)

/-- All names are of relations that the entity declares. -/
def Declared (α : Type) [Entity α] (names : List String) : Prop :=
  ∀ name ∈ names, ∃ r, findRelation α name = .ok r

/-- The relations that the names are of match a column with a plain name. -/
def PlainlyNamed (α : Type) [Entity α] (names : List String) : Prop :=
  ∀ name ∈ names, ∀ r, findRelation α name = .ok r → (Ident.Part.plain r.relatedColumn).WellFormed

/-! ## Keys -/

section

variable {keys : List Value} {key : Value}

/-- The keys that are looked for are some of the keys, and every other one is null or equal to
one of them. -/
structure Wanted (keys wanted : List Value) : Prop where
  sub : ∀ w ∈ wanted, w ∈ keys ∧ w.isNull = false
  covered : ∀ key ∈ keys, key.isNull = false → key ∈ wanted ∨ ∃ w ∈ wanted, (w == key) = true

theorem wanted_append {wanted : List Value} (h : Wanted keys wanted) (key : Value) :
    Wanted (keys ++ [key])
      (if key.isNull || wanted.any (· == key) then wanted else wanted ++ [key]) := by
  have early : ∀ w ∈ wanted, w ∈ keys ++ [key] ∧ w.isNull = false := by
    intro w member
    exact ⟨List.mem_append_left [key] (h.sub w member).1, (h.sub w member).2⟩
  by_cases skipped : (key.isNull || wanted.any (· == key)) = true
  · rw [if_pos skipped]
    refine ⟨early, ?_⟩
    intro other member present
    rcases List.mem_append.mp member with before | last
    · exact h.covered other before present
    · rw [List.mem_singleton.mp last] at present ⊢
      rw [present, Bool.false_or, List.any_eq_true] at skipped
      exact .inr skipped
  · rw [if_neg skipped]
    rw [Bool.not_eq_true, Bool.or_eq_false_iff] at skipped
    refine ⟨?_, ?_⟩
    · intro w member
      rcases List.mem_append.mp member with before | last
      · exact early w before
      · rw [List.mem_singleton.mp last]
        exact ⟨List.mem_append_right keys (List.mem_singleton_self key), skipped.1⟩
    · intro other member present
      rcases List.mem_append.mp member with before | last
      · rcases h.covered other before present with inWanted | ⟨w, inWanted, same⟩
        · exact .inl (List.mem_append_left [key] inWanted)
        · exact .inr ⟨w, List.mem_append_left [key] inWanted, same⟩
      · exact .inl (List.mem_append_right wanted last)

theorem wanted_wantedKeys (keys : List Value) : Wanted keys (wantedKeys keys) := by
  have run (later earlier wanted : List Value) (h : Wanted earlier wanted) :
      Wanted (earlier ++ later) (later.foldl (fun wanted key =>
        if key.isNull || wanted.any (· == key) then wanted else wanted ++ [key]) wanted) := by
    induction later generalizing earlier wanted with
    | nil => rwa [List.append_nil]
    | cons key later ih =>
      have rest := ih (earlier ++ [key]) _ (wanted_append h key)
      rwa [List.append_assoc] at rest
  exact run keys [] [] ⟨nofun, nofun⟩

/-- A row that has the key is found among those that have any wanted key. -/
theorem isAmong_wantedKeys {v : Value} (member : key ∈ keys)
    (same : v.compare? key = some .eq) : Memory.isAmong v (wantedKeys keys) = true := by
  have present := (Value.isNull_of_compare? same).2
  rw [Memory.isAmong, List.any_eq_true]
  rcases (wanted_wantedKeys keys).covered key member present with inWanted | ⟨w, inWanted, equal⟩
  · exact ⟨key, inWanted, beq_iff_eq.mpr same⟩
  · exact ⟨w, inWanted, beq_iff_eq.mpr ((Value.compare?_eq_congr equal v).mpr same)⟩

theorem isNull_of_wantedKeys (none : wantedKeys keys = []) : ∀ key ∈ keys, key.isNull = true := by
  intro key member
  by_contra present
  rcases (wanted_wantedKeys keys).covered key member (Bool.eq_false_iff.mpr present) with
    inWanted | ⟨w, inWanted, -⟩
  · rw [none] at inWanted
    cases inWanted
  · rw [none] at inWanted
    cases inWanted

end

/-! ## Matching rows -/

section

variable {column : String} {key : Value} {rows : List Record}

theorem matches_eq (column : String) (key : Value) (row : Record) :
    decide (((row.get? column).bind (·.compare? key)) = some .eq) =
      Memory.compares (row.getD column) .eq key := by
  rw [Record.getD]
  cases row.get? column with
  | none => cases key <;> rfl
  | some v => exact (Bool.beq_eq_decide_eq ..).symm

theorem matchingRows_eq (column : String) (key : Value) (rows : List Record) :
    matchingRows column key rows =
      rows.filter fun row => Memory.compares (row.getD column) .eq key :=
  List.filter_congr fun row _ => matches_eq column key row

theorem matchingRows_null (null : key.isNull = true) : matchingRows column key rows = [] := by
  rw [matchingRows_eq, List.filter_eq_nil_iff]
  intro row _ same
  have present := (Value.isNull_of_compare? (eq_of_beq same)).2
  rw [null] at present
  cases present

/-- The rows that have a key are the same among those that have any wanted key, also where the
wanted keys are looked for under another name, provided that the rows hold the same there. -/
theorem matchingRows_among {keys : List Value} {name : String} (member : key ∈ keys)
    (same : ∀ row ∈ rows, row.get? column = none ∨ row.get? column = row.get? name) :
    matchingRows column key
        (rows.filter fun row => Memory.compares (row.getD name) .isIn (.list (wantedKeys keys))) =
      matchingRows column key rows := by
  rw [matchingRows_eq, matchingRows_eq, List.filter_filter]
  refine List.filter_congr ?_
  intro row inRows
  cases hit : Memory.compares (row.getD column) .eq key with
  | false => rfl
  | true =>
    have equal : (row.getD column).compare? key = some .eq := eq_of_beq hit
    have present := (Value.isNull_of_compare? equal).1
    have there : row.getD name = row.getD column := by
      rcases same row inRows with lacks | same
      · rw [Record.getD, lacks] at present
        cases present
      · rw [Record.getD, Record.getD, same]
    have among := isAmong_wantedKeys member equal
    rw [there]
    change (true && (!(row.getD column).isNull && Memory.isAmong _ (wantedKeys keys))) = true
    rw [present, among]
    rfl

end

end Repository

/-! ## Selections in memory -/

namespace Memory.Store

/-- The rows of a table, if all of them carry the column. -/
def carrying (s : Store) (scope : Scope) (table column : String) :
    Except StoreError (List Record) := do
  (← s.tablesOf scope).carrying table column

/-- A selection by one comparison reads the rows that carry the column. -/
theorem perform_select_compare (s : Store) (scope : Scope) (table : String) (i : Ident)
    (op : Operator) (v : Value) :
    s.perform scope (.select table (.filtered [.compare (.column i) op v])) =
      ((s.carrying scope table i.name).map
        fun rows => rows.filter fun row => compares (row.getD i.name) op v, s) := by
  rw [perform_select, carrying]
  cases s.tablesOf scope with
  | error e => rfl
  | ok ts => exact congrArg (·, s) (ts.select_compare table)

end Memory.Store

namespace Repository

section

variable {α : Type} [Entity α] {r : Relation} (scope : Scope) (session : Session Memory.Store)

theorem run_select_compare (scope : Scope) (table : String) (i : Ident) (op : Operator) (v : Value)
    (session : Session Memory.Store) :
    ∃ session', (Action.ask scope (.select table
        (.filtered [.compare (.column i) op v]))).run.run session =
      (((session.store.carrying scope table i.name).map
        fun rows => rows.filter fun row => Memory.compares (row.getD i.name) op v).mapError
          StoreError.classify, session') ∧ session'.store = session.store := by
  have performed := session.store.perform_select_compare scope table i op v
  rw [run_ask]
  exact ⟨_, Prod.ext (congrArg (fun p => p.1.mapError StoreError.classify) performed) rfl,
    congrArg (·.2) performed⟩

/-- The rows of the related table that have a key: those that a selection by it answers, and none
for a null key. -/
def ownRows (s : Memory.Store) (scope : Scope) (r : Relation) (key : Value) :
    Except Error (List Record) :=
  if key.isNull then .ok []
  else ((s.carrying scope r.table r.relatedColumn).map fun rows =>
    rows.filter fun row =>
      Memory.compares (row.getD r.relatedColumn) .eq key).mapError StoreError.classify

/-- What an entity comes to by a selection of its own. -/
def attachOwn (s : Memory.Store) (scope : Scope) (r : Relation) (e : α) : Except Error α := do
  let rows ← ownRows s scope r (relationKey r e)
  Entity.attach r.name rows e

theorem run_loadAlone (plain : (Ident.Part.plain r.relatedColumn).WellFormed) (e : α) :
    ∃ session', (loadAlone scope r e).run.run session =
      (attachOwn session.store scope r e, session') ∧ session'.store = session.store := by
  unfold loadAlone attachOwn ownRows
  cases null : (relationKey r e).isNull with
  | true => exact ⟨session, run_ofExcept (Entity.attach r.name [] e) session, rfl⟩
  | false =>
    obtain ⟨session', asked, same⟩ :=
      run_select_compare scope r.table ⟨[.plain r.relatedColumn]⟩ .eq (relationKey r e) session
    have name : (⟨[.plain r.relatedColumn]⟩ : Ident).name = r.relatedColumn := rfl
    rw [name] at asked
    refine ⟨session', ?_, same⟩
    simp only [Query.ident_plain plain, Bool.false_eq_true, if_false]
    change (Action.ask scope _ >>= fun rows => _ : Action Memory.Store α).run.run session = _
    cases found : ((session.store.carrying scope r.table r.relatedColumn).map fun rows =>
        rows.filter fun row => Memory.compares (row.getD r.relatedColumn) .eq
          (relationKey r e)).mapError StoreError.classify with
    | error fault =>
      rw [found] at asked
      rw [run_bind_error asked]
      rfl
    | ok rows =>
      rw [found] at asked
      rw [run_bind_ok asked, run_ofExcept]
      rfl

/-- The rows of the related table that have any of the wanted keys, by one selection. -/
def related (s : Memory.Store) (scope : Scope) (r : Relation) (wanted : List Value) :
    Except Error (List Record) :=
  if wanted.isEmpty then .ok []
  else do
    let i ← Query.ident r.relatedColumn
    ((s.carrying scope r.table i.name).map fun rows =>
      rows.filter fun row =>
        Memory.compares (row.getD i.name) .isIn (.list wanted)).mapError StoreError.classify

theorem run_related (keys : List Value) :
    ∃ session', (relatedRows scope r keys).run.run session =
      (related session.store scope r (wantedKeys keys), session') ∧
        session'.store = session.store := by
  rw [relatedRows]
  split
  next none =>
    rw [none]
    exact ⟨session, rfl, rfl⟩
  next wanted some =>
    rw [related, if_neg (mt List.isEmpty_iff.mp some)]
    cases Query.ident r.relatedColumn with
    | error fault => exact ⟨session, rfl, rfl⟩
    | ok i => exact run_select_compare scope r.table i .isIn _ session

/-- The rows that are selected for all keys hold those of each key, in the order of the table, and
if that fails the selection by one of the keys would have failed. -/
theorem ownRows_of_related (plain : (Ident.Part.plain r.relatedColumn).WellFormed)
    (s : Memory.Store) (keys : List Value) :
    match related s scope r (wantedKeys keys) with
    | .ok rows => ∀ key ∈ keys, ownRows s scope r key = .ok (matchingRows r.relatedColumn key rows)
    | .error fault => ∃ key ∈ keys, ownRows s scope r key = .error fault := by
  have name : (⟨[.plain r.relatedColumn]⟩ : Ident).name = r.relatedColumn := rfl
  cases wanted : wantedKeys keys with
  | nil =>
    intro key member
    exact if_pos (isNull_of_wantedKeys wanted key member)
  | cons key rest =>
    obtain ⟨member, present⟩ := (wanted_wantedKeys keys).sub key (wanted ▸ List.mem_cons_self)
    rw [← wanted, related, if_neg (by simp [wanted]), Query.ident_plain plain]
    simp only [bind, Except.bind, name]
    cases found : s.carrying scope r.table r.relatedColumn with
    | error fault =>
      refine ⟨key, member, ?_⟩
      rw [ownRows, present, found]
      rfl
    | ok rows =>
      intro key member
      cases null : key.isNull with
      | true =>
        rw [ownRows, null, matchingRows_null null]
        rfl
      | false =>
        rw [ownRows, null, found, matchingRows_among member fun _ _ => .inr rfl, matchingRows_eq]
        rfl

/-- One selection for all entities does for each what a selection of its own would have done. -/
theorem run_loadRelation (plain : (Ident.Part.plain r.relatedColumn).WellFormed) (es : List α) :
    ∃ result session', (loadRelation scope r es).run.run session = (result, session') ∧
      session'.store = session.store ∧
      ∀ es', result = .ok es' ↔
        List.Forall₂ (fun e e' => attachOwn session.store scope r e = .ok e') es es' := by
  obtain ⟨session', ran, same⟩ := run_related (r := r) scope session (es.map (relationKey r))
  have each := ownRows_of_related scope plain session.store (es.map (relationKey r))
  cases result : related session.store scope r (wantedKeys (es.map (relationKey r))) with
  | error fault =>
    rw [result] at ran each
    refine ⟨.error fault, session', run_bind_error ran, same, ?_⟩
    intro es'
    obtain ⟨key, member, failed⟩ := each
    obtain ⟨e, inEs, rfl⟩ := List.mem_map.mp member
    refine iff_of_false of_error_eq_ok ?_
    intro attached
    obtain ⟨e', own⟩ := exists_of_mapM (mapM_eq_ok.mpr attached) inEs
    rw [attachOwn, failed] at own
    cases own
  | ok rows =>
    rw [result] at ran each
    refine ⟨_, session', (run_bind_ok ran).trans (run_ofExcept _ session'), same, ?_⟩
    intro es'
    rw [← mapM_eq_ok, mapM_congr]
    intro e member
    rw [attachOwn, each _ (List.mem_map_of_mem member)]
    rfl

/-- Nothing is selected if there is no entity. -/
theorem run_loadRelation_unless_empty (plain : (Ident.Part.plain r.relatedColumn).WellFormed)
    (es : List α) :
    ∃ result session', (if es.isEmpty then pure [] else loadRelation scope r es :
        Action Memory.Store (List α)).run.run session = (result, session') ∧
      session'.store = session.store ∧
      ∀ es', result = .ok es' ↔
        List.Forall₂ (fun e e' => attachOwn session.store scope r e = .ok e') es es' := by
  cases es with
  | nil =>
    refine ⟨.ok [], session, rfl, rfl, ?_⟩
    intro es'
    rw [List.forall₂_nil_left_iff, Except.ok.injEq, eq_comm]
  | cons e es => exact run_loadRelation scope session plain (e :: es)

/-! ### By name -/

/-- What an entity comes to by a selection of its own for the relation of a name. -/
def attachNamed (s : Memory.Store) (scope : Scope) (e : α) (name : String) : Except Error α := do
  attachOwn s scope (← findRelation α name) e

variable {scope session} {names : List String}

theorem run_loadAllAlone (plain : PlainlyNamed α names) (e : α) :
    ((loadAllAlone scope names e).run.run session).1 =
      names.foldlM (attachNamed session.store scope) e := by
  induction names generalizing e session with
  | nil => rfl
  | cons name names ih =>
    obtain ⟨here, plain⟩ := List.forall_mem_cons.mp plain
    rw [loadAllAlone, List.foldlM_cons, attachNamed]
    cases found : findRelation α name with
    | error fault => rfl
    | ok r =>
      obtain ⟨session', ran, same⟩ := run_loadAlone scope session
        (here r found) e
      change ((loadAlone scope r e >>= loadAllAlone scope names).run.run session).1 =
        (attachOwn session.store scope r e >>= names.foldlM (attachNamed session.store scope))
      cases own : attachOwn session.store scope r e with
      | error fault =>
        rw [own] at ran
        rw [run_bind_error ran]
        rfl
      | ok e' =>
        rw [own] at ran
        rw [run_bind_ok ran, ih plain, same]
        rfl

/-- Names are loaded for all entities as they are loaded for each. -/
theorem run_loadRelations (plain : PlainlyNamed α names) (es es' : List α) :
    ((loadRelations scope names es).run.run session).1 = .ok es' ↔
      Declared α names ∧ List.Forall₂
        (fun e e' => names.foldlM (attachNamed session.store scope) e = .ok e') es es' := by
  induction names generalizing es session with
  | nil =>
    have unchanged : (Except.ok es : Except Error (List α)) = .ok es' ↔
        List.Forall₂ (fun e e' => (Except.ok e : Except Error α) = .ok e') es es' := by
      simp only [Except.ok.injEq, List.forall₂_eq_eq_eq]
    exact unchanged.trans (and_iff_right (List.forall_mem_nil _)).symm
  | cons name names ih =>
    obtain ⟨here, plain⟩ := List.forall_mem_cons.mp plain
    simp only [foldlM_cons_eq_ok]
    rw [Declared, List.forall_mem_cons]
    cases found : findRelation α name with
    | error fault =>
      rw [loadRelations, found]
      refine iff_of_false of_error_eq_ok ?_
      rintro ⟨⟨⟨r, declared⟩, -⟩, -⟩
      cases declared
    | ok r =>
      have named (e : α) : attachNamed session.store scope e name =
          attachOwn session.store scope r e := by
        rw [attachNamed, found]
        rfl
      simp only [named]
      obtain ⟨result, session', ran, same, batch⟩ :=
        run_loadRelation_unless_empty scope session (here r found) es
      rw [loadRelations_cons names found]
      cases result with
      | error fault =>
        rw [run_bind_error ran]
        refine iff_of_false of_error_eq_ok ?_
        rintro ⟨-, each⟩
        obtain ⟨mid, first, -⟩ := exists_of_forall₂_comp each
        cases (batch mid).mpr first
      | ok mid =>
        rw [run_bind_ok ran, ih plain, same]
        constructor
        · rintro ⟨declared, rest⟩
          exact ⟨⟨⟨r, rfl⟩, declared⟩, forall₂_comp ((batch mid).mp rfl) rest⟩
        · rintro ⟨⟨-, declared⟩, each⟩
          obtain ⟨mid', first, rest⟩ := exists_of_forall₂_comp each
          cases (batch mid').mpr first
          exact ⟨declared, rest⟩

/-! ### By a set of names -/

variable {s : Memory.Store} {x y z : α} {m n : String}

theorem attachNamed_eq_ok : attachNamed s scope x n = .ok y ↔
    ∃ r rows, findRelation α n = .ok r ∧ ownRows s scope r (relationKey r x) = .ok rows ∧
      Entity.attach n rows x = .ok y := by
  constructor
  · intro attached
    obtain ⟨r, found, attached⟩ := exists_of_bind attached
    obtain ⟨rows, own, attached⟩ := exists_of_bind attached
    rw [name_of_findRelation found] at attached
    exact ⟨r, rows, found, own, attached⟩
  · rintro ⟨r, rows, found, own, attached⟩
    rw [← name_of_findRelation found] at attached
    rw [attachNamed, found, ← attached]
    change (ownRows s scope r (relationKey r x) >>= fun rows => Entity.attach r.name rows x) = _
    rw [own]
    rfl

theorem relationKey_of_attach (lawful : Entity.LawfulAttach α) {rows : List Record}
    (attached : Entity.attach n rows x = .ok y) : relationKey r y = relationKey r x := by
  rw [relationKey, relationKey, lawful.record attached]

theorem attachNamed_again (lawful : Entity.LawfulAttach α)
    (attached : attachNamed s scope x n = .ok y) : attachNamed s scope y n = .ok y := by
  obtain ⟨r, rows, found, own, attached⟩ := attachNamed_eq_ok.mp attached
  rw [← relationKey_of_attach lawful attached] at own
  exact attachNamed_eq_ok.mpr ⟨r, rows, found, own, lawful.again attached⟩

theorem attachNamed_swap (lawful : Entity.LawfulAttach α) (apart : m ≠ n)
    (first : attachNamed s scope x m = .ok y) (second : attachNamed s scope y n = .ok z) :
    ∃ mid, attachNamed s scope x n = .ok mid ∧ attachNamed s scope mid m = .ok z := by
  obtain ⟨r, rows, found, own, first⟩ := attachNamed_eq_ok.mp first
  obtain ⟨r', rows', found', own', second⟩ := attachNamed_eq_ok.mp second
  obtain ⟨mid, early, late⟩ := lawful.swap apart first second
  rw [relationKey_of_attach lawful first] at own'
  rw [← relationKey_of_attach lawful early] at own
  exact ⟨mid, attachNamed_eq_ok.mpr ⟨r', rows', found', own', early⟩,
    attachNamed_eq_ok.mpr ⟨r, rows, found, own, late⟩⟩

theorem run_loadRelations_congr (lawful : Entity.LawfulAttach α) {names names' : List String}
    (plain : PlainlyNamed α names) (same : ∀ n, n ∈ names' ↔ n ∈ names) (es es' : List α) :
    ((loadRelations scope names' es).run.run session).1 = .ok es' ↔
      ((loadRelations scope names es).run.run session).1 = .ok es' := by
  have plain' : PlainlyNamed α names' := fun n member => plain n ((same n).mp member)
  have declared : Declared α names' ↔ Declared α names :=
    forall_congr' fun n => imp_congr_left (same n)
  have attached (e e' : α) :
      names'.foldlM (attachNamed session.store scope) e = .ok e' ↔
        names.foldlM (attachNamed session.store scope) e = .ok e' :=
    foldlM_eq_ok_congr (fun _ _ _ => attachNamed_again lawful)
      (fun _ _ _ _ _ => attachNamed_swap lawful) same
  rw [run_loadRelations plain', run_loadRelations plain, declared]
  simp only [attached]

end

/-! ## All entities at once -/

/-- A name that the entity does not declare fails as soon as it is reached. -/
theorem run_loadRelations_unknown {σ α : Type} [Store σ] [Entity α] {scope : Scope} {name : String}
    (undeclared : ∀ r, findRelation α name ≠ .ok r) {before : List String} (after : List String)
    {es es' : List α} {session : Session σ}
    (loaded : ((loadRelations scope before es).run.run session).1 = .ok es') :
    ((loadRelations scope (before ++ name :: after) es).run.run session).1 =
      .error (Relation.unknown name) := by
  induction before generalizing es session with
  | nil =>
    have unknown : findRelation α name = .error (Relation.unknown name) := by
      unfold findRelation at undeclared ⊢
      split
      next r found =>
        rw [found] at undeclared
        exact absurd rfl (undeclared r)
      next => rfl
    rw [List.nil_append, loadRelations, unknown]
    rfl
  | cons first before ih =>
    obtain ⟨r, mid, session', found, ran, -, rest⟩ :=
      exists_of_loadRelations_cons (Prod.ext loaded rfl)
    rw [List.cons_append, loadRelations_cons _ found, run_bind_ok ran]
    exact ih (congrArg Prod.fst rest)

/-- Relations are loaded for a list of entities by one selection each, and every entity comes to
what selections of its own would have brought it to: the loading succeeds if all names are
declared and all entities succeed on their own. By a selection of its own an entity is attached
the rows of the related table that have its key, in the order of the table, and none if the key is
null. Names may come in any order and more than once. A name that is not declared is refused, be
there an entity or not. -/
theorem loadRelations_as_alone {α : Type} [Entity α] (scope : Scope)
    (session : Session Memory.Store) {names : List String} (plain : PlainlyNamed α names) :
    let load (names : List String) (es : List α) : Except Error (List α) :=
      ((loadRelations scope names es).run.run session).1
    (∀ es es', load names es = .ok es' ↔ Declared α names ∧
      List.Forall₂ (fun e e' => ((loadAllAlone scope names e).run.run session).1 = .ok e')
        es es') ∧
    (∀ name ∈ names, ∀ r, findRelation α name = .ok r → ∀ e e' : α,
      ((loadAlone scope r e).run.run session).1 = .ok e' ↔
        ∃ rows, ownRows session.store scope r (relationKey r e) = .ok rows ∧
          Entity.attach name rows e = .ok e') ∧
    (Entity.LawfulAttach α → ∀ names', (∀ n, n ∈ names' ↔ n ∈ names) → ∀ es es',
      load names' es = .ok es' ↔ load names es = .ok es') ∧
    (∀ before name after, names = before ++ name :: after →
      (∀ r, findRelation α name ≠ .ok r) → ∀ es es', load before es = .ok es' →
        load names es = .error (Relation.unknown name) ∧
          (Relation.unknown name).kind = .validation) := by
  intro load
  refine ⟨?_, ?_, ?_, ?_⟩
  · intro es es'
    simp only [run_loadAllAlone plain]
    exact run_loadRelations plain es es'
  · intro name member r found e e'
    obtain ⟨session', ran, -⟩ := run_loadAlone scope session
      (plain name member r found) e
    rw [ran, ← name_of_findRelation found]
    refine ⟨exists_of_bind, ?_⟩
    rintro ⟨rows, own, attached⟩
    rw [attachOwn, own, ← attached]
    rfl
  · intro lawful names' same es es'
    exact run_loadRelations_congr lawful plain same es es'
  · rintro before name after rfl undeclared es es' loaded
    exact ⟨run_loadRelations_unknown undeclared after loaded, rfl⟩

/-! ### Authors and their posts -/

/-- Two posts of the first author, around one of the second and one of nobody. -/
def posted : Memory.Store :=
  Step.after ∅ [.ask .direct (.createTable ⟨"posts", []⟩), .ask .direct (.insert "posts"
    [.ofPairs [("id", .int 5), ("author_id", .int 1), ("title", .text "a")],
      .ofPairs [("id", .int 6), ("author_id", .int 2), ("title", .text "b")],
      .ofPairs [("id", .int 7), ("author_id", .null), ("title", .text "c")],
      .ofPairs [("id", .int 8), ("author_id", .int 1), ("title", .text "d")]] [])]

theorem plainly_posts : PlainlyNamed Sample.Author ["posts"] := by
  intro name member r found
  rw [List.mem_singleton.mp member] at found
  cases found
  exact ⟨'a', "uthor_id".toList, rfl, rfl, List.all_eq_true.mp rfl⟩

/-- The second author, asked for first, gets one post and the first two, although the relation is
named twice. -/
theorem posts_loaded_for_each :
    PlainlyNamed Sample.Author ["posts"] ∧
      ((loadRelations .direct ["posts", "posts"]
        [(.ofCells (2, "Ben", ()) : Sample.Author), .ofCells (1, "Ann", ())]).run.run
          (Session.start posted)).1 =
        .ok [⟨(2, "Ben", ()), ([(6, some 2, "b", ())], none, [], ()), ()⟩,
          ⟨(1, "Ann", ()), ([(5, some 1, "a", ()), (8, some 1, "d", ())], none, [], ()), ()⟩] := by
  obtain ⟨batch, -, names, -⟩ :=
    loadRelations_as_alone (α := Sample.Author) .direct (Session.start posted) plainly_posts
  have same (n : String) : n ∈ ["posts", "posts"] ↔ n ∈ ["posts"] := by simp
  refine ⟨plainly_posts, (names (Layout.lawfulAttach {}) _ same _ _).mpr ((batch _ _).mpr ?_)⟩
  refine ⟨fun n member => ⟨_, congrArg _ (List.mem_singleton.mp member)⟩, ?_⟩
  rw [List.forall₂_cons, List.forall₂_cons, run_loadAllAlone plainly_posts,
    run_loadAllAlone plainly_posts]
  exact ⟨rfl, rfl, .nil⟩

end Repository

end EntityStore
