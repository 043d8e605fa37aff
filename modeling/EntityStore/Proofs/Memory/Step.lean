import EntityStore.Memory.Store
import EntityStore.Proofs.Outcome
import EntityStore.Proofs.Store.Step

/-!
# Steps of the store in memory

What a step does to the committed tables and to the transactions is said once, in `Change`. A
property of tables that every answered request keeps holds of all tables in every state: of the
committed ones, of the copies that transactions work on, and of those that savepoints keep.
-/

namespace EntityStore.Memory

namespace Store

/-- What a step does to the committed tables and to the transactions. -/
inductive Change (s : Store) : Step → Tables → List Transaction → Prop where
  | none {st : Step} : Change s st s.tables s.transactions
  | begun {options : TxOptions} :
      Change s (.begin options) s.tables (s.transactions ++ [.start s.tables])
  | direct {α : Type} {r : Request α} {x : α} {ts : Tables}
      (answered : s.tables.answer r = .ok (x, ts)) :
      Change s (.ask .direct r) ts s.transactions
  | within {α : Type} {r : Request α} {x : α} {ts : Tables} {id : Nat} {t : Transaction}
      (opened : s.openTransaction id = .ok t) (answered : t.working.answer r = .ok (x, ts)) :
      Change s (.ask (.tx id) r) s.tables (s.transactions.set id { t with working := ts })
  | steered {id : Nat} {c : Control} {t t' : Transaction} {published : Option Tables}
      (opened : s.openTransaction id = .ok t) (steered : step t c = .ok (t', published)) :
      Change s (.steer id c) (published.getD s.tables) (s.transactions.set id t')

theorem openTransaction_eq_ok {s : Store} {id : Nat} {t : Transaction} :
    s.openTransaction id = .ok t ↔ s.transactions[id]? = some t ∧ t.closed = false := by
  unfold openTransaction
  cases found : s.transactions[id]? with
  | none => simp
  | some u =>
    by_cases closed : u.closed = true
    · simp only [closed, if_true, reduceCtorEq, Option.some.injEq, false_iff, not_and]
      rintro rfl
      simp [closed]
    · simp only [closed, Bool.false_eq_true, if_false, Except.ok.injEq, Option.some.injEq]
      constructor
      · rintro rfl
        exact ⟨rfl, Bool.eq_false_iff.mpr closed⟩
      · exact fun h => h.1

theorem setTables_data (s : Store) (scope : Scope) (ts : Tables) (n : Nat) :
    ({ s with insertCalls := n }.setTables scope ts).tables = (s.setTables scope ts).tables ∧
      ({ s with insertCalls := n }.setTables scope ts).transactions =
        (s.setTables scope ts).transactions := by
  cases scope with
  | direct => exact ⟨rfl, rfl⟩
  | tx id =>
    simp only [setTables]
    split <;> exact ⟨rfl, rfl⟩

theorem tablesOf_counted (s : Store) (n : Nat) (scope : Scope) :
    ({ s with insertCalls := n } : Store).tablesOf scope = s.tablesOf scope := by
  cases scope <;> rfl

/-- Counters and scripts do not matter for the tables. -/
theorem perform_data {α : Type} (s : Store) (scope : Scope) (r : Request α) :
    (s.perform scope r).2.tables = (s.answer scope r).2.tables ∧
      (s.perform scope r).2.transactions = (s.answer scope r).2.transactions := by
  cases r with
  | insert table rows returning =>
    simp only [perform, answer, tablesOf_counted]
    cases s.tablesOf scope with
    | error e => exact ⟨rfl, rfl⟩
    | ok ts =>
      dsimp only
      cases ts.answer (.insert table rows returning) with
      | error e => exact ⟨rfl, rfl⟩
      | ok found => exact setTables_data s scope found.2 _
  | rawQuery sql args | rawExec sql args =>
    simp only [perform, answer]
    cases s.tablesOf scope <;> exact ⟨rfl, rfl⟩
  | _ => exact ⟨rfl, rfl⟩

section

variable {s : Store} {scope : Scope} {ts ts' : Tables} {α : Type} {r : Request α} {x : α}
  {e : StoreError}

theorem answer_of_closed (closed : s.tablesOf scope = .error e) :
    s.answer scope r = (.error e, s) := by
  rw [answer, closed]

theorem answer_of_error (tables : s.tablesOf scope = .ok ts) (refused : ts.answer r = .error e) :
    s.answer scope r = (.error e, s) := by
  rw [answer, tables]
  dsimp only
  rw [refused]

theorem answer_of_ok (tables : s.tablesOf scope = .ok ts) (answered : ts.answer r = .ok (x, ts')) :
    s.answer scope r = (.ok x, s.setTables scope ts') := by
  rw [answer, tables]
  dsimp only
  rw [answered]

theorem tablesOf_tx {id : Nat} {t : Transaction} (opened : s.openTransaction id = .ok t) :
    s.tablesOf (.tx id) = .ok t.working := by
  rw [tablesOf, opened]
  rfl

theorem setTables_tx {id : Nat} {t : Transaction} (opened : s.openTransaction id = .ok t) :
    s.setTables (.tx id) ts = s.setTransaction id { t with working := ts } := by
  rw [setTables, (openTransaction_eq_ok.mp opened).1]

/-- The tables that were set are the tables of the scope. -/
theorem tablesOf_setTables (tables : s.tablesOf scope = .ok ts) :
    (s.setTables scope ts').tablesOf scope = .ok ts' := by
  cases scope with
  | direct => rfl
  | tx id =>
    obtain ⟨t, opened, -⟩ := exists_of_map tables
    rw [setTables_tx opened]
    obtain ⟨there, closed⟩ := openTransaction_eq_ok.mp opened
    obtain ⟨below, -⟩ := List.getElem?_eq_some_iff.mp there
    have again : (s.setTransaction id { t with working := ts' }).openTransaction id =
        .ok { t with working := ts' } :=
      openTransaction_eq_ok.mpr ⟨List.getElem?_set_self below, closed⟩
    exact tablesOf_tx again

theorem set_openTransaction {id : Nat} {t : Transaction} (opened : s.openTransaction id = .ok t) :
    s.transactions.set id t = s.transactions := by
  obtain ⟨below, rfl⟩ := List.getElem?_eq_some_iff.mp (openTransaction_eq_ok.mp opened).1
  exact List.set_getElem_self below

theorem setTables_self (tables : s.tablesOf scope = .ok ts) : s.setTables scope ts = s := by
  cases scope with
  | direct =>
    cases tables
    rfl
  | tx id =>
    obtain ⟨t, opened, rfl⟩ := exists_of_map tables
    rw [setTables_tx opened, setTransaction, set_openTransaction opened]

/-- A selection reads the tables of its scope and leaves the store. -/
theorem perform_select (s : Store) (scope : Scope) (table : String) (q : Compiled) :
    s.perform scope (.select table q) = (s.tablesOf scope >>= fun ts => ts.select table q, s) := by
  change s.answer scope (.select table q) = _
  cases tables : s.tablesOf scope with
  | error e => exact answer_of_closed tables
  | ok ts =>
    change _ = (ts.select table q, s)
    cases selected : ts.select table q with
    | error e =>
      refine answer_of_error tables ?_
      rw [Tables.answer, selected]
      rfl
    | ok rows =>
      have answered : ts.answer (.select table q) = .ok (rows, ts) := by
        rw [Tables.answer, selected]
        rfl
      rw [answer_of_ok tables answered, setTables_self tables]

/-- A request that is answered was answered by the tables of its scope. -/
theorem answer_eq_ok {s' : Store} (answered : s.answer scope r = (.ok x, s')) :
    ∃ ts ts', s.tablesOf scope = .ok ts ∧ ts.answer r = .ok (x, ts') ∧
      s' = s.setTables scope ts' := by
  cases tables : s.tablesOf scope with
  | error e =>
    rw [answer_of_closed tables] at answered
    cases answered
  | ok ts =>
    cases result : ts.answer r with
    | error e =>
      rw [answer_of_error tables result] at answered
      cases answered
    | ok found =>
      rw [answer_of_ok tables result] at answered
      cases answered
      exact ⟨ts, found.2, rfl, result, rfl⟩

end

theorem change_answer {α : Type} (s : Store) (scope : Scope) (r : Request α) :
    Change s (.ask scope r) (s.answer scope r).2.tables (s.answer scope r).2.transactions := by
  cases scope with
  | direct =>
    cases answered : s.tables.answer r with
    | error e =>
      rw [answer_of_error rfl answered]
      exact .none
    | ok found =>
      rw [answer_of_ok rfl answered]
      exact .direct answered
  | tx id =>
    cases opened : s.openTransaction id with
    | error e =>
      have closed : s.tablesOf (.tx id) = .error e := by
        rw [tablesOf, opened]
        rfl
      rw [answer_of_closed closed]
      exact .none
    | ok t =>
      cases answered : t.working.answer r with
      | error e =>
        rw [answer_of_error (tablesOf_tx opened) answered]
        exact .none
      | ok found =>
        rw [answer_of_ok (tablesOf_tx opened) answered, setTables_tx opened]
        exact .within opened answered

theorem change_control (s : Store) (id : Nat) (c : Control) :
    Change s (.steer id c) (s.control id c).2.tables (s.control id c).2.transactions := by
  unfold control
  cases opened : s.openTransaction id with
  | error e => exact .none
  | ok t =>
    dsimp only
    cases steered : step t c with
    | error e => exact .none
    | ok found =>
      obtain ⟨t', published⟩ := found
      have change := Change.steered opened steered
      cases published <;> exact change

/-- All that a step can do. -/
theorem change_next (s : Store) (st : Step) :
    Change s st (Step.next s st).tables (Step.next s st).transactions := by
  cases st with
  | begin options => exact .begun
  | ask scope r =>
    obtain ⟨tables, transactions⟩ := perform_data s scope r
    change Change s _ (s.perform scope r).2.tables (s.perform scope r).2.transactions
    rw [tables, transactions]
    exact change_answer s scope r
  | steer id c => exact change_control s id c
  | abandon id => exact .none

/-- After an answered request the tables of its scope are those that it left. -/
theorem tablesOf_next {α : Type} {s : Store} {scope : Scope} {r : Request α} {ts ts' : Tables}
    {x : α} (tables : s.tablesOf scope = .ok ts) (answered : ts.answer r = .ok (x, ts')) :
    (Step.next s (.ask scope r)).tablesOf scope = .ok ts' := by
  obtain ⟨committed, transactions⟩ := perform_data s scope r
  have same : (s.perform scope r).2.tablesOf scope = (s.answer scope r).2.tablesOf scope := by
    cases scope with
    | direct => exact congrArg Except.ok committed
    | tx id =>
      unfold tablesOf openTransaction
      rw [transactions]
  change (s.perform scope r).2.tablesOf scope = _
  rw [same, answer_of_ok tables answered]
  exact tablesOf_setTables tables

end Store

/-! ## Savepoints -/

namespace Transaction

/-- Of the savepoints of a name the newest one is found. -/
theorem find?_eq_some {name : String} {savepoints older : List (String × Tables)} {ts : Tables} :
    find? name savepoints = some (older, ts) ↔ ∃ newer,
      savepoints = older ++ (name, ts) :: newer ∧ ∀ sp ∈ newer, sp.1 ≠ name := by
  constructor
  · intro found
    unfold find? at found
    split at found
    · cases found
    · rename_i first kept rest dropped
      cases found
      have whole := List.takeWhile_append_dropWhile (p := fun sp => sp.1 ≠ name) (l := savepoints.reverse)
      have stop := List.head?_dropWhile_not (·.1 ≠ name) savepoints.reverse
      rw [dropped] at whole stop
      have named : first = name := by simpa using stop
      refine ⟨(savepoints.reverse.takeWhile (·.1 ≠ name)).reverse, ?_, ?_⟩
      · rw [named] at whole
        simpa using (congrArg List.reverse whole).symm
      · intro sp member
        simpa using List.all_eq_true.mp List.all_takeWhile sp (List.mem_reverse.mp member)
  · rintro ⟨newer, rfl, others⟩
    have dropped : (older ++ (name, ts) :: newer).reverse.dropWhile (·.1 ≠ name) =
        (name, ts) :: older.reverse := by
      rw [List.reverse_append, List.reverse_cons, List.append_assoc, List.dropWhile_append_of_pos]
      · simp
      · intro sp member
        simpa using others sp (List.mem_reverse.mp member)
    rw [find?, dropped]
    dsimp only
    rw [List.reverse_reverse]

/-- A property of the tables that a transaction works on and of those that its savepoints
keep. -/
def Holds (P : Tables → Prop) (t : Transaction) : Prop :=
  P t.working ∧ ∀ sp ∈ t.savepoints, P sp.2

theorem holds_start {P : Tables → Prop} {ts : Tables} (h : P ts) : (start ts).Holds P := by
  refine ⟨h, ?_⟩
  intro sp member
  cases member

section

variable {P : Tables → Prop} {t t' : Transaction} {name : String}

theorem Holds.save (h : t.Holds P) (name : String) : (t.save name).Holds P := by
  refine ⟨h.1, ?_⟩
  intro sp member
  rcases List.mem_append.mp member with member | member
  · exact h.2 sp member
  · rw [List.mem_singleton.mp member]
    exact h.1

theorem Holds.release (h : t.Holds P) (back : t.release name = .ok t') : t'.Holds P := by
  unfold Transaction.release at back
  split at back
  · rename_i older ts found
    cases back
    obtain ⟨newer, whole, -⟩ := find?_eq_some.mp found
    refine ⟨h.1, ?_⟩
    intro sp member
    exact h.2 sp (by simp [whole, member])
  · cases back

theorem Holds.rollbackTo (h : t.Holds P) (back : t.rollbackTo name = .ok t') : t'.Holds P := by
  unfold Transaction.rollbackTo at back
  split at back
  · rename_i older ts found
    cases back
    obtain ⟨newer, whole, -⟩ := find?_eq_some.mp found
    -- what is worked on again is what the savepoint kept, and that savepoint is set once more
    have below : Holds P { t with working := ts, savepoints := older } := by
      refine ⟨h.2 (name, ts) (by simp [whole]), ?_⟩
      intro sp member
      exact h.2 sp (by simp [whole, member])
    exact below.save name
  · cases back

theorem Holds.step {c : Control} {published : Option Tables} (h : t.Holds P) (empty : P .empty)
    (steered : Store.step t c = .ok (t', published)) :
    t'.Holds P ∧ ∀ ts ∈ published, P ts := by
  cases c with
  | commit =>
    cases steered
    refine ⟨holds_start empty, ?_⟩
    rintro ts ⟨⟩
    exact h.1
  | rollback =>
    cases steered
    exact ⟨holds_start empty, nofun⟩
  | savepoint name =>
    cases steered
    exact ⟨h.save name, nofun⟩
  | rollbackTo name =>
    obtain ⟨u, back, same⟩ := exists_of_map steered
    cases same
    exact ⟨h.rollbackTo back, nofun⟩
  | release name =>
    obtain ⟨u, back, same⟩ := exists_of_map steered
    cases same
    exact ⟨h.release back, nofun⟩

end

end Transaction

/-! ## All tables of a store -/

namespace Store

/-- A property of the committed tables and of those of all transactions. -/
def Holds (P : Tables → Prop) (s : Store) : Prop :=
  P s.tables ∧ ∀ t ∈ s.transactions, t.Holds P

variable {P : Tables → Prop} {s : Store} {id : Nat} {t : Transaction}

theorem Holds.of_open (h : s.Holds P) (opened : s.openTransaction id = .ok t) : t.Holds P :=
  h.2 t (List.mem_of_getElem? (openTransaction_eq_ok.mp opened).1)

theorem Holds.tablesOf {scope : Scope} {ts : Tables} (h : s.Holds P)
    (tables : s.tablesOf scope = .ok ts) : P ts := by
  cases scope with
  | direct =>
    cases tables
    exact h.1
  | tx id =>
    obtain ⟨t, opened, rfl⟩ := exists_of_map tables
    exact (h.of_open opened).1

theorem holds_set {ts : Tables} (h : s.Holds P) (tables : P ts) {t' : Transaction}
    (changed : t'.Holds P) : P ts ∧ ∀ u ∈ s.transactions.set id t', u.Holds P := by
  refine ⟨tables, ?_⟩
  intro u member
  rcases List.mem_or_eq_of_mem_set member with member | rfl
  · exact h.2 u member
  · exact changed

/-- A property of tables that the answer to a step keeps in the tables of its scope is kept in all
tables. -/
theorem Holds.next_of_scope (h : s.Holds P) (empty : P .empty) {st : Step}
    (keeps : ∀ {α : Type} {scope : Scope} {r : Request α} {ts ts' : Tables} {x : α},
      st = .ask scope r → s.tablesOf scope = .ok ts → P ts → ts.answer r = .ok (x, ts') → P ts') :
    (Step.next s st).Holds P := by
  obtain ⟨committed, each⟩ := h
  unfold Holds
  have change := change_next s st
  generalize (Step.next s st).tables = tables at change ⊢
  generalize (Step.next s st).transactions = transactions at change ⊢
  cases change with
  | none => exact ⟨committed, each⟩
  | begun =>
    refine ⟨committed, ?_⟩
    intro t member
    rcases List.mem_append.mp member with member | member
    · exact each t member
    · rw [List.mem_singleton.mp member]
      exact Transaction.holds_start committed
  | direct answered => exact ⟨keeps rfl rfl committed answered, each⟩
  | within opened answered =>
    obtain ⟨working, saved⟩ := Holds.of_open ⟨committed, each⟩ opened
    have kept := keeps rfl (tablesOf_tx opened) working answered
    exact holds_set ⟨committed, each⟩ committed ⟨kept, saved⟩
  | @steered id c t t' published opened steered =>
    obtain ⟨changed, out⟩ := (Holds.of_open ⟨committed, each⟩ opened).step empty steered
    apply holds_set ⟨committed, each⟩ ?_ changed
    cases published with
    | none => exact committed
    | some ts => exact out ts rfl

/-- A property of tables that the answer to a step keeps is kept in all tables. -/
theorem Holds.next (h : s.Holds P) (empty : P .empty) {st : Step}
    (keeps : ∀ {α : Type} {scope : Scope} {r : Request α} {ts ts' : Tables} {x : α},
      st = .ask scope r → P ts → ts.answer r = .ok (x, ts') → P ts') :
    (Step.next s st).Holds P :=
  h.next_of_scope empty fun same _ before answered => keeps same before answered

/-- A request that is answered keeps a property of all tables exactly if the tables that it leaves
have it. -/
theorem Holds.next_iff (h : s.Holds P) (empty : P .empty) {α : Type} {scope : Scope} {r : Request α}
    {ts ts' : Tables} {x : α} (tables : s.tablesOf scope = .ok ts)
    (answered : ts.answer r = .ok (x, ts')) : (Step.next s (.ask scope r)).Holds P ↔ P ts' := by
  constructor
  · intro after
    exact after.tablesOf (tablesOf_next tables answered)
  · intro kept
    refine h.next_of_scope empty ?_
    rintro α' scope' r' us us' y same there - also
    cases same
    rw [tables] at there
    cases there
    rw [answered] at also
    cases also
    exact kept

theorem holds_empty (empty : P .empty) : (∅ : Store).Holds P := by
  refine ⟨empty, ?_⟩
  intro t member
  cases member

end Store

end EntityStore.Memory
