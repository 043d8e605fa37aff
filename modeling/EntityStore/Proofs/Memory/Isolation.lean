import EntityStore.Proofs.Memory.Step
import Mathlib.Data.List.Basic

/-!
# Isolation

What a transaction is answered depends on the tables that were committed when it began and on
its own steps, however other steps come in between; the committed tables change only by direct
requests and by commits; and a transaction that is rolled back might as well not have been.

A step in a transaction is a function of that transaction alone, as `Transaction.ask` and
`Transaction.steer` say. From that a run that is compared with one where other steps were taken
away, or where the transaction itself was, keeps a simple relation between the two stores.
-/

namespace EntityStore

/-- The store interprets the request; it is no raw statement. -/
def Request.Structured {α : Type} : Request α → Prop
  | .rawQuery .. | .rawExec .. => False
  | _ => True

def Step.Structured : Step → Prop
  | .ask _ r => r.Structured
  | _ => True

namespace Memory

namespace Transaction

def ask {α : Type} (t : Transaction) (r : Request α) : Except StoreError α × Transaction :=
  if t.closed then (.error .transactionClosed, t)
  else
    match t.working.answer r with
    | .error e => (.error e, t)
    | .ok (x, ts) => (.ok x, { t with working := ts })

/-- Also yields the tables that are published. -/
def steer (t : Transaction) (c : Control) : Except StoreError Unit × Transaction × Option Tables :=
  if t.closed then (.error .transactionClosed, t, none)
  else
    match Store.step t c with
    | .error e => (.error e, t, none)
    | .ok (t', published) => (.ok (), t', published)

/-- What a step in a transaction makes of it. -/
def move (st : Step) (t : Transaction) : Transaction :=
  match st with
  | .ask _ r => (t.ask r).2
  | .steer _ c => (t.steer c).2.1
  | .begin _ | .abandon _ => t

/-- The tables that a step in a transaction publishes. -/
def published? (st : Step) (t : Transaction) : Option Tables :=
  match st with
  | .steer _ c => (t.steer c).2.2
  | .ask .. | .begin _ | .abandon _ => none

variable {st : Step} (f : Nat → Nat)

theorem move_renumber : move (st.renumber f) = move st := by
  rcases st with _ | ⟨_ | _, _⟩ | _ | _ <;> rfl

theorem published?_renumber : published? (st.renumber f) = published? st := by
  rcases st with _ | ⟨_ | _, _⟩ | _ | _ <;> rfl

end Transaction

namespace Store

/-! ## Steps in a transaction -/

section

variable {s s' : Store} {id : Nat} {α : Type} {r : Request α} {c : Control} {t : Transaction}

theorem result_perform (structured : r.Structured) (s : Store) (scope : Scope) :
    (s.perform scope r).1 = (s.answer scope r).1 := by
  cases r with
  | insert table rows returning =>
    simp only [perform, answer, tablesOf_counted]
    cases s.tablesOf scope with
    | error e => rfl
    | ok ts =>
      dsimp only
      cases ts.answer (.insert table rows returning) <;> rfl
  | rawQuery sql args | rawExec sql args => exact structured.elim
  | _ => rfl

/-- The list with the transaction of a number replaced by what it comes to. -/
theorem modify_of_getElem? {ts : List Transaction} (there : ts[id]? = some t)
    (f : Transaction → Transaction) : ts.modify id f = ts.set id (f t) := by
  rw [List.modify_eq_set_getElem?, there]
  rfl

theorem modify_of_fixed {ts : List Transaction} (there : ts[id]? = some t)
    {f : Transaction → Transaction} (fixed : f t = t) : ts.modify id f = ts := by
  obtain ⟨below, rfl⟩ := List.getElem?_eq_some_iff.mp there
  rw [modify_of_getElem? there, fixed, List.set_getElem_self]

theorem modify_of_missing {ts : List Transaction} (missing : ts[id]? = none)
    (f : Transaction → Transaction) : ts.modify id f = ts := by
  rw [List.modify_eq_set_getElem?, missing]
  rfl

theorem openTransaction_missing (missing : s.transactions[id]? = none) :
    s.openTransaction id = .error .transactionClosed := by
  rw [openTransaction, missing]

theorem openTransaction_of_getElem? (there : s.transactions[id]? = some t) :
    s.openTransaction id = if t.closed then .error .transactionClosed else .ok t := by
  rw [openTransaction, there]

/-- A request in a transaction is answered by that transaction and changes nothing else. -/
theorem answer_tx (s : Store) (id : Nat) (r : Request α) :
    (s.answer (.tx id) r).1 =
        ((s.transactions[id]?).map fun t => (t.ask r).1).getD (.error .transactionClosed) ∧
      (s.answer (.tx id) r).2.tables = s.tables ∧
      (s.answer (.tx id) r).2.transactions = s.transactions.modify id fun t => (t.ask r).2 := by
  cases there : s.transactions[id]? with
  | none =>
    have closed : s.tablesOf (.tx id) = .error .transactionClosed := by
      rw [tablesOf, openTransaction_missing there]
      rfl
    rw [answer_of_closed closed, modify_of_missing there]
    exact ⟨rfl, rfl, rfl⟩
  | some t =>
    have opened := openTransaction_of_getElem? there
    by_cases closed : t.closed = true
    · rw [if_pos closed] at opened
      have refused : s.tablesOf (.tx id) = .error .transactionClosed := by
        rw [tablesOf, opened]
        rfl
      have ended : t.ask r = (.error .transactionClosed, t) := if_pos closed
      rw [answer_of_closed refused, modify_of_fixed there (congrArg Prod.snd ended),
        Option.map_some, ended]
      exact ⟨rfl, rfl, rfl⟩
    · rw [if_neg closed] at opened
      cases answered : t.working.answer r with
      | error e =>
        have same : t.ask r = (.error e, t) := by rw [Transaction.ask, if_neg closed, answered]
        rw [answer_of_error (tablesOf_tx opened) answered,
          modify_of_fixed there (congrArg Prod.snd same), Option.map_some, same]
        exact ⟨rfl, rfl, rfl⟩
      | ok found =>
        have changed : t.ask r = (.ok found.1, { t with working := found.2 }) := by
          rw [Transaction.ask, if_neg closed, answered]
        rw [answer_of_ok (tablesOf_tx opened) answered, setTables_tx opened,
          modify_of_getElem? there, Option.map_some, changed]
        exact ⟨rfl, rfl, rfl⟩

theorem control_tx (s : Store) (id : Nat) (c : Control) :
    (s.control id c).1 =
        ((s.transactions[id]?).map fun t => (t.steer c).1).getD (.error .transactionClosed) ∧
      (s.control id c).2.tables =
        ((s.transactions[id]?).bind fun t => (t.steer c).2.2).getD s.tables ∧
      (s.control id c).2.transactions = s.transactions.modify id fun t => (t.steer c).2.1 := by
  cases there : s.transactions[id]? with
  | none =>
    rw [control, openTransaction_missing there, modify_of_missing there]
    exact ⟨rfl, rfl, rfl⟩
  | some t =>
    by_cases closed : t.closed = true
    · have ended : t.steer c = (.error .transactionClosed, t, none) := if_pos closed
      rw [control, openTransaction_of_getElem? there, if_pos closed,
        modify_of_fixed there (by rw [ended]), Option.map_some, Option.bind_some, ended]
      exact ⟨rfl, rfl, rfl⟩
    · rw [control, openTransaction_of_getElem? there, if_neg closed]
      dsimp only
      cases stepped : step t c with
      | error e =>
        have same : t.steer c = (.error e, t, none) := by
          rw [Transaction.steer, if_neg closed, stepped]
        rw [modify_of_fixed there (by rw [same]), Option.map_some, Option.bind_some, same]
        exact ⟨rfl, rfl, rfl⟩
      | ok found =>
        obtain ⟨t', published⟩ := found
        have changed : t.steer c = (.ok (), t', published) := by
          rw [Transaction.steer, if_neg closed, stepped]
        rw [modify_of_getElem? there, Option.map_some, Option.bind_some, changed]
        cases published <;> exact ⟨rfl, rfl, rfl⟩

end

variable {s s' : Store} {id : Nat} {st : Step}

/-- A step in a transaction moves that transaction and publishes what it publishes. -/
theorem next_owned (owner : st.owner? = some id) (s : Store) :
    (Step.next s st).tables =
        ((s.transactions[id]?).bind (Transaction.published? st)).getD s.tables ∧
      (Step.next s st).transactions = s.transactions.modify id (Transaction.move st) := by
  obtain ⟨α, r, rfl⟩ | ⟨c, rfl⟩ | rfl := Step.cases_of_owner owner
  · obtain ⟨tables, transactions⟩ := perform_data s (.tx id) r
    obtain ⟨-, kept, moved⟩ := answer_tx s id r
    refine ⟨?_, transactions.trans moved⟩
    have silent : (s.transactions[id]?).bind (Transaction.published? (.ask (.tx id) r)) = none := by
      cases s.transactions[id]? <;> rfl
    rw [silent]
    exact tables.trans kept
  · exact (control_tx s id c).2
  · refine ⟨?_, (List.modify_id id s.transactions).symm⟩
    cases s.transactions[id]? <;> rfl

/-- The answer to a step in a transaction depends on that transaction only. -/
theorem entry_congr {f : Nat → Nat} (structured : st.Structured) (owner : st.owner? = some id)
    (same : s.transactions[id]? = s'.transactions[f id]?) :
    Entry.renumber f ⟨st, (st.reply s).result⟩ =
      ⟨st.renumber f, ((st.renumber f).reply s').result⟩ := by
  obtain ⟨α, r, rfl⟩ | ⟨c, rfl⟩ | rfl := Step.cases_of_owner owner
  · have answer : (s.perform (.tx id) r).1 = (s'.perform (.tx (f id)) r).1 := by
      rw [result_perform structured, result_perform structured, (answer_tx s id r).1,
        (answer_tx s' (f id) r).1, same]
    exact congrArg (Entry.mk (.ask (.tx (f id)) r)) answer
  · have answer : (s.control id c).1 = (s'.control (f id) c).1 := by
      rw [(control_tx s id c).1, (control_tx s' (f id) c).1, same]
    exact congrArg (Entry.mk (.steer (f id) c)) answer
  · rfl

/-! ## A transaction alone -/

/-- A store with nothing but some tables and a transaction that starts from them. -/
def alone (ts : Tables) : Store := { (∅ : Store) with tables := ts }.begin.2

/-- The steps of others leave a transaction that has begun as it is. -/
theorem getElem?_next_of_ne (begun : id < s.transactions.length) (other : st.owner? ≠ some id) :
    (Step.next s st).transactions[id]? = s.transactions[id]? := by
  have change := change_next s st
  generalize (Step.next s st).tables = tables at change
  generalize (Step.next s st).transactions = transactions at change ⊢
  cases change with
  | none | direct => rfl
  | begun => exact List.getElem?_append_left begun
  | within opened answered => exact List.getElem?_set_ne fun same => other (congrArg some same)
  | steered opened steered => exact List.getElem?_set_ne fun same => other (congrArg some same)

theorem length_le_next (s : Store) (st : Step) :
    s.transactions.length ≤ (Step.next s st).transactions.length := by
  have change := change_next s st
  generalize (Step.next s st).tables = tables at change
  generalize (Step.next s st).transactions = transactions at change ⊢
  cases change with
  | none | direct => exact Nat.le_refl _
  | begun => simp
  | within | steered => simp

/-- A transaction is answered, and becomes, in the midst of other steps what it is answered and
becomes alone. -/
theorem own_steps {steps : List Step} {s s' : Store} (structured : ∀ st ∈ steps, st.Structured)
    (begun : id < s.transactions.length) (same : s.transactions[id]? = s'.transactions[0]?) :
    Entry.restrict (· = some id) (fun _ => 0) (Step.log s steps) =
        Step.log s' (Step.restrict (· = some id) (fun _ => 0) steps) ∧
      (Step.after s steps).transactions[id]? =
        (Step.after s' (Step.restrict (· = some id) (fun _ => 0) steps)).transactions[0]? := by
  have run := Step.log_restrict (· = some id) (fun _ => 0)
    (R := fun s s' : Store => id < s.transactions.length ∧ s.transactions[id]? = s'.transactions[0]?)
    (P := fun e => e.step.Structured) ?taken ?left
    (fun e member => structured _ (Step.step_mem_of_mem_log member)) ⟨begun, same⟩
  case taken =>
    intro s s' st structured ⟨begun, same⟩ own
    have owner : st.owner? = some id := of_decide_eq_true own
    refine ⟨entry_congr structured owner same, Nat.lt_of_lt_of_le begun (length_le_next s st), ?_⟩
    rw [(next_owned owner s).2, (next_owned (Step.owner?_renumber owner _) s').2,
      List.getElem?_modify_eq, List.getElem?_modify_eq, same, Transaction.move_renumber]
  case left =>
    intro s s' st _ ⟨begun, same⟩ other
    refine ⟨Nat.lt_of_lt_of_le begun (length_le_next s st), ?_⟩
    rw [getElem?_next_of_ne begun (of_decide_eq_false other), same]
  exact ⟨run.1, run.2.2⟩

/-! ## A transaction taken away -/

/-- The numbers of the other transactions when the one of a number is taken away. -/
def closeGap (id j : Nat) : Nat := if j < id then j else j - 1

/-- The second store is the first one without the transaction of a number. -/
structure Without (id : Nat) (s s' : Store) : Prop where
  tables : s.tables = s'.tables
  others : s.transactions.eraseIdx id = s'.transactions
  begun : id < s.transactions.length

theorem getElem?_eraseIdx_closeGap {ts : List Transaction} {j : Nat} (other : j ≠ id) :
    (ts.eraseIdx id)[closeGap id j]? = ts[j]? := by
  rw [List.getElem?_eraseIdx, closeGap]
  by_cases before : j < id
  · rw [if_pos before, if_pos before]
  · have behind : id < j := by omega
    rw [if_neg before, if_neg (by omega), Nat.sub_add_cancel (by omega)]

theorem eraseIdx_modify_of_ne {ts : List Transaction} {j : Nat} (other : j ≠ id)
    (f : Transaction → Transaction) :
    (ts.modify j f).eraseIdx id = (ts.eraseIdx id).modify (closeGap id j) f := by
  cases there : ts[j]? with
  | none =>
    rw [modify_of_missing there, modify_of_missing]
    rw [getElem?_eraseIdx_closeGap other, there]
  | some t =>
    have there' : (ts.eraseIdx id)[closeGap id j]? = some t := by
      rw [getElem?_eraseIdx_closeGap other, there]
    rw [modify_of_getElem? there, modify_of_getElem? there', closeGap]
    by_cases before : j < id
    · rw [if_pos before, List.eraseIdx_set_gt before]
    · rw [if_neg before, List.eraseIdx_set_lt (by omega)]

theorem eraseIdx_modify_self (ts : List Transaction) (f : Transaction → Transaction) :
    (ts.modify id f).eraseIdx id = ts.eraseIdx id := by
  cases there : ts[id]? with
  | none => rw [modify_of_missing there]
  | some t => rw [modify_of_getElem? there, List.eraseIdx_set_eq]

/-- What a direct request is answered and makes of the tables depends on the tables only. -/
theorem perform_direct_congr {α : Type} {r : Request α} (structured : r.Structured)
    (tables : s.tables = s'.tables) :
    (s.perform .direct r).1 = (s'.perform .direct r).1 ∧
      (s.perform .direct r).2.tables = (s'.perform .direct r).2.tables ∧
      ∀ s : Store, (s.perform .direct r).2.transactions = s.transactions := by
  have alike : (s.answer .direct r).1 = (s'.answer .direct r).1 ∧
      (s.answer .direct r).2.tables = (s'.answer .direct r).2.tables := by
    cases answered : s.tables.answer r with
    | error e =>
      have answered' : s'.tables.answer r = .error e := tables ▸ answered
      rw [answer_of_error rfl answered, answer_of_error rfl answered']
      exact ⟨rfl, tables⟩
    | ok found =>
      have answered' : s'.tables.answer r = .ok found := tables ▸ answered
      rw [answer_of_ok rfl answered, answer_of_ok rfl answered']
      exact ⟨rfl, rfl⟩
  have transactions (s : Store) : (s.answer .direct r).2.transactions = s.transactions := by
    cases answered : s.tables.answer r with
    | error e => rw [answer_of_error rfl answered]
    | ok found =>
      rw [answer_of_ok rfl answered]
      rfl
  rw [result_perform structured, result_perform structured, (perform_data s .direct r).1,
    (perform_data s' .direct r).1]
  exact ⟨alike.1, alike.2, fun s => (perform_data s .direct r).2.trans (transactions s)⟩

/-- The steps of others are answered alike when a transaction is taken away. -/
theorem Without.other (h : Without id s s') (structured : st.Structured)
    (other : st.owner? ≠ some id) :
    Entry.renumber (closeGap id) ⟨st, (st.reply s).result⟩ =
        ⟨st.renumber (closeGap id), ((st.renumber (closeGap id)).reply s').result⟩ ∧
      Without id (Step.next s st) (Step.next s' (st.renumber (closeGap id))) := by
  obtain ⟨tables, others, begun⟩ := h
  cases owner : st.owner? with
  | some j =>
    have apart : j ≠ id := fun same => other (owner.trans (congrArg some same))
    have same : s.transactions[j]? = s'.transactions[closeGap id j]? := by
      rw [← others, getElem?_eraseIdx_closeGap apart]
    obtain ⟨tablesL, transactionsL⟩ := next_owned owner s
    obtain ⟨tablesR, transactionsR⟩ := next_owned (Step.owner?_renumber owner (closeGap id)) s'
    refine ⟨entry_congr structured owner same, ?_, ?_, ?_⟩
    · rw [tablesL, tablesR, Transaction.published?_renumber, same, tables]
    · rw [transactionsL, transactionsR, Transaction.move_renumber, eraseIdx_modify_of_ne apart,
        others]
    · exact Nat.lt_of_lt_of_le begun (length_le_next s st)
  | none =>
    obtain ⟨options, rfl⟩ | ⟨α, r, rfl⟩ := Step.cases_of_no_owner owner
    · have number : closeGap id s.transactions.length = s'.transactions.length := by
        rw [← others, List.length_eraseIdx_of_lt begun, closeGap,
          if_neg (Nat.not_lt_of_lt begun)]
      refine ⟨?_, tables, ?_, Nat.lt_of_lt_of_le begun (length_le_next s _)⟩
      · exact congrArg (fun n => (⟨.begin options, .ok n⟩ : Entry)) number
      · change (s.transactions ++ [Transaction.start s.tables]).eraseIdx id =
          s'.transactions ++ [Transaction.start s'.tables]
        rw [List.eraseIdx_append_of_lt_length begun, others, tables]
    · obtain ⟨answer, changed, kept⟩ := perform_direct_congr structured tables
      refine ⟨congrArg (Entry.mk (.ask .direct r)) answer, changed, ?_, ?_⟩
      · exact (congrArg (List.eraseIdx · id) (kept s)).trans (others.trans (kept s').symm)
      · exact Nat.lt_of_lt_of_le begun (length_le_next s _)

/-- A step of the transaction that publishes nothing is not seen without it. -/
theorem Without.own (h : Without id s s') (owner : st.owner? = some id)
    (silent : (Step.next s st).tables = s.tables) : Without id (Step.next s st) s' := by
  refine ⟨silent.trans h.tables, ?_, Nat.lt_of_lt_of_le h.begun (length_le_next s st)⟩
  rw [(next_owned owner s).2, eraseIdx_modify_self, h.others]

/-! ## The end of a transaction -/

/-- The transaction of a number was committed or rolled back. -/
def Ended (id : Nat) (s : Store) : Prop := ∃ t, s.transactions[id]? = some t ∧ t.closed = true

theorem steer_of_closed {t : Transaction} (closed : t.closed = true) (c : Control) :
    t.steer c = (.error .transactionClosed, t, none) := if_pos closed

theorem move_of_closed {t : Transaction} (closed : t.closed = true) (st : Step) :
    Transaction.move st t = t := by
  cases st with
  | begin options | abandon id => rfl
  | ask scope r => exact congrArg Prod.snd (if_pos closed : t.ask r = (.error .transactionClosed, t))
  | steer id c =>
    rw [Transaction.move, steer_of_closed closed]

theorem Ended.next (h : Ended id s) (st : Step) : Ended id (Step.next s st) := by
  obtain ⟨t, there, closed⟩ := h
  refine ⟨t, ?_, closed⟩
  by_cases owner : st.owner? = some id
  · rw [(next_owned owner s).2, List.getElem?_modify_eq, there]
    exact congrArg some (move_of_closed closed st)
  · obtain ⟨begun, -⟩ := List.getElem?_eq_some_iff.mp there
    rw [getElem?_next_of_ne begun owner, there]

/-- Nothing succeeds in a transaction that has ended. -/
theorem Ended.notMem_log (h : Ended id s) (c : Control) (steps : List Step) :
    (⟨.steer id c, .ok ()⟩ : Entry) ∉ Step.log s steps := by
  induction steps generalizing s with
  | nil => exact List.not_mem_nil
  | cons st steps ih =>
    intro member
    rcases List.mem_cons.mp member with here | later
    · obtain ⟨t, there, closed⟩ := h
      have refused : (s.control id c).1 = .error .transactionClosed := by
        rw [(control_tx s id c).1, there, Option.map_some, steer_of_closed closed]
        rfl
      have succeeded : (s.control id c).1 = .ok () := (Step.reply_of_entry here).2
      rw [refused] at succeeded
      cases succeeded
    · exact ih (h.next st) later

/-- A commit or a rollback that succeeds ends the transaction. -/
theorem ended_of_success {c : Control} (ends : c = .commit ∨ c = .rollback)
    (succeeded : (s.control id c).1 = .ok ()) : Ended id (Step.next s (.steer id c)) := by
  have changed : (Step.next s (.steer id c)).transactions = _ := (control_tx s id c).2.2
  rw [(control_tx s id c).1] at succeeded
  cases there : s.transactions[id]? with
  | none =>
    rw [there] at succeeded
    cases succeeded
  | some t =>
    refine ⟨(t.steer c).2.1, ?_, ?_⟩
    · rw [changed, List.getElem?_modify_eq, there]
      rfl
    · rw [there] at succeeded
      by_cases closed : t.closed = true
      · rw [Option.map_some, steer_of_closed closed] at succeeded
        cases succeeded
      · rw [Transaction.steer, if_neg closed]
        rcases ends with rfl | rfl <;> rfl

/-- A transaction that is rolled back is never committed. -/
theorem commit_notMem_log {steps : List Step}
    (rolledBack : (⟨.steer id .rollback, .ok ()⟩ : Entry) ∈ Step.log s steps) :
    (⟨.steer id .commit, .ok ()⟩ : Entry) ∉ Step.log s steps := by
  induction steps generalizing s with
  | nil => exact List.not_mem_nil
  | cons st steps ih =>
    intro committed
    rcases List.mem_cons.mp committed with here | later
    · obtain ⟨rfl, succeeded⟩ := Step.reply_of_entry here
      rcases List.mem_cons.mp rolledBack with same | back
      · cases congrArg Entry.step same
      · exact (ended_of_success (.inl rfl) succeeded).notMem_log _ _ back
    · rcases List.mem_cons.mp rolledBack with here | back
      · obtain ⟨rfl, succeeded⟩ := Step.reply_of_entry here
        exact (ended_of_success (.inr rfl) succeeded).notMem_log _ _ later
      · exact ih back later

/-- Only a commit that succeeds publishes anything, and that is what the transaction works on. -/
theorem published_steer {t : Transaction} {c : Control} {ts : Tables}
    (published : (t.steer c).2.2 = some ts) :
    c = .commit ∧ (t.steer c).1 = .ok () ∧ ts = t.working := by
  by_cases closed : t.closed = true
  · rw [steer_of_closed closed] at published
    cases published
  · rw [Transaction.steer, if_neg closed] at published ⊢
    cases c with
    | commit =>
      cases published
      exact ⟨rfl, rfl, rfl⟩
    | rollback | savepoint name => cases published
    | rollbackTo name | release name =>
      cases stepped : step t _ with
      | error e =>
        rw [stepped] at published
        cases published
      | ok found =>
        obtain ⟨u, -, same⟩ := exists_of_map stepped
        cases same
        rw [stepped] at published
        cases published

theorem tables_next_of_owned (owner : st.owner? = some id)
    (unpublished : (⟨st, (st.reply s).result⟩ : Entry) ≠ ⟨.steer id .commit, .ok ()⟩) :
    (Step.next s st).tables = s.tables := by
  rw [(next_owned owner s).1]
  cases published : (s.transactions[id]?).bind (Transaction.published? st) with
  | none => rfl
  | some ts =>
    obtain ⟨t, there, published⟩ := Option.bind_eq_some_iff.mp published
    cases st with
    | steer j c =>
      cases owner
      obtain ⟨rfl, succeeded, -⟩ := published_steer published
      have answer : (s.control id .commit).1 = .ok () := by
        rw [(control_tx s id .commit).1, there]
        exact succeeded
      exact absurd (congrArg (Entry.mk (.steer id .commit)) answer) unpublished
    | _ => cases published

/-- The committed tables change only by direct requests and by commits that succeed. -/
theorem tables_next (s : Store) (st : Step) :
    (Step.next s st).tables = s.tables ∨ (∃ (α : Type) (r : Request α), st = .ask .direct r) ∨
      ∃ id t, st = .steer id .commit ∧ s.openTransaction id = .ok t ∧
        (Step.next s st).tables = t.working := by
  have change := change_next s st
  generalize (Step.next s st).tables = tables at change ⊢
  generalize (Step.next s st).transactions = transactions at change
  cases change with
  | none | begun | within => exact .inl rfl
  | direct => exact .inr (.inl ⟨_, _, rfl⟩)
  | @steered id c t t' published opened steered =>
    cases published with
    | none => exact .inl rfl
    | some ts =>
      have open' := (openTransaction_eq_ok.mp opened).2
      have whole : (t.steer c).2.2 = some ts := by
        rw [Transaction.steer, if_neg (Bool.eq_false_iff.mp open'), steered]
      obtain ⟨rfl, -, rfl⟩ := published_steer whole
      exact .inr (.inr ⟨id, t, rfl, opened, rfl⟩)

/-- A transaction that is rolled back leaves no trace: everybody else is answered, and the
committed tables become, what they are answered and become without it. -/
theorem other_steps {steps : List Step} {s s' : Store} (structured : ∀ st ∈ steps, st.Structured)
    (without : Without id s s')
    (rolledBack : (⟨.steer id .rollback, .ok ()⟩ : Entry) ∈ Step.log s steps) :
    Entry.restrict (· ≠ some id) (closeGap id) (Step.log s steps) =
        Step.log s' (Step.restrict (· ≠ some id) (closeGap id) steps) ∧
      (Step.after s steps).tables =
        (Step.after s' (Step.restrict (· ≠ some id) (closeGap id) steps)).tables := by
  have uncommitted := commit_notMem_log rolledBack
  have run := Step.log_restrict (· ≠ some id) (closeGap id) (R := Without id)
    (P := fun e => e.step.Structured ∧ e ≠ ⟨.steer id .commit, .ok ()⟩) ?taken ?left
    (fun e member => ⟨structured _ (Step.step_mem_of_mem_log member),
      fun same => uncommitted (same ▸ member)⟩) without
  case taken =>
    intro s s' st ⟨structured, _⟩ without other
    exact without.other structured (of_decide_eq_true other)
  case left =>
    intro s s' st ⟨_, unpublished⟩ without own
    have owner : st.owner? = some id := Decidable.not_not.mp (of_decide_eq_false own)
    exact without.own owner (tables_next_of_owned owner unpublished)
  exact ⟨run.1, run.2.tables⟩

/-- The transaction that has just begun can be taken away. -/
theorem without_begin (s : Store) : Without s.begin.1 s.begin.2 s := by
  have added : s.begin.2.transactions = s.transactions ++ [.start s.tables] := rfl
  have last : s.begin.1 = s.transactions.length := rfl
  refine ⟨rfl, ?_, ?_⟩
  · rw [added, last, List.eraseIdx_append_of_length_le (Nat.le_refl _), Nat.sub_self]
    exact List.append_nil s.transactions
  · rw [added, List.length_append]
    exact Nat.lt_succ_self _

theorem getElem?_begin (s : Store) : s.begin.2.transactions[s.begin.1]? = some (.start s.tables) :=
  List.getElem?_concat_length

/-- A transaction that succeeds in its commit publishes what it works on; else the store stays
as it is. -/
theorem commit_publishes (s : Store) (id : Nat) :
    (∃ t, s.openTransaction id = .ok t ∧ (s.control id .commit).1 = .ok () ∧
        (s.control id .commit).2.tables = t.working) ∨
      ∃ e, s.openTransaction id = .error e ∧ s.control id .commit = (.error e, s) := by
  unfold control
  cases s.openTransaction id with
  | ok t => exact .inl ⟨t, rfl, rfl, rfl⟩
  | error e => exact .inr ⟨e, rfl, rfl⟩

/-- Snapshot isolation, for the transaction that begins in any state and any steps behind its
begin. It is answered, and becomes, what it is answered and becomes alone on the tables that were
committed at its begin. The committed tables change only by direct requests and by commits. A
commit that succeeds makes them those that the transaction works on, one that fails leaves the
store. If the transaction is rolled back, then everybody else is answered, and the committed
tables become, what they are without it. -/
theorem snapshot_isolation (s : Store) (steps : List Step)
    (structured : ∀ st ∈ steps, st.Structured) :
    (Entry.restrict (· = some s.begin.1) (fun _ => 0) (Step.log s.begin.2 steps) =
        Step.log (alone s.tables) (Step.restrict (· = some s.begin.1) (fun _ => 0) steps) ∧
      (Step.after s.begin.2 steps).transactions[s.begin.1]? =
        (Step.after (alone s.tables)
          (Step.restrict (· = some s.begin.1) (fun _ => 0) steps)).transactions[0]?) ∧
    (∀ (u : Store) (st : Step), (Step.next u st).tables = u.tables ∨
      (∃ (α : Type) (r : Request α), st = .ask .direct r) ∨ ∃ id, st = .steer id .commit) ∧
    (∀ (u : Store) (id : Nat),
      (∃ t, u.openTransaction id = .ok t ∧ (u.control id .commit).1 = .ok () ∧
        (u.control id .commit).2.tables = t.working) ∨
      ∃ e, u.openTransaction id = .error e ∧ u.control id .commit = (.error e, u)) ∧
    ((⟨.steer s.begin.1 .rollback, .ok ()⟩ : Entry) ∈ Step.log s.begin.2 steps →
      Entry.restrict (· ≠ some s.begin.1) (closeGap s.begin.1) (Step.log s.begin.2 steps) =
          Step.log s (Step.restrict (· ≠ some s.begin.1) (closeGap s.begin.1) steps) ∧
        (Step.after s.begin.2 steps).tables =
          (Step.after s (Step.restrict (· ≠ some s.begin.1) (closeGap s.begin.1) steps)).tables) := by
  have without := without_begin s
  refine ⟨own_steps structured without.begun ?_, ?_, commit_publishes,
    other_steps structured without⟩
  · rw [getElem?_begin]
    rfl
  · intro u st
    rcases tables_next u st with same | direct | ⟨id, t, commit, -⟩
    · exact .inl same
    · exact .inr (.inl direct)
    · exact .inr (.inr ⟨id, commit⟩)

/-- Of two transactions that create the same table one is committed; the other one is rolled
back and leaves no trace. -/
theorem two_creations_isolated :
    (Step.after (∅ : Store).begin.2
        [.ask (.tx 0) (.createTable ⟨"t", []⟩), .begin {}, .ask (.tx 1) (.createTable ⟨"t", []⟩),
          .steer 1 .commit, .steer 0 .rollback]).tables =
      (Step.after (∅ : Store)
        [.begin {}, .ask (.tx 0) (.createTable ⟨"t", []⟩), .steer 0 .commit]).tables := by
  have isolated := snapshot_isolation ∅
    [.ask (.tx 0) (.createTable ⟨"t", []⟩), .begin {}, .ask (.tx 1) (.createTable ⟨"t", []⟩),
      .steer 1 .commit, .steer 0 .rollback]
    (by simp [Step.Structured, Request.Structured])
  have rolledBack := isolated.2.2.2 (List.mem_of_getElem? (i := 4) rfl)
  exact rolledBack.2

end Store

end Memory

end EntityStore
