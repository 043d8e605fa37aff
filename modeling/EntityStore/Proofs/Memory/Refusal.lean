import EntityStore.Proofs.Memory.Isolation

/-!
# Refused steps

A request or a control that fails leaves the store as it was, but for the count of inserts,
which counts attempts. So the steps of a run that were refused can be left out of it: the others
are answered as before, and the run ends with the same tables and the same transactions.
-/

namespace EntityStore

/-- How many inserts the request counts as. -/
def Request.inserts {α : Type} : Request α → Nat
  | .insert .. => 1
  | _ => 0

def Step.inserts : Step → Nat
  | .ask _ r => r.inserts
  | _ => 0

def Entry.isAnswered (e : Entry) : Bool := e.answer.isOk

/-- The steps of a run that are answered. -/
def Step.answered {σ : Type} [Store σ] (s : σ) (steps : List Step) : List Step :=
  ((log s steps).filter Entry.isAnswered).map Entry.step

namespace Memory.Store

variable {s s' : Store} {st : Step} {steps : List Step} {e : StoreError}

/-! ## One step -/

theorem answer_refused {α : Type} {scope : Scope} {r : Request α}
    (refused : (s.answer scope r).1 = .error e) : (s.answer scope r).2 = s := by
  cases tables : s.tablesOf scope with
  | error e' => rw [answer_of_closed tables]
  | ok ts =>
    cases answered : ts.answer r with
    | error e' => rw [answer_of_error tables answered]
    | ok found =>
      rw [answer_of_ok tables answered] at refused
      cases refused

theorem perform_refused {α : Type} {scope : Scope} {r : Request α} (structured : r.Structured)
    (refused : (s.perform scope r).1 = .error e) :
    (s.perform scope r).2 = { s with insertCalls := s.insertCalls + r.inserts } := by
  cases r with
  | insert table rows returning => exact answer_refused refused
  | rawQuery sql args | rawExec sql args => exact structured.elim
  | _ => exact answer_refused refused

theorem control_refused {id : Nat} {c : Control} (refused : (s.control id c).1 = .error e) :
    (s.control id c).2 = s := by
  unfold control at refused ⊢
  cases opened : s.openTransaction id with
  | error e' => rfl
  | ok t =>
    rw [opened] at refused
    dsimp only at refused ⊢
    cases stepped : step t c with
    | error e' => rfl
    | ok found =>
      rw [stepped] at refused
      cases refused

/-- A step that is refused changes nothing but the count of inserts. -/
theorem next_refused (structured : st.Structured) (refused : (st.reply s).result = .error e) :
    Step.next s st = { s with insertCalls := s.insertCalls + st.inserts } := by
  cases st with
  | begin options | abandon id => cases refused
  | ask scope r => exact perform_refused structured refused
  | steer id c => exact control_refused refused

/-! ## Runs -/

/-- The stores have the same tables and transactions. -/
structure Alike (s s' : Store) : Prop where
  tables : s.tables = s'.tables
  transactions : s.transactions = s'.transactions

/-- Counters and scripts do not matter for how a step is answered. -/
theorem Alike.next (h : Alike s s') (structured : st.Structured) :
    (st.reply s).result = (st.reply s').result ∧ Alike (Step.next s st) (Step.next s' st) := by
  obtain ⟨tables, transactions⟩ := h
  cases owner : st.owner? with
  | some id =>
    have moved : Alike (Step.next s st) (Step.next s' st) := by
      obtain ⟨tablesL, transactionsL⟩ := next_owned owner s
      obtain ⟨tablesR, transactionsR⟩ := next_owned owner s'
      constructor
      · rw [tablesL, tablesR, tables, transactions]
      · rw [transactionsL, transactionsR, transactions]
    refine ⟨?_, moved⟩
    obtain ⟨α, r, rfl⟩ | ⟨c, rfl⟩ | rfl := Step.cases_of_owner owner
    · change (s.perform (.tx id) r).1 = (s'.perform (.tx id) r).1
      rw [result_perform structured, result_perform structured, (answer_tx s id r).1,
        (answer_tx s' id r).1, transactions]
    · change (s.control id c).1 = (s'.control id c).1
      rw [(control_tx s id c).1, (control_tx s' id c).1, transactions]
    · rfl
  | none =>
    obtain ⟨options, rfl⟩ | ⟨α, r, rfl⟩ := Step.cases_of_no_owner owner
    · have number : s.transactions.length = s'.transactions.length := by rw [transactions]
      have begun : s.transactions ++ [Transaction.start s.tables] =
          s'.transactions ++ [Transaction.start s'.tables] := by rw [transactions, tables]
      exact ⟨congrArg Except.ok number, tables, begun⟩
    · obtain ⟨answer, changed, kept⟩ := perform_direct_congr structured tables
      exact ⟨answer, changed, (kept s).trans (transactions.trans (kept s').symm)⟩

/-- A run goes on as before when the steps that it was refused are left out. -/
theorem Alike.answered (h : Alike s s') (structured : ∀ st ∈ steps, st.Structured) :
    Step.log s' (Step.answered s steps) = (Step.log s steps).filter Entry.isAnswered ∧
      Alike (Step.after s steps) (Step.after s' (Step.answered s steps)) := by
  induction steps generalizing s s' with
  | nil => exact ⟨rfl, h⟩
  | cons st steps ih =>
    have first := structured st List.mem_cons_self
    have later : ∀ other ∈ steps, other.Structured :=
      fun other member => structured other (List.mem_cons_of_mem st member)
    obtain ⟨same, next⟩ := h.next first
    cases result : (st.reply s).result with
    | ok x =>
      have kept : Entry.isAnswered ⟨st, (st.reply s).result⟩ = true := by
        rw [Entry.isAnswered, result]
        rfl
      obtain ⟨log, after⟩ := ih next later
      rw [Step.answered, Step.log, List.filter_cons_of_pos kept, List.map_cons, Step.log, ← same]
      exact ⟨congrArg (_ :: ·) log, after⟩
    | error e =>
      have dropped : ¬Entry.isAnswered ⟨st, (st.reply s).result⟩ = true := by
        rw [Entry.isAnswered, result]
        exact Bool.false_ne_true
      -- the refused step has left the tables and the transactions as they were
      have still : Alike (Step.next s st) s' := by
        rw [next_refused first result]
        exact ⟨h.tables, h.transactions⟩
      rw [Step.answered, Step.log, List.filter_cons_of_neg dropped]
      exact ih still later

end Memory.Store

end EntityStore
