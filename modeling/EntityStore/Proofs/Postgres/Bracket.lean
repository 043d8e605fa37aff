import EntityStore.Proofs.Postgres.Step
import EntityStore.Proofs.Repository.Nesting
import EntityStore.Proofs.Sql.Name

/-!
# Brackets around transactions

What is sent on the connection of a transaction. It is opened once and closed once, and between
these every nested transaction is opened by a savepoint of a name of its own and closed by one
of three ends: its release, or the return to it, behind which it is released if the server let it
return. The statements of operations are none of these. This holds of every body that makes
operations, sets savepoints and nests transactions in whatever way, and whatever the server
complains about.
-/

namespace EntityStore

/-- A savepoint that a body sets or uses itself, under a name of its own. -/
def Control.IsOwn : Control → Prop
  | .savepoint name | .rollbackTo name | .release name => ¬Reserved name
  | .commit | .rollback => False

theorem Control.IsOwn.stays {c : Control} (own : c.IsOwn) : c.ends = false := by
  cases c with
  | commit | rollback => exact own.elim
  | savepoint name | rollbackTo name | release name => rfl

namespace Postgres

variable {α ε β : Type}

/-! ## Balanced traces -/

/-- Statements of a transaction, each with what the server answered. -/
abbrev Trace := List (Sent × Answer)

/-- The answers of a trace are those that the server gives, in order. -/
def Answered : List Answer → Trace → Prop
  | _, [] => True
  | script, (_, a) :: trace => a = script.headD .plain ∧ Answered script.tail trace

theorem answered_append {script : List Answer} {trace more : Trace} :
    Answered script (trace ++ more) ↔
      Answered script trace ∧ Answered (script.drop trace.length) more := by
  induction trace generalizing script with
  | nil => simp [Answered]
  | cons m trace ih =>
    obtain ⟨m, a⟩ := m
    simp [Answered, ih, and_assoc]

/-- Statements have their answers. -/
theorem exists_answered (script : List Answer) (said : List Sent) :
    ∃ trace : Trace, trace.map (·.1) = said ∧ Answered script trace := by
  induction said generalizing script with
  | nil => exact ⟨[], rfl, trivial⟩
  | cons m said ih =>
    obtain ⟨trace, rfl, answered⟩ := ih script.tail
    exact ⟨(m, script.headD .plain) :: trace, rfl, rfl, answered⟩

def opening (options : TxOptions) : Sent := .simple options.beginSql

/-- The end of a transaction, by what its body came to. -/
def closing : Except ε β → Sent
  | .ok _ => .simple "COMMIT"
  | .error _ => .simple "ROLLBACK"

/-- The savepoint of the nested transaction of a number. -/
def saving (n : Nat) : Sent := .simple ("SAVEPOINT " ++ savepointName n)

def returning (n : Nat) : Sent := .simple ("ROLLBACK TO SAVEPOINT " ++ savepointName n)

def releasing (n : Nat) : Sent := .simple ("RELEASE SAVEPOINT " ++ savepointName n)

/-- The end of a nested transaction, by whether its body succeeded. -/
inductive Closes (n : Nat) : Bool → Trace → Prop where
  | released (a : Answer) : Closes n true [(releasing n, a)]
  | undone {a : Answer} (accepted : a.complaint = none) (b : Answer) :
      Closes n false [(returning n, a), (releasing n, b)]
  | stuck {a : Answer} (refused : a.complaint ≠ none) : Closes n false [(returning n, a)]

/-- A part of the trace of a transaction, in which nested transactions are given the numbers from
the first one on and below the second one. -/
inductive Balanced : Nat → Nat → Trace → Prop where
  | nil (n : Nat) : Balanced n n []
  | request {m : Sent} (plain : Exchange.Plain m) (a : Answer) (n : Nat) : Balanced n n [(m, a)]
  | own {c : Control} {sql : String} (own : c.IsOwn) (text : Statement.control c = .ok sql)
      (a : Answer) (n : Nat) : Balanced n n [(.simple sql, a)]
  | append {i j k : Nat} {trace more : Trace} (first : Balanced i j trace)
      (second : Balanced j k more) : Balanced i k (trace ++ more)
  | refused {a : Answer} (refused : a.complaint ≠ none) (n : Nat) :
      Balanced n (n + 1) [(saving n, a)]
  | nested {n k : Nat} {a : Answer} {body close : Trace} {ok : Bool}
      (accepted : a.complaint = none) (inner : Balanced (n + 1) k body)
      (closes : Closes n ok close) : Balanced n k ((saving n, a) :: body ++ close)

/-! ## What is said in a stretch of a run -/

/-- What was said in a transaction between two states of the store: the second one is the first
one behind these statements. -/
structure Stretch (id : Nat) (s s' : Store) (trace : Trace) : Prop where
  answered : Answered s.script trace
  behind : s' = s.speak (.tx id) (trace.map (·.1))

namespace Stretch

variable {id : Nat} {s s' s'' : Store} {trace more : Trace}

theorem refl (id : Nat) (s : Store) : Stretch id s s [] :=
  ⟨trivial, (Store.speak_nil s (.tx id)).symm⟩

theorem single (id : Nat) (s : Store) (m : Sent) :
    Stretch id s (s.speak (.tx id) [m]) [(m, s.upcoming)] :=
  ⟨⟨rfl, trivial⟩, rfl⟩

theorem trans (first : Stretch id s s' trace) (second : Stretch id s' s'' more) :
    Stretch id s s'' (trace ++ more) := by
  obtain ⟨answered, rfl⟩ := first
  obtain ⟨answeredMore, rfl⟩ := second
  refine ⟨answered_append.mpr ⟨answered, ?_⟩, ?_⟩
  · simpa [Store.speak] using answeredMore
  · rw [Store.speak_speak, List.map_append]

theorem transactions (stretch : Stretch id s s' trace) : s'.transactions = s.transactions := by
  rw [stretch.behind, Store.transactions_speak]

end Stretch

/-- Requests in a transaction say nothing that steers it. -/
theorem stretch_of_leads {id : Nat} {s s' : Store} {P : Step → Prop}
    (asks : ∀ st, P st → ∃ (γ : Type) (r : Request γ), st = .ask (.tx id) r)
    (leads : Leads P s s') :
    ∃ trace, (∀ m ∈ trace, Exchange.Plain m.1) ∧ Stretch id s s' trace := by
  refine leads.induction
    (I := fun s' => ∃ trace, (∀ m ∈ trace, Exchange.Plain m.1) ∧ Stretch id s s' trace) ?_ ?_
  · rintro u st allowed ⟨trace, plain, stretch⟩
    obtain ⟨γ, r, rfl⟩ := asks st allowed
    obtain ⟨said, each, behind⟩ := Store.exists_perform (.tx id) r u
    obtain ⟨more, rfl, answered⟩ := exists_answered u.script said
    refine ⟨trace ++ more, ?_, stretch.trans ⟨answered, behind⟩⟩
    intro m member
    rcases List.mem_append.mp member with member | member
    · exact plain m member
    · exact each m.1 (List.mem_map_of_mem member)
  · exact ⟨[], nofun, .refl id s⟩

theorem balanced_of_plain {trace : Trace} (plain : ∀ m ∈ trace, Exchange.Plain m.1) (n : Nat) :
    Balanced n n trace := by
  induction trace with
  | nil => exact .nil n
  | cons m trace ih =>
    have here : Balanced n n [m] := .request (plain m List.mem_cons_self) m.2 n
    exact here.append (ih fun other member => plain other (List.mem_cons_of_mem m member))

/-- A stretch that is balanced. -/
def BalancedStretch (id : Nat) (s s' : Store) (i k : Nat) : Prop :=
  ∃ trace, Balanced i k trace ∧ Stretch id s s' trace

namespace BalancedStretch

variable {id i j k n : Nat} {s s' s'' : Store}

theorem refl (id n : Nat) (s : Store) : BalancedStretch id s s n n := ⟨[], .nil n, .refl id s⟩

theorem trans (first : BalancedStretch id s s' i j) (second : BalancedStretch id s' s'' j k) :
    BalancedStretch id s s'' i k := by
  obtain ⟨trace, balanced, stretch⟩ := first
  obtain ⟨more, balancedMore, stretchMore⟩ := second
  exact ⟨trace ++ more, balanced.append balancedMore, stretch.trans stretchMore⟩

theorem transactions (stretch : BalancedStretch id s s' i k) : s'.transactions = s.transactions := by
  obtain ⟨trace, -, stretch⟩ := stretch
  exact stretch.transactions

/-- What requests say in a transaction is balanced. -/
theorem of_leads {P : Step → Prop}
    (asks : ∀ st, P st → ∃ (γ : Type) (r : Request γ), st = .ask (.tx id) r)
    (leads : Leads P s s') : BalancedStretch id s s' n n := by
  obtain ⟨trace, plain, stretch⟩ := stretch_of_leads asks leads
  exact ⟨trace, balanced_of_plain plain n, stretch⟩

end BalancedStretch

/-! ## Steering an open transaction -/

theorem plain_savepointName (n : Nat) : (Ident.Part.plain (savepointName n)).WellFormed := by
  refine ⟨'g', "pa_sp_".toList ++ Nat.toDigits 10 n, ?_, by decide, ?_⟩
  · rw [savepointName, String.toList_append]
    exact congrArg ("gpa_sp_".toList ++ ·) Nat.toList_repr
  · intro c member
    rcases List.mem_append.mp member with member | member
    · have all : "pa_sp_".toList.all Ident.isContinue = true := rfl
      exact List.all_eq_true.mp all c member
    · have digit := Nat.isDigit_of_mem_toDigits (by decide) (by decide) member
      simp [Ident.isContinue, Char.isAlphanum, digit]

/-- Nested transactions of different numbers have different names. -/
theorem savepointName_injective : Function.Injective savepointName := by
  intro m n same
  have spelled := congrArg String.toList same
  rw [savepointName, savepointName, String.toList_append, String.toList_append] at spelled
  have digits : m.repr.toList = n.repr.toList := List.append_cancel_left spelled
  rw [Nat.toList_repr, Nat.toList_repr] at digits
  rw [← Nat.ofDigitChars_ten_toDigits (n := m), digits, Nat.ofDigitChars_ten_toDigits]

theorem control_savepointName (n : Nat) :
    Statement.control (.savepoint (savepointName n)) = .ok ("SAVEPOINT " ++ savepointName n) ∧
      Statement.control (.rollbackTo (savepointName n)) =
        .ok ("ROLLBACK TO SAVEPOINT " ++ savepointName n) ∧
      Statement.control (.release (savepointName n)) =
        .ok ("RELEASE SAVEPOINT " ++ savepointName n) := by
  have named := Query.ident_plain (plain_savepointName n)
  have text : Ident.toSql ⟨[.plain (savepointName n)]⟩ = savepointName n := by
    simp [Ident.toSql, Ident.joinParts, Ident.Part.toChars]
  refine ⟨?_, ?_, ?_⟩ <;> rw [Statement.control, named, Except.map, text]

theorem Answer.complaint_of_error {a : Answer} {e : StoreError} (h : a.verdict = .error e) :
    a.complaint ≠ none := by
  intro none
  rw [verdict_eq_ok.mpr none] at h
  cases h

/-- The session in which a control of an open transaction leaves a session. -/
def steered (s : Session Store) (id : Nat) (c : Control) (sql : String) : Session Store :=
  { s with
    store := (s.store.release id c).speak (.tx id) [.simple sql]
    journal := s.journal ++ .asked c.verb :: (s.store.defined sql).map Event.log }

section

variable {s : Session Store} {id : Nat} {c : Control} {sql : String}

theorem run_steer_held (text : Statement.control c = .ok sql)
    (held : s.store.transactions[id]? = some .held) :
    (EntityStore.Store.steer id c).run.run s = (s.store.upcoming.verdict, steered s id c sql) := by
  rw [run_steer, Store.control_held text held]
  rfl

theorem run_steerFor_held (ofError : Error → ε) (text : Statement.control c = .ok sql)
    (held : s.store.transactions[id]? = some .held) :
    (Repository.steerFor ofError id c).run.run s =
      (s.store.upcoming.verdict.mapError fun e => ofError e.classify, steered s id c sql) := by
  rw [Repository.steerFor, run_adapt, run_steer_held text held]
  rfl

/-- A control that does not end the transaction only sends its statement. -/
theorem store_steered (stays : c.ends = false) :
    (steered s id c sql).store = s.store.speak (.tx id) [.simple sql] := by
  rw [steered, Store.release, stays]
  rfl

end

/-! ## Nested transactions -/

section

variable {s left : Session Store} {id : Nat} {tx : Transaction α} {ofError : Error → ε}
  {body : Transaction α → Attempt Store ε β} {result : Except ε β}

/-- The session in which the body of a nested transaction starts. -/
def enterNested (s : Session Store) (id : Nat) : Session Store :=
  steered { s with savepoints := s.savepoints + 1 } id (.savepoint (savepointName s.savepoints))
    ("SAVEPOINT " ++ savepointName s.savepoints)

theorem stretch_enterNested (s : Session Store) (id : Nat) :
    Stretch id s.store (enterNested s id).store [(saving s.savepoints, s.store.upcoming)] := by
  rw [enterNested, store_steered rfl]
  exact .single id s.store _

theorem run_entering (ofError : Error → ε) (held : s.store.transactions[tx.id]? = some .held) :
    (Repository.steerFor ofError tx.id (.savepoint (savepointName s.savepoints))).run.run
        { s with savepoints := s.savepoints + 1 } =
      (s.store.upcoming.verdict.mapError fun e => ofError e.classify, enterNested s tx.id) :=
  run_steerFor_held (s := { s with savepoints := s.savepoints + 1 }) ofError
    (control_savepointName s.savepoints).1 held

/-- The body does not run if the server refuses the savepoint. -/
theorem run_nested_refused (held : s.store.transactions[tx.id]? = some .held) {e : StoreError}
    (refused : s.store.upcoming.verdict = .error e) :
    (Repository.nested tx ofError body).run.run s =
      (.error (ofError e.classify), enterNested s tx.id) := by
  have entering := run_entering ofError held
  rw [refused] at entering
  rw [Repository.nested, run_bind_ok (run_fresh s), run_bind_error entering]

/-- A savepoint is returned to, and released if that is accepted. -/
theorem run_return (held : s.store.transactions[id]? = some .held) (n : Nat) :
    ∃ outcome after close, (do
        EntityStore.Store.steer id (.rollbackTo (savepointName n))
        EntityStore.Store.steer id (.release (savepointName n)) :
          Attempt Store StoreError Unit).run.run s = (outcome, after) ∧
      Closes n false close ∧ Stretch id s.store after.store close ∧
      after.savepoints = s.savepoints := by
  obtain ⟨-, backText, releaseText⟩ := control_savepointName n
  let behind := steered s id (.rollbackTo (savepointName n))
    ("ROLLBACK TO SAVEPOINT " ++ savepointName n)
  have steps : Stretch id s.store behind.store [(returning n, s.store.upcoming)] := by
    rw [show behind.store = _ from store_steered rfl]
    exact .single id s.store _
  have returned := run_steer_held backText held
  cases verdict : s.store.upcoming.verdict with
  | error e =>
    rw [verdict] at returned
    exact ⟨_, behind, _, run_bind_error returned, .stuck (Answer.complaint_of_error verdict),
      steps, rfl⟩
  | ok u =>
    rw [verdict] at returned
    have stillHeld : behind.store.transactions[id]? = some .held := by
      rw [steps.transactions]
      exact held
    have released := run_steer_held releaseText stillHeld
    have last : Stretch id behind.store (steered behind id (.release (savepointName n))
        ("RELEASE SAVEPOINT " ++ savepointName n)).store [(releasing n, behind.store.upcoming)] := by
      rw [store_steered rfl]
      exact .single id behind.store _
    exact ⟨_, _, _, (run_bind_ok returned).trans released,
      .undone (Answer.verdict_eq_ok.mp verdict) behind.store.upcoming, steps.trans last, rfl⟩

/-- A nested transaction that fails is undone. That this fails does not count. -/
theorem run_undoNested (held : s.store.transactions[id]? = some .held) (n : Nat) :
    ∃ after close, (Repository.undoNested id (savepointName n) : Attempt Store ε Unit).run.run s =
        (.ok (), after) ∧
      Closes n false close ∧ Stretch id s.store after.store close ∧
      after.savepoints = s.savepoints := by
  obtain ⟨outcome, after, close, ran, closes, stretch, kept⟩ := run_return held n
  have undone : (Attempt.outcome (do
      EntityStore.Store.steer id (.rollbackTo (savepointName n))
      EntityStore.Store.steer id (.release (savepointName n))) : Attempt Store ε _).run.run s =
        (.ok outcome, after) := by
    rw [run_outcome, ran]
  rw [Repository.undoNested, run_bind_ok undone]
  cases outcome with
  | ok u => exact ⟨after, close, rfl, closes, stretch, kept⟩
  | error e => exact ⟨after.note _, close, rfl, closes, stretch, kept⟩

variable (body) in
/-- What comes behind the body of a nested transaction. -/
theorem run_nested (ofError : Error → ε) (held : s.store.transactions[tx.id]? = some .held)
    (accepted : s.store.upcoming.complaint = none)
    (ran : (body tx).run.run (enterNested s tx.id) = (result, left))
    (stays : left.store.transactions[tx.id]? = some .held) :
    ∃ answer after close, (Repository.nested tx ofError body).run.run s = (answer, after) ∧
      Closes s.savepoints result.isOk close ∧ Stretch tx.id left.store after.store close ∧
      after.savepoints = left.savepoints := by
  have entering := run_entering ofError held
  rw [Answer.verdict_eq_ok.mpr accepted] at entering
  have outcome : ((body tx).outcome : Attempt Store ε _).run.run (enterNested s tx.id) =
      (.ok result, left) := by rw [run_outcome, ran]
  rw [Repository.nested, run_bind_ok (run_fresh s), run_bind_ok entering, run_bind_ok outcome]
  cases result with
  | ok x =>
    have released := run_steerFor_held ofError (control_savepointName s.savepoints).2.2
      stays
    have last : Stretch tx.id left.store (steered left tx.id (.release (savepointName s.savepoints))
        ("RELEASE SAVEPOINT " ++ savepointName s.savepoints)).store
          [(releasing s.savepoints, left.store.upcoming)] := by
      rw [store_steered rfl]
      exact .single tx.id left.store _
    cases verdict : left.store.upcoming.verdict with
    | error e =>
      rw [verdict] at released
      exact ⟨_, _, _, run_bind_error released, .released _, last, rfl⟩
    | ok u =>
      rw [verdict] at released
      exact ⟨_, _, _, run_bind_ok released, .released _, last, rfl⟩
  | error e =>
    obtain ⟨after, close, undone, closes, stretch, kept⟩ :=
      run_undoNested (ε := ε) stays s.savepoints
    exact ⟨.error e, after, close, run_bind_ok undone, closes, stretch, kept⟩

end

/-! ## Bodies -/

/-- The second session comes from the first by statements of an open transaction that are
balanced. -/
def Bracketed (id : Nat) (s s' : Session Store) : Prop :=
  BalancedStretch id s.store s'.store s.savepoints s'.savepoints

section

variable {id : Nat} {s s' s'' : Session Store}

theorem Bracketed.trans (first : Bracketed id s s') (second : Bracketed id s' s'') :
    Bracketed id s s'' := BalancedStretch.trans first second

theorem Bracketed.held (stretch : Bracketed id s s') (held : s.store.transactions[id]? = some .held) :
    s'.store.transactions[id]? = some .held := by
  rw [stretch.transactions]
  exact held

/-- A savepoint of the body's own is one statement. -/
theorem bracketed_own {c : Control} {sql : String} (own : c.IsOwn)
    (text : Statement.control c = .ok sql) : Bracketed id s (steered s id c sql) := by
  rw [Bracketed, store_steered own.stays]
  exact ⟨_, .own own text s.store.upcoming s.savepoints, .single id s.store _⟩

/-- A body goes on behind a savepoint of its own, whether it was taken or refused. -/
theorem bracketed_proceed {tx : Transaction α} {control : String → Control} {name : String}
    {next : Attempt Store ε β} {refused : Error → Attempt Store ε β}
    (own : (control name).IsOwn)
    (text : ∀ i, Query.ident name = .ok i → ∃ sql, Statement.control (control name) = .ok sql)
    (held : s.store.transactions[tx.id]? = some .held)
    (onward : ∀ s' : Session Store, s'.store.transactions[tx.id]? = some .held →
      Bracketed tx.id s' (next.run.run s').2)
    (otherwise : ∀ e (s' : Session Store), s'.store.transactions[tx.id]? = some .held →
      Bracketed tx.id s' ((refused e).run.run s').2) :
    Bracketed tx.id s ((Program.proceed (tx.named control name) next refused).run.run s).2 := by
  cases parsed : Query.ident name with
  | error e =>
    have declined : (Attempt.ofExcept (Query.ident name) : Action Store _).run.run s =
        (.error e, s) := by rw [run_ofExcept, parsed]
    have stopped : (tx.named control name).run.run s = (.error e, s) := run_bind_error declined
    rw [Program.run_proceed_error stopped]
    exact otherwise e s held
  | ok i =>
    obtain ⟨sql, text⟩ := text i parsed
    have accepted : (Attempt.ofExcept (Query.ident name) : Action Store _).run.run s =
        (.ok i, s) := by rw [run_ofExcept, parsed]
    have steering : (tx.named control name).run.run s =
        (s.store.upcoming.verdict.mapError StoreError.classify,
          steered s tx.id (control name) sql) := by
      rw [Transaction.named, run_bind_ok accepted, Action.steer, run_classified,
        run_steer_held text held]
      rfl
    have sent : Bracketed tx.id s (steered s tx.id (control name) sql) := bracketed_own own text
    cases verdict : s.store.upcoming.verdict with
    | error e =>
      rw [verdict] at steering
      rw [Program.run_proceed_error steering]
      exact sent.trans (otherwise _ _ (sent.held held))
    | ok u =>
      rw [verdict] at steering
      rw [Program.run_proceed_ok steering]
      exact sent.trans (onward _ (sent.held held))

/-- A nested transaction is balanced if its body is. -/
theorem bracketed_nested {tx : Transaction α} {ofError : Error → ε}
    {body : Transaction α → Attempt Store ε β} (held : s.store.transactions[tx.id]? = some .held)
    (inner : Bracketed tx.id (enterNested s tx.id) ((body tx).run.run (enterNested s tx.id)).2) :
    Bracketed tx.id s ((Repository.nested tx ofError body).run.run s).2 := by
  have entering := stretch_enterNested s tx.id
  cases verdict : s.store.upcoming.verdict with
  | error e =>
    rw [run_nested_refused held verdict]
    exact ⟨_, .refused (Answer.complaint_of_error verdict) s.savepoints, entering⟩
  | ok u =>
    have accepted := Answer.verdict_eq_ok.mp verdict
    obtain ⟨result, left, ran⟩ : ∃ result left,
        (body tx).run.run (enterNested s tx.id) = (result, left) := ⟨_, _, rfl⟩
    rw [ran] at inner
    have entered : (enterNested s tx.id).store.transactions[tx.id]? = some .held := by
      rw [entering.transactions]
      exact held
    obtain ⟨answer, after, close, nested, closes, closing, kept⟩ :=
      run_nested _ ofError held accepted ran (inner.held entered)
    obtain ⟨trace, balanced, said⟩ := inner
    rw [nested, Bracketed, kept]
    exact ⟨_, .nested accepted balanced closes, (entering.trans said).trans closing⟩

/-- Whatever a body does in an open transaction, what it says there is balanced. -/
theorem bracketed_run {live : List String} (p : Program live ε β) (tx : Transaction α)
    (s : Session Store) (own : ∀ name ∈ live, ¬Reserved name)
    (held : s.store.transactions[tx.id]? = some .held) :
    Bracketed tx.id s ((p.run tx).run.run s).2 := by
  induction p generalizing s with
  | finish result =>
    rw [Program.run, run_ofExcept]
    exact BalancedStretch.refl tx.id s.savepoints s.store
  | @operate live ε β γ δ _ op next ih =>
    obtain ⟨leads, kept⟩ := op.takes_run (tx.repository.forEntity γ) op.gives_any s
    have worked : Bracketed tx.id s ((op.run (tx.repository.forEntity γ)).run s).2 := by
      rw [Bracketed, kept]
      exact .of_leads (fun _ own => own.asks) leads
    rw [Program.run_operate]
    exact worked.trans (ih _ _ own (worked.held held))
  | save name unreserved next refused ihNext ihRefused =>
    refine bracketed_proceed unreserved (fun i named => ?_) held (fun s' held' => ?_)
      (fun e s' held' => ihRefused e s' own held')
    · exact ⟨_, congrArg (Except.map _) named⟩
    · exact ihNext s' (List.forall_mem_cons.mpr ⟨unreserved, own⟩) held'
  | rollbackTo name set next refused ihNext ihRefused =>
    refine bracketed_proceed (own name set) (fun i named => ?_) held (fun s' held' => ?_)
      (fun e s' held' => ihRefused e s' own held')
    · exact ⟨_, congrArg (Except.map _) named⟩
    · exact ihNext s' (fun other member => own other (List.dropWhile_subset _ member)) held'
  | release name set next refused ihNext ihRefused =>
    refine bracketed_proceed (own name set) (fun i named => ?_) held (fun s' held' => ?_)
      (fun e s' held' => ihRefused e s' own held')
    · exact ⟨_, congrArg (Except.map _) named⟩
    · exact ihNext s' (fun other member =>
        own other (List.dropWhile_subset _ (List.mem_of_mem_tail member))) held'
  | @nest live ε β ε' β' ofError options body next ihBody ihNext =>
    have entered : (enterNested s tx.id).store.transactions[tx.id]? = some .held := by
      rw [(stretch_enterNested s tx.id).transactions]
      exact held
    have nested : Bracketed tx.id s
        ((Repository.nested tx ofError fun tx => body.run tx).run.run s).2 :=
      bracketed_nested held (ihBody (enterNested s tx.id) (List.forall_mem_nil _) entered)
    have outcome : ((tx.repository.transaction ofError options fun tx => body.run tx).outcome :
        Attempt Store ε _).run.run s = (.ok _, _) := run_outcome _ s
    rw [Program.run, run_bind_ok outcome]
    exact nested.trans (ihNext _ _ own (nested.held held))

end

/-! ## Ends inside a body -/

/-- The statement opens a transaction or ends one. -/
def Sent.Delimits (m : Sent) : Prop :=
  (∃ options, m = opening options) ∨ m = .simple "COMMIT" ∨ m = .simple "ROLLBACK"

theorem not_delimits_of_plain {m : Sent} (plain : Exchange.Plain m) : ¬m.Delimits := by
  rintro (⟨options, rfl⟩ | rfl | rfl)
  · exact plain (.inl ⟨options, rfl⟩)
  · exact plain (.inr ⟨.commit, rfl⟩)
  · exact plain (.inr ⟨.rollback, rfl⟩)

theorem not_delimits_of_stays {c : Control} {sql : String} (stays : c.ends = false)
    (text : Statement.control c = .ok sql) : ¬(Sent.simple sql).Delimits := by
  have differs {other : String} (h : sql.toList ≠ other.toList) : Sent.simple sql ≠ .simple other :=
    fun same => h (congrArg String.toList (Sent.simple.inj same))
  cases c with
  | commit | rollback => cases stays
  | savepoint name | rollbackTo name | release name =>
    obtain ⟨i, -, rfl⟩ := exists_of_map text
    rintro (⟨options, same⟩ | same | same)
    · exact differs (by simp [TxOptions.beginSql]) same
    · exact differs (by simp) same
    · exact differs (by simp) same

/-- Inside a balanced trace no transaction is opened or ended. -/
theorem Balanced.not_delimits {i k : Nat} {trace : Trace} (balanced : Balanced i k trace) :
    ∀ m ∈ trace, ¬m.1.Delimits := by
  have named (n : Nat) := control_savepointName n
  induction balanced with
  | nil n => exact nofun
  | request plain a n =>
    intro m member
    rw [List.mem_singleton.mp member]
    exact not_delimits_of_plain plain
  | @own c sql own text a n =>
    intro m member
    rw [List.mem_singleton.mp member]
    exact not_delimits_of_stays own.stays text
  | append first second ihFirst ihSecond =>
    intro m member
    exact (List.mem_append.mp member).elim (ihFirst m) (ihSecond m)
  | refused refused n =>
    intro m member
    rw [List.mem_singleton.mp member]
    exact not_delimits_of_stays rfl (named n).1
  | @nested n k a body close ok accepted inner closes ih =>
    have back : ¬(returning n).Delimits := not_delimits_of_stays rfl (named n).2.1
    have gone : ¬(releasing n).Delimits := not_delimits_of_stays rfl (named n).2.2
    have last : ∀ m ∈ close, ¬m.1.Delimits := by
      cases closes with
      | released b => simpa using gone
      | undone accepted b => simpa using ⟨back, gone⟩
      | stuck refused => simpa using back
    intro m member
    rcases List.mem_append.mp member with member | member
    · rcases List.mem_cons.mp member with rfl | member
      · exact not_delimits_of_stays rfl (named n).1
      · exact ih m member
    · exact last m member

end Postgres

end EntityStore
