import EntityStore.Store

/-!
# Steps of a store

A step is one thing done with a store: a transaction is opened, a request is made, an open
transaction is steered or given up. Any use of a store, by one caller or by several that take
turns, is a list of steps. What holds at the start of such a list and is kept by each of its
steps holds at its end.
-/

namespace EntityStore

inductive Step : Type 1 where
  | begin (options : TxOptions)
  | ask {α : Type} (scope : Scope) (r : Request α)
  | steer (id : Nat) (c : Control)
  | abandon (id : Nat)

namespace Step

/-- What the step answers when it succeeds. -/
@[reducible] def Answer : Step → Type
  | .begin _ => Nat
  | @ask α _ _ => α
  | .steer .. | .abandon _ => Unit

/-- The transaction that the step is taken in. -/
def owner? : Step → Option Nat
  | .ask (.tx id) _ | .steer id _ | .abandon id => some id
  | .ask .direct _ | .begin _ => none

/-- The same step with other numbers for the transactions. -/
def renumber (f : Nat → Nat) : Step → Step
  | .ask (.tx id) r => .ask (.tx (f id)) r
  | .steer id c => .steer (f id) c
  | .abandon id => .abandon (f id)
  | .ask .direct r => .ask .direct r
  | .begin options => .begin options

/-- The steps that are taken in a transaction. -/
theorem cases_of_owner {st : Step} {id : Nat} (owner : st.owner? = some id) :
    (∃ (α : Type) (r : Request α), st = .ask (.tx id) r) ∨ (∃ c, st = .steer id c) ∨
      st = .abandon id := by
  cases st with
  | begin options => cases owner
  | ask scope r =>
    cases scope with
    | direct => cases owner
    | tx j =>
      cases owner
      exact .inl ⟨_, r, rfl⟩
  | steer j c =>
    cases owner
    exact .inr (.inl ⟨c, rfl⟩)
  | abandon j =>
    cases owner
    exact .inr (.inr rfl)

/-- The steps that are taken outside of transactions. -/
theorem cases_of_no_owner {st : Step} (owner : st.owner? = none) :
    (∃ options, st = .begin options) ∨ ∃ (α : Type) (r : Request α), st = .ask .direct r := by
  cases st with
  | begin options => exact .inl ⟨options, rfl⟩
  | ask scope r =>
    cases scope with
    | direct => exact .inr ⟨_, r, rfl⟩
    | tx j => cases owner
  | steer j c | abandon j => cases owner

theorem owner?_renumber {st : Step} {id : Nat} (owner : st.owner? = some id) (f : Nat → Nat) :
    (st.renumber f).owner? = some (f id) := by
  obtain ⟨α, r, rfl⟩ | ⟨c, rfl⟩ | rfl := cases_of_owner owner <;> rfl

end Step

/-- A step with its answer. -/
structure Entry where
  step : Step
  answer : Except StoreError step.Answer

/-- The entry with other numbers for the transactions, also for one that was opened. -/
def Entry.renumber (f : Nat → Nat) : Entry → Entry
  | ⟨.ask (.tx id) r, a⟩ => ⟨.ask (.tx (f id)) r, a⟩
  | ⟨.steer id c, a⟩ => ⟨.steer (f id) c, a⟩
  | ⟨.abandon id, a⟩ => ⟨.abandon (f id), a⟩
  | ⟨.ask .direct r, a⟩ => ⟨.ask .direct r, a⟩
  | ⟨.begin options, a⟩ => ⟨.begin options, a.map f⟩

/-- The steps of some owners, with other numbers for the transactions. -/
def Step.restrict (mine : Option Nat → Bool) (f : Nat → Nat) (steps : List Step) : List Step :=
  (steps.filter fun st => mine st.owner?).map (renumber f)

def Entry.restrict (mine : Option Nat → Bool) (f : Nat → Nat) (log : List Entry) : List Entry :=
  (log.filter fun e => mine e.step.owner?).map (Entry.renumber f)

theorem Step.restrict_cons (mine : Option Nat → Bool) (f : Nat → Nat) (st : Step)
    (steps : List Step) : restrict mine f (st :: steps) =
      if mine st.owner? then st.renumber f :: restrict mine f steps else restrict mine f steps := by
  rw [restrict, List.filter_cons]
  split <;> rfl

theorem Entry.restrict_cons (mine : Option Nat → Bool) (f : Nat → Nat) (e : Entry)
    (log : List Entry) : restrict mine f (e :: log) =
      if mine e.step.owner? then e.renumber f :: restrict mine f log else restrict mine f log := by
  rw [restrict, List.filter_cons]
  split <;> rfl

namespace Step

variable {σ : Type} [Store σ]

def reply (s : σ) : (st : Step) → Reply σ st.Answer
  | .begin options => Store.begin options s
  | .ask scope r => Store.perform scope r s
  | .steer id c => Store.control id c s
  | .abandon id => Store.abandon id s

/-- The store behind a step. -/
def next (s : σ) (st : Step) : σ := (st.reply s).store

/-- The store behind a list of steps. -/
def after (s : σ) (steps : List Step) : σ := steps.foldl next s

/-- What a list of steps is answered. -/
def log (s : σ) : List Step → List Entry
  | [] => []
  | st :: steps => ⟨st, (st.reply s).result⟩ :: log (next s st) steps

theorem after_append (s : σ) (steps more : List Step) :
    after s (steps ++ more) = after (after s steps) more := List.foldl_append

/-- What every step keeps is kept by all of them. -/
theorem after_induction {P : Step → Prop} {I : σ → Prop}
    (step : ∀ s st, P st → I s → I (next s st)) {steps : List Step} (each : ∀ st ∈ steps, P st)
    {s : σ} (start : I s) : I (after s steps) := by
  induction steps generalizing s with
  | nil => exact start
  | cons st steps ih =>
    apply ih
    · intro other member
      exact each other (List.mem_cons_of_mem _ member)
    · exact step s st (each st List.mem_cons_self) start

/-- Each of the steps is of a kind in the state in which it is taken. -/
def Along (P : σ → Step → Prop) (s : σ) : List Step → Prop
  | [] => True
  | st :: steps => P s st ∧ Along P (next s st) steps

/-- What every step keeps that is of a kind where it is taken is kept by all of them. -/
theorem Along.induction {P : σ → Step → Prop} {I : σ → Prop}
    (step : ∀ s st, P s st → I s → I (next s st)) {steps : List Step} {s : σ}
    (along : Along P s steps) (start : I s) : I (after s steps) := by
  induction steps generalizing s with
  | nil => exact start
  | cons st steps ih =>
    obtain ⟨here, rest⟩ := along
    exact ih rest (step s st here start)

/-! ## Some of the steps -/

/-- The entry of a step says what that step was answered. -/
theorem reply_of_entry {st st' : Step} {a : Except StoreError st'.Answer} {s : σ}
    (h : (⟨st', a⟩ : Entry) = ⟨st, (st.reply s).result⟩) :
    st = st' ∧ (st'.reply s).result = a := by
  have same : st' = st := congrArg Entry.step h
  subst same
  exact ⟨rfl, (eq_of_heq (Entry.mk.inj h).2).symm⟩

theorem step_mem_of_mem_log {e : Entry} {steps : List Step} {s : σ} (member : e ∈ log s steps) :
    e.step ∈ steps := by
  induction steps generalizing s with
  | nil => cases member
  | cons st steps ih =>
    rcases List.mem_cons.mp member with rfl | member
    · exact List.mem_cons_self
    · exact List.mem_cons_of_mem st (ih member)

/-- Where a relation to a second run of some of the steps only is kept, by the steps of both runs
together and by each step that is left out, these steps are answered alike in both runs. -/
theorem log_restrict (mine : Option Nat → Bool) (f : Nat → Nat) {R : σ → σ → Prop}
    {P : Entry → Prop}
    (taken : ∀ s s' st, P ⟨st, (st.reply s).result⟩ → R s s' → mine st.owner? = true →
      Entry.renumber f ⟨st, (st.reply s).result⟩ =
          ⟨st.renumber f, ((st.renumber f).reply s').result⟩ ∧
        R (next s st) (next s' (st.renumber f)))
    (left : ∀ s s' st, P ⟨st, (st.reply s).result⟩ → R s s' → mine st.owner? = false →
      R (next s st) s')
    {steps : List Step} {s s' : σ} (each : ∀ e ∈ log s steps, P e) (start : R s s') :
    Entry.restrict mine f (log s steps) = log s' (restrict mine f steps) ∧
      R (after s steps) (after s' (restrict mine f steps)) := by
  induction steps generalizing s s' with
  | nil => exact ⟨rfl, start⟩
  | cons st steps ih =>
    have here := each _ List.mem_cons_self
    have later : ∀ e ∈ log (next s st) steps, P e :=
      fun e member => each e (List.mem_cons_of_mem _ member)
    cases own : mine st.owner? with
    | true =>
      obtain ⟨same, kept⟩ := taken s s' st here start own
      obtain ⟨rest, final⟩ := ih later kept
      rw [log, Entry.restrict_cons, restrict_cons, if_pos own, if_pos own, same, rest]
      exact ⟨rfl, final⟩
    | false =>
      obtain ⟨rest, final⟩ := ih later (left s s' st here start own)
      have out : ¬mine st.owner? = true := Bool.eq_false_iff.mp own
      rw [log, Entry.restrict_cons, restrict_cons, if_neg out, if_neg out]
      exact ⟨rest, final⟩

end Step

/-- The second state comes from the first by steps of a kind. -/
def Leads {σ : Type} [Store σ] (P : Step → Prop) (s s' : σ) : Prop :=
  ∃ steps, (∀ st ∈ steps, P st) ∧ Step.after s steps = s'

namespace Leads

variable {σ : Type} [Store σ] {P Q : Step → Prop} {s s' s'' : σ}

theorem refl (s : σ) : Leads P s s := by
  refine ⟨[], ?_, rfl⟩
  intro st member
  cases member

theorem single {st : Step} (h : P st) (s : σ) : Leads P s (st.next s) := by
  refine ⟨[st], ?_, rfl⟩
  intro other member
  rwa [List.mem_singleton.mp member]

theorem trans (first : Leads P s s') (second : Leads P s' s'') : Leads P s s'' := by
  obtain ⟨steps, each, rfl⟩ := first
  obtain ⟨more, eachMore, rfl⟩ := second
  refine ⟨steps ++ more, ?_, Step.after_append s steps more⟩
  intro st member
  rcases List.mem_append.mp member with member | member
  · exact each st member
  · exact eachMore st member

theorem mono (sub : ∀ st, P st → Q st) (h : Leads P s s') : Leads Q s s' := by
  obtain ⟨steps, each, rfl⟩ := h
  exact ⟨steps, fun st member => sub st (each st member), rfl⟩

theorem induction {I : σ → Prop} (step : ∀ s st, P st → I s → I (Step.next s st))
    (h : Leads P s s') (start : I s) : I s' := by
  obtain ⟨steps, each, rfl⟩ := h
  exact Step.after_induction step each start

end Leads

end EntityStore
