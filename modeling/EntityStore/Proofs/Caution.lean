import EntityStore.Proofs.Mutation

/-!
# Caution

A validation error tells the caller that nothing was done. A computation that may fail with one is
wary if by then it has only done what keeps to a relation between the states before and behind it,
such as to have sent no write. What keeps to the relation however it ends may come in front of a
wary computation, and what never fails with such an error may follow it.
-/

namespace EntityStore

/-- The error says that input or a hook was refused before the store was reached. -/
def Error.Refuses (e : Error) : Prop := e.kind = .validation

def StoreError.Refuses (e : StoreError) : Prop := e.classify.Refuses

/-- Of the errors of a store only those refuse input that are such an error already. -/
theorem StoreError.refuses_iff {e : StoreError} :
    e.Refuses ↔ ∃ err : Error, e = .rejected err ∧ err.Refuses := by
  constructor
  · intro refuses
    cases e with
    | rejected err => exact ⟨err, rfl, refuses⟩
    | noRows => cases refuses
    | uniqueViolation key => cases refuses
    | query fault =>
      unfold StoreError.Refuses StoreError.classify at refuses
      dsimp only at refuses
      split at refuses <;> cases refuses
    | _ => cases refuses
  · rintro ⟨err, rfl, refuses⟩
    exact refuses

variable {σ τ ε α β γ : Type}

/-! ## Computations that may fail -/

section

variable (Q : τ → τ → Prop) (V : ε → Prop)

/-- However the computation ends, it has kept to the relation. -/
def Still (act : ExceptT ε (StateM τ) β) : Prop := ∀ s, Q s (act.run.run s).2

/-- The computation does not fail with an error of the kind. -/
def Firm (act : ExceptT ε (StateM τ) β) : Prop :=
  ∀ s e s', act.run.run s = (.error e, s') → ¬V e

/-- If the computation fails with an error of the kind, it has kept to the relation. -/
def Wary (act : ExceptT ε (StateM τ) β) : Prop :=
  ∀ s e s', act.run.run s = (.error e, s') → V e → Q s s'

end

section

variable {Q : τ → τ → Prop} {V : ε → Prop} {act : ExceptT ε (StateM τ) β}
  {next : β → ExceptT ε (StateM τ) γ}

theorem Still.wary (h : Still Q act) : Wary Q V act := by
  intro s e s' ran _
  have kept := h s
  rwa [ran] at kept

theorem Firm.wary (h : Firm V act) : Wary Q V act :=
  fun s e s' ran refuses => absurd refuses (h s e s' ran)

theorem firm_pure (x : β) : Firm V (pure x : ExceptT ε (StateM τ) β) := by
  intro s e s' ran
  cases ran

theorem Firm.bind (h : Firm V act) (rest : ∀ x, Firm V (next x)) : Firm V (act >>= next) := by
  intro s e s' ran
  rcases error_of_run_bind ran with first | ⟨x, mid, -, later⟩
  · exact h s e s' first
  · exact rest x mid e s' later

/-- What keeps to the relation comes first. -/
theorem Wary.behind (rest : ∀ x, Wary Q V (next x)) (trans : ∀ {s s' s''}, Q s s' → Q s' s'' → Q s s'')
    (h : Still Q act) : Wary Q V (act >>= next) := by
  intro s e s' ran refuses
  rcases error_of_run_bind ran with first | ⟨x, mid, first, later⟩
  · exact h.wary s e s' first refuses
  · have kept := h s
    rw [first] at kept
    exact trans kept (rest x mid e s' later refuses)

/-- What does not refuse anything comes last. -/
theorem Wary.bind_firm (h : Wary Q V act) (rest : ∀ x, Firm V (next x)) :
    Wary Q V (act >>= next) := by
  intro s e s' ran refuses
  rcases error_of_run_bind ran with first | ⟨x, mid, -, later⟩
  · exact h s e s' first refuses
  · exact absurd refuses (rest x mid e s' later)

end

/-! ## Attempts and mutations -/

/-- The states of sessions are related as their stores are. -/
abbrev Session.Kept (Q : σ → σ → Prop) (s s' : Session σ) : Prop := Q s.store s'.store

/-- The computation never fails with a validation error. -/
abbrev Attempt.Firm (act : Action σ β) : Prop := EntityStore.Firm Error.Refuses act

abbrev Attempt.Wary (Q : σ → σ → Prop) (act : Action σ β) : Prop :=
  EntityStore.Wary (Session.Kept Q) Error.Refuses act

theorem Attempt.firm_ofExcept {x : Except Error β} (h : ∀ e, x = .error e → ¬e.Refuses) :
    Attempt.Firm (ofExcept x : Action σ β) := by
  intro s e s' ran
  rw [run_ofExcept] at ran
  exact h e (Prod.mk.inj ran).1

theorem Attempt.firm_mapM {f : β → Action σ γ} (each : ∀ x, Attempt.Firm (f x)) (xs : List β) :
    Attempt.Firm (xs.mapM f) := by
  induction xs with
  | nil => exact firm_pure _
  | cons x xs ih =>
    rw [List.mapM_cons]
    refine (each x).bind fun y => ?_
    refine Firm.bind ih fun ys => ?_
    exact firm_pure _

namespace Mutation

/-- The mutation as a computation whose state is the entity together with the session. -/
def joint (m : Mutation σ α β) : ExceptT Error (StateM (α × Session σ)) β :=
  ExceptT.mk fun p =>
    let r := (m.runOn p.1).run p.2
    (r.1.1, (r.1.2, r.2))

theorem run_joint {m : Mutation σ α β} {e e' : α} {s s' : Session σ} {result : Except Error β}
    (ran : (m.runOn e).run s = ((result, e'), s')) :
    m.joint.run.run (e, s) = (result, (e', s')) := by
  change (((m.runOn e).run s).1.1, (((m.runOn e).run s).1.2, ((m.runOn e).run s).2)) = _
  rw [ran]

theorem run_of_joint {m : Mutation σ α β} {e e' : α} {s s' : Session σ} {result : Except Error β}
    (ran : m.joint.run.run (e, s) = (result, (e', s'))) :
    (m.runOn e).run s = ((result, e'), s') := by
  rcases ends : (m.runOn e).run s with ⟨⟨result', left⟩, last⟩
  rw [run_joint ends] at ran
  cases ran
  rfl

theorem joint_bind (m : Mutation σ α β) (next : β → Mutation σ α γ) :
    (m >>= next).joint = m.joint >>= fun x => (next x).joint := by
  funext ⟨e, s⟩
  change (m >>= next).joint.run.run (e, s) = (m.joint >>= fun x => (next x).joint).run.run (e, s)
  rcases ran : (m.runOn e).run s with ⟨⟨err | x, e'⟩, s'⟩
  · rw [run_joint (runOn_bind_error ran), run_bind_error (run_joint ran)]
  · rw [run_bind_ok (run_joint ran)]
    rcases rest : ((next x).runOn e').run s' with ⟨⟨result, e''⟩, s''⟩
    rw [run_joint ((runOn_bind_ok ran).trans rest), run_joint rest]

def Firm (m : Mutation σ α β) : Prop := EntityStore.Firm Error.Refuses m.joint

def Still (Q : σ → σ → Prop) (m : Mutation σ α β) : Prop :=
  EntityStore.Still (fun p p' => Session.Kept Q p.2 p'.2) m.joint

def Wary (Q : σ → σ → Prop) (m : Mutation σ α β) : Prop :=
  EntityStore.Wary (fun p p' => Session.Kept Q p.2 p'.2) Error.Refuses m.joint

section

variable {Q : σ → σ → Prop} {m : Mutation σ α β} {next : β → Mutation σ α γ} {a : Action σ β}

theorem Firm.bind (h : m.Firm) (rest : ∀ x, (next x).Firm) : (m >>= next).Firm := by
  rw [Firm, joint_bind]
  exact EntityStore.Firm.bind h rest

theorem Wary.bind_firm (h : m.Wary Q) (rest : ∀ x, (next x).Firm) : (m >>= next).Wary Q := by
  rw [Wary, joint_bind]
  exact EntityStore.Wary.bind_firm h rest

theorem Wary.behind (rest : ∀ x, (next x).Wary Q)
    (trans : ∀ {s s' s''}, Q s s' → Q s' s'' → Q s s'') (h : m.Still Q) : (m >>= next).Wary Q := by
  rw [Wary, joint_bind]
  exact EntityStore.Wary.behind rest trans h

theorem Firm.wary (h : m.Firm) : m.Wary Q := EntityStore.Firm.wary h

theorem firm_edit {f : Edit Error α} (h : ∀ e err, (f e).1 = .error err → ¬err.Refuses) :
    (edit f : Mutation σ α Unit).Firm := by
  rintro ⟨e, s⟩ err p' ran
  exact h e err (Prod.mk.inj ran).1

theorem Edits.firm {m : Mutation σ α Unit} {f : Edit Error α} (edits : m.Edits f)
    (succeeds : ∀ e, (f e).1 = .ok ()) : m.Firm := by
  rintro ⟨e, s⟩ err p' ran
  obtain ⟨events, done⟩ := edits e s
  rw [← Prod.eta (f e), succeeds e] at done
  rw [run_joint done] at ran
  cases ran

theorem firm_act (h : Attempt.Firm a) : (act a : Mutation σ α β).Firm := by
  rintro ⟨e, s⟩ err p' ran
  obtain ⟨failed, -⟩ := Prod.mk.inj ((run_joint (runOn_act rfl e)).symm.trans ran)
  exact h s err _ (Prod.ext failed rfl)

theorem wary_act (h : Attempt.Wary Q a) : (act a : Mutation σ α β).Wary Q := by
  rintro ⟨e, s⟩ err p' ran refuses
  obtain ⟨failed, rfl⟩ := Prod.mk.inj ((run_joint (runOn_act rfl e)).symm.trans ran)
  exact h s err _ (Prod.ext failed rfl) refuses

theorem Wary.of_runOn (h : m.Wary Q) {e e' : α} {s s' : Session σ} {err : Error}
    (ran : (m.runOn e).run s = ((.error err, e'), s')) (refuses : err.Refuses) :
    Q s.store s'.store :=
  h (e, s) err (e', s') (run_joint ran) refuses

end

end Mutation

end EntityStore
