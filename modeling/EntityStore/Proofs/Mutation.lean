import EntityStore.Proofs.Session
import EntityStore.Repository

/-!
# Running mutations

What the basic steps of a mutation make of the entity and of the session. A hook changes the
entity and adds to the journal, and it asks nothing of the store; so do hooks that run on one
entity after the other.
-/

namespace EntityStore

variable {σ ε α β γ : Type}

/-! ## Edits in a row -/

namespace Edit

/-- The second edit is made if the first one succeeds. -/
def andThen (first second : Edit ε α) : Edit ε α := fun x =>
  match first x with
  | (.error e, x) => (.error e, x)
  | (.ok (), x) => second x

/-- Edits one element after the other, up to the first failure. -/
def each (edit : Edit ε α) : Edit ε (List α)
  | [] => (.ok (), [])
  | x :: xs =>
    match edit x with
    | (.error e, x) => (.error e, x :: xs)
    | (.ok (), x) =>
      let (result, xs) := each edit xs
      (result, x :: xs)

theorem length_each (edit : Edit ε α) (xs : List α) : (edit.each xs).2.length = xs.length := by
  induction xs with
  | nil => rfl
  | cons x xs ih =>
    rw [each]
    rcases edit x with ⟨e | ⟨⟩, y⟩
    · rfl
    · exact congrArg (· + 1) ih

theorem length_andThen {first second : Edit ε (List α)}
    (kept : ∀ xs, (first xs).2.length = xs.length) (kept' : ∀ xs, (second xs).2.length = xs.length)
    (xs : List α) : (first.andThen second xs).2.length = xs.length := by
  have before := kept xs
  rw [andThen]
  rcases outcome : first xs with ⟨e | ⟨⟩, ys⟩
  · rw [outcome] at before
    exact before
  · rw [outcome] at before
    exact (kept' ys).trans before

/-- Of one element it is the edit of that element. -/
theorem each_singleton (edit : Edit ε α) (x : α) : edit.each [x] = ((edit x).1, [(edit x).2]) := by
  rw [each]
  rcases edit x with ⟨e | ⟨⟩, y⟩ <;> rfl

theorem each_succeeds {f : Edit ε α} (succeeds : ∀ e, (f e).1 = .ok ()) (es : List α) :
    (f.each es).1 = .ok () := by
  induction es with
  | nil => rfl
  | cons e es ih =>
    rw [each, ← Prod.eta (f e), succeeds e]
    exact ih

end Edit

/-! ## Runs -/

namespace Mutation

section

variable {m : Mutation σ α β} {next : β → Mutation σ α γ} {e e' : α} {s s' : Session σ}

theorem runOn_bind_ok {x : β} (ran : (m.runOn e).run s = ((.ok x, e'), s')) :
    ((m >>= next).runOn e).run s = ((next x).runOn e').run s' := by
  change ((m.runOn e >>= fun p => StateT.run (ExceptT.bindCont next p.1) p.2) :
    StateM (Session σ) _).run s = _
  rw [StateT.run_bind, ran]
  rfl

theorem runOn_bind_error {err : Error} (ran : (m.runOn e).run s = ((.error err, e'), s')) :
    ((m >>= next).runOn e).run s = ((.error err, e'), s') := by
  change ((m.runOn e >>= fun p => StateT.run (ExceptT.bindCont next p.1) p.2) :
    StateM (Session σ) _).run s = _
  rw [StateT.run_bind, ran]
  rfl

/-- An action leaves the entity as it is. -/
theorem runOn_act {a : Action σ β} {answer : Except Error β} (ran : a.run.run s = (answer, s'))
    (e : α) : ((act a : Mutation σ α β).runOn e).run s = ((answer, e), s') :=
  congrArg (fun p : Except Error β × Session σ => ((p.1, e), p.2)) ran

theorem runOn_get (e : α) (s : Session σ) :
    ((get : Mutation σ α α).runOn e).run s = ((.ok e, e), s) := rfl

theorem runOn_edit {f : Edit Error α} {answer : Except Error Unit} (edited : f e = (answer, e'))
    (s : Session σ) : ((edit f : Mutation σ α Unit).runOn e).run s = ((answer, e'), s) :=
  congrArg (·, s) edited

/-- A line of the log is all that an operation notes before it asks the store. -/
theorem runOn_logOp (γ : Type) [Entity γ] (op message : String) (fields : List (String × LogValue))
    (e : α) (s : Session σ) : ∃ line,
      ((act (Repository.logOp γ op message fields) : Mutation σ α Unit).runOn e).run s =
        ((.ok (), e), s.note [.log line]) :=
  ⟨_, rfl⟩

end

/-! ## Mutations that only edit -/

/-- The mutation edits the entity, and of the session it changes the journal only. -/
def Edits (m : Mutation σ α Unit) (f : Edit Error α) : Prop :=
  ∀ e (s : Session σ), ∃ events, (m.runOn e).run s = (f e, s.note events)

theorem note_note (s : Session σ) (first second : List Event) :
    (s.note first).note second = s.note (first ++ second) :=
  congrArg (Session.mk s.store s.savepoints) (List.append_assoc s.journal first second)

theorem note_nil (s : Session σ) : s.note [] = s :=
  congrArg (Session.mk s.store s.savepoints) (List.append_nil s.journal)

theorem Edits.bind {first second : Mutation σ α Unit} {f g : Edit Error α} (left : first.Edits f)
    (right : second.Edits g) : (first >>= fun _ => second).Edits (f.andThen g) := by
  intro e s
  obtain ⟨events, ran⟩ := left e s
  rw [Edit.andThen]
  rcases outcome : f e with ⟨err | ⟨⟩, e'⟩
  · rw [outcome] at ran
    exact ⟨events, runOn_bind_error ran⟩
  · rw [outcome] at ran
    obtain ⟨more, ranOn⟩ := right e' (s.note events)
    refine ⟨events ++ more, ?_⟩
    rw [runOn_bind_ok ran, ranOn, note_note]

/-- A computation that cannot fail is lifted to an action that answers. -/
theorem run_lift {γ : Type} {act : StateM (Session σ) γ} {x : γ} {s s' : Session σ}
    (ran : act.run s = (x, s')) : (ExceptT.lift act : Action σ γ).run.run s = (.ok x, s') :=
  congrArg (Prod.map Except.ok id) ran

/-- As an action, a mutation answers the changed entity. -/
theorem run_changed {m : Mutation σ α Unit} {e e' : α} {s s' : Session σ} {result : Except Error Unit}
    (ran : (m.runOn e).run s = ((result, e'), s')) :
    (m.changed e).run.run s = (result.map fun _ => e', s') := by
  rw [changed, run_bind_ok (run_lift ran), run_ofExcept]

theorem Edits.run_changed {m : Mutation σ α Unit} {f : Edit Error α} (h : m.Edits f) (e : α)
    (s : Session σ) : ∃ events,
      (m.changed e).run.run s = ((f e).1.map fun _ => (f e).2, s.note events) := by
  obtain ⟨events, ran⟩ := h e s
  exact ⟨events, Mutation.run_changed ran⟩

theorem edits_log (line : LogLine) : (act (Action.log line) : Mutation σ α Unit).Edits .skip :=
  fun _ _ => ⟨[.log line], rfl⟩

theorem runOn_each_nil (m : Mutation σ α Unit) (s : Session σ) :
    ((each m).runOn []).run s = ((.ok (), []), s) := rfl

theorem runOn_each_error {m : Mutation σ α Unit} {e e' : α} {es : List α} {s s' : Session σ}
    {err : Error} (ran : (m.runOn e).run s = ((.error err, e'), s')) :
    ((each m).runOn (e :: es)).run s = ((.error err, e' :: es), s') := by
  change (eachFrom m (e :: es)).run s = _
  rw [eachFrom, StateT.run_bind, ran]
  rfl

theorem runOn_each_ok {m : Mutation σ α Unit} {e e' : α} {es es' : List α} {s s' s'' : Session σ}
    {result : Except Error Unit} (ran : (m.runOn e).run s = ((.ok (), e'), s'))
    (rest : ((each m).runOn es).run s' = ((result, es'), s'')) :
    ((each m).runOn (e :: es)).run s = ((result, e' :: es'), s'') := by
  have rest' : (eachFrom m es).run s' = ((result, es'), s'') := rest
  change (eachFrom m (e :: es)).run s = _
  rw [eachFrom, StateT.run_bind, ran]
  change (eachFrom m es >>= _ : StateM (Session σ) _).run s' = _
  rw [StateT.run_bind, rest']
  rfl

/-- What edits one entity edits a list of them one after the other. -/
theorem Edits.each {m : Mutation σ α Unit} {f : Edit Error α} (h : m.Edits f) :
    (each m).Edits f.each := by
  intro es
  induction es with
  | nil =>
    intro s
    refine ⟨[], ?_⟩
    rw [runOn_each_nil, note_nil]
    rfl
  | cons e es ih =>
    intro s
    obtain ⟨events, ran⟩ := h e s
    rw [Edit.each]
    rcases outcome : f e with ⟨err | ⟨⟩, e'⟩
    · rw [outcome] at ran
      exact ⟨events, runOn_each_error ran⟩
    · rw [outcome] at ran
      obtain ⟨more, rest⟩ := ih (s.note events)
      refine ⟨events ++ more, ?_⟩
      rw [runOn_each_ok ran rest, note_note]

end Mutation

/-! ## Hooks -/

namespace Repository

open Mutation

variable [Entity α]

/-- What an early hook makes of an entity. -/
def earlyEdit (point : HookPoint) : Edit Error α :=
  (Entity.hooks.at point).mapError (stopped point)

/-- What a late hook makes of an entity. -/
def lateEdit (point : HookPoint) : Edit Error α := fun e => (.ok (), (Entity.hooks.at point e).2)

theorem lateEdit_succeeds (point : HookPoint) (e : α) : (lateEdit point e).1 = .ok () := rfl

theorem edits_early (point : HookPoint) : (early point : Mutation σ α Unit).Edits (earlyEdit point) :=
  fun e _ => ⟨[.hook point (Entity.toRecord e)], rfl⟩

/-- What a late hook adds to the journal. -/
def lateEvents (repo : Repository α) (point : HookPoint) (e : α) : List Event :=
  .hook point (Entity.toRecord e) ::
    match (Entity.hooks.at point e).1 with
    | .ok () => []
    | .error reason => repo.observer.events (Entity.info α).name point reason

theorem run_late (repo : Repository α) (point : HookPoint) (e : α) (s : Session σ) :
    ((repo.late point : Mutation σ α Unit).runOn e).run s =
      (lateEdit point e, s.note (repo.lateEvents point e)) := by
  have told : ((tell [.hook point (Entity.toRecord e)] : Mutation σ α Unit).runOn e).run s =
      ((.ok (), e), s.note [.hook point (Entity.toRecord e)]) := rfl
  rw [late, runOn_bind_ok (runOn_get e s), runOn_bind_ok told, lateEdit, lateEvents]
  rcases Entity.hooks.at point e with ⟨reason | ⟨⟩, e'⟩
  · exact congrArg (Prod.mk _) (note_note s [_] (repo.observer.events _ point reason))
  · rfl

theorem edits_late (repo : Repository α) (point : HookPoint) :
    (repo.late point : Mutation σ α Unit).Edits (lateEdit point) :=
  fun e s => ⟨repo.lateEvents point e, run_late repo point e s⟩

/-- A found entity is as the hook of found entities left it, whether that failed or not. -/
theorem run_found (repo : Repository α) (e : α) (s : Session σ) : ∃ events,
    (repo.found e).run.run s = (.ok (Entity.hooks.afterFind e).2, s.note events) :=
  (edits_late repo .afterFind).run_changed e s

end Repository

end EntityStore
